import SchemaWipe.Calendar

/-! Values of a configuration: what a YAML document, a variable or a command line option can hold.
Mappings keep the order in which their keys first came and hold each key once. -/
namespace SchemaWipe

/-- A value. Members of a set and keys of a mapping are never collections. -/
inductive Value where
  | null
  | bool (b : Bool)
  | int (i : Int)
  | float (x : Binary64)
  | text (s : String)
  | octets (bytes : List UInt8)
  | date (d : Date)
  | moment (m : Moment)
  | list (items : List Value)
  | pair (first second : Value)
  | set (members : List Value)
  | mapping (entries : List (Value × Value))
  /-- A collection that holds this place, in a list or a mapping, somewhere inside itself. -/
  | enclosing

instance : Inhabited Value := ⟨.null⟩

namespace Value

/-- What a document says that says nothing: null, false, a zero, or something empty. -/
def isBlank : Value → Bool
  | .null | .bool false | .int 0 | .float (.finite _ 0 _) => true
  | .text s => s.isEmpty
  | .octets [] | .list [] | .set [] | .mapping [] => true
  | _ => false

/-- The whole number that a truth value counts as among keys. -/
def ofBool (b : Bool) : Int :=
  if b then 1 else 0

/-- Whether two values are the same key. Truth values and numbers are compared as numbers. -/
def sameKey : Value → Value → Bool
  | .null, .null => true
  | .bool a, .bool b => a = b
  | .bool a, .int i | .int i, .bool a => ofBool a = i
  | .bool a, .float x | .float x, .bool a => x.isWhole (ofBool a)
  | .int i, .int j => i = j
  | .int i, .float x | .float x, .int i => x.isWhole i
  | .float x, .float y => x.sameValue y
  | .text s, .text t => s = t
  | .octets a, .octets b => a = b
  | .date d, .date e => d = e
  | .moment m, .moment n => m.same n
  | _, _ => false

/-- A mapping after a key got a value. A key that was there keeps its place. -/
def insert (key value : Value) : List (Value × Value) → List (Value × Value)
  | [] => [(key, value)]
  | (k, v) :: rest =>
    if k.sameKey key then (k, value) :: rest else (k, v) :: insert key value rest

/-- A set after a member was added. -/
def adjoin (member : Value) (members : List Value) : List Value :=
  if members.any (sameKey · member) then members else members ++ [member]

/-- The value under a name. -/
def find? (name : String) : List (Value × Value) → Option Value
  | [] => none
  | (.text key, value) :: rest => if key = name then some value else find? name rest
  | _ :: rest => find? name rest

/-- A mapping after a name got a value. -/
def put (name : String) (value : Value) (entries : List (Value × Value)) : List (Value × Value) :=
  insert (.text name) value entries

end Value
end SchemaWipe
