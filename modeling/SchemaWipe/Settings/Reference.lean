import SchemaWipe.Value
import SchemaWipe.Settings.Variables

/-! References to variables: production `_resolve_env`. A text that is a dollar sign and a name in
braces stands for the value of that variable. What is put in is not looked at again, and keys of
mappings are left alone. -/
namespace SchemaWipe.Settings

/-- The name of the variable that a text refers to. -/
def reference? (cs : List Char) : Option (List Char) :=
  match cs with
  | '$' :: '{' :: rest => if rest.getLast? = some '}' then some rest.dropLast else none
  | _ => none

/-- A text with its reference resolved. -/
def resolveText (env : Variables) (s : String) : Except Error String :=
  match reference? s.toList with
  | none => .ok s
  | some name =>
    match env.get? (String.ofList name) with
    | some value => .ok value
    | none => .error (.fault (.variableMissing (String.ofList name)))

mutual

/-- A value with the references in it resolved, at any depth of lists and mappings: production
`_resolve_env`. The first one that names no variable is reported, and a collection that contains
itself never comes to an end. -/
def resolve (env : Variables) : Value → Except Error Value
  | .text s => do
    let text ← resolveText env s
    pure (.text text)
  | .list items => do
    let resolved ← resolveItems env items
    pure (.list resolved)
  | .mapping entries => do
    let resolved ← resolveEntries env entries
    pure (.mapping resolved)
  | .enclosing => .error (.breakdown .endless)
  | value => .ok value

/-- Values with the references in them resolved. -/
def resolveItems (env : Variables) : List Value → Except Error (List Value)
  | [] => .ok []
  | item :: items => do
    let first ← resolve env item
    let more ← resolveItems env items
    pure (first :: more)

/-- Entries with the references in their values resolved. -/
def resolveEntries (env : Variables) :
    List (Value × Value) → Except Error (List (Value × Value))
  | [] => .ok []
  | (key, value) :: rest => do
    let first ← resolve env value
    let more ← resolveEntries env rest
    pure ((key, first) :: more)

end

end SchemaWipe.Settings
