import SchemaWipe.Yaml.Node
import SchemaWipe.Yaml.Scalar.Meaning

/-! The value of a document. Collections are built layer by layer, so of two faults the one in the
outer layer is reported even where an inner one is written before it. -/
namespace SchemaWipe.Yaml

namespace Tag

/-- Whether a tag stands for a collection. -/
def isCollection : Tag → Bool
  | .sequence | .mapping | .orderedMap | .pairs | .set => true
  | _ => false

/-- Whether a tag stands for a single value. -/
def isScalar : Tag → Bool
  | .null | .bool | .int | .float | .binary | .timestamp | .text => true
  | _ => false

end Tag

namespace Node

/-- The tag of a node. A reference to a collection counts as one. -/
def tag : Node → Tag
  | .scalar tag _ | .sequence tag _ | .mapping tag _ => tag
  | .enclosing => .sequence

mutual

/-- The text of a node that is used as a scalar: of a mapping it is the text of its value entry. -/
def scalarText? : Node → Option String
  | .scalar _ text => some text
  | .mapping _ entries => valueText? entries
  | _ => none

/-- The text of the value entry among the entries of a mapping. -/
def valueText? : List (Node × Node) → Option String
  | [] => none
  | (key, value) :: rest => if key.tag = .value then scalarText? value else valueText? rest

end

/-- The value of a node that stands for a single value. -/
def scalarValue (n : Node) : Except Fault Value :=
  match n.scalarText? with
  | some text => Yaml.scalarValue n.tag text
  | none => .error .malformed

/-- A key as it is used: the sign for a value stands for itself. -/
def asKey : Node → Node
  | .scalar .value text => .scalar .text text
  | key => key

mutual

/-- The entries of a mapping: those of the mappings that it merges, and its own after them. -/
def allEntries : Node → Except Fault (List (Node × Node))
  | .mapping _ entries => do
    let (merged, own) ← splitEntries entries
    pure (merged ++ own)
  | .enclosing => .ok []
  | _ => .error .malformed

/-- The entries of the mappings of a sequence, those of the first one last. -/
def itemEntries : List Node → Except Fault (List (Node × Node))
  | [] => .ok []
  | item :: items => do
    let first ← allEntries item
    let more ← itemEntries items
    pure (more ++ first)

/-- What a mapping merges and what it holds itself. -/
def splitEntries : List (Node × Node) → Except Fault (List (Node × Node) × List (Node × Node))
  | [] => .ok ([], [])
  | (key, value) :: rest =>
    if key.tag = .merge then do
      let here ← match value with
        | .sequence _ items => itemEntries items
        | other => allEntries other
      let (merged, own) ← splitEntries rest
      pure (here ++ merged, own)
    else do
      let (merged, own) ← splitEntries rest
      pure (merged, (key.asKey, value) :: own)

end

/-- Judges a node from outside. The collections come back, to be judged from inside later. -/
def judge (n : Node) : Except Fault (List Node) :=
  match n with
  | .enclosing => .ok []
  | _ =>
    if n.tag.isCollection then .ok [n]
    else if n.tag.isScalar then n.scalarValue.map fun _ => []
    else .error .malformed

/-- Judges an entry of a mapping. No collection is a key. -/
def judgeEntry (entry : Node × Node) : Except Fault (List Node) := do
  let _ ← judge entry.1
  if entry.1.tag.isCollection then throw .malformed
  judge entry.2

/-- Judges an item of an ordered mapping: a mapping with a single entry. -/
def judgePair : Node → Except Fault (List Node)
  | .mapping _ [(key, value)] => do
    let first ← judge key
    let second ← judge value
    pure (first ++ second)
  | _ => .error .malformed

/-- Judges a collection from inside; the collections in it come back. -/
def expand (n : Node) : Except Fault (List Node) :=
  match n, n.tag with
  | .sequence _ items, .sequence => (items.mapM judge).map List.flatten
  | .sequence _ items, .orderedMap | .sequence _ items, .pairs =>
    (items.mapM judgePair).map List.flatten
  | .mapping _ _, .mapping | .mapping _ _, .set => do
    let entries ← n.allEntries
    (entries.mapM judgeEntry).map List.flatten
  | _, _ => .error .malformed

mutual

/-- How many nodes a node consists of. -/
def size : Node → Nat
  | .scalar _ _ | .enclosing => 1
  | .sequence _ items => sizes items + 1
  | .mapping _ entries => entrySizes entries + 1

/-- How many nodes a list of nodes consists of. -/
def sizes : List Node → Nat
  | [] => 0
  | item :: items => size item + sizes items

/-- How many nodes the entries of a mapping consist of. -/
def entrySizes : List (Node × Node) → Nat
  | [] => 0
  | (key, value) :: rest => size key + size value + entrySizes rest

end

/-- Judges collections one after the other, and after them the collections found in them. -/
def judgeAll : Nat → List Node → Except Fault Unit
  | 0, _ | _, [] => .ok ()
  | fuel + 1, first :: queue => do
    let found ← first.expand
    judgeAll fuel (queue ++ found)

/-- An entry of a mapping as a value, given the value of a node. -/
def entryValue (value : Node → Except Fault Value) (entry : Node × Node) :
    Except Fault (Value × Value) := do
  let key ← value entry.1
  let held ← value entry.2
  pure (key, held)

/-- The pair that a mapping with a single entry stands for, given the value of a node. -/
def pairValue (value : Node → Except Fault Value) : Node → Except Fault Value
  | .mapping _ [entry] => do
    let (key, held) ← entryValue value entry
    pure (.pair key held)
  | _ => .error .malformed

/-- The value of a node of limited depth. -/
def valueWithin : Nat → Node → Except Fault Value
  | 0, _ => .error .malformed
  | _ + 1, .enclosing => .ok .enclosing
  | depth + 1, n =>
    match n, n.tag with
    | .sequence _ items, .sequence => .list <$> items.mapM (valueWithin depth)
    | .sequence _ items, .orderedMap | .sequence _ items, .pairs =>
      .list <$> items.mapM (pairValue (valueWithin depth))
    | .mapping _ _, .mapping => do
      let entries ← (← n.allEntries).mapM (entryValue (valueWithin depth))
      pure (.mapping (entries.foldl (fun all (key, held) => Value.insert key held all) []))
    | .mapping _ _, .set => do
      let entries ← (← n.allEntries).mapM (entryValue (valueWithin depth))
      pure (.set (entries.foldl (fun all (key, _) => Value.adjoin key all) []))
    | _, _ => n.scalarValue

/-- The value of a node. -/
def value (n : Node) : Except Fault Value :=
  valueWithin n.size n

end Node

/-- The value of a text: of its only document, or null if it holds none. -/
def load (cs : List Char) : Except Fault Value := do
  match ← Node.ofText cs with
  | none => pure .null
  | some node =>
    Node.judgeAll node.size (← node.judge)
    node.value

end SchemaWipe.Yaml
