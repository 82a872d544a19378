import SchemaWipe.Yaml.Tag
import SchemaWipe.Yaml.Tokens

/-! The nodes of a document, read from its tokens. An alias becomes a copy of the node it names;
only where it names a collection that it is itself a part of does it stay a reference. -/
namespace SchemaWipe.Yaml

/-- A node of a document. -/
inductive Node where
  | scalar (tag : Tag) (text : String)
  | sequence (tag : Tag) (items : List Node)
  | mapping (tag : Tag) (entries : List (Node × Node))
  /-- A collection around this place. -/
  | enclosing

/-- The node of a place where nothing is written. -/
def Node.empty : Node := .scalar .null ""

/-- What is still to be read, and what was named before. -/
structure Composer where
  tokens : List Token
  /-- The nodes by their anchors; a collection that is still being read has none yet. -/
  anchors : List (String × Option Node) := []
  /-- What the handles of tags stand for. -/
  handles : List (String × String)

/-- Reading nodes from tokens. -/
abbrev Compose := StateT Composer (Except Fault)

namespace Compose

/-- The next token. -/
def peek : Compose (Option Token) := do
  return (← get).tokens.head?

/-- Passes over the next token. -/
def advance : Compose Unit :=
  modify fun c => { c with tokens := c.tokens.drop 1 }

/-- Refuses the text. -/
def refuse {α : Type} : Compose α :=
  throw .malformed

/-- Passes over the next token if it is the given one. -/
def accept (token : Token) : Compose Bool := do
  if (← peek) = some token then
    advance
    return true
  else return false

/-- Whether the next token is one of these. -/
def nextIs (tokens : List Token) : Compose Bool := do
  match ← peek with
  | some token => return tokens.contains token
  | none => return false

/-- Passes over the comma between two entries of a flow collection. -/
def separator : Compose Unit := do
  unless ← accept .flowEntry do refuse

/-- The full name of a tag. -/
def tagText : TagName → Compose String
  | .whole name => return name
  | .short handle suffix => do
    match (← get).handles.lookup handle with
    | some replacement => return replacement ++ suffix
    | none => refuse

/-- An anchor in front of a node. -/
def anchor? : Compose (Option String) := do
  match ← peek with
  | some (.anchor name) =>
    advance
    return some name
  | _ => return none

/-- A tag in front of a node. The single exclamation mark is no tag, but asks for the one that the
text decides. -/
def tag? : Compose (Option String) := do
  match ← peek with
  | some (.tag name) =>
    advance
    return some (← tagText name)
  | _ => return none

/-- An anchor and a tag in front of a node, in either order. -/
def properties : Compose (Option String × Option String) := do
  match ← anchor? with
  | some name => return (some name, ← tag?)
  | none =>
    let tag ← tag?
    return (← anchor?, tag)

/-- Notes that a node with an anchor begins. An anchor names one node only. -/
def openAnchor : Option String → Compose Unit
  | none => pure ()
  | some name => do
    if ((← get).anchors.lookup name).isSome then refuse
    modify fun c => { c with anchors := (name, none) :: c.anchors }

/-- Notes the node that an anchor names. -/
def closeAnchor (name : Option String) (node : Node) : Compose Node := do
  match name with
  | none => pure ()
  | some name => modify fun c => { c with anchors := (name, some node) :: c.anchors }
  return node

/-- The node that an alias names. -/
def aliased (name : String) : Compose Node := do
  match (← get).anchors.lookup name with
  | some (some node) => return node
  | some none => return .enclosing
  | none => refuse

/-- The tag of a scalar. -/
def scalarTag (given : Option String) (text : String) (plain : Bool) : Tag :=
  match given with
  | none => if plain then Tag.ofPlain text.toList else .text
  | some name => if name = "!" then Tag.ofPlain text.toList else Tag.ofName name

/-- The tag of a collection. -/
def collectionTag (given : Option String) (usual : Tag) : Tag :=
  match given with
  | none => usual
  | some name => if name = "!" then usual else Tag.ofName name

mutual

/-- Reads a node. Block collections are met only where `block` holds, and a sequence that is not
indented further than the mapping around it only where `indentless` holds. -/
def node (block indentless : Bool) : Nat → Compose Node
  | 0 => refuse
  | fuel + 1 => do
    match ← peek with
    | some (.alias name) =>
      advance
      aliased name
    | _ =>
      let (anchor, tag) ← properties
      openAnchor anchor
      match ← peek with
      | some (.scalar text plain) =>
        advance
        closeAnchor anchor (.scalar (scalarTag tag text plain) text)
      | some .flowSequenceStart =>
        advance
        let items ← flowItems true fuel
        closeAnchor anchor (.sequence (collectionTag tag .sequence) items)
      | some .flowMappingStart =>
        advance
        let entries ← flowEntries true fuel
        closeAnchor anchor (.mapping (collectionTag tag .mapping) entries)
      | some .blockSequenceStart =>
        if !block then refuse
        advance
        let items ← blockItems fuel
        closeAnchor anchor (.sequence (collectionTag tag .sequence) items)
      | some .blockMappingStart =>
        if !block then refuse
        advance
        let entries ← blockEntries fuel
        closeAnchor anchor (.mapping (collectionTag tag .mapping) entries)
      | next =>
        if indentless && next = some .blockEntry then
          let items ← indentlessItems fuel
          closeAnchor anchor (.sequence (collectionTag tag .sequence) items)
        else if anchor.isSome || tag.isSome then
          closeAnchor anchor (.scalar (scalarTag tag "" true) "")
        else refuse

/-- Reads the items of an indented sequence to its end. -/
def blockItems : Nat → Compose (List Node)
  | 0 => refuse
  | fuel + 1 => do
    if ← accept .blockEntry then
      let item ← if ← nextIs [.blockEntry, .blockEnd] then pure Node.empty
        else node true false fuel
      return item :: (← blockItems fuel)
    else if ← accept .blockEnd then return []
    else refuse

/-- Reads the items of a sequence that stands in the column of its key. -/
def indentlessItems : Nat → Compose (List Node)
  | 0 => refuse
  | fuel + 1 => do
    if ← accept .blockEntry then
      let item ← if ← nextIs [.blockEntry, .key, .value, .blockEnd] then pure Node.empty
        else node true false fuel
      return item :: (← indentlessItems fuel)
    else return []

/-- Reads the entries of an indented mapping to its end. -/
def blockEntries : Nat → Compose (List (Node × Node))
  | 0 => refuse
  | fuel + 1 => do
    if ← accept .key then
      let key ← if ← nextIs [.key, .value, .blockEnd] then pure Node.empty
        else node true true fuel
      let value ← if ← accept .value then
          if ← nextIs [.key, .value, .blockEnd] then pure Node.empty else node true true fuel
        else pure Node.empty
      return (key, value) :: (← blockEntries fuel)
    else if ← accept .blockEnd then return []
    else refuse

/-- Reads the items of a flow sequence to its end. A key among them makes a mapping with a single
entry. -/
def flowItems (first : Bool) : Nat → Compose (List Node)
  | 0 => refuse
  | fuel + 1 => do
    if ← accept .flowSequenceEnd then return []
    unless first do separator
    if ← accept .flowSequenceEnd then return []
    let item ←
      if ← accept .key then do
        let key ← if ← nextIs [.value, .flowEntry, .flowSequenceEnd] then pure Node.empty
          else node false false fuel
        let value ← if ← accept .value then
            if ← nextIs [.flowEntry, .flowSequenceEnd] then pure Node.empty
            else node false false fuel
          else pure Node.empty
        pure (Node.mapping .mapping [(key, value)])
      else node false false fuel
    return item :: (← flowItems false fuel)

/-- Reads the entries of a flow mapping to its end. -/
def flowEntries (first : Bool) : Nat → Compose (List (Node × Node))
  | 0 => refuse
  | fuel + 1 => do
    if ← accept .flowMappingEnd then return []
    unless first do separator
    if ← accept .flowMappingEnd then return []
    let entry ←
      if ← accept .key then do
        let key ← if ← nextIs [.value, .flowEntry, .flowMappingEnd] then pure Node.empty
          else node false false fuel
        let value ← if ← accept .value then
            if ← nextIs [.flowEntry, .flowMappingEnd] then pure Node.empty
            else node false false fuel
          else pure Node.empty
        pure (key, value)
      else do
        let key ← node false false fuel
        pure (key, Node.empty)
    return entry :: (← flowEntries false fuel)

end

/-- Reads the directives of a document. The version may be given once and has to be 1; each handle
may be given once. -/
def directives : Nat → Bool → List (String × String) → Compose (List (String × String))
  | 0, _, handles => pure handles
  | fuel + 1, versioned, handles => do
    match ← peek with
    | some (.directive d) =>
      advance
      match d with
      | .version major =>
        if versioned || major != 1 then refuse
        directives fuel true handles
      | .handle name replacement =>
        if (handles.lookup name).isSome then refuse
        directives fuel versioned ((name, replacement) :: handles)
      | .reserved => directives fuel versioned handles
    | _ => pure handles

/-- The handles that every document knows. -/
def usualHandles : List (String × String) :=
  [("!", "!"), ("!!", standardTags)]

/-- Whether the next token cannot begin the content of a document. -/
def atContentEnd : Compose Bool := do
  match ← peek with
  | none | some (.directive _) | some .documentStart | some .documentEnd => return true
  | _ => return false

/-- Passes over the marks after a document, and requires that nothing follows. -/
def finish : Nat → Compose Unit
  | 0 => refuse
  | fuel + 1 => do
    if ← accept .documentEnd then finish fuel
    else if (← peek).isSome then refuse

/-- Reads the only document, if there is one. -/
def document : Compose (Option Node) := do
  let fuel := 3 * (← get).tokens.length + 3
  match ← peek with
  | none => return none
  | some (.directive _) | some .documentStart =>
    let handles ← directives fuel false []
    modify fun c => { c with handles := handles ++ usualHandles }
    if !(← accept .documentStart) then refuse
    let content ← if ← atContentEnd then pure Node.empty else node true false fuel
    finish fuel
    return some content
  | some _ =>
    let content ← node true false fuel
    finish fuel
    return some content

end Compose

/-- The node of the only document of a text; `none` if the text holds nothing. -/
def Node.ofText (cs : List Char) : Except Fault (Option Node) := do
  let tokens ← tokens cs
  let (node, _) ← Compose.document.run { tokens, handles := Compose.usualHandles }
  pure node

end SchemaWipe.Yaml
