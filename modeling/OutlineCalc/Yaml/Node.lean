import OutlineCalc.Yaml.Graph
import OutlineCalc.Yaml.Token

/-!
Reading the nodes of a YAML document from its tokens. An alias stands for the node with its anchor,
which may be one that the alias is itself part of. A fault of the tokens counts only when reading
comes to it.
-/

namespace OutlineCalc.Yaml

namespace Node

/-- What reading the nodes of a document goes by: the tokens left and what is wrong after them,
the handles of tags, the nodes so far, those with anchors, and in how many collections the place
reached is. -/
structure Source where
  tokens : List Token
  fault : Fault := .malformed
  handles : List (String × String) := []
  graph : Graph := {}
  anchors : List (String × Ref) := []
  depth : Nat := 0

/-- A reading of something from a source. -/
abbrev Reading (α : Type) := StateT Source (Except Fault) α

/-- The token that comes next. -/
def peek : Reading Token := do
  match (← get).tokens with
  | token :: _ => return token
  | [] => throw (← get).fault

/-- Passes over a token. -/
def drop : Reading Unit := modify fun s => { s with tokens := s.tokens.tail }

/-- Passes over a token if it comes next. -/
def accept (token : Token) : Reading Bool := do
  if (← peek) = token then drop; return true else return false

/-- Passes over a token that has to come next. -/
def expect (token : Token) : Reading Unit := do
  unless ← accept token do throw .malformed

/-- Whether one of some tokens comes next. -/
def isNext (tokens : List Token) : Reading Bool := return tokens.contains (← peek)

/-- The properties of a node: its anchor and its tag, in either order. -/
def properties : Reading (Option String × Option (Option String × String)) := do
  match ← peek with
  | .anchor name =>
    drop
    match ← peek with
    | .tag handle suffix => drop; return (some name, some (handle, suffix))
    | _ => return (some name, none)
  | .tag handle suffix =>
    drop
    match ← peek with
    | .anchor name => drop; return (some name, some (handle, suffix))
    | _ => return (none, some (handle, suffix))
  | _ => return (none, none)

/-- A tag in full: its handle stands for what the document says it does. -/
def fullTag : Option (Option String × String) → Reading (Option String)
  | none => return none
  | some (none, suffix) => return some suffix
  | some (some handle, suffix) => do
    match (← get).handles.lookup handle with
    | some expansion => return some (expansion ++ suffix)
    | none => throw .malformed

/-- Puts a node into the graph, with its anchor. -/
def add (anchor : Option String) (node : Node) : Reading Ref := do
  let ref := (← get).graph.nodes.size
  modify fun s => { s with
    graph := s.graph.push node, anchors := (anchor.map fun name => (name, ref)).toList ++ s.anchors }
  return ref

/-- How deep collections may be nested. -/
def depthLimit : Nat := 490

/-- Puts a collection into the graph, with its anchor, and then what it holds. -/
def addWith {α : Type} (anchor : Option String) (collection : List α → Node) (held : Reading (List α)) :
    Reading Ref := do
  if (← get).depth = depthLimit then throw .tooDeep
  let ref ← add anchor (collection [])
  modify fun s => { s with depth := s.depth + 1 }
  let held ← held
  modify fun s => { s with depth := s.depth - 1, graph := s.graph.replace ref (collection held) }
  return ref

/-- The node that stands where one is left out. -/
def leftOut : Reading Ref := add none .blank

/-- The node with an anchor. -/
def aliased (name : String) : Reading Ref := do
  match (← get).anchors.lookup name with
  | some ref => return ref
  | none => throw .malformed

/-- Whether a tag leaves the type of a node to its content. -/
def isOpen (tag : Option String) : Bool := tag.isNone || tag = some "!"

/-- The tag of a node, by its content where the tag leaves the type to that. -/
def tagOr (tag : Option String) (byContent : String) : String := if isOpen tag then byContent else tag.getD ""

/-- The tag of a scalar: a plain one without a tag, and one with an open tag, has the type of its
form. -/
def scalarTag (tag : Option String) (text : List CodePoint) (plain : Bool) : String :=
  if tag = some "!" || (plain && tag.isNone) then Tag.ofPlain text else tag.getD Tag.text

/-- Which nodes can stand at a place: those between brackets, those in blocks, and besides these
a sequence whose entries are no deeper than the mapping it is in. -/
inductive Place where
  | flow | block | entry
deriving DecidableEq

/-! Each rule below takes one step per token or less, so the number of steps is computed from the
number of tokens. -/

mutual

/-- A node. An anchor can be given once, which is looked at when the start of the node itself has
come. -/
def node (place : Place) : (steps : Nat) → Reading Ref
  | 0 => throw .malformed
  | steps + 1 => do
    if let .alias name := ← peek then
      drop
      return ← aliased name
    let (anchor, tag) ← properties
    let tag ← fullTag tag
    let next ← peek
    if let some name := anchor then
      if ((← get).anchors.lookup name).isSome then throw .malformed
    let sequenceOf := addWith anchor (.sequence (tagOr tag Tag.sequence))
    let mappingOf := addWith anchor (.mapping (tagOr tag Tag.mapping))
    match next with
    | .scalar text plain => drop; add anchor (.scalar (scalarTag tag text plain) text)
    | .flowSequenceStart => drop; sequenceOf (flowItems true steps)
    | .flowMappingStart => drop; mappingOf (flowPairs true steps)
    | .blockSequenceStart =>
      if place = .flow then throw .malformed
      drop; sequenceOf (blockItems steps)
    | .blockMappingStart =>
      if place = .flow then throw .malformed
      drop; mappingOf (blockPairs steps)
    | next =>
      if next = .blockEntry ∧ place = .entry then sequenceOf (entryItems steps)
      else if anchor.isSome || tag.isSome then add anchor (.scalar (tagOr tag Tag.null) [])
      else throw .malformed

/-- A node, unless one of some tokens says that it is left out. -/
def nodeUnless (place : Place) (stops : List Token) : (steps : Nat) → Reading Ref
  | 0 => throw .malformed
  | steps + 1 => do if ← isNext stops then leftOut else node place steps

/-- The entries of a block sequence up to its end. -/
def blockItems : (steps : Nat) → Reading (List Ref)
  | 0 => throw .malformed
  | steps + 1 => do
    if ← accept .blockEntry then
      let item ← nodeUnless .block [.blockEntry, .blockEnd] steps
      return item :: (← blockItems steps)
    else expect .blockEnd; return []

/-- The entries of a sequence that is no deeper than the mapping it is in. -/
def entryItems : (steps : Nat) → Reading (List Ref)
  | 0 => throw .malformed
  | steps + 1 => do
    if ← accept .blockEntry then
      let item ← nodeUnless .block [.blockEntry, .key, .value, .blockEnd] steps
      return item :: (← entryItems steps)
    else return []

/-- The pairs of a block mapping up to its end. -/
def blockPairs : (steps : Nat) → Reading (List (Ref × Ref))
  | 0 => throw .malformed
  | steps + 1 => do
    if ← accept .key then
      let stops := [.key, .value, .blockEnd]
      let key ← nodeUnless .entry stops steps
      let value ← if ← accept .value then nodeUnless .entry stops steps else leftOut
      return (key, value) :: (← blockPairs steps)
    else expect .blockEnd; return []

/-- The rest of a pair between brackets, after the mark of its key. -/
def flowPair (close : Token) : (steps : Nat) → Reading (Ref × Ref)
  | 0 => throw .malformed
  | steps + 1 => do
    let key ← nodeUnless .flow [.value, .flowEntry, close] steps
    let value ← if ← accept .value then nodeUnless .flow [.flowEntry, close] steps else leftOut
    return (key, value)

/-- The items of a flow sequence up to its end; a pair among them is a mapping of its own. -/
def flowItems (first : Bool) : (steps : Nat) → Reading (List Ref)
  | 0 => throw .malformed
  | steps + 1 => do
    if ← accept .flowSequenceEnd then return []
    if !first then expect .flowEntry
    if ← accept .key then
      let item ← addWith none (.mapping Tag.mapping) do return [← flowPair .flowSequenceEnd steps]
      return item :: (← flowItems false steps)
    else if ← accept .flowSequenceEnd then return []
    else
      let item ← node .flow steps
      return item :: (← flowItems false steps)

/-- The pairs of a flow mapping up to its end; a key alone has the blank value. -/
def flowPairs (first : Bool) : (steps : Nat) → Reading (List (Ref × Ref))
  | 0 => throw .malformed
  | steps + 1 => do
    if ← accept .flowMappingEnd then return []
    if !first then expect .flowEntry
    if ← accept .key then
      let pair ← flowPair .flowMappingEnd steps
      return pair :: (← flowPairs false steps)
    else if ← accept .flowMappingEnd then return []
    else
      let key ← node .flow steps
      let value ← leftOut
      return (key, value) :: (← flowPairs false steps)

end

/-- Whether a token is a directive. -/
def isDirective : Token → Bool
  | .version _ | .tagHandle _ _ | .unknownDirective => true
  | _ => false

/-- The handles that the directives of a document set up, each at most once; a version has to be
of the first generation and is given at most once. -/
def directives : (steps : Nat) → (versioned : Bool) → List (String × String) → Reading (List (String × String))
  | 0, _, handles => return handles
  | steps + 1, versioned, handles => do
    match ← peek with
    | .version major =>
      if versioned || major ≠ 1 then throw .malformed
      drop; directives steps true handles
    | .tagHandle handle expansion =>
      if (handles.lookup handle).isSome then throw .malformed
      drop; directives steps versioned (handles ++ [(handle, expansion)])
    | .unknownDirective => drop; directives steps versioned handles
    | _ => return handles

/-- The handles that every document has unless it sets them up itself. -/
def standardHandles : List (String × String) := [("!", "!"), ("!!", Tag.standard "")]

/-- Passes over the marks that end a document. -/
def endMarks : (steps : Nat) → Reading Unit
  | 0 => return
  | steps + 1 => do if ← accept .documentEnd then endMarks steps

/-- The end of the text after its only document; the directives of another one are still read. -/
def ending (steps : Nat) : Reading Unit := do
  endMarks steps
  unless ← accept .streamEnd do
    discard <| directives steps false []
    discard peek
    throw .malformed

/-- The root of the only document of a text; an empty text has none. -/
def document (steps : Nat) : Reading (Option Ref) := do
  if (← peek) = .streamEnd then return none
  let explicit := isDirective (← peek) || (← peek) = .documentStart
  let handles ← if explicit then directives steps false [] else pure []
  modify fun s => { s with handles := handles ++ standardHandles }
  if explicit then expect .documentStart
  let next ← peek
  let empty := explicit && (isDirective next || [.documentStart, .documentEnd, .streamEnd].contains next)
  let root ← if empty then leftOut else node .block steps
  ending steps
  return some root

/-- The nodes of the only document of a text and the place of its root, if the text has one. -/
def read (text : List Char) : Except Fault (Graph × Option Ref) := do
  let (tokens, fault) := tokens text
  let (root, source) ← (document (4 * tokens.length + 4)).run { tokens, fault := fault.getD .malformed }
  return (source.graph, root)

end Node

end OutlineCalc.Yaml
