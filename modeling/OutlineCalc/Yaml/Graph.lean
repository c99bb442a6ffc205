import OutlineCalc.CodePoint
import OutlineCalc.Yaml.Fault
import OutlineCalc.Yaml.Tag

/-!
The nodes of a YAML document: scalars, sequences and mappings, each with its tag. Nodes refer to
each other by their places, as an alias lets several nodes hold one, or a node hold itself.
A key can ask to merge other mappings into its own; merging changes the nodes in place, which is
seen wherever they are referred to.
-/

namespace OutlineCalc.Yaml

/-- The place of a node. -/
abbrev Ref := Nat

/-- A node. -/
inductive Node where
  | scalar (tag : String) (text : List CodePoint)
  | sequence (tag : String) (items : List Ref)
  | mapping (tag : String) (pairs : List (Ref × Ref))
deriving DecidableEq, Repr

namespace Node

/-- The tag of a node. -/
def tag : Node → String
  | scalar tag _ | sequence tag _ | mapping tag _ => tag

/-- A node with another tag. -/
def withTag (tag : String) : Node → Node
  | scalar _ text => scalar tag text
  | sequence _ items => sequence tag items
  | mapping _ pairs => mapping tag pairs

/-- The empty plain scalar, which stands where a node is left out. -/
def blank : Node := .scalar Tag.null []

end Node

/-- The nodes of a document by their places. -/
structure Graph where
  nodes : Array Node := #[]

namespace Graph

/-- The node at a place. -/
def node (g : Graph) (ref : Ref) : Node := g.nodes.getD ref .blank

/-- A graph with one more node. -/
def push (g : Graph) (node : Node) : Graph := ⟨g.nodes.push node⟩

/-- A graph with another node at a place. -/
def replace (g : Graph) (ref : Ref) (node : Node) : Graph := ⟨g.nodes.setIfInBounds ref node⟩

/-- The tag of the node at a place. -/
def tag (g : Graph) (ref : Ref) : String := (g.node ref).tag

/-- A graph with another tag of the node at a place. -/
def setTag (g : Graph) (ref : Ref) (tag : String) : Graph := g.replace ref ((g.node ref).withTag tag)

/-- The pairs of a mapping, none of any other node. -/
def pairs (g : Graph) (ref : Ref) : List (Ref × Ref) :=
  match g.node ref with
  | .mapping _ pairs => pairs
  | _ => []

/-- Whether the node at a place is a mapping. -/
def isMapping (g : Graph) (ref : Ref) : Bool :=
  match g.node ref with
  | .mapping _ _ => true
  | _ => false

/-- A graph with other pairs of the mapping at a place. -/
def setPairs (g : Graph) (ref : Ref) (pairs : List (Ref × Ref)) : Graph :=
  g.replace ref (.mapping (g.tag ref) pairs)

/-! ## Texts of scalars -/

/-- The text of a scalar; a mapping has that of the first value it gives as its default. -/
def scalarTextWithin (g : Graph) : (steps : Nat) → Ref → Except Fault (List CodePoint)
  | 0, _ => .error .tooDeep
  | steps + 1, ref =>
    match g.node ref with
    | .scalar _ text => .ok text
    | .sequence _ _ => .error .malformed
    | .mapping _ pairs =>
      match pairs.find? fun (key, _) => g.tag key = Tag.default with
      | some (_, value) => scalarTextWithin g steps value
      | none => .error .malformed

/-- The text of a scalar. A mapping that is the default of itself has none. -/
def scalarText (g : Graph) (ref : Ref) : Except Fault (List CodePoint) :=
  g.scalarTextWithin (g.nodes.size + 1) ref

/-! ## Merging -/

/-- Whether the key of a pair asks to merge its value. -/
def isMerge (g : Graph) (pair : Ref × Ref) : Bool := g.tag pair.1 = Tag.merge

/-- How many pairs in a graph ask for merging. -/
def mergeCount (g : Graph) : Nat :=
  ((List.range g.nodes.size).flatMap g.pairs).countP g.isMerge

/-- What changes a graph. -/
abbrev Change (α : Type) := StateT Graph (Except Fault) α

/-- Makes the keys of a mapping that mark defaults ordinary texts. -/
def defaultsAsTexts (g : Graph) (ref : Ref) : Graph :=
  (g.pairs ref).foldl (fun g (key, _) => if g.tag key = Tag.default then g.setTag key Tag.text else g) g

/-- Merges into a mapping what its keys ask for, in front of its own pairs. Of several mappings that
one key merges the first comes last, and so has the last word. The pair that asks is taken out
before its value is looked at, so each step leaves one fewer in the graph. -/
def mergeWithin : (steps : Nat) → (taken : List (Ref × Ref)) → Ref → Change Unit
  | 0, _, _ => throw .malformed
  | steps + 1, taken, ref => do
    let g ← get
    let pairs := g.pairs ref
    let pairsOf (source : Ref) : Change (List (Ref × Ref)) := do
      unless (← get).isMapping source do throw .malformed
      mergeWithin steps [] source
      return (← get).pairs source
    match pairs.find? g.isMerge with
    | none => set ((g.defaultsAsTexts ref).setPairs ref (taken ++ pairs))
    | some (_, value) =>
      set (g.setPairs ref (pairs.eraseP g.isMerge))
      let more ← match g.node value with
        | .sequence _ items => do pure (← items.mapM pairsOf).reverse.flatten
        | _ => pairsOf value
      mergeWithin steps (taken ++ more) ref

/-- Merges into a mapping what its keys ask for. -/
def merge (ref : Ref) : Change Unit := do mergeWithin ((← get).mergeCount + 1) [] ref

end Graph

end OutlineCalc.Yaml
