import OutlineCalc.Yaml.Node
import OutlineCalc.Yaml.Scalar

/-!
What the nodes of a YAML document stand for. A scalar has a value; a collection is known by its
kind at first, and what it holds is looked at level by level, so that of several faults the one on
the highest level is found. A node that is referred to several times stands for one datum, which it
keeps even if the node is changed by a merge later.
-/

namespace OutlineCalc.Yaml

/-- The kinds of collections. -/
inductive Kind where
  | list | pairs | set | map
deriving DecidableEq, Repr

/-- What a node stands for. -/
inductive Datum where
  | null
  | bool (value : Bool)
  | int (value : Int)
  | float (value : Float)
  | text (value : List CodePoint)
  | bytes (value : List UInt8)
  | timestamp (value : Timestamp)
  | collection (kind : Kind) (ref : Ref)
deriving Repr

namespace Datum

/-- The name of a datum's type in messages. -/
def typeName : Datum → String
  | null => "NoneType"
  | bool _ => "bool"
  | int _ => "int"
  | float _ => "float"
  | text _ => "str"
  | bytes _ => "bytes"
  | timestamp value => if value.time.isSome then "datetime" else "date"
  | collection .list _ | collection .pairs _ => "list"
  | collection .set _ => "set"
  | collection .map _ => "dict"

/-- Whether a datum can be a key: all but collections can. -/
def isKey : Datum → Bool
  | collection _ _ => false
  | _ => true

/-! ## Scalars -/

/-- What scalars stand for, by their tags. -/
def scalarReaders : List (String × (List CodePoint → Except Fault Datum)) :=
  [(Tag.text, fun points => .ok (text points)), (Tag.null, fun _ => .ok null),
   (Tag.bool, fun points => bool <$> Scalar.bool points), (Tag.int, fun points => int <$> Scalar.int points),
   (Tag.float, fun points => float <$> Scalar.float points), (Tag.binary, fun points => bytes <$> Scalar.bytes points),
   (Tag.timestamp, fun points => timestamp <$> Scalar.timestamp points)]

/-- What a scalar stands for. A timestamp has to be written as one, not as a mapping with a
default. -/
def ofScalar (g : Graph) (ref : Ref) : Except Fault Datum := do
  match scalarReaders.lookup (g.tag ref) with
  | none => throw .malformed
  | some reader =>
    let points ← g.scalarText ref
    if g.tag ref = Tag.timestamp ∧ g.isMapping ref then throw .timestampMapping
    reader points

/-! ## Collections -/

/-- The kinds of collections by their tags. -/
def kinds : List (String × Kind) :=
  [(Tag.sequence, .list), (Tag.mapping, .map), (Tag.set, .set), (Tag.orderedMap, .pairs), (Tag.pairs, .pairs)]

/-- What is known of a document: its nodes, the data of some of them, and the collections that are
not looked into yet, the last one met first. -/
structure Known where
  graph : Graph
  data : Array (Option Datum) := Array.replicate graph.nodes.size none
  unopened : List (Kind × Ref) := []

/-- What adds to what is known. -/
abbrev Making (α : Type) := StateT Known (Except Fault) α

/-- What a node stands for. -/
def ofNode (ref : Ref) : Making Datum := do
  if let some datum := (← get).data.getD ref none then return datum
  let graph := (← get).graph
  let datum ← match kinds.lookup (graph.tag ref) with
    | some kind => do
      modify fun known => { known with unopened := (kind, ref) :: known.unopened }
      pure (collection kind ref)
    | none => ofScalar graph ref
  modify fun known => { known with data := known.data.setIfInBounds ref datum }
  return datum

/-- The key and the value of a pair. -/
def ofPair (pair : Ref × Ref) : Making (Datum × Datum) := return (← ofNode pair.1, ← ofNode pair.2)

/-- The key and the value of a pair of a mapping. -/
def ofEntry (pair : Ref × Ref) : Making (Datum × Datum) := do
  let key ← ofNode pair.1
  unless key.isKey do throw .malformed
  return (key, ← ofNode pair.2)

/-- The items of a sequence. -/
def itemsOf (ref : Ref) : Making (List Ref) := do
  match (← get).graph.node ref with
  | .sequence _ items => return items
  | _ => throw .malformed

/-- The only pair of a mapping, in which nothing is merged. -/
def onlyPair (ref : Ref) : Making (Ref × Ref) := do
  match (← get).graph.pairs ref with
  | [pair] => return pair
  | _ => throw .malformed

/-- The pairs of a mapping, those it takes over before its own. -/
def entriesOf (ref : Ref) : Making (List (Ref × Ref)) := do
  let known ← get
  unless known.graph.isMapping ref do throw .malformed
  let ((), graph) ← (Graph.merge ref).run known.graph
  set { known with graph }
  return graph.pairs ref

/-- The keys and values that a collection holds; a list has none, but its items are looked at. -/
def held : Kind → Ref → Making (List (Datum × Datum))
  | .list, ref => do discard <| (← itemsOf ref).mapM ofNode; return []
  | .pairs, ref => do (← itemsOf ref).mapM fun item => do ofPair (← onlyPair item)
  | .set, ref | .map, ref => do (← entriesOf ref).mapM ofEntry

/-- Looks into collections, level by level; each is on one level only. -/
def openAll : (levels : Nat) → Making Unit
  | 0 => return
  | levels + 1 => do
    let level := (← get).unopened.reverse
    modify fun known => { known with unopened := [] }
    level.forM fun (kind, ref) => discard <| held kind ref
    openAll levels

end Datum

/-- What a document stands for: a datum, and the keys and values it holds. -/
structure Document where
  root : Datum
  entries : List (Datum × Datum)

/-- What the only document of a text stands for, none for an empty text. The root is a level of its
own, above all that it holds. -/
def Document.read (text : List Char) : Except Fault (Option Document) := do
  match ← Node.read text with
  | (_, none) => return none
  | (graph, some ref) =>
    let making : Datum.Making Document := do
      let root ← Datum.ofNode ref
      let entries ← match root with
        | .collection kind ref => do
          modify fun known => { known with unopened := [] }
          Datum.held kind ref
        | _ => pure []
      Datum.openAll graph.nodes.size
      return { root, entries }
    return some (← making.run' { graph })

end OutlineCalc.Yaml
