import OutlineCalc.Calculation

/-!
Outlines: lines that stand below one another. The lines are kept in the order they were put in
and refer to each other by their place in it, so the root, a total over everything, is at place
0. A line's result is its own value and the values of all lines below it.
-/

namespace OutlineCalc

/-- What is wrong with a line. -/
inductive LineFault where
  | eval (fault : Fault)
  | parse (fault : Parse.Fault)
  | scan (fault : Scan.Fault)
deriving DecidableEq, Repr

/-- The wording of what is wrong with a line. -/
def LineFault.message : LineFault → String
  | eval fault => fault.message
  | parse fault => fault.message
  | scan fault => fault.message

/-- What is reported of a calculation: a fault of evaluation before one of nesting, and that
before one of characters. -/
def Calculation.fault? (c : Calculation) : Option LineFault :=
  (c.evalFault.map .eval).or ((c.parseFault.map .parse).or (c.scanFault.map .scan))

/-- A line of an outline. `marked` says that its result is shown with the currency mark, `word` is
the word it ends in. -/
structure Line where
  source : String
  indent : Int
  row : Int
  value : Float := 0
  result : Float := 0
  marked : Bool := false
  word : String := ""
  fault : Option LineFault := none
  parent : Option Nat := none
  children : List Nat := []
deriving Repr

/-- Whether a line stands below no other. -/
def Line.isRoot (line : Line) : Bool := line.parent.isNone

/-- The lines of an outline in the order they were put in. -/
structure Outline where
  lines : Array Line
deriving Repr

/-- A walk through an outline: the places that it comes to, and whether it is cut off there because it
has no room to go further down. -/
structure Walk where
  places : List Nat
  isCutOff : Bool
deriving DecidableEq, Repr

/-- Goes on with another walk, unless there is no going on. -/
def Walk.append (first second : Walk) : Walk :=
  if first.isCutOff then first else ⟨first.places ++ second.places, second.isCutOff⟩

namespace Outline

/-- The line that everything else stands below. -/
def root : Line := { source := "Total", indent := -1, row := 0 }

/-- The outline with nothing but the root. -/
def empty : Outline := ⟨#[root]⟩

/-- The sum of all values. -/
def total (o : Outline) : Float := (o.lines[0]?.map (·.result)).getD 0

/-- The place of the line that a line stands directly below. -/
def parent? (o : Outline) (i : Nat) : Option Nat := o.lines[i]?.bind (·.parent)

/-- The places of the lines that stand directly below a line. -/
def children (o : Outline) (i : Nat) : List Nat := (o.lines[i]?.map (·.children)).getD []

/-- The places of the lines above a line, the nearest first, up to a number of them. -/
def ancestorsWithin (o : Outline) : (count : Nat) → Nat → List Nat
  | 0, _ => []
  | count + 1, i =>
    match o.parent? i with
    | none => []
    | some p => p :: ancestorsWithin o count p

/-- The places of the lines above a line, the nearest first; the last of them may be a place that
has no line yet. -/
def ancestors (o : Outline) (i : Nat) : List Nat := o.ancestorsWithin o.lines.size i

/-- Whether there are lines at all places above a line. -/
def isGrounded (o : Outline) (i : Nat) : Bool := (o.ancestors i).all (· < o.lines.size)

/-- The places of a line and the lines below it, each before those below it, with room for some lines
below one another. -/
def walkWithin (o : Outline) : (room : Nat) → Nat → Walk
  | 0, _ => ⟨[], true⟩
  | room + 1, i => ((o.children i).map (walkWithin o room)).foldl Walk.append ⟨[i], false⟩

/-- A walk through a line and the lines below it, each before those below it, as far as the machine has
room for it. -/
def walkFrom [Machine] (o : Outline) (i : Nat) : Walk := o.walkWithin Machine.walkRoom i

/-- The lines at some places. -/
def linesAt (o : Outline) (places : List Nat) : List Line := places.filterMap (o.lines[·]?)

/-- Whether the line at a place is indented less than `indent`. -/
def isLeftOf (o : Outline) (indent : Int) (i : Nat) : Bool :=
  match o.lines[i]? with
  | some line => line.indent < indent
  | none => false

/-- The place below which a line with an indent is put when it comes after the line at
`current`: that line, or else the nearest line above it that is indented less, or else the
root. -/
def findParent (o : Outline) (current : Nat) (indent : Int) : Nat :=
  if o.isLeftOf indent current then current
  else ((o.ancestors current).find? (o.isLeftOf indent)).getD 0

/-- The place below which a line is put, unless looking for it leads to a place without a line. -/
def findParent? (o : Outline) (current : Nat) (indent : Int) : Option Nat :=
  if o.isGrounded current || (current :: o.ancestors current).any (o.isLeftOf indent) then
    some (o.findParent current indent)
  else none

/-- An outline with one line changed. -/
def modify (o : Outline) (i : Nat) (f : Line → Line) : Outline := ⟨o.lines.modify i f⟩

/-- Puts a line below another: its value is added to every line above it, and the line directly
above it takes its currency mark, unless a place above has no line. -/
def insert (o : Outline) (line : Line) (parent : Nat) : Outline :=
  let index := o.lines.size
  let o : Outline := ⟨o.lines.push { line with parent := some parent }⟩
  let o := o.modify parent fun above => { above with children := above.children ++ [index] }
  let summed := (o.ancestors index).foldl
    (fun o i => o.modify i fun above => { above with result := above.result + line.value }) o
  if o.isGrounded index then summed.modify parent fun above => { above with marked := line.marked }
  else summed

@[simp] theorem size_modify (o : Outline) (i : Nat) (f : Line → Line) :
    (o.modify i f).lines.size = o.lines.size := by
  simp [modify]

/-- Putting in a line adds one place. -/
theorem size_insert (o : Outline) (line : Line) (parent : Nat) :
    (o.insert line parent).lines.size = o.lines.size + 1 := by
  have fold : ∀ (places : List Nat) (f : Line → Line) (o : Outline),
      (places.foldl (fun o i => o.modify i f) o).lines.size = o.lines.size := by
    intro places f
    induction places with
    | nil => intro o; rfl
    | cons i places ih => intro o; simp [ih]
  simp only [insert]
  split <;> simp [fold]

end Outline

end OutlineCalc
