import OutlineCalc.Yaml.Cursor

/-!
The texts of scalars: plain, in single or double quotes, and in blocks. A line break inside a
scalar is folded into a space unless more breaks follow it; in a literal block it is kept.
-/

namespace OutlineCalc.Yaml.ScalarText

/-! ## Plain scalars -/

/-- Whether a plain scalar stops before a character that another one follows. -/
def plainStops (flow : Bool) (c after : Char) : Bool :=
  endsWord c || (c == ':' && (endsWord after || (flow && ",[]\x7b\x7d".toList.contains after))) ||
    (flow && ",?[]\x7b\x7d".toList.contains c)

/-- The part of a plain scalar up to its next space. -/
def plainWord (flow : Bool) : List Char → List Char
  | [] => []
  | c :: more => if plainStops flow c (more.headD '\x00') then [] else c :: plainWord flow more

/-- The line breaks after a first one, up to a mark between documents. -/
def plainBreaks : (steps : Nat) → List Char → Cursor → Option (List Char) × Cursor
  | 0, breaks, c => (some breaks, c)
  | steps + 1, breaks, c =>
    if c.atDocumentMark then (none, c)
    else
      let c := c.skipWhile (· == ' ')
      if isBreak c.here then
        let (br, c) := c.lineBreak
        plainBreaks steps (breaks ++ br) c
      else (some breaks, c)

/-- What a line break and the breaks after it stand for. -/
def folded (first breaks : List Char) : List Char :=
  if first != ['\n'] then first ++ breaks else if breaks.isEmpty then [' '] else breaks

/-- The space between two words of a plain scalar: what it stands for, none at a mark between
documents, the place after it, and whether it has a line break. -/
def plainSpace (c : Cursor) : Option (List Char) × Cursor × Bool :=
  let spaces := c.taken (· == ' ')
  let c := c.skipWhile (· == ' ')
  if isBreak c.here then
    let (first, c) := c.lineBreak
    let (breaks, c) := plainBreaks c.left [] c
    (breaks.map (folded first), c, true)
  else (if spaces.isEmpty then none else some spaces, c, false)

/-- The parts of a plain scalar from a place on, words and spaces, in front of which are `parts`, the
last one first; the place after them, and whether a line break stands before it. -/
def plainFrom (flow : Bool) (indent : Int) :
    (steps : Nat) → (parts : List (List Char)) → (space : List Char) → Cursor → Bool →
      List (List Char) × Cursor × Bool
  | 0, parts, _, c, broke => (parts, c, broke)
  | steps + 1, parts, space, c, broke =>
    let word := plainWord flow c.rest
    if c.here = '#' || word.isEmpty then (parts, c, broke)
    else
      let parts := word :: space :: parts
      match plainSpace (c.skip word.length) with
      | (none, c, broke) => (parts, c, broke)
      | (some space, c, broke) =>
        if c.here = '#' || (!flow && (c.column : Int) < indent) then (parts, c, broke)
        else plainFrom flow indent steps parts space c broke

/-- A plain scalar, the place after it, and whether a line break stands before that place. Outside
of brackets its lines are indented by at least `indent`. -/
def plain (flow : Bool) (indent : Int) (c : Cursor) : List Char × Cursor × Bool :=
  let (parts, c, broke) := plainFrom flow indent c.left [] [] c false
  (parts.reverse.flatten, c, broke)

/-! ## Quoted scalars -/

/-- The line breaks inside a quoted scalar after a first one. -/
def quotedBreaks : (steps : Nat) → List Char → Cursor → Except Fault (List Char × Cursor)
  | 0, breaks, c => .ok (breaks, c)
  | steps + 1, breaks, c =>
    if c.atDocumentMark then .error .malformed
    else
      let c := c.skipWhile isSpace
      if isBreak c.here then
        let (br, c) := c.lineBreak
        quotedBreaks steps (breaks ++ br) c
      else .ok (breaks, c)

/-- The space inside a quoted scalar, and the place after it. -/
def quotedSpace (c : Cursor) : Except Fault (List Char × Cursor) :=
  let spaces := c.taken isSpace
  let c := c.skipWhile isSpace
  if c.atEnd then .error .malformed
  else if isBreak c.here then do
    let (first, c) := c.lineBreak
    let (breaks, c) ← quotedBreaks (c.left + 1) [] c
    return (folded first breaks, c)
  else .ok (spaces, c)

/-- The character that a letter after a backslash stands for. -/
def escaped? : Char → Option Char
  | '0' => some '\x00'
  | 'a' => some '\x07'
  | 'b' => some '\x08'
  | 't' => some '\t'
  | '\t' => some '\t'
  | 'n' => some '\n'
  | 'v' => some '\x0b'
  | 'f' => some '\x0c'
  | 'r' => some '\r'
  | 'e' => some '\x1b'
  | ' ' => some ' '
  | '"' => some '"'
  | '\\' => some '\\'
  | '/' => some '/'
  | 'N' => some '\x85'
  | '_' => some '\xa0'
  | 'L' => some '\u2028'
  | 'P' => some '\u2029'
  | _ => none

/-- How many hexadecimal digits follow a letter after a backslash. -/
def escapeDigits? : Char → Option Nat
  | 'x' => some 2
  | 'u' => some 4
  | 'U' => some 8
  | _ => none

/-- The code point with a number; numbers of more than thirty-one bits are refused as such. -/
def codePoint (code : Nat) : Except Fault CodePoint :=
  if code < 0x110000 then .ok (.ofCode code)
  else if code < Nat.pow 2 31 then .error .noCodePoint
  else .error .farFromCodePoint

/-- What a backslash stands for with what follows it, and the place after that. -/
def escape (c : Cursor) : Except Fault (List CodePoint × Cursor) := do
  if let some ch := escaped? c.here then return ([.char ch], c.next)
  else if let some count := escapeDigits? c.here then
    let digits := c.next.rest.take count
    unless digits.length = count ∧ digits.all isHex do throw .malformed
    return ([← codePoint (digitsValue 16 digits)], c.next.skip count)
  else if isBreak c.here then
    let (breaks, c) ← quotedBreaks (c.left + 1) [] c.lineBreak.2
    return (CodePoint.ofChars breaks, c)
  else throw .malformed

/-- Whether a character of a quoted scalar stands for itself. -/
def isOrdinary (double : Bool) (c : Char) : Bool :=
  !endsWord c && if double then c != '"' && c != '\\' else c != '\''

/-- The parts of a quoted scalar up to its closing quote, in front of which are `parts`, the last one
first, and the place after that quote. -/
def quotedFrom (double : Bool) :
    (steps : Nat) → (parts : List (List CodePoint)) → Cursor → Except Fault (List (List CodePoint) × Cursor)
  | 0, _, _ => .error .malformed
  | steps + 1, parts, c =>
    let ch := c.here
    if ch = '\'' && !double then
      if c.ahead 1 = '\'' then quotedFrom double steps ([.char '\''] :: parts) (c.skip 2) else .ok (parts, c.next)
    else if ch = '"' && double then .ok (parts, c.next)
    else if ch = '\\' && double then do
      let (part, c) ← escape c.next
      quotedFrom double steps (part :: parts) c
    else if endsWord ch then do
      let (part, c) ← quotedSpace c
      quotedFrom double steps (CodePoint.ofChars part :: parts) c
    else
      let run := c.taken (isOrdinary double)
      quotedFrom double steps (CodePoint.ofChars run :: parts) (c.skip run.length)

/-- The scalar whose opening quote stands at a place, and the place after its closing quote. -/
def quoted (double : Bool) (c : Cursor) : Except Fault (List CodePoint × Cursor) := do
  let (parts, c) ← quotedFrom double (c.left + 1) [] c.next
  return (parts.reverse.flatten, c)

/-! ## Block scalars -/

/-- Which of the line breaks that a block ends in are kept. -/
inductive Chomping where
  | strip | clip | keep
deriving DecidableEq, Repr

/-- The sign of how a block ends. -/
def chomping? : Char → Option Chomping
  | '+' => some .keep
  | '-' => some .strip
  | _ => none

/-- The digit of how much deeper a block is indented; zero is none. -/
def increment? (c : Char) : Except Fault (Option Nat) :=
  if c.isDigit then if c = '0' then .error .malformed else .ok (some (digitValue c)) else .ok none

/-- The signs after the bar of a block, in either order, and the place after its line. -/
def blockHeader (c : Cursor) : Except Fault (Chomping × Option Nat × Cursor) := do
  let (chomping, increment, c) ← match chomping? c.here with
    | some chomping => do
      let increment ← increment? c.next.here
      pure (some chomping, increment, if increment.isSome then c.next.next else c.next)
    | none => do
      match ← increment? c.here with
      | none => pure (none, none, c)
      | some increment =>
        match chomping? c.next.here with
        | some chomping => pure (some chomping, some increment, c.next.next)
        | none => pure (none, some increment, c.next)
  if c.here = ' ' || endsLine c.here then
    return (chomping.getD .clip, increment, ← c.finishLine)
  else throw .malformed

/-- The line breaks in front of a block that says nothing of its indent, the greatest column that
its leading spaces reach, and the place after them. -/
def blockLead : (steps : Nat) → List Char → Nat → Cursor → List Char × Nat × Cursor
  | 0, breaks, most, c => (breaks, most, c)
  | steps + 1, breaks, most, c =>
    if c.here = ' ' then blockLead steps breaks (max most c.next.column) c.next
    else if isBreak c.here then
      let (br, c) := c.lineBreak
      blockLead steps (breaks ++ br) most c
    else (breaks, most, c)

/-- The place after as many spaces as a column asks for. -/
def skipIndent (indent : Nat) (c : Cursor) : Cursor :=
  c.skip (min (c.taken (· == ' ')).length (indent - c.column))

/-- The line breaks of empty lines in a block, and the place after them. -/
def blockBreaks (indent : Nat) : (steps : Nat) → List Char → Cursor → List Char × Cursor
  | 0, breaks, c => (breaks, c)
  | steps + 1, breaks, c =>
    let c := skipIndent indent c
    if isBreak c.here then
      let (br, c) := c.lineBreak
      blockBreaks indent steps (breaks ++ br) c
    else (breaks, c)

/-- The parts of a block from a place on, lines and what joins them, in front of which are `parts`,
the last one first; then the last line break, the breaks of the empty lines after it, and the place
after them. -/
def blockLines (fold : Bool) (indent : Nat) :
    (steps : Nat) → (parts : List (List Char)) → (breaks : List Char) → Cursor →
      List (List Char) × List Char × List Char × Cursor
  | 0, parts, breaks, c => (parts, [], breaks, c)
  | steps + 1, parts, breaks, c =>
    if c.column != indent || c.atEnd then (parts, [], breaks, c)
    else
      let flush := !isSpace c.here
      let line := c.taken (!isBreak ·)
      let (br, c) := (c.skip line.length).lineBreak
      let parts := line :: breaks :: parts
      let (breaks, c) := blockBreaks indent c.left [] c
      if c.column = indent && !c.atEnd then
        let join := if fold && br = ['\n'] && flush && !isSpace c.here
          then (if breaks.isEmpty then [' '] else []) else br
        blockLines fold indent steps (join :: parts) breaks c
      else (parts, br, breaks, c)

/-- The block whose bar stands at a place, below lines indented by `indent`, and the place after
it. -/
def block (fold : Bool) (indent : Int) (c : Cursor) : Except Fault (List Char × Cursor) := do
  let (chomping, increment, c) ← blockHeader c.next
  let least := (max (indent + 1) 1).toNat
  let (breaks, indent, c) := match increment with
    | none =>
      let (breaks, most, c) := blockLead c.left [] 0 c
      (breaks, max least most, c)
    | some increment =>
      let indent := least + increment - 1
      let (breaks, c) := blockBreaks indent (c.left + 1) [] c
      (breaks, indent, c)
  let (parts, last, breaks, c) := blockLines fold indent (c.left + 1) [] breaks c
  let tail := match chomping with
    | .strip => []
    | .clip => last
    | .keep => last ++ breaks
  return (parts.reverse.flatten ++ tail, c)

end OutlineCalc.Yaml.ScalarText
