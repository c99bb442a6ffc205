import OutlineCalc.Yaml.Fault

/-!
A place in a YAML text: the characters from there on and the line and column they stand at. The
text is expected with line feeds only; next line, line separator and paragraph separator break
lines too. Beyond its last character the text goes on with NUL, which it cannot hold itself.
-/

namespace OutlineCalc.Yaml

/-- Whether a character breaks lines. -/
def isBreak (c : Char) : Bool := c == '\n' || c == '\x85' || c == '\u2028' || c == '\u2029'

/-- Whether a character is a space or a tab. -/
def isSpace (c : Char) : Bool := c == ' ' || c == '\t'

/-- Whether a line ends before a character. -/
def endsLine (c : Char) : Bool := c == '\x00' || isBreak c

/-- Whether a word ends before a character. -/
def endsWord (c : Char) : Bool := isSpace c || endsLine c

/-- Whether a text can hold a character. -/
def isAllowed (c : Char) : Bool :=
  c == '\t' || c == '\n' || c == '\r' || (' ' ≤ c && c ≤ '~') || c == '\x85' ||
    ('\xa0' ≤ c && c.toNat ≤ 0xFFFD) || 0x10000 ≤ c.toNat

/-- Whether a character can stand in a name of an anchor or a directive. -/
def isNameChar (c : Char) : Bool := c.isAlphanum || c == '-' || c == '_'

/-- Whether a character is a hexadecimal digit. -/
def isHex (c : Char) : Bool := c.isDigit || ('a' ≤ c && c ≤ 'f') || ('A' ≤ c && c ≤ 'F')

/-- The number that a digit of a base up to sixteen stands for. -/
def digitValue (c : Char) : Nat :=
  if c.isDigit then c.toNat - '0'.toNat
  else if 'a' ≤ c ∧ c ≤ 'f' then c.toNat - 'a'.toNat + 10
  else c.toNat - 'A'.toNat + 10

/-- The number that digits stand for. -/
def digitsValue (base : Nat) (digits : List Char) : Nat :=
  digits.foldl (fun total c => base * total + digitValue c) 0

/-- A place in a text: the characters from there on and how many they are, and how many stand in
front of it, in lines and columns and altogether. -/
structure Cursor where
  rest : List Char
  left : Nat := rest.length
  index : Nat := 0
  line : Nat := 0
  column : Nat := 0

namespace Cursor

/-- The character some way ahead. -/
def ahead (c : Cursor) (k : Nat) : Char := c.rest.getD k '\x00'

/-- The character at a place. -/
def here (c : Cursor) : Char := c.ahead 0

/-- Whether nothing is left of the text. -/
def atEnd (c : Cursor) : Bool := c.rest.isEmpty

/-- The place after one character; a byte order mark takes no column. -/
def next (c : Cursor) : Cursor :=
  match c.rest with
  | [] => c
  | ch :: rest =>
    let (left, index) := (c.left - 1, c.index + 1)
    if isBreak ch then ⟨rest, left, index, c.line + 1, 0⟩
    else ⟨rest, left, index, c.line, if ch = '\ufeff' then c.column else c.column + 1⟩

/-- The place after some characters. -/
def skip (c : Cursor) : Nat → Cursor
  | 0 => c
  | k + 1 => c.next.skip k

/-- The characters of a kind that stand at a place. -/
def taken (c : Cursor) (p : Char → Bool) : List Char := c.rest.takeWhile p

/-- The place after all characters of a kind. -/
def skipWhile (c : Cursor) (p : Char → Bool) : Cursor := c.skip (c.taken p).length

/-- The line break at a place, as it is kept in a scalar, and the place after it. -/
def lineBreak (c : Cursor) : List Char × Cursor :=
  if isBreak c.here then ([if c.here = '\x85' then '\n' else c.here], c.next) else ([], c)

/-- Whether a mark of three characters that starts or ends a document stands at a place. -/
def atMark (c : Cursor) (mark : Char) : Bool :=
  c.rest.take 3 == [mark, mark, mark] && endsWord (c.ahead 3)

/-- Whether a mark between documents stands at a place. -/
def atDocumentMark (c : Cursor) : Bool := c.atMark '-' || c.atMark '.'

/-- The place after the spaces and the comment that a line ends in. -/
def skipComment (c : Cursor) : Cursor :=
  let c := c.skipWhile (· == ' ')
  if c.here = '#' then c.skipWhile (!isBreak ·) else c

/-- The place after what a line ends in, if that is nothing but spaces and a comment. -/
def finishLine (c : Cursor) : Except Fault Cursor :=
  let c := c.skipComment
  if endsLine c.here then .ok c.lineBreak.2 else .error .malformed

end Cursor

end OutlineCalc.Yaml
