import OutlineCalc.Yaml.ScalarText

/-!
The tokens of a YAML text. Where a block starts and ends follows from columns. A key without a
question mark is known as one only when its colon is met: until then its place is remembered, one
place for each level of brackets, and the mark of a key is put there in hindsight. Such a key
stays on one line and within 1024 characters.
-/

namespace OutlineCalc.Yaml

/-- A token. -/
inductive Token where
  | version (major : Nat)
  | tagHandle (handle : String) (expansion : String)
  | unknownDirective
  | documentStart
  | documentEnd
  | blockSequenceStart
  | blockMappingStart
  | blockEnd
  | flowSequenceStart
  | flowSequenceEnd
  | flowMappingStart
  | flowMappingEnd
  | blockEntry
  | flowEntry
  | key
  | value
  | alias (name : String)
  | anchor (name : String)
  | tag (handle : Option String) (suffix : String)
  | scalar (text : List CodePoint) (plain : Bool)
  | streamEnd
deriving DecidableEq, Repr

/-- A place that may turn out to be the start of a key. -/
structure KeyPlace where
  level : Nat
  position : Nat
  required : Bool
  index : Nat
  line : Nat
  column : Nat

/-- A text under way: the place reached, the tokens so far, the last one first, and their count, the
indents of the blocks it is in, how many brackets are open, whether a key can start here, and where
keys may have started. -/
structure Reader where
  cursor : Cursor
  tokens : List Token := []
  count : Nat := 0
  indent : Int := -1
  outer : List Int := []
  flow : Nat := 0
  allowKey : Bool := true
  keys : List KeyPlace := []

namespace Reader

/-! ## Blocks and keys -/

/-- Adds a token. -/
def push (r : Reader) (token : Token) : Reader := { r with tokens := token :: r.tokens, count := r.count + 1 }

/-- Puts a token in front of those from a position on. -/
def pushAt (r : Reader) (position : Nat) (token : Token) : Reader :=
  let (after, before) := r.tokens.splitAt (r.count - position)
  { r with tokens := after ++ token :: before, count := r.count + 1 }

/-- Ends the blocks that are indented deeper than a column. -/
def unwindTo (column : Int) : (outer : List Int) → Reader → Reader
  | [], r => r
  | indent :: outer, r =>
    if r.indent > column then unwindTo column outer { r.push .blockEnd with indent, outer } else r

/-- Ends the blocks that are indented deeper than a column; in brackets indents do not count. -/
def unwind (r : Reader) (column : Int) : Reader :=
  if r.flow = 0 then unwindTo column r.outer r else r

/-- Starts a block at a column if that is deeper than the block so far; `position` is where its
token goes. -/
def startBlock (r : Reader) (column : Nat) (token : Token) (position : Nat) : Reader :=
  if r.flow = 0 ∧ r.indent < column then
    { r.pushAt position token with outer := r.indent :: r.outer, indent := column }
  else r

/-- Forgets the place of a key on the level of brackets reached; a key that has to be there is
missed. -/
def dropKey (r : Reader) : Except Fault Reader :=
  if r.keys.any fun k => k.level = r.flow && k.required then .error .malformed
  else .ok { r with keys := r.keys.filter (·.level ≠ r.flow) }

/-- Whether a place of a key is on another line or too far back. -/
def isStale (r : Reader) (k : KeyPlace) : Bool := k.line ≠ r.cursor.line || r.cursor.index - k.index > 1024

/-- Forgets the places of keys on other lines or too far back; a key that has to be there is
missed. -/
def dropStaleKeys (r : Reader) : Except Fault Reader :=
  if r.keys.any fun k => r.isStale k && k.required then .error .malformed
  else .ok { r with keys := r.keys.filter (!r.isStale ·) }

/-- The tokens that are final: in front of the others the mark of a key may still be put. -/
def settled (r : Reader) : List Token :=
  let places := (r.keys.filter (!r.isStale ·)).map (·.position)
  r.tokens.reverse.take (places.foldl min r.count)

/-- Remembers the place reached as one where a key may start. -/
def noteKey (r : Reader) : Except Fault Reader :=
  if r.allowKey then do
    let r ← r.dropKey
    let required := r.flow = 0 && r.indent = r.cursor.column
    let place := ⟨r.flow, r.count, required, r.cursor.index, r.cursor.line, r.cursor.column⟩
    return { r with keys := place :: r.keys }
  else .ok r

/-- Goes on after some characters. -/
def skip (r : Reader) (count : Nat) : Reader := { r with cursor := r.cursor.skip count }

/-! ## Spaces and comments -/

/-- Goes on to the next token. After a line break outside of brackets a key can start. -/
def toTokenWithin : (steps : Nat) → Reader → Reader
  | 0, r => r
  | steps + 1, r =>
    let c := r.cursor.skipComment
    if isBreak c.here then
      toTokenWithin steps { r with cursor := c.lineBreak.2, allowKey := r.allowKey || r.flow = 0 }
    else { r with cursor := c }

/-- Goes on to the next token; a byte order mark that the text starts with is passed over. -/
def toToken (r : Reader) : Reader :=
  let r := if r.cursor.index = 0 && r.cursor.here = '\ufeff' then r.skip 1 else r
  toTokenWithin (r.cursor.left + 1) r

/-! ## Names, tags and directives -/

/-- A name of an anchor, and the place after it. -/
def anchorName (c : Cursor) : Except Fault (String × Cursor) :=
  let name := c.taken isNameChar
  let c := c.skip name.length
  if name.isEmpty || !(endsWord c.here || "?:,]\x7d%@\x60".toList.contains c.here) then .error .malformed
  else .ok (String.ofList name, c)

/-- Whether a character can stand in a tag as it is. -/
def isTagChar (c : Char) : Bool := c.isAlphanum || "-;/?:@&=+$,_.!~*'()[]".toList.contains c

/-- The bytes that percent signs with two digits each stand for, and the place after them. -/
def escapedBytes : (steps : Nat) → List UInt8 → Cursor → Except Fault (List UInt8 × Cursor)
  | 0, bytes, c => .ok (bytes, c)
  | steps + 1, bytes, c =>
    if c.here = '%' then
      let digits := c.next.rest.take 2
      if digits.length = 2 ∧ digits.all isHex then
        escapedBytes steps (bytes ++ [(digitsValue 16 digits).toUInt8]) (c.skip 3)
      else .error .malformed
    else .ok (bytes, c)

/-- The text of a tag, and the place after it; escaped bytes have to be UTF-8. -/
def tagTextFrom : (steps : Nat) → List Char → Cursor → Except Fault (List Char × Cursor)
  | 0, text, c => .ok (text, c)
  | steps + 1, text, c =>
    let run := c.taken isTagChar
    let text := text ++ run
    let c := c.skip run.length
    if c.here = '%' then do
      let (bytes, c) ← escapedBytes c.left [] c
      match String.fromUTF8? ⟨bytes.toArray⟩ with
      | some part => tagTextFrom steps (text ++ part.toList) c
      | none => throw .malformed
    else .ok (text, c)

/-- The text of a tag, which is not empty, and the place after it. -/
def tagText (c : Cursor) : Except Fault (String × Cursor) := do
  let (text, c') ← tagTextFrom (c.left + 1) [] c
  if c'.index = c.index then throw .malformed
  return (String.ofList text, c')

/-- A handle of a tag, between exclamation marks or one such mark before a space, and the place
after it. -/
def tagHandle (c : Cursor) : Except Fault (String × Cursor) :=
  if c.here ≠ '!' then .error .malformed
  else if c.next.here = ' ' then .ok ("!", c.next)
  else
    let name := c.next.taken isNameChar
    let after := c.next.skip name.length
    if after.here = '!' then .ok (String.ofList ('!' :: name ++ ['!']), after.next) else .error .malformed

/-- Whether a place is followed by a space, a line break or the end. -/
def endsTag (c : Cursor) : Bool := c.here = ' ' || endsLine c.here

/-- The tag at a place, and the place after it. -/
def tag (c : Cursor) : Except Fault (Token × Cursor) := do
  let (token, c) ←
    if c.next.here = '<' then do
      let (text, c) ← tagText (c.skip 2)
      if c.here = '>' then pure (Token.tag none text, c.next) else throw .malformed
    else if endsWord c.next.here then pure (Token.tag none "!", c.next)
    else do
      let word := c.next.taken fun ch => ch != ' ' && !endsLine ch
      let (handle, c) ← if word.contains '!' then tagHandle c else pure ("!", c.next)
      let (text, c) ← tagText c
      pure (Token.tag (some handle) text, c)
  if endsTag c then return (token, c) else throw .malformed

/-- A number in a directive, and the place after it. -/
def versionNumber (c : Cursor) : Except Fault (Nat × Cursor) :=
  let digits := c.taken Char.isDigit
  if digits.isEmpty then .error .malformed
  else if mostDigits < digits.length then .error (.tooManyDigits digits.length)
  else .ok (digitsValue 10 digits, c.skip digits.length)

/-- The directive at a place, and the place after its line. -/
def directive (c : Cursor) : Except Fault (Token × Cursor) := do
  let name := c.next.taken isNameChar
  let c := c.next.skip name.length
  if name.isEmpty || !endsTag c then throw .malformed
  let (token, c) ←
    if name = ['Y', 'A', 'M', 'L'] then do
      let (major, c) ← versionNumber (c.skipWhile (· == ' '))
      if c.here ≠ '.' then throw .malformed
      let (_, c) ← versionNumber c.next
      if endsTag c then pure (Token.version major, c) else throw .malformed
    else if name = ['T', 'A', 'G'] then do
      let (handle, c) ← tagHandle (c.skipWhile (· == ' '))
      if c.here ≠ ' ' then throw .malformed
      let (expansion, c) ← tagText (c.skipWhile (· == ' '))
      if endsTag c then pure (Token.tagHandle handle expansion, c) else throw .malformed
    else pure (Token.unknownDirective, c.skipWhile (!isBreak ·))
  return (token, ← c.finishLine)

/-! ## Tokens -/

/-- Ends all blocks and forgets the place of a key. -/
def leaveBlocks (r : Reader) : Except Fault Reader := do
  let r ← (r.unwind (-1)).dropKey
  return { r with allowKey := false }

/-- Reads a mark between documents. -/
def documentMark (r : Reader) (token : Token) : Except Fault Reader := do
  let r ← r.leaveBlocks
  return (r.push token).skip 3

/-- Reads an opening bracket, which may start a key. -/
def openBracket (r : Reader) (token : Token) : Except Fault Reader := do
  let r ← r.noteKey
  return ({ r with flow := r.flow + 1, allowKey := true }.push token).skip 1

/-- Reads a closing bracket. -/
def closeBracket (r : Reader) (token : Token) : Except Fault Reader := do
  let r ← r.dropKey
  if r.flow = 0 then throw .malformed
  return ({ r with flow := r.flow - 1, allowKey := false }.push token).skip 1

/-- Reads a comma between brackets. -/
def flowEntry (r : Reader) : Except Fault Reader := do
  let r ← r.dropKey
  return ({ r with allowKey := true }.push .flowEntry).skip 1

/-- Reads the dash of an entry. -/
def blockEntry (r : Reader) : Except Fault Reader := do
  if r.flow = 0 ∧ !r.allowKey then throw .malformed
  let r := r.startBlock r.cursor.column .blockSequenceStart r.count
  let r ← { r with allowKey := true }.dropKey
  return (r.push .blockEntry).skip 1

/-- Reads the question mark of a key. -/
def keyMark (r : Reader) : Except Fault Reader := do
  if r.flow = 0 ∧ !r.allowKey then throw .malformed
  let r := r.startBlock r.cursor.column .blockMappingStart r.count
  let r ← { r with allowKey := decide (r.flow = 0) }.dropKey
  return (r.push .key).skip 1

/-- Reads the colon of a value. If a key may have started on this level, it did, and a mapping
with it unless one goes on. -/
def valueMark (r : Reader) : Except Fault Reader := do
  match r.keys.find? (·.level = r.flow) with
  | some place =>
    let r := { r.pushAt place.position .key with keys := r.keys.filter (·.level ≠ r.flow), allowKey := false }
    return ((r.startBlock place.column .blockMappingStart place.position).push .value).skip 1
  | none =>
    if r.flow = 0 ∧ !r.allowKey then throw .malformed
    let r := r.startBlock r.cursor.column .blockMappingStart r.count
    let r ← { r with allowKey := decide (r.flow = 0) }.dropKey
    return (r.push .value).skip 1

/-- Reads a token that may start a key and that none can follow at once. -/
def keyStart (r : Reader) (read : Cursor → Except Fault (Token × Cursor)) : Except Fault Reader := do
  let r ← r.noteKey
  let (token, cursor) ← read r.cursor
  return { r with allowKey := false, cursor }.push token

/-- Reads an anchor or an alias. -/
def named (r : Reader) (token : String → Token) : Except Fault Reader :=
  r.keyStart fun c => do
    let (name, c) ← anchorName c.next
    return (token name, c)

/-- Reads a scalar in quotes. -/
def quotedScalar (r : Reader) (double : Bool) : Except Fault Reader :=
  r.keyStart fun c => do
    let (text, c) ← ScalarText.quoted double c
    return (.scalar text false, c)

/-- Reads a block scalar. -/
def blockScalar (r : Reader) (fold : Bool) : Except Fault Reader := do
  let r ← { r with allowKey := true }.dropKey
  let (text, cursor) ← ScalarText.block fold r.indent r.cursor
  return { r with cursor }.push (.scalar (CodePoint.ofChars text) false)

/-- Reads a plain scalar; a key can follow it on a line of its own. -/
def plainScalar (r : Reader) : Except Fault Reader := do
  let r ← r.noteKey
  let (text, cursor, broke) := ScalarText.plain (r.flow ≠ 0) (r.indent + 1) r.cursor
  return { r with cursor, allowKey := broke }.push (.scalar (CodePoint.ofChars text) true)

/-- Whether a plain scalar can start at a place. -/
def startsPlain (r : Reader) : Bool :=
  let ch := r.cursor.here
  !(endsWord ch || "-?:,[]\x7b\x7d#&*!|>'\"%@\x60".toList.contains ch) ||
    (!endsWord (r.cursor.ahead 1) && (ch = '-' || (r.flow = 0 && (ch = '?' || ch = ':'))))

/-- Reads the token at a place other than the end. -/
def token (r : Reader) : Except Fault Reader :=
  let c := r.cursor
  let first := c.column = 0
  let spaced := endsWord (c.ahead 1)
  let inFlow := r.flow ≠ 0
  match c.here with
  | '%' =>
    if first then do
      let r ← r.leaveBlocks
      let (token, cursor) ← directive r.cursor
      return { r with cursor }.push token
    else .error .malformed
  | '[' => r.openBracket .flowSequenceStart
  | '\x7b' => r.openBracket .flowMappingStart
  | ']' => r.closeBracket .flowSequenceEnd
  | '\x7d' => r.closeBracket .flowMappingEnd
  | ',' => r.flowEntry
  | '*' => r.named .alias
  | '&' => r.named .anchor
  | '!' => r.keyStart tag
  | '\'' => r.quotedScalar false
  | '"' => r.quotedScalar true
  | ch =>
    if first && c.atMark '-' then r.documentMark .documentStart
    else if first && c.atMark '.' then r.documentMark .documentEnd
    else if ch = '-' && spaced then r.blockEntry
    else if ch = '?' && (inFlow || spaced) then r.keyMark
    else if ch = ':' && (inFlow || spaced) then r.valueMark
    else if ch = '|' && !inFlow then r.blockScalar false
    else if ch = '>' && !inFlow then r.blockScalar true
    else if r.startsPlain then r.plainScalar
    else .error .malformed

/-- Reads one token or more, or the end of the text; says whether it was the end. -/
def advance (r : Reader) : Except Fault (Bool × Reader) := do
  let r ← r.toToken.dropStaleKeys
  let r := r.unwind r.cursor.column
  if r.cursor.atEnd then return (true, (← r.leaveBlocks).push .streamEnd)
  else return (false, ← r.token)

/-- Reads tokens up to the end of the text. When something is wrong, only the tokens that were
final before it are had. -/
def finishWithin : (steps : Nat) → Reader → List Token × Option Fault
  | 0, r => (r.settled, some .malformed)
  | steps + 1, r =>
    match r.advance with
    | .error fault => (r.settled, some fault)
    | .ok (true, r) => (r.tokens.reverse, none)
    | .ok (false, r) => finishWithin steps r

end Reader

/-- The tokens of a text, and what is wrong after the last of them. -/
def tokens (text : List Char) : List Token × Option Fault :=
  if text.all isAllowed then Reader.finishWithin (text.length + 1) { cursor := { rest := text } }
  else ([], some .malformed)

end OutlineCalc.Yaml
