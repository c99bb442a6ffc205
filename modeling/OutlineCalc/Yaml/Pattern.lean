/-!
Regular patterns on texts, matched as a whole by taking the derivative of the pattern along the
text: what is left to match after a character.
-/

namespace OutlineCalc.Yaml

/-- A regular pattern. -/
inductive Pattern where
  | never
  | empty
  | char (p : Char → Bool)
  | seq (a b : Pattern)
  | alt (a b : Pattern)
  | star (a : Pattern)

namespace Pattern

/-- Whether a pattern matches the empty text. -/
def nullable : Pattern → Bool
  | never => false
  | empty => true
  | char _ => false
  | seq a b => a.nullable && b.nullable
  | alt a b => a.nullable || b.nullable
  | star _ => true

/-- One pattern after another, without what matches nothing or only the empty text. -/
def andThen : Pattern → Pattern → Pattern
  | never, _ => never
  | empty, b => b
  | a, b => seq a b

/-- One pattern or another, without what matches nothing. -/
def orElse : Pattern → Pattern → Pattern
  | never, b => b
  | a, never => a
  | a, b => alt a b

/-- What is left of a pattern after a character. -/
def derivative (c : Char) : Pattern → Pattern
  | never => never
  | empty => never
  | char p => if p c then empty else never
  | seq a b =>
    let first := (a.derivative c).andThen b
    if a.nullable then first.orElse (b.derivative c) else first
  | alt a b => (a.derivative c).orElse (b.derivative c)
  | star a => (a.derivative c).andThen (star a)

/-- Whether a pattern matches a whole text. -/
def isMatch : Pattern → List Char → Bool
  | r, [] => r.nullable
  | r, c :: cs => (r.derivative c).isMatch cs

/-- One of some characters. -/
def oneOf (set : String) : Pattern := char (set.toList.contains ·)

/-- A text as it stands. -/
def word (text : String) : Pattern := text.toList.foldr (fun c r => seq (char (· == c)) r) empty

/-- One of some texts as they stand. -/
def words (texts : List String) : Pattern := texts.foldr (fun text r => alt (word text) r) never

/-- A pattern or the empty text. -/
def opt (a : Pattern) : Pattern := alt a empty

/-- A pattern one or more times. -/
def plus (a : Pattern) : Pattern := seq a (star a)

/-- Patterns one after the other. -/
def all (patterns : List Pattern) : Pattern := patterns.foldr seq empty

/-- One of some patterns. -/
def any (patterns : List Pattern) : Pattern := patterns.foldr alt never

end Pattern

end OutlineCalc.Yaml
