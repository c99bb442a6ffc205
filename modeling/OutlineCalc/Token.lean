import OutlineCalc.Numeral

/-!
The tokens of one line: punctuation marks, names, numbers, quoted texts, and the end of the line.
-/

namespace OutlineCalc

/-- The punctuation marks; each is a token of its own. -/
inductive Mark where
  | leftParen | rightParen | comma | dot | minus | plus | star | slash | semicolon | equal | colon
deriving DecidableEq, Repr

/-- The character of a punctuation mark. -/
def Mark.char : Mark → Char
  | leftParen => '('
  | rightParen => ')'
  | comma => ','
  | dot => '.'
  | minus => '-'
  | plus => '+'
  | star => '*'
  | slash => '/'
  | semicolon => ';'
  | equal => '='
  | colon => ':'

/-- All punctuation marks. -/
def Mark.all : List Mark :=
  [leftParen, rightParen, comma, dot, minus, plus, star, slash, semicolon, equal, colon]

/-- The punctuation mark written as a character. -/
def Mark.ofChar? (c : Char) : Option Mark := Mark.all.find? (·.char == c)

theorem Mark.ofChar?_eq_some_iff {c : Char} {m : Mark} : Mark.ofChar? c = some m ↔ m.char = c := by
  constructor
  · intro found
    simpa using List.find?_some found
  · rintro rfl
    cases m <;> rfl

/-- A token of a line. -/
inductive Token where
  | mark (mark : Mark)
  | name (text : String)
  | number (numeral : Numeral)
  | quoted (content : String)
  | endOfLine
deriving DecidableEq, Repr

/-- The part of the line that a token was read from. -/
def Token.lexeme : Token → String
  | mark m => m.char.toString
  | name text => text
  | number numeral => numeral.lexeme
  | quoted content => "'" ++ content ++ "'"
  | endOfLine => ""

end OutlineCalc
