/-!
Line ends of files: a carriage return with a line feed, and a carriage return alone, both count
as a line feed.
-/

namespace OutlineCalc.Newline

/-- A text with line feeds for all line ends. -/
def unifyChars : List Char → List Char
  | '\r' :: '\n' :: cs => '\n' :: unifyChars cs
  | '\r' :: cs => '\n' :: unifyChars cs
  | c :: cs => c :: unifyChars cs
  | [] => []

/-- A text with line feeds for all line ends. -/
def unify (text : String) : String := String.ofList (unifyChars text.toList)

end OutlineCalc.Newline
