import OutlineCalc.CodePoint
import OutlineCalc.Yaml.Pattern

/-!
The tags of YAML's types, and the type that a plain scalar has by its form alone.
-/

namespace OutlineCalc.Yaml.Tag

open Pattern

/-- The full tag of a type of the language. -/
def standard (name : String) : String := "tag:yaml.org,2002:" ++ name

/-- The tag of no value. -/
def null : String := standard "null"

/-- The tag of booleans. -/
def bool : String := standard "bool"

/-- The tag of whole numbers. -/
def int : String := standard "int"

/-- The tag of numbers with a point. -/
def float : String := standard "float"

/-- The tag of bytes. -/
def binary : String := standard "binary"

/-- The tag of dates and times. -/
def timestamp : String := standard "timestamp"

/-- The tag of the key that takes over the pairs of other mappings. -/
def merge : String := standard "merge"

/-- The tag of the key whose value a mapping has where a scalar is asked for. -/
def default : String := standard "value"

/-- The tag of the marks of tags, anchors and aliases on their own, which stand for nothing. -/
def mark : String := standard "yaml"

/-- The tag of texts. -/
def text : String := standard "str"

/-- The tag of sequences. -/
def sequence : String := standard "seq"

/-- The tag of mappings. -/
def mapping : String := standard "map"

/-- The tag of sets, which are the keys of a mapping. -/
def set : String := standard "set"

/-- The tag of pairs in an order. -/
def orderedMap : String := standard "omap"

/-- The tag of pairs in an order in which keys can recur. -/
def pairs : String := standard "pairs"

/-- The words for true and false. -/
def boolPattern : Pattern :=
  words ["yes", "Yes", "YES", "no", "No", "NO", "true", "True", "TRUE", "false", "False", "FALSE",
    "on", "On", "ON", "off", "Off", "OFF"]

/-- The words for no value. -/
def nullPattern : Pattern := words ["~", "null", "Null", "NULL", ""]

private def digit : Pattern := char Char.isDigit
private def digits : Pattern := seq digit (star (oneOf "0123456789_"))
private def positive : Pattern := seq (oneOf "123456789") (star (oneOf "0123456789_"))
private def sign : Pattern := opt (oneOf "+-")
private def sixtieths : Pattern := plus (all [word ":", opt (oneOf "012345"), digit])
private def exponent : Pattern := opt (all [oneOf "eE", oneOf "+-", plus digit])

/-- Whole numbers: binary, octal, decimal, hexadecimal, or with parts that count sixty each. -/
def intPattern : Pattern := seq sign (any
  [all [word "0b", plus (oneOf "01_")], all [word "0", plus (oneOf "01234567_")], word "0", positive,
   all [word "0x", plus (oneOf "0123456789abcdefABCDEF_")], all [positive, sixtieths]])

/-- Numbers with a point: decimal, or with parts that count sixty each, or no number at all. -/
def floatPattern : Pattern := any
  [all [sign, digits, word ".", star (oneOf "0123456789_"), exponent], all [word ".", digits, exponent],
   all [sign, digits, sixtieths, word ".", star (oneOf "0123456789_")],
   all [sign, words [".inf", ".Inf", ".INF"]], words [".nan", ".NaN", ".NAN"]]

private def oneOrTwo : Pattern := seq digit (opt digit)
private def two : Pattern := seq digit digit
private def gap : Pattern := oneOf " \t"

/-- Dates, and dates with a time of day and perhaps an offset. -/
def timestampPattern : Pattern := alt (all [two, two, word "-", two, word "-", two])
  (all [two, two, word "-", oneOrTwo, word "-", oneOrTwo, alt (oneOf "Tt") (plus gap),
    oneOrTwo, word ":", two, word ":", two, opt (seq (word ".") (star digit)),
    opt (seq (star gap) (alt (word "Z") (all [oneOf "+-", oneOrTwo, opt (seq (word ":") two)])))])

/-- The types that a plain scalar can have by its form; all others are texts. -/
def byForm : List (String × Pattern) :=
  [(bool, boolPattern), (float, floatPattern), (int, intPattern), (merge, word "<<"), (null, nullPattern),
   (timestamp, timestampPattern), (default, word "="), (mark, words ["!", "&", "*"])]

/-- A text without the line break it ends in, unless it has nothing else. -/
def withoutBreak (text : List Char) : List Char :=
  if 1 < text.length ∧ text.getLast? = some '\n' then text.dropLast else text

/-- The tag of a scalar by its form, in which a line break at the end plays no part. -/
def ofPlain (scalar : List CodePoint) : String :=
  match CodePoint.chars? scalar with
  | none => text
  | some chars =>
    match byForm.find? fun (_, pattern) => pattern.isMatch (withoutBreak chars) with
    | some (tag, _) => tag
    | none => text

end OutlineCalc.Yaml.Tag
