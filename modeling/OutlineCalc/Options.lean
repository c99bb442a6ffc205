import OutlineCalc.Digit
import OutlineCalc.Printable

/-!
Options on the command line. A word is a plain one or names a switch; a switch can be shortened to
any start that no other switch shares, and switches of one letter can be written together. The
plain words in front of a switch, or after the last one, are the names of files; plain words
anywhere else are not recognised.
-/

namespace OutlineCalc

/-- What can be switched on the command line. -/
inductive Switch where
  | help | config | noGroup | rowIndex | format | verbose
deriving DecidableEq, Repr

namespace Switch

/-- All switches, by the ways to spell them. -/
def spellings : List (String × Switch) :=
  [("-h", help), ("--help", help), ("--config", config), ("--no-group", noGroup),
   ("--row-index", rowIndex), ("--format", format), ("--verbose", verbose), ("-v", verbose)]

/-- The switch with a spelling. -/
def ofSpelling? (spelling : List Char) : Option Switch := spellings.lookup (String.ofList spelling)

/-- Whether a switch needs a value. -/
def takesValue : Switch → Bool
  | config | format => true
  | _ => false

/-- A switch as messages name it. -/
def name (switch : Switch) : String :=
  "/".intercalate ((spellings.filter (·.2 = switch)).map (·.1))

end Switch

/-- The forms that an outline can be written in. -/
inductive Format where
  | table | csv
deriving DecidableEq, Repr

/-- What a switch is given as its value. The mark that ends all switches is no value, so a switch
with nothing else is given nothing. -/
inductive Given (α : Type) where
  | value (a : α)
  | nothing
deriving DecidableEq, Repr

/-- What the command line asks for. -/
structure Options where
  files : List String := ["-"]
  config : Option (Given String) := none
  noGroup : Bool := false
  rowIndex : Bool := false
  format : Given Format := .value .table
  verbose : Bool := false
deriving DecidableEq, Repr

namespace Options

/-- What can be wrong with the words on the command line. -/
inductive Fault where
  | ambiguous (word : String) (spellings : List String)
  | valueMissing (switch : Switch)
  | valueUnused (switch : Switch) (value : String)
  | noFormat (value : String)
  | unrecognized (words : List String)
deriving DecidableEq, Repr

/-- The wording of what is wrong. -/
def Fault.message : Fault → String
  | ambiguous word spellings => "ambiguous option: " ++ word ++ " could match " ++ ", ".intercalate spellings
  | valueMissing switch => "argument " ++ switch.name ++ ": expected one argument"
  | valueUnused switch value =>
    "argument " ++ switch.name ++ ": ignored explicit argument " ++ Printable.quoted value
  | noFormat value =>
    "argument " ++ Switch.format.name ++ ": invalid choice: " ++ Printable.quoted value ++
      " (choose from 'csv', 'table')"
  | unrecognized words => "unrecognized arguments: " ++ " ".intercalate words

/-- Why the words on the command line are no options to go by: help is asked for, or something is
wrong. -/
inductive Stop where
  | help
  | refused (fault : Fault)
deriving DecidableEq, Repr

/-! ## Words -/

/-- A word on the command line. A switch is named in full or by its start, or stands as a letter in
front of more text, which should be further letters. -/
inductive Word where
  | plain (text : String)
  | endMark
  | named (switch : Switch) (value : Option String)
  | letters (switch : Switch) (more : List Char)
  | unknown (text : String)
deriving DecidableEq, Repr

/-- Whether a word is a negative number, in digits of any script and perhaps with a line break at
its end. -/
def isNegativeNumber (word : List Char) : Bool :=
  match if word.getLast? = some '\n' then word.dropLast else word with
  | '-' :: cs =>
    match cs.dropWhile Digit.isDigit with
    | [] => !cs.isEmpty
    | '.' :: fraction => !fraction.isEmpty && fraction.all Digit.isDigit
    | _ => false
  | _ => false

/-- A word up to its first equals sign, and the value after that sign, if any. -/
def cutValue (word : List Char) : List Char × Option String :=
  match word.dropWhile (· != '=') with
  | [] => (word, none)
  | _ :: value => (word.takeWhile (· != '='), some (String.ofList value))

/-- How to read a word that starts with a dash and spells no switch in full. -/
def shortened (word : List Char) : Except Fault Word :=
  let text := String.ofList word
  let (stem, value) := cutValue word
  let candidates :=
    if ['-', '-'].isPrefixOf word then Switch.spellings.filter fun (spelling, _) => stem.isPrefixOf spelling.toList
    else []
  match candidates, Switch.ofSpelling? (word.take 2) with
  | [(_, switch)], _ => .ok (.named switch value)
  | _ :: _ :: _, _ => .error (.ambiguous text (candidates.map (·.1)))
  | [], some switch => .ok (.letters switch (word.drop 2))
  | [], none => .ok (if isNegativeNumber word || word.contains ' ' then .plain text else .unknown text)

/-- How to read a word in front of the mark that ends all switches. -/
def readWord (text : String) : Except Fault Word :=
  let word := text.toList
  let (stem, value) := cutValue word
  match Switch.ofSpelling? word, Switch.ofSpelling? stem with
  | some switch, _ => .ok (.named switch none)
  | none, some switch =>
    .ok (if ['-', '-'].isPrefixOf stem then .named switch value else .letters switch (value.getD "").toList)
  | none, none => if word.head? = some '-' ∧ word ≠ ['-'] then shortened word else .ok (.plain text)

/-- How to read all words: those after the mark that ends all switches are plain. -/
def readWords : List String → Except Fault (List Word)
  | [] => .ok []
  | text :: more =>
    if text = "--" then .ok (.endMark :: more.map .plain)
    else do return (← readWord text) :: (← readWords more)

/-! ## Switches -/

/-- The switches that a letter and the text after it stand for. The text that follows a switch has
to start with the letter of another one. -/
def readLetters (switch : Switch) : List Char → Except Fault (List Switch)
  | [] => .ok [switch]
  | c :: more =>
    match Switch.ofSpelling? ['-', c] with
    | some next => do return switch :: (← readLetters next more)
    | none => .error (.valueUnused switch (String.ofList (c :: more)))

/-- The switches that a word of letters stands for, if there is any text after its first letter. -/
def readWordOfLetters (switch : Switch) (more : List Char) : Except Fault (List Switch) :=
  if more.isEmpty then .error (.valueUnused switch "") else readLetters switch more

/-- The format with a name. -/
def formatOf? : String → Option Format
  | "table" => some .table
  | "csv" => some .csv
  | _ => none

/-- What a switch is given by a text. -/
def given (value : String) : Given String := if value = "--" then .nothing else .value value

/-- Options after one more switch with what it is given, which only matters where a value is
needed. -/
def switchOn (options : Options) (switch : Switch) (value : Given String) : Except Stop Options :=
  match switch, value with
  | .help, _ => .error .help
  | .config, value => .ok { options with config := some value }
  | .noGroup, _ => .ok { options with noGroup := true }
  | .rowIndex, _ => .ok { options with rowIndex := true }
  | .verbose, _ => .ok { options with verbose := true }
  | .format, .nothing => .ok { options with format := .nothing }
  | .format, .value name =>
    match formatOf? name with
    | some format => .ok { options with format := .value format }
    | none => .error (.refused (.noFormat name))

/-! ## The command line -/

/-- What is read of a command line so far. Once a switch follows the names of files, they are
`closed` and no more can be added. -/
structure Progress where
  options : Options := {}
  files : List String := []
  closed : Bool := false
  extras : List String := []

namespace Progress

/-- Takes in a word that is no switch. -/
def addPlain (p : Progress) (text : String) : Progress :=
  if p.closed then { p with extras := p.extras ++ [text] } else { p with files := p.files ++ [text] }

/-- Takes in a word that nothing is known about. -/
def addExtra (p : Progress) (text : String) : Progress := { p with extras := p.extras ++ [text] }

/-- Closes the names of files if there are any. -/
def close (p : Progress) : Progress := { p with closed := p.closed || !p.files.isEmpty }

/-- Takes in some switches with the value of the last. -/
def addSwitches (p : Progress) (switches : List Switch) (value : Given String) : Except Stop Progress := do
  return { p with options := ← switches.foldlM (switchOn · · value) p.options }

/-- What the command line asks for. The first mark that ends all switches is no name of a file;
without names the standard input is read. -/
def finish (p : Progress) : Except Stop Options :=
  if p.extras.isEmpty then
    let files := p.files.erase "--"
    .ok { p.options with files := if files.isEmpty then ["-"] else files }
  else .error (.refused (.unrecognized p.extras))

end Progress

/-- Takes in words one after the other. A switch that needs a value takes the plain word after
it. -/
def takeIn (p : Progress) : List Word → Except Stop Progress
  | [] => .ok p
  | .plain text :: more => takeIn (p.addPlain text) more
  | .endMark :: more => takeIn (p.addPlain "--") more
  | .unknown text :: more => takeIn (p.close.addExtra text) more
  | .letters switch letters :: more => do
    let switches ← (readWordOfLetters switch letters).mapError .refused
    takeIn (← p.close.addSwitches switches .nothing) more
  | .named switch (some value) :: more => do
    unless switch.takesValue do throw (.refused (.valueUnused switch value))
    takeIn (← p.close.addSwitches [switch] (given value)) more
  | .named switch none :: more =>
    if switch.takesValue then
      match more with
      | .plain value :: more => do takeIn (← p.close.addSwitches [switch] (given value)) more
      | _ => .error (.refused (.valueMissing switch))
    else do takeIn (← p.close.addSwitches [switch] .nothing) more

/-- What the words on the command line ask for. -/
def read (words : List String) : Except Stop Options := do
  let words ← (readWords words).mapError .refused
  (← takeIn {} words).finish

/-! ## Texts -/

/-- How the command is used, for the name it goes by. -/
def usage : String :=
  "usage: sigma [-h] [--config CONFIG] [--no-group] [--row-index]\n" ++
  "             [--format \x7bcsv,table\x7d] [--verbose]\n" ++
  "             [files ...]\n"

/-- The help on the command. -/
def help : String := usage ++ "\n" ++
  "Evaluate indented outline calculator documents\n\n" ++
  "positional arguments:\n" ++
  "  files                 Documents to evaluate ('-' for stdin)\n\n" ++
  "options:\n" ++
  "  -h, --help            show this help message and exit\n" ++
  "  --config CONFIG       YAML settings file\n" ++
  "  --no-group            Do not group result digits\n" ++
  "  --row-index           Show the row index column\n" ++
  "  --format \x7bcsv,table\x7d\n" ++
  "  --verbose, -v\n"

end Options

end OutlineCalc
