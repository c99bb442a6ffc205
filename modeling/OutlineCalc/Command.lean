import OutlineCalc.Document
import OutlineCalc.Options
import OutlineCalc.Row
import OutlineCalc.Settings
import OutlineCalc.Sheet
import OutlineCalc.Shortest

/-!
The command: the words on its line name documents and say how to show them, and what it writes and
reports is put together from one part for each name. A part depends on its own document alone, and
the parts go on until one of them ends the command.
-/

namespace OutlineCalc.Command

/-- What ends the command without a status: nothing given as the file of settings or as the format, a
text that is neither there nor refused, settings that no report is made of, or a document that has no
rows. -/
inductive Crash where
  | noConfig
  | noFormat
  | unread (fault : FileFault)
  | settings (fault : Settings.Fault)
  | rows (fault : Row.Fault)
deriving DecidableEq, Repr

/-- The wording of what ends the command. -/
def Crash.message : Crash → String
  | noConfig => "expected str, bytes or os.PathLike object, not list"
  | noFormat => "unhashable type: 'list'"
  | unread fault => fault.message
  | settings fault => fault.message
  | rows fault => fault.message

/-- What the command has come to: a status or what ends it, and what is written and reported by then. -/
structure Outcome where
  ending : Except Crash Nat
  out : String := ""
  err : String := ""
deriving Repr

/-- Goes on with another part, unless the command has ended. The status is the worse one. -/
def Outcome.andThen (first second : Outcome) : Outcome :=
  match first.ending with
  | .error _ => first
  | .ok status =>
    { ending := second.ending.map (max status), out := first.out ++ second.out, err := first.err ++ second.err }

/-- What the command comes to with some parts. -/
def joined (parts : List Outcome) : Outcome := parts.foldr Outcome.andThen { ending := .ok 0 }

/-! ## Documents -/

section
variable [Machine]

/-- The rows of an outline in a form. -/
def written (settings : Settings) (format : Format) (outline : Outline) (store : Store) : Except Row.Fault String := do
  let rows ← Row.ofOutline outline store
  return match format with
    | .table => Sheet.table settings.showRowIndex rows
    | .csv => Sheet.csv settings.showRowIndex rows

/-- The outline of a document and the store after it, under some settings. -/
def outlineOf (settings : Settings) (document : String) : Outline × Store :=
  Document.build document { groupDigits := settings.groupDigits }

/-- A document as it is shown under some settings. -/
def renderDocument (settings : Settings) (format : Format) (document : String) : Except Row.Fault String :=
  let (outline, store) := outlineOf settings document
  written settings format outline store

end

/-- The log of building an outline: what is wrong with its lines, and its total. -/
def log (outline : Outline) : String :=
  let faults := outline.lines.toList.filterMap fun line => line.fault.map fun fault =>
    "sigma.outline: row " ++ line.row.repr ++ ": " ++ fault.message ++ "\n"
  String.join faults ++ "sigma.outline: built outline: " ++ (outline.lines.size - 1).repr ++ " rows, total " ++
    Shortest.text outline.total ++ "\n"

/-- A text without the line breaks it ends in. -/
def dropLineBreaks (text : String) : String :=
  String.ofList (text.toList.reverse.dropWhile (· == '\n')).reverse

/-! ## Parts -/

/-- The texts under some names. The name `-` is for the standard input, which is used up once it is
read. -/
def texts (files : Files) : (input : Except FileFault String) → List String → List (String × Except FileFault String)
  | _, [] => []
  | input, name :: more =>
    if name = "-" then (name, input) :: texts files (input.map fun _ => "") more
    else (name, files.read name) :: texts files input more

/-- What is written above the document with a name, if it is one of several. -/
def heading (options : Options) (index : Nat) (name : String) : String :=
  if options.files.length > 1 then (if index = 0 then "" else "\n") ++ "== " ++ name ++ "\n" else ""

section
variable [Machine]

/-- A document in the form that is asked for. Nothing can be written in the format nothing. -/
def shown (settings : Settings) (format : Given Format) (document : String) : Except Crash String :=
  match format with
  | .value format => (renderDocument settings format document).mapError .rows
  | .nothing => .error .noFormat

/-- What the command comes to with one name. -/
def part (settings : Settings) (options : Options) (index : Nat) : String × Except FileFault String → Outcome
  | (name, .ok document) =>
    let heading := heading options index name
    let log := if options.verbose then log (outlineOf settings document).1 else ""
    match shown settings options.format document with
    | .ok text => { ending := .ok 0, out := heading ++ dropLineBreaks text ++ "\n", err := log }
    | .error crash => { ending := .error crash, out := heading, err := log }
  | (name, .error fault) =>
    match fault.report? with
    | some report => { ending := .ok 1, err := "error: cannot read " ++ name ++ ": " ++ report ++ "\n" }
    | none => { ending := .error (.unread fault) }

/-! ## The command -/

/-- Settings with what the command line says against them. -/
def overridden (settings : Settings) (options : Options) : Settings :=
  { groupDigits := settings.groupDigits && !options.noGroup
    showRowIndex := settings.showRowIndex || options.rowIndex }

/-- The settings to go by: those in the file that is named, or the defaults. -/
def settingsFor (loader : Settings.Loader) (files : Files) (options : Options) : Except Crash Settings := do
  let settings ← match options.config with
    | some (.value path) => (Settings.load loader files path).mapError .settings
    | some .nothing => throw .noConfig
    | none => pure {}
  return overridden settings options

/-- What the command comes to with some options and settings. -/
def perform (files : Files) (input : Except FileFault String) (settings : Settings) (options : Options) : Outcome :=
  joined ((texts files input options.files).mapIdx (part settings options))

/-- What the command comes to without settings. -/
def withoutSettings (crash : Crash) : Outcome :=
  match crash with
  | .settings fault =>
    match fault.report? with
    | some report => { ending := .ok 1, err := "error: " ++ report ++ "\n" }
    | none => { ending := .error crash }
  | _ => { ending := .error crash }

/-- What the command comes to with some options. -/
def runWith (loader : Settings.Loader) (files : Files) (input : Except FileFault String) (options : Options) : Outcome :=
  match settingsFor loader files options with
  | .ok settings => perform files input settings options
  | .error crash => withoutSettings crash

/-- Runs the command for the words on its line, with what loads its settings, some files and a standard
input. -/
def run (loader : Settings.Loader) (files : Files) (input : Except FileFault String) (words : List String) : Outcome :=
  match Options.read words with
  | .ok options => runWith loader files input options
  | .error .help => { ending := .ok 0, out := Options.help }
  | .error (.refused fault) =>
    { ending := .ok 2, err := Options.usage ++ "sigma: error: " ++ fault.message ++ "\n" }

end

end OutlineCalc.Command
