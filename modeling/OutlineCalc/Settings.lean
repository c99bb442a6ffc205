import OutlineCalc.Files

/-!
Settings of how outlines are shown, and how they come from a file. What the text of the file says, and
whether it says something about every field as it should, is for others to find out; the calculator
makes sure that there are fields at all, each with a text for its name.
-/

namespace OutlineCalc

/-- How outlines are shown: whether whole digits stand in groups, and whether rows show their
numbers. -/
structure Settings where
  groupDigits : Bool := true
  showRowIndex : Bool := false
deriving DecidableEq, Repr

namespace Settings

/-! ## Loaders -/

/-- How it fails to find out what a text or a field says: it does not allow what it is given, and
reports why, or it breaks down. -/
inductive LoaderFault where
  | refused (report : String)
  | brokeDown (message : String)
deriving DecidableEq, Repr

/-- What a text says: nothing, what each of some keys stands for, or something of another type. -/
inductive Loaded (Datum : Type) where
  | nothing
  | mapping (entries : List (Datum × Datum))
  | other (typeName : String)
deriving Repr

/-- What finds out what a text says, and which settings the fields say that it names. -/
structure Loader where
  Datum : Type
  isText : Datum → Bool
  load : String → Except LoaderFault (Loaded Datum)
  check : List (Datum × Datum) → Except LoaderFault Settings

/-! ## Files of settings -/

/-- Why there are no settings: the file has no text, the text does not say anything or no mapping, the
name of a field is no text, or the fields are not as they should be. -/
inductive Fault where
  | unreadable (path : String) (fault : FileFault)
  | unloaded (path : String) (fault : LoaderFault)
  | notMapping (path typeName : String)
  | keyNotText
  | unchecked (path : String) (fault : LoaderFault)
deriving DecidableEq, Repr

/-- What is reported of why there are no settings. Of what breaks down, and of names that are no texts,
no report is made. -/
def Fault.report? : Fault → Option String
  | unreadable path fault => fault.report?.map fun report => "cannot read settings " ++ path ++ ": " ++ report
  | unloaded path (.refused report) => some ("invalid YAML in " ++ path ++ ": " ++ report)
  | notMapping path typeName => some (path ++ ": expected a mapping, got " ++ typeName)
  | unchecked path (.refused report) => some (path ++ ": " ++ report)
  | unloaded _ (.brokeDown _) | keyNotText | unchecked _ (.brokeDown _) => none

/-- The wording of why no report is made. -/
def Fault.message : Fault → String
  | unreadable _ fault => fault.message
  | unloaded _ (.brokeDown message) | unchecked _ (.brokeDown message) => message
  | keyNotText => "keywords must be strings"
  | fault => fault.report?.getD ""

/-- The settings that a text says; one that says nothing says nothing about them. -/
def ofLoaded (loader : Loader) (path : String) : Loaded loader.Datum → Except Fault Settings
  | .nothing => .ok {}
  | .mapping entries =>
    if entries.all fun entry => loader.isText entry.1 then (loader.check entries).mapError (.unchecked path)
    else .error .keyNotText
  | .other typeName => .error (.notMapping path typeName)

/-- The settings in a file. -/
def load (loader : Loader) (files : Files) (path : String) : Except Fault Settings := do
  let plain := Path.plain path
  let text ← (files.read path).mapError (.unreadable plain)
  ofLoaded loader plain (← (loader.load text).mapError (.unloaded plain))

end Settings

end OutlineCalc
