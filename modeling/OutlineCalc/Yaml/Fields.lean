import OutlineCalc.Binary64
import OutlineCalc.Settings
import OutlineCalc.Yaml.Datum

/-!
A loader of settings from YAML mappings: each field at most counts once, the last time it is given,
and fields that are left out keep their defaults. It is what the program loads its settings with; the
calculator depends on none of it.
-/

namespace OutlineCalc.Yaml

/-- What can be wrong with a field: there is none of its name, its value does not say yes or no,
a value of its type never does, or its text has code points that are no characters. -/
inductive FieldFault where
  | unknown | unclear | mistyped | unwritable
deriving DecidableEq, Repr

/-- The wording of what is wrong with a field. -/
def FieldFault.message : FieldFault → String
  | unknown => "Extra inputs are not permitted"
  | unclear => "Input should be a valid boolean, unable to interpret input"
  | mistyped => "Input should be a valid boolean"
  | unwritable => "Input should be a valid string, unable to parse raw data as a unicode string"

namespace Fields

/-- The words for no, in lower case. -/
def noWords : List String := ["0", "off", "f", "false", "n", "no"]

/-- The words for yes, in lower case. -/
def yesWords : List String := ["1", "on", "t", "true", "y", "yes"]

/-- Whether a word says yes or no, in letters of either case. -/
def saidBy (word : String) : Except FieldFault Bool :=
  let word := word.map Char.toLower
  if noWords.contains word then .ok false
  else if yesWords.contains word then .ok true
  else .error .unclear

/-- Whether a whole number says yes or no; beyond sixty-four bits it is of another type. -/
def saidByInt (n : Int) : Except FieldFault Bool :=
  if n = 0 then .ok false
  else if n = 1 then .ok true
  else if -Int.pow 2 63 ≤ n ∧ n < Int.pow 2 63 then .error .unclear
  else .error .mistyped

/-- Whether a number says yes or no, as the whole number that it is, below sixty-four bits. -/
def saidByFloat (x : Float) : Except FieldFault Bool :=
  let size := Binary64.magnitude x / Binary64.unitsPerOne
  let isWhole := Binary64.isFinite x && Binary64.magnitude x % Binary64.unitsPerOne == 0
  if isWhole ∧ size < Nat.pow 2 63 then saidByInt (if Binary64.isNegative x then -size else size)
  else .error .mistyped

/-- Whether a value says yes or no. -/
def said : Datum → Except FieldFault Bool
  | .bool b => .ok b
  | .text points =>
    match CodePoint.chars? points with
    | some chars => saidBy (String.ofList chars)
    | none => .error .unwritable
  | .bytes bytes => saidBy (String.ofList (bytes.map fun byte => Char.ofNat byte.toNat))
  | .int n => saidByInt n
  | .float x => saidByFloat x
  | _ => .error .mistyped

/-- The name of the field for grouped digits. -/
def groupDigitsName : String := "group_digits"

/-- The name of the field for row numbers. -/
def showRowIndexName : String := "show_row_index"

/-- What is wrong with a field. -/
def fieldFault? (name : String) (value : Datum) : Option FieldFault :=
  if name = groupDigitsName ∨ name = showRowIndexName then
    match said value with
    | .ok _ => none
    | .error fault => some fault
  else some .unknown

/-- The value of a field, given last. -/
def lastValue? (fields : List (String × Datum)) (name : String) : Option Datum := fields.reverse.lookup name

/-- The settings that fields say, if nothing is wrong with any of them. What is wrong is listed by
the names of the fields. -/
def settings (fields : List (String × Datum)) : Except (List (String × FieldFault)) Settings :=
  let names := (fields.map (·.1)).eraseDups.mergeSort
  let faults := names.filterMap fun name => do
    let value ← lastValue? fields name
    let fault ← fieldFault? name value
    return (name, fault)
  let flag (name : String) (default : Bool) :=
    match (lastValue? fields name).map said with
    | some (.ok b) => b
    | _ => default
  if faults.isEmpty then .ok ⟨flag groupDigitsName true, flag showRowIndexName false⟩ else .error faults

/-- A field with its name in characters. A name that is not stands for the whole settings, in place
of everything else that may be wrong. -/
def named : Datum × Datum → Except (List (String × FieldFault)) (String × Datum)
  | (.text points, value) =>
    match CodePoint.chars? points with
    | some chars => .ok (String.ofList chars, value)
    | none => .error [("", .unwritable)]
  | _ => .error [("", .unwritable)]

/-- The settings that the entries of a mapping say. -/
def check (entries : List (Datum × Datum)) : Except (List (String × FieldFault)) Settings := do
  settings (← entries.mapM named)

/-- The wording of what is wrong with some fields. -/
def report (faults : List (String × FieldFault)) : String :=
  "\n".intercalate (faults.map fun (name, fault) => name ++ ": " ++ fault.message)

end Fields

/-- What a document says for a loader of settings. -/
def Document.loaded : Option Document → Settings.Loaded Datum
  | none | some ⟨.null, _⟩ => .nothing
  | some ⟨.collection .map _, entries⟩ => .mapping entries
  | some ⟨root, _⟩ => .other root.typeName

/-- What loads settings from YAML. -/
def loader : Settings.Loader where
  Datum := Datum
  isText
    | .text _ => true
    | _ => false
  load text :=
    match Document.read text.toList with
    | .ok document => .ok (Document.loaded document)
    | .error .malformed => .error (.refused Fault.malformed.message)
    | .error fault => .error (.brokeDown fault.message)
  check entries := (Fields.check entries).mapError fun faults => .refused (Fields.report faults)

end OutlineCalc.Yaml
