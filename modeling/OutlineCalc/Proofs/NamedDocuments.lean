import Mathlib.Data.List.DropRight
import OutlineCalc.Command
import OutlineCalc.Machine.Usual
import OutlineCalc.Yaml.Fields

/-!
What the command leaves for the names it is given: one block for each name that can be read, in
their order, one report for each that is refused, and a status that says whether there is any of these.
A name stands for the same document whatever names are around it, but for the standard input, which
is empty when it is read again. A text that is neither there nor refused ends the command, and so does
a document that has no rows; what was written by then stays written.
-/

namespace OutlineCalc.Command

variable {loader : Settings.Loader} {files : Files} {input : Except FileFault String} {words : List String}
  {options : Options} {settings : Settings} {format : Format} {names before : List String} {name : String}

/-! ## The texts that names stand for -/

/-- The text of a name that comes first. -/
def opened (files : Files) (input : Except FileFault String) (name : String) : Except FileFault String :=
  if name = "-" then input else files.read name

/-- The text of a name that comes after some others. -/
def reading (files : Files) (input : Except FileFault String) (before : List String) (name : String) :
    Except FileFault String :=
  if name = "-" ∧ "-" ∈ before then input.map fun _ => "" else opened files input name

theorem reading_nil : reading files input [] name = opened files input name := by simp [reading]

theorem reading_dash_cons :
    reading files input ("-" :: before) name = reading files (input.map fun _ => "") before name := by
  by_cases dash : name = "-" <;> cases input <;> simp [reading, opened, dash, Except.map]

theorem reading_cons {other : String} (file : other ≠ "-") :
    reading files input (other :: before) name = reading files input before name := by
  simp [reading, file.symm]

/-- Whatever comes before it, a name is refused for what it would be refused for as the first. -/
theorem reading_eq_error {fault : FileFault} :
    reading files input before name = .error fault ↔ opened files input name = .error fault := by
  by_cases again : name = "-" ∧ "-" ∈ before
  · rw [reading, if_pos again, opened, if_pos again.1]
    cases input <;> simp [Except.map]
  · rw [reading, if_neg again]

theorem texts_eq (files : Files) (input : Except FileFault String) (names : List String) :
    texts files input names = names.mapIdx fun i name => (name, reading files input (names.take i) name) := by
  -- Behind a `-` the other names are read with an empty input, so the input is not fixed.
  induction names generalizing input with
  | nil => simp [texts]
  | cons name more ih =>
    rw [List.mapIdx_cons, texts]
    split
    case isTrue dash =>
      subst dash
      simp only [ih, List.take_zero, List.take_succ_cons, reading_nil, reading_dash_cons, opened, if_true]
    case isFalse file =>
      simp only [ih, List.take_zero, List.take_succ_cons, reading_nil, reading_cons file, opened, if_neg file]

/-! ## Outcomes -/

theorem andThen_assoc (first second third : Outcome) :
    (first.andThen second).andThen third = first.andThen (second.andThen third) := by
  obtain ⟨status | _, _, _⟩ := first <;> obtain ⟨status | _, _, _⟩ := second <;> obtain ⟨status | _, _, _⟩ := third <;>
    simp [Outcome.andThen, Except.map, String.append_assoc, Nat.max_assoc]

theorem joined_nil_andThen (outcome : Outcome) : (joined []).andThen outcome = outcome := by
  obtain ⟨_ | status, out, err⟩ := outcome <;> simp [joined, Outcome.andThen, Except.map]

theorem joined_cons (part : Outcome) (parts : List Outcome) : joined (part :: parts) = part.andThen (joined parts) := rfl

theorem joined_append (parts more : List Outcome) : joined (parts ++ more) = (joined parts).andThen (joined more) := by
  induction parts with
  | nil => rw [List.nil_append, joined_nil_andThen]
  | cons part parts ih => rw [List.cons_append, joined_cons, joined_cons, ih, andThen_assoc]

/-- Parts that all go on are written and reported one after the other, and the status is the worst of theirs. -/
theorem joined_of_status {parts : List Outcome} (goOn : ∀ part ∈ parts, ∃ status, part.ending = .ok status) :
    ∃ status, joined parts = ⟨.ok status, String.join (parts.map (·.out)), String.join (parts.map (·.err))⟩ ∧
      ∀ n, n < status ↔ ∃ part ∈ parts, ∃ own, part.ending = .ok own ∧ n < own := by
  induction parts with
  | nil => exact ⟨0, rfl, by simp⟩
  | cons part parts ih =>
    obtain ⟨⟨own, ending⟩, goOn⟩ := List.forall_mem_cons.mp goOn
    obtain ⟨status, same, worst⟩ := ih goOn
    refine ⟨max own status, ?_, fun n => ?_⟩
    · simp [joined_cons, same, Outcome.andThen, ending, Except.map]
    · have larger : n < max own status ↔ n < own ∨ n < status := by omega
      simp [larger, worst, ending]

/-- Nothing comes after the part that ends the command. -/
theorem joined_of_crash {parts : List Outcome} {i : Nat} {last : Outcome} {crash : Crash} (here : parts[i]? = some last)
    (goOn : ∀ part ∈ parts.take i, ∃ status, part.ending = .ok status) (ends : last.ending = .error crash) :
    joined parts =
      ⟨.error crash, String.join ((parts.take (i + 1)).map (·.out)), String.join ((parts.take (i + 1)).map (·.err))⟩ := by
  obtain ⟨inside, rfl⟩ := List.getElem?_eq_some_iff.mp here
  obtain ⟨status, same, _⟩ := joined_of_status goOn
  have rest : joined (parts.drop i) = parts[i] := by
    rw [← List.getElem_cons_drop inside, joined_cons, Outcome.andThen, ends]
  have split := joined_append (parts.take i) (parts.drop i)
  rw [List.take_append_drop, rest, same] at split
  rw [split, List.take_succ_eq_append_getElem inside, List.map_append, List.map_append]
  simp only [Outcome.andThen, ends, Except.map, String.join_append, List.map_cons, List.map_nil, String.join_cons,
    String.join_nil, String.append_empty]

/-! ## Blocks -/

/-- A block shows a text alone: as it is, without the line breaks at its end, and with a single one
instead. -/
def Shows (text block : String) : Prop :=
  ∃ shown : String, ∃ breaks : Nat, text = shown ++ String.ofList (List.replicate breaks '\n') ∧
    shown.toList.getLast? ≠ some '\n' ∧ block = shown ++ "\n"

theorem dropLineBreaks_eq (text : String) :
    dropLineBreaks text = String.ofList (text.toList.rdropWhile (· == '\n')) := rfl

theorem shows_dropLineBreaks (text : String) : Shows text (dropLineBreaks text ++ "\n") := by
  have ends : text.toList.rtakeWhile (· == '\n') =
      List.replicate (text.toList.rtakeWhile (· == '\n')).length '\n' :=
    List.eq_replicate_of_mem fun c inside => by simpa using List.mem_rtakeWhile_imp inside
  refine ⟨dropLineBreaks text, (text.toList.rtakeWhile (· == '\n')).length, ?_, ?_, rfl⟩
  · rw [← ends, dropLineBreaks_eq, ← String.ofList_append, List.rdropWhile_append_rtakeWhile, String.ofList_toList]
  · intro last
    rw [dropLineBreaks_eq, String.toList_ofList] at last
    obtain ⟨front, same⟩ := List.getLast?_eq_some_iff.mp last
    have nonempty : text.toList.rdropWhile (· == '\n') ≠ [] := by simp [same]
    exact List.rdropWhile_last_not _ _ nonempty (by simp [same])

section
variable [Machine]

/-- What a document writes; a document without rows writes nothing. -/
def block (settings : Settings) (format : Format) (document : String) : String :=
  match renderDocument settings format document with
  | .ok text => dropLineBreaks text ++ "\n"
  | .error _ => ""

theorem shows_block {document text : String} (rendered : renderDocument settings format document = .ok text) :
    Shows text (block settings format document) := by
  rw [block, rendered]
  exact shows_dropLineBreaks text

/-! ## Parts -/

/-- What ends the command when it comes to a text: that it is neither there nor refused, or that its
document has no rows. -/
def crash? (settings : Settings) (format : Format) : Except FileFault String → Option Crash
  | .ok document =>
    match renderDocument settings format document with
    | .ok _ => none
    | .error fault => some (.rows fault)
  | .error fault => if fault.report? = none then some (.unread fault) else none

/-- What the command leaves for the first names in some options: the blocks of those that can be read,
each under its name if there are several names, and the reports on the others. -/
structure Delivers (files : Files) (input : Except FileFault String) (settings : Settings) (options : Options)
    (format : Format) (count : Nat) (outcome : Outcome) : Prop where
  out : outcome.out = String.join ((options.files.take count).mapIdx fun i name =>
    match reading files input (options.files.take i) name with
    | .ok document =>
      (if 1 < options.files.length then (if i = 0 then "" else "\n") ++ "== " ++ name ++ "\n" else "") ++
        block settings format document
    | .error _ => "")
  err : outcome.err = String.join ((options.files.take count).mapIdx fun i name =>
    match reading files input (options.files.take i) name with
    | .ok document => if options.verbose then log (outlineOf settings document).1 else ""
    | .error fault =>
      match fault.report? with
      | some report => "error: cannot read " ++ name ++ ": " ++ report ++ "\n"
      | none => "")

section Parts

variable (shown : options.format = .value format) (i : Nat) (name : String) (text : Except FileFault String)

include shown

theorem out_part : (part settings options i (name, text)).out =
    match text with
    | .ok document =>
      (if 1 < options.files.length then (if i = 0 then "" else "\n") ++ "== " ++ name ++ "\n" else "") ++
        block settings format document
    | .error _ => "" := by
  cases text with
  | ok document =>
    simp only [part, Command.shown, shown, block]
    cases renderDocument settings format document <;> simp [Except.mapError, heading, String.append_assoc]
  | error fault => cases report : fault.report? <;> simp [part, report]

theorem err_part : (part settings options i (name, text)).err =
    match text with
    | .ok document => if options.verbose then log (outlineOf settings document).1 else ""
    | .error fault =>
      match fault.report? with
      | some report => "error: cannot read " ++ name ++ ": " ++ report ++ "\n"
      | none => "" := by
  cases text with
  | ok document =>
    simp only [part, Command.shown, shown]
    cases renderDocument settings format document <;> rfl
  | error fault => cases report : fault.report? <;> simp [part, report]

theorem ending_part_of_crash {crash : Crash} (ends : crash? settings format text = some crash) :
    (part settings options i (name, text)).ending = .error crash := by
  cases text with
  | ok document =>
    simp only [part, Command.shown, shown, crash?] at ends ⊢
    cases rendered : renderDocument settings format document <;> simp_all [Except.mapError]
  | error fault => cases report : fault.report? <;> simp_all [part, crash?]

/-- A part that does not end the command fails exactly if there is no text, and then by one. -/
theorem ending_part_of_goesOn (goesOn : crash? settings format text = none) :
    ∃ status, (part settings options i (name, text)).ending = .ok status ∧
      ∀ n, n < status ↔ n = 0 ∧ ∃ fault, text = .error fault := by
  cases text with
  | ok document =>
    simp only [part, Command.shown, shown, crash?] at goesOn ⊢
    cases rendered : renderDocument settings format document <;> simp_all [Except.mapError]
  | error fault => cases report : fault.report? <;> simp_all [part, crash?]

end Parts

/-! ## Names one after the other -/

/-- What the command comes to with a name, after the names before it. -/
def partOf (files : Files) (input : Except FileFault String) (settings : Settings) (options : Options) (i : Nat)
    (name : String) : Outcome :=
  part settings options i (name, reading files input (options.files.take i) name)

/-- What the command comes to with each of the names. -/
def partsOf (files : Files) (input : Except FileFault String) (settings : Settings) (options : Options) : List Outcome :=
  options.files.mapIdx (partOf files input settings options)

theorem perform_eq (files : Files) (input : Except FileFault String) (settings : Settings) (options : Options) :
    perform files input settings options = joined (partsOf files input settings options) := by
  rw [perform, texts_eq]
  congr 1
  exact List.ext_getElem (by simp [partsOf]) (by simp [partsOf, partOf])

theorem map_take_partsOf (files : Files) (input : Except FileFault String) (settings : Settings) (options : Options)
    (count : Nat) (field : Outcome → String) :
    ((partsOf files input settings options).take count).map field =
      (options.files.take count).mapIdx fun i name => field (partOf files input settings options i name) :=
  List.ext_getElem (by simp [partsOf]) (by simp [partsOf])

theorem delivers_of_join (shown : options.format = .value format) {count : Nat} {outcome : Outcome}
    (out : outcome.out = String.join (((partsOf files input settings options).take count).map (·.out)))
    (err : outcome.err = String.join (((partsOf files input settings options).take count).map (·.err))) :
    Delivers files input settings options format count outcome := by
  constructor
  · rw [out, map_take_partsOf]
    congr 2
    funext i name
    exact out_part shown i name _
  · rw [err, map_take_partsOf]
    congr 2
    funext i name
    exact err_part shown i name _

/-- What ends the command when it comes to a name. -/
def crashAt? (files : Files) (input : Except FileFault String) (settings : Settings) (options : Options) (format : Format)
    (i : Nat) : Option Crash :=
  options.files[i]?.bind fun name => crash? settings format (reading files input (options.files.take i) name)

theorem crashAt?_eq_of_lt {i : Nat} (inside : i < options.files.length) :
    crashAt? files input settings options format i =
      crash? settings format (reading files input (options.files.take i) options.files[i]) := by
  rw [crashAt?, List.getElem?_eq_getElem inside, Option.bind_some]

theorem exists_status_of_goesOn (shown : options.format = .value format) {count : Nat}
    (goesOn : ∀ i < count, crashAt? files input settings options format i = none) :
    ∀ part ∈ (partsOf files input settings options).take count, ∃ status, part.ending = .ok status := by
  intro part mem
  obtain ⟨i, inside, rfl⟩ := List.mem_take_iff_getElem.mp mem
  have within : i < options.files.length := by
    rw [partsOf, List.length_mapIdx] at inside
    omega
  have free := goesOn i (by omega)
  rw [crashAt?_eq_of_lt within] at free
  obtain ⟨status, ending, _⟩ := ending_part_of_goesOn shown i options.files[i] _ free
  exact ⟨status, by simpa [partsOf, partOf] using ending⟩

/-- Of names none of which ends the command, those that are refused fail, by one. -/
theorem exists_fails_iff_refused (shown : options.format = .value format)
    (goesOn : ∀ i < options.files.length, crashAt? files input settings options format i = none) (n : Nat) :
    (∃ part ∈ partsOf files input settings options, ∃ own, part.ending = .ok own ∧ n < own) ↔
      n = 0 ∧ ∃ name ∈ options.files, ∃ fault, opened files input name = .error fault := by
  have ending (i : Nat) (inside : i < options.files.length) :=
    ending_part_of_goesOn shown i options.files[i] _ (crashAt?_eq_of_lt inside ▸ goesOn i inside)
  constructor
  · rintro ⟨part, mem, own, here, less⟩
    obtain ⟨i, inside, rfl⟩ := List.mem_mapIdx.mp mem
    obtain ⟨own', here', refused⟩ := ending i inside
    obtain rfl := Except.ok.inj (here'.symm.trans here)
    obtain ⟨zero, fault, refused⟩ := (refused n).mp less
    exact ⟨zero, _, List.getElem_mem inside, fault, reading_eq_error.mp refused⟩
  · rintro ⟨zero, name, mem, fault, refused⟩
    obtain ⟨i, inside, rfl⟩ := List.getElem_of_mem mem
    obtain ⟨own, here, less⟩ := ending i inside
    exact ⟨_, List.mem_mapIdx.mpr ⟨i, inside, rfl⟩, own, here, (less n).mpr ⟨zero, fault, reading_eq_error.mpr refused⟩⟩

/-- Names none of which ends the command all leave what they should, and the status is one if any of them is
refused and zero otherwise. -/
theorem delivers_of_goesOn (shown : options.format = .value format)
    (goesOn : ∀ i < options.files.length, crashAt? files input settings options format i = none) :
    ∃ status ≤ 1, (perform files input settings options).ending = .ok status ∧
      (status = 1 ↔ ∃ name ∈ options.files, ∃ fault, opened files input name = .error fault) ∧
      Delivers files input settings options format options.files.length (perform files input settings options) := by
  have all : (partsOf files input settings options).take options.files.length = partsOf files input settings options :=
    List.take_of_length_le (by simp [partsOf])
  have goOn := exists_status_of_goesOn shown goesOn
  rw [all] at goOn
  obtain ⟨status, same, worst⟩ := joined_of_status goOn
  have fails (n : Nat) := (worst n).trans (exists_fails_iff_refused shown goesOn n)
  rw [perform_eq, same]
  refine ⟨status, ?_, rfl, ?_, delivers_of_join shown (by rw [all]) (by rw [all])⟩
  · have := fails 1
    omega
  · have zero := fails 0
    have one := fails 1
    rw [and_iff_right rfl] at zero
    rw [← zero]
    omega

/-- The first name that ends the command leaves its heading, if there is a document, and nothing comes after it. -/
theorem delivers_of_crash (shown : options.format = .value format) {i : Nat} {crash : Crash}
    (goesOn : ∀ j < i, crashAt? files input settings options format j = none)
    (ends : crashAt? files input settings options format i = some crash) :
    (perform files input settings options).ending = .error crash ∧
      Delivers files input settings options format (i + 1) (perform files input settings options) := by
  obtain ⟨name, here, ends⟩ := Option.bind_eq_some_iff.mp ends
  have last : (partsOf files input settings options)[i]? = some (partOf files input settings options i name) := by
    rw [partsOf, List.getElem?_mapIdx, here]
    rfl
  have same := joined_of_crash last (exists_status_of_goesOn shown goesOn) (ending_part_of_crash shown i name _ ends)
  rw [perform_eq, same]
  exact ⟨rfl, delivers_of_join shown rfl rfl⟩

end

/-! ## Settings -/

theorem settingsFor_of_keyNotText {path text : String} {entries : List (loader.Datum × loader.Datum)}
    (config : options.config = some (.value path)) (found : files.read path = .ok text)
    (mapping : loader.load text = .ok (.mapping entries)) (odd : ∃ entry ∈ entries, loader.isText entry.1 = false) :
    settingsFor loader files options = .error (.settings .keyNotText) := by
  have named : (entries.all fun entry => loader.isText entry.1) = false := by
    rw [List.all_eq_false]
    obtain ⟨entry, mem, odd⟩ := odd
    exact ⟨entry, mem, by simp [odd]⟩
  have loaded : Settings.load loader files path = .error .keyNotText := by
    simp [Settings.load, found, mapping, Settings.ofLoaded, named, Except.mapError, bind, Except.bind]
  simp [settingsFor, config, loaded, Except.mapError, bind, Except.bind]

theorem out_withoutSettings (crash : Crash) : (withoutSettings crash).out = "" := by
  cases crash with
  | settings fault => cases report : fault.report? <;> simp [withoutSettings, report]
  | _ => rfl

theorem withoutSettings_of_report {fault : Settings.Fault} {report : String} (reported : fault.report? = some report) :
    withoutSettings (.settings fault) = { ending := .ok 1, out := "", err := "error: " ++ report ++ "\n" } := by
  simp [withoutSettings, reported]

theorem ending_withoutSettings {crash : Crash} (unreported : ∀ fault, crash = .settings fault → fault.report? = none) :
    (withoutSettings crash).ending = .error crash := by
  cases crash with
  | settings fault => simp [withoutSettings, unreported fault rfl]
  | _ => rfl

theorem takeIn_plain (progress : Options.Progress) (notClosed : progress.closed = false) (names : List String) :
    Options.takeIn progress (names.map .plain) = .ok { progress with files := progress.files ++ names } := by
  induction names generalizing progress with
  | nil => simp [Options.takeIn]
  | cons name more ih =>
    have added : progress.addPlain name = { progress with files := progress.files ++ [name] } := by
      simp [Options.Progress.addPlain, notClosed]
    rw [List.map_cons, Options.takeIn, added, ih { progress with files := progress.files ++ [name] } notClosed]
    simp

/-- After the mark that ends all switches every word is a name; without any the standard input is
read. -/
theorem read_endMark_cons (names : List String) :
    Options.read ("--" :: names) = .ok { files := if names = [] then ["-"] else names } := by
  have words : Options.readWords ("--" :: names) = .ok (.endMark :: names.map .plain) := by
    simp [Options.readWords]
  have taken : Options.takeIn {} (.endMark :: names.map .plain) = .ok { files := "--" :: names } := by
    rw [Options.takeIn, takeIn_plain _ rfl]
    rfl
  simp [Options.read, words, taken, Options.Progress.finish, Except.mapError, bind, Except.bind]

/-! ## The command -/

theorem run_eq_runWith [Machine] (understood : Options.read words = .ok options) :
    run loader files input words = runWith loader files input options := by
  simp [run, understood]

/-- The command delivers the blocks of the names it is given, if it has settings and goes on to the last of them;
otherwise it delivers what comes up to the name that ends it. Settings that cannot be had leave nothing but a
report and the status one. Where no report is made of why they cannot, among others of a mapping with a key
that is no text, the command ends without a status. -/
theorem run_documents [Machine] (loader : Settings.Loader) (files : Files) (input : Except FileFault String)
    (understood : Options.read words = .ok options) (shown : options.format = .value format) :
    (∀ names, Options.read ("--" :: names) = .ok { files := if names = [] then ["-"] else names }) ∧
    (∀ settings, settingsFor loader files options = .ok settings →
      (∀ document text, renderDocument settings format document = .ok text → Shows text (block settings format document)) ∧
      ((∀ i < options.files.length, crashAt? files input settings options format i = none) →
        ∃ status ≤ 1, (run loader files input words).ending = .ok status ∧
          (status = 1 ↔ ∃ name ∈ options.files, ∃ fault, opened files input name = .error fault) ∧
          Delivers files input settings options format options.files.length (run loader files input words)) ∧
      (∀ i crash, (∀ j < i, crashAt? files input settings options format j = none) →
        crashAt? files input settings options format i = some crash →
          (run loader files input words).ending = .error crash ∧
          Delivers files input settings options format (i + 1) (run loader files input words))) ∧
    (∀ crash, settingsFor loader files options = .error crash →
      (run loader files input words).out = "" ∧
      (∀ fault report, crash = .settings fault → fault.report? = some report →
        run loader files input words = { ending := .ok 1, out := "", err := "error: " ++ report ++ "\n" }) ∧
      ((∀ fault, crash = .settings fault → fault.report? = none) → (run loader files input words).ending = .error crash)) ∧
    (∀ path text entries, options.config = some (.value path) → files.read path = .ok text →
      loader.load text = .ok (.mapping entries) → (∃ entry ∈ entries, loader.isText entry.1 = false) →
        (run loader files input words).ending = .error (.settings .keyNotText)) := by
  rw [run_eq_runWith understood]
  refine ⟨read_endMark_cons, fun settings loaded => ?delivered, fun crash failed => ?failed, ?keys⟩
  case delivered =>
    have performed : runWith loader files input options = perform files input settings options := by
      simp [runWith, loaded]
    rw [performed]
    exact ⟨fun document text => shows_block, delivers_of_goesOn shown, fun i crash => delivers_of_crash shown⟩
  case failed =>
    have left : runWith loader files input options = withoutSettings crash := by
      simp [runWith, failed]
    rw [left]
    refine ⟨out_withoutSettings crash, ?_, ending_withoutSettings⟩
    rintro fault report rfl reported
    exact withoutSettings_of_report reported
  case keys =>
    intro path text entries config found mapping odd
    have left : runWith loader files input options = withoutSettings (.settings .keyNotText) := by
      simp [runWith, settingsFor_of_keyNotText config found mapping odd]
    rw [left]
    rfl

/-- A document and settings whose only key is a number; nothing else is there. -/
def numberedFiles : Files := fun path =>
  if path = "a" then .ok "x 5\n"
  else if path = "c" then .ok "1: true\n"
  else .error (.refused ("[Errno 2] No such file or directory: '" ++ path ++ "'"))

/-- Four names, one of them missing and one repeated, are delivered; settings that are missing are reported,
but settings with a number for a key are not. -/
theorem run_documents_numberedFiles :
    letI := Machine.usual
    ((run Yaml.loader numberedFiles (.ok "y 2\n") ["a", "b", "-", "-"]).ending = .ok 1 ∧
      Delivers numberedFiles (.ok "y 2\n") {} { files := ["a", "b", "-", "-"] } .table 4
        (run Yaml.loader numberedFiles (.ok "y 2\n") ["a", "b", "-", "-"])) ∧
    (∃ err, run Yaml.loader numberedFiles (.ok "y 2\n") ["a", "--config", "d"] = { ending := .ok 1, out := "", err }) ∧
    (run Yaml.loader numberedFiles (.ok "y 2\n") ["a", "--config", "c"]).ending = .error (.settings .keyNotText) := by
  let _ := Machine.usual
  refine ⟨?delivered, ?reported, ?unreported⟩
  case delivered =>
    have understood : Options.read ["a", "b", "-", "-"] = .ok { files := ["a", "b", "-", "-"] } := rfl
    have goesOn : ∀ i < 4, crashAt? numberedFiles (.ok "y 2\n") {} { files := ["a", "b", "-", "-"] } .table i = none := by
      decide +kernel
    have missing : opened numberedFiles (.ok "y 2\n") "b" = .error (.refused "[Errno 2] No such file or directory: 'b'") := by
      decide +kernel
    obtain ⟨-, delivered, -⟩ := (run_documents Yaml.loader numberedFiles (.ok "y 2\n") understood rfl).2.1 {} rfl
    obtain ⟨status, -, ending, one, delivers⟩ := delivered goesOn
    obtain rfl : status = 1 := one.mpr ⟨"b", by simp, _, missing⟩
    exact ⟨ending, delivers⟩
  case reported =>
    have understood : Options.read ["a", "--config", "d"] =
        .ok { files := ["a"], config := some (.value "d") } := rfl
    have failed : settingsFor Yaml.loader numberedFiles { files := ["a"], config := some (.value "d") } =
        .error (.settings (.unreadable "d" (.refused "[Errno 2] No such file or directory: 'd'"))) := by decide +kernel
    obtain ⟨-, reported, -⟩ := (run_documents Yaml.loader numberedFiles (.ok "y 2\n") understood rfl).2.2.1 _ failed
    exact ⟨_, reported _ _ rfl rfl⟩
  case unreported =>
    have understood : Options.read ["a", "--config", "c"] =
        .ok { files := ["a"], config := some (.value "c") } := rfl
    have failed : settingsFor Yaml.loader numberedFiles { files := ["a"], config := some (.value "c") } =
        .error (.settings .keyNotText) := by decide +kernel
    obtain ⟨-, -, unreported⟩ := (run_documents Yaml.loader numberedFiles (.ok "y 2\n") understood rfl).2.2.1 _ failed
    exact unreported (by rintro fault ⟨⟩; rfl)

end OutlineCalc.Command
