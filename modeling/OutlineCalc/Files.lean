import OutlineCalc.Newline
import OutlineCalc.Pieces

/-!
Files as they are read: by a path, as a text with line feeds for all line ends. A path is looked
up in its plain form.
-/

namespace OutlineCalc

/-- Why there is no text to read. The system refuses it, in its own words, or what there is to read
does not make up characters. The last of these is about no file at all: a path ends at a NUL, so one
that goes on after it cannot even be asked for. -/
inductive FileFault where
  | refused (report : String)
  | notCharacters (message : String)
  | holdsNul
deriving DecidableEq, Repr

/-- What is reported of why there is no text: the words of the system, and otherwise nothing. -/
def FileFault.report? : FileFault → Option String
  | refused report => some report
  | notCharacters _ | holdsNul => none

/-- The wording of why there is no text. -/
def FileFault.message : FileFault → String
  | refused report => report
  | notCharacters message => message
  | holdsNul => "embedded null byte"

namespace Path

/-- The names along a path. Empty names and single dots lead nowhere. -/
def names (path : String) : List (List Char) :=
  (Pieces.between '/' path.toList).filter fun name => name != [] && name != ['.']

/-- What a path starts with when it leads from the top: one slash, or two when there are exactly
two. -/
def top (path : String) : List Char :=
  match (path.toList.takeWhile (· == '/')).length with
  | 0 => []
  | 2 => ['/', '/']
  | _ => ['/']

/-- The plain form of a path; an empty path is the folder one is in. -/
def plain (path : String) : String :=
  match top path ++ List.intercalate ['/'] (names path) with
  | [] => "."
  | cs => String.ofList cs

end Path

/-- The texts of files by their plain paths, with the line ends that they have. -/
abbrev Files := String → Except FileFault String

/-- The text of a file. -/
def Files.read (files : Files) (path : String) : Except FileFault String :=
  let plain := Path.plain path
  if plain.toList.contains '\x00' then .error .holdsNul else (files plain).map Newline.unify

end OutlineCalc
