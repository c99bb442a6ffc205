import OutlineCalc.Command
import OutlineCalc.Machine.Usual
import OutlineCalc.Yaml.Fields

/-!
The program: reads the files that the words on its line name, runs the command on them, and writes
what it leaves. It is one for a machine of the usual kind, with settings in YAML.
-/

namespace OutlineCalc

/-- What a file system says about a path that it has no text for. -/
def FileFault.ofError (path : String) (error : IO.Error) : FileFault :=
  let report (code : UInt32) (reason : String) : FileFault :=
    .refused ("[Errno " ++ code.toNat.repr ++ "] " ++ reason ++ ": " ++ Printable.quoted path)
  match error with
  | .noFileOrDirectory _ code _ => report code "No such file or directory"
  | .inappropriateType _ code _ => report code (if code = 21 then "Is a directory" else "Not a directory")
  | .permissionDenied _ code _ => report code "Permission denied"
  | .invalidArgument _ 36 _ => report 36 "File name too long"
  | error => .refused (toString error)

/-- The text that some bytes make up. -/
def textOf (bytes : ByteArray) : Except FileFault String :=
  match String.fromUTF8? bytes with
  | some text => .ok text
  | none => .error (.notCharacters "'utf-8' codec can't decode bytes")

/-- The text of a file, or why it has none. -/
def fileText (path : String) : IO (Except FileFault String) := do
  try
    return textOf (← IO.FS.readBinFile path)
  catch error =>
    return .error (.ofError path error)

/-- All that is left of a stream. -/
partial def remainder (stream : IO.FS.Stream) (before : ByteArray) : IO ByteArray := do
  let bytes ← stream.read 65536
  if bytes.isEmpty then return before
  remainder stream (before ++ bytes)

/-- The text of the standard input, or why it has none. -/
def inputText : IO (Except FileFault String) := do
  try
    return textOf (← remainder (← IO.getStdin) .empty)
  catch error =>
    return .error (.refused (toString error))

/-- The names that options tell to read. -/
def Options.namesToRead : Except Options.Stop Options → List String
  | .ok options =>
    let config := match options.config with
      | some (.value path) => [path]
      | _ => []
    (config ++ options.files.filter (· != "-")).filter fun name => !name.toList.contains '\x00'
  | .error _ => []

end OutlineCalc

open OutlineCalc

def main (words : List String) : IO UInt32 := do
  let _ := Machine.usual
  let options := Options.read words
  let names := Options.namesToRead options
  let texts ← names.mapM fun name => do
    let path := Path.plain name
    return (path, ← fileText path)
  let input ← match options with
    | .ok options => if options.files.contains "-" then inputText else pure (.ok "")
    | .error _ => pure (.ok "")
  let files : Files := fun path => (texts.lookup path).getD (.error (.refused ""))
  let outcome := Command.run Yaml.loader files input words
  (← IO.getStderr).putStr outcome.err
  (← IO.getStdout).putStr outcome.out
  match outcome.ending with
  | .ok status => return status.toUInt32
  | .error crash =>
    (← IO.getStderr).putStrLn crash.message
    return 1
