import ModalLexer.CommandLine.Basic

/-! # The program

Files, the standard input and the variables of the environment, for the commands.
-/

namespace ModalLexer.CommandLine

def decodeUtf8 (bytes : ByteArray) : Except ReadError Text :=
  match String.fromUTF8? bytes with
  | some s => .ok s.toList
  | none => .error .notUtf8

/-- Why the system refuses to read a file. -/
def readErrorOf : IO.Error → ReadError
  | .noFileOrDirectory .. => .notFound
  | .inappropriateType _ code _ => if code = 21 then .isADirectory else .notADirectory
  | e => .other (toString e)

def readTextFile (path : String) : IO (Except ReadError Text) := do
  try
    return decodeUtf8 (← IO.FS.readBinFile path)
  catch e =>
    return .error (readErrorOf e)

def readTextInput : IO (Except ReadError Text) := do
  try
    let input ← IO.getStdin
    return decodeUtf8 (← input.readBinToEnd)
  catch e =>
    return .error (readErrorOf e)

/-- The directory of the configurations of the user. -/
def configDirectory : IO (Option String) := do
  match ← IO.getEnv "XDG_CONFIG_HOME" with
  | some directory => if directory.startsWith "/" then return some directory
  | none => pure ()
  return (← IO.getEnv "HOME").map (· ++ "/.config")

/-- The path of the configuration of the user, if it can be opened. -/
def userConfig : IO (Option String) := do
  let some directory ← configDirectory | return none
  let path := directory ++ "/" ++ Config.userPath
  match ← readTextFile path with
  | .error .notFound | .error .notADirectory => return none
  | _ => return some path

/-- Whether a variable is set, and not to zero. -/
def isOn (name : String) : IO (Option Bool) := do
  return (← IO.getEnv name).map (· ≠ "0")

/-- Whether colours may be written: they are forced, or the output is a terminal and nothing forbids
them. -/
def takesColor : IO Bool := do
  if (← isOn "CLICOLOR_FORCE") = some true then return true
  if (← isOn "NO_COLOR").isSome then return false
  let output ← IO.getStdout
  return (← isOn "CLICOLOR").getD true && (← output.isTty)

end ModalLexer.CommandLine

open ModalLexer.CommandLine in
def main (args : List String) : IO UInt32 := do
  let environment : Environment IO := {
    contentOf := readTextFile
    input := readTextInput
    defaultConfig? := userConfig
    takesColor := ← takesColor }
  let outcome ← environment.run args
  IO.print outcome.stdout
  IO.eprint outcome.stderr
  return outcome.exitCode.toUInt32
