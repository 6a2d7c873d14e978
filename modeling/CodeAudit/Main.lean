import CodeAudit.Command.Run
import CodeAudit.Report.Timestamp
import CodeAudit.Rule.Builtin
import CodeAudit.Shell.Console
import CodeAudit.Shell.Reader
import Std.Time

/-!
# The program

Runs a command line on the files of the operating system.
-/

namespace CodeAudit.Program

open CodeAudit.Files (AccessFault FileSystem Kind Path)

/-- The fault of an error number, which may have been negated. -/
def faultOfNumber (number : Nat) (reason : String) : AccessFault :=
  let number := if 2147483648 ≤ number then 4294967296 - number else number
  if number == 2 then .notFound
  else if number == 20 then .notDirectory
  else if number == 21 then .isDirectory
  else .system number reason

def faultOf : IO.Error → AccessFault
  | .noFileOrDirectory _ number reason => faultOfNumber number.toNat reason
  | .inappropriateType _ number reason => faultOfNumber number.toNat reason
  | .permissionDenied _ number reason => faultOfNumber number.toNat reason
  | .invalidArgument _ number reason => faultOfNumber number.toNat reason
  | .resourceExhausted _ number reason => faultOfNumber number.toNat reason
  | .noSuchThing _ number reason => faultOfNumber number.toNat reason
  | e => .system 0 (toString e)

def readBytes (path : Path) : IO (Except AccessFault (List UInt8)) := do
  if path.text.toList.contains '\x00' then return .error .nullCharacter
  match ← (IO.FS.readBinFile path.text).toBaseIO with
  | .ok bytes => return .ok bytes.toList
  | .error e => return .error (faultOf e)

/-- What is at a path, which shows when it is read. -/
def kindAt (path : Path) : IO (Except AccessFault Kind) := do
  match ← readBytes path with
  | .ok _ => return .ok .file
  | .error .isDirectory => return .ok .directory
  | .error fault => return .error fault

partial def readAll (stream : IO.FS.Stream) (read : ByteArray) : IO ByteArray := do
  let more ← stream.read 65536
  if more.isEmpty then return read else readAll stream (read ++ more)

def readInput : IO (List UInt8) := do
  let bytes ← readAll (← IO.getStdin) .empty
  return bytes.toList

def terminalWidth : IO Nat := do
  return ((← IO.getEnv "COLUMNS").bind String.toNat?).getD 80

def currentTime : IO String := do
  let now ← Std.Time.Timestamp.now
  return Report.timestampOf now.toMillisecondsSinceUnixEpoch.toInt.toNat

def context : IO (Command.Context IO) := do
  let files : FileSystem IO :=
    { current := Path.ofText (← IO.currentDir).toString, kind := kindAt, read := readBytes }
  return {
    files
    stdin := readInput
    reader := Shell.reader files
    screen := Shell.console (← terminalWidth)
    errors := Shell.wideConsole
    timestamp := ← currentTime }

end CodeAudit.Program

def main (args : List String) : IO UInt32 := do
  let (outcome, _) ←
    CodeAudit.Command.run (← CodeAudit.Program.context) CodeAudit.Rule.builtinCatalog args
  IO.print outcome.stdout
  IO.eprint outcome.stderr
  if let some error := outcome.usage then
    IO.eprintln ("Error: " ++ CodeAudit.Shell.usageReport error)
  if let some error := outcome.failure then IO.eprintln ("Failure: " ++ error.message)
  return outcome.exitCode.toUInt32
