import ConfigAudit.CommandLine.Run
import Std.Time.DateTime.Timestamp

/-!
# The program

Runs a command with the files, the clock and the terminal of the system.
-/

namespace ConfigAudit

/-- Whether a system error has a number. Some calls give the negative of it. -/
def isNumbered (code number : UInt32) : Bool :=
  code = number || code = 0 - number

/-- The reason why the system could not do something with a file. -/
def FileError.ofSystem : IO.Error → FileError
  | .noFileOrDirectory _ _ _ => .notFound
  | .permissionDenied _ _ _ => .denied
  | .alreadyExists _ _ _ => .alreadyThere
  | .inappropriateType _ code details | .invalidArgument _ code details =>
    if isNumbered code 20 then .notDirectory
    else if isNumbered code 21 then .isDirectory
    else if isNumbered code 36 then .nameTooLong
    else .other details
  | error => .other (toString error)

/-- Tell a failure of the system as a result. -/
def attempt {Result : Type} (action : IO Result) : IO (Except FileError Result) := do
  match ← action.toBaseIO with
  | .ok result => pure (.ok result)
  | .error error => pure (.error (.ofSystem error))

/-- The files of the system. -/
def FileAccess.system : FileAccess IO where
  readText path := attempt (IO.FS.readFile path)
  isDirectory path := do
    let place ← IO.FS.realPath path
    place.isDir
  makeDirectory path := attempt (IO.FS.createDir path)
  writeText path text := attempt (IO.FS.writeFile path text)

/-- The time by the clock of the system. -/
def Timestamp.now : IO Timestamp := do
  let time ← Std.Time.Timestamp.now
  pure (.ofEpochSeconds time.val.second.val.toNat time.val.nano.val.toNat)

end ConfigAudit

/-- Run the command that the arguments ask for. -/
def main (arguments : List String) : IO UInt32 := do
  let ending ←
    ConfigAudit.CommandLine.run
      { files := .system
        now := ConfigAudit.Timestamp.now
        means := { checking := ConfigAudit.Check.run, log := .plain, wording := .plain } }
      arguments
  IO.print ending.standardOutput
  IO.eprint ending.standardError
  pure (UInt32.ofNat ending.exitCode)
