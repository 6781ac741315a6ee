import DisplayLayout.CommandLine.Run

/-!
# The program

Runs the command line on the files of the operating system. Reports go to
standard error, before the status of the command.
-/

namespace DisplayLayout

/-- The reason of an error of the operating system, with its number. -/
def reasonOf (e : IO.Error) : String :=
  match e with
  | .noFileOrDirectory _ code details => numbered details code
  | .permissionDenied _ code details => numbered details code
  | .inappropriateType _ code details => numbered details code
  | .invalidArgument _ code details => numbered details code
  | .resourceExhausted _ code details => numbered details code
  | e => toString e
where
  numbered (details : String) (code : UInt32) : String := details ++ s!" (os error {code})"

/-- Runs an action and answers the reason if it fails. -/
def attempt {α : Type} (action : IO α) : IO (Except String α) := do
  match ← action.toBaseIO with
  | .ok a => return .ok a
  | .error e => return .error (reasonOf e)

/-- Reads the text of a file. -/
def readOnDisk (path : String) : IO (Except String String) := do
  match ← attempt (IO.FS.readBinFile path) with
  | .ok bytes => return match String.fromUTF8? bytes with
    | some text => .ok text
    | none => .error "stream did not contain valid UTF-8"
  | .error e => return .error e

/-- Whether a path leads to a file that can be read. -/
def isFileOnDisk (path : String) : IO Bool := do
  return (← attempt (IO.FS.readBinFile path)).toBool

/-- The files of the operating system. -/
def disk : FileAccess IO where
  isFile := isFileOnDisk
  read := readOnDisk
  write path text := attempt (IO.FS.writeFile path text)

end DisplayLayout

def main (args : List String) : IO UInt32 := do
  let outcome ← DisplayLayout.CommandLine.run DisplayLayout.disk args
  for e in outcome.events do IO.eprintln e.render
  IO.print outcome.stdout
  IO.eprint outcome.stderr
  return outcome.code.toUInt32
