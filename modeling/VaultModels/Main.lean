import VaultModels.Command.Run

/-!
# The program

Runs a command line on the operating system's files and streams.
-/
namespace VaultModels

open Command Files

/-- The system's own reason for a failed operation. -/
def systemError : IO.Error → SystemError
  | .noFileOrDirectory _ _ _ => .noSuchFile
  | .alreadyExists _ _ _ => .fileExists
  | .inappropriateType _ 20 _ => .notDirectory
  | .inappropriateType _ 21 _ => .isDirectory
  | .invalidArgument _ 36 _ => .nameTooLong
  | .userError _ => .invalidText
  | error => .other (toString error)

def attempting {α : Type} (action : IO α) : IO (Except SystemError α) := do
  try
    return .ok (← action)
  catch error =>
    return .error (systemError error)

/-- Whether a path can be followed to its end. -/
def leadsSomewhere (text : String) : IO Bool := do
  return (← attempting (IO.FS.realPath text)).isOk

def diskFiles : FileSystem IO where
  exists? path := leadsSomewhere path.text
  isDirectory path := leadsSomewhere (path.text ++ "/.")
  makeDirectory path := attempting (IO.FS.createDir path.text)
  read path := attempting (IO.FS.readFile path.text)
  write path content := attempting (IO.FS.writeFile path.text content)

def printLine (line : Line) : IO Unit :=
  match line.stream with
  | .output => IO.println line.text
  | .error => IO.eprintln line.text

end VaultModels

open VaultModels in
def main (arguments : List String) : IO UInt32 := do
  let outcome ← Command.execute diskFiles arguments
  outcome.lines.forM printLine
  return outcome.status
