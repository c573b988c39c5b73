import Bundler.Program
import Bundler.Source.OnDemand

/-! The command line. -/

namespace Bundler.CommandLine

open Source (Known LoadRun)

def fault : IO.Error → IoError
  | .noFileOrDirectory _ _ _ => .noSuchFile
  | .permissionDenied _ _ _ => .permissionDenied
  | .alreadyExists _ _ _ => .fileExists
  | .inappropriateType _ 21 _ => .isADirectory
  | .inappropriateType _ _ _ => .notADirectory
  | error => ⟨.other, toString error⟩

def attempt (action : IO α) : IO (Except IoError α) := do
  try return .ok (← action)
  catch error => return .error (fault error)

def isFile (path : String) : IO Bool := do
  match ← attempt do return (← (← IO.FS.realPath path).metadata).type with
  | .ok .file => return true
  | _ => return false

def search (name : String) : IO (Option String) := do
  let candidates := Native.Tool.candidates (← IO.getEnv "HOME") ((← IO.getEnv "PATH").getD "") name
  candidates.findM? isFile

partial def loadFrom (known : Known) (entry : String) : IO LoadRun := do
  match known.advance entry with
  | .complete run => return run
  | .wanting path =>
      let content ← attempt (IO.FS.readBinFile path)
      loadFrom (known ++ [(path, content.map Text.Utf8.decode)]) entry

partial def readToEnd (stream : IO.FS.Stream) (before : ByteArray) : IO ByteArray := do
  let more ← stream.read 65536
  if more.isEmpty then return before else readToEnd stream (before ++ more)

/-- The files and the terminal of the running system, on which no process is started. -/
def console : Console IO where
  isFile := isFile
  search := search
  makeDirectories path := attempt (IO.FS.createDirAll path)
  remove path := attempt (IO.FS.removeFile path)
  start _ := return .error ⟨.other, "processes cannot be started"⟩
  report _ := return
  read path := attempt (IO.FS.readBinFile path)
  write path text := attempt (IO.FS.writeFile path text)
  load entry := loadFrom [] entry
  workingDirectory := do return (← IO.currentDir).toString
  environment name := IO.getEnv name
  input := do attempt (readToEnd (← IO.getStdin) .empty)
  print text := do (← IO.getStdout).putStr text
  printError text := do (← IO.getStderr).putStr text

end Bundler.CommandLine

def main (args : List String) : IO UInt32 := do
  return (← Bundler.CommandLine.console.execute args).toUInt32
