import Bundler.Native.Build

/-! Running an executable that was built. -/

namespace Bundler.Native

structure RunResult where
  status : Option Int
  stdout : String
  stderr : String
  deriving DecidableEq, Repr

namespace RunResult

def succeeded (result : RunResult) : Bool :=
  result.status == some 0

end RunResult

/-- The spelling under which an executable is started. A bare name would be searched for elsewhere,
and is made a path from the working directory. -/
def launchPath (executable : String) : String :=
  if Path.componentCount executable = 1 ∧ ¬ Path.isAbsolute executable then
    Path.join "." executable
  else executable

def statusText : Option Int → String
  | some status => "Some(" ++ toString status ++ ")"
  | none => "None"

variable {m : Type → Type} [Monad m]

namespace Host

/-- Runs an executable and keeps what it writes. Its status is no failure of the run. -/
def run (host : Host m) (limitMs : Option UInt64) (executable : String) (args : List String)
    (stdin : Option ByteArray) : BuildM m RunResult := do
  if executable.isEmpty then throw (.missingInput .executable)
  let program := launchPath executable
  host.report
    ⟨.info, "kooix_linker::run", Stage.run.name ++ ": " ++ CommandLine.render program args⟩
  match ← host.start { program, args, stdin, keepsOutput := true, limitMs } with
  | .error error => throw (.notStarted .run executable error)
  | .ok (.lost error) => throw (.io .run ("waiting for '" ++ executable ++ "'") error)
  | .ok .expired => throw (.timedOut .run (limitMs.getD 0))
  | .ok (.finished status stdout stderr) =>
      host.report
        ⟨.debug, "kooix_linker::run", executable ++ " exited with " ++ statusText status⟩
      return ⟨status, (Text.Utf8.decode stdout).text, (Text.Utf8.decode stderr).text⟩

end Host

end Bundler.Native
