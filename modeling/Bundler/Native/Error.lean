import Bundler.IoError
import Bundler.Native.Toolchain

/-! Failures of a build or of a run of its result. -/

namespace Bundler.Native

inductive Stage
  | locate
  | translate
  | link
  | run
  deriving DecidableEq, Repr

namespace Stage

def name : Stage → String
  | locate => "locate"
  | translate => "translate"
  | link => "link"
  | run => "run"

end Stage

inductive Operand
  | code
  | output
  | executable
  deriving DecidableEq, Repr

namespace Operand

def name : Operand → String
  | code => "IR artifact"
  | output => "output"
  | executable => "executable"

end Operand

inductive BuildError
  | missingInput (operand : Operand)
  | missingCode (path : String)
  | missingSupport (searched : List String)
  | toolNotFound (stage : Stage) (tool : String)
  | notStarted (stage : Stage) (tool : String) (source : IoError)
  /-- A tool that ended in failure; no status when a signal ended it. -/
  | stageFailed (stage : Stage) (tool : String) (status : Option Int) (stderr : String)
  | timedOut (stage : Stage) (limitMs : UInt64)
  | io (stage : Stage) (context : String) (source : IoError)
  deriving DecidableEq, Repr

namespace BuildError

def stage : BuildError → Stage
  | missingInput _ | missingCode _ | missingSupport _ => .locate
  | toolNotFound stage _ | notStarted stage _ _ | stageFailed stage _ _ _ | timedOut stage _
  | io stage _ _ => stage

def exitStatus? : BuildError → Option Int
  | stageFailed _ _ status _ => status
  | _ => none

def exitText (status : Option Int) (stderr : String) : String :=
  let ending := match status with
    | some code => "exited with status " ++ toString code
    | none => "was terminated by a signal"
  if stderr.isEmpty then ending else ending ++ ":\n" ++ stderr

def message : BuildError → String
  | missingInput operand => "invalid arguments: " ++ operand.name ++ " path is empty"
  | missingCode path => "locate stage failed: IR artifact '" ++ path ++ "' not found"
  | missingSupport searched =>
      "locate stage failed: native runtime support file not found (set " ++
        Overrides.runtimeVariable ++ "); searched: " ++ String.intercalate ", " searched
  | toolNotFound stage tool =>
      stage.name ++ " stage failed: required tool '" ++ tool ++ "' not found in PATH"
  | notStarted stage tool source =>
      stage.name ++ " stage failed: could not run '" ++ tool ++ "': " ++ source.message
  | stageFailed stage tool status stderr =>
      stage.name ++ " stage failed: '" ++ tool ++ "' " ++ exitText status stderr
  | timedOut stage limitMs =>
      stage.name ++ " stage timed out after " ++ toString limitMs.toNat ++ " ms"
  | io stage context source => stage.name ++ " stage failed: " ++ context ++ ": " ++ source.message

def causes (error : BuildError) : List String :=
  match error with
  | notStarted _ _ source | io _ _ source => [error.message, source.message]
  | _ => [error.message]

end BuildError

end Bundler.Native
