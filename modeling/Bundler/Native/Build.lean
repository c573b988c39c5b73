import Bundler.Native.CommandLine
import Bundler.Native.Error
import Bundler.Native.Host
import Bundler.Path
import Bundler.Text.Utf8

/-!
Building an executable in two stages: intermediate code to an object file, and the object file with
the support file to the executable. Whatever can be checked is checked before any tool is started.
-/

namespace Bundler.Native

def objectPath (output : String) : String :=
  output ++ ".o"

namespace Toolchain

def translateArgs (chain : Toolchain) (code object : String) : List String :=
  chain.translator.args ++
    ["-relocation-model=" ++ chain.relocationModel, "-filetype=obj", code, "-o", object]

def linkArgsFor (chain : Toolchain) (object support output : String) : List String :=
  chain.linker.args ++ [object, support, "-o", output] ++ chain.linkArgs

end Toolchain

variable {m : Type → Type} [Monad m]

abbrev BuildM (m : Type → Type) := ExceptT BuildError m

namespace Host

def firstFile (host : Host m) : List String → m (Option String)
  | [] => return none
  | path :: rest => do
      if ← host.isFile path then return some path else firstFile host rest

def findSupport (host : Host m) (search : SupportSearch) : BuildM m String := do
  match ← host.firstFile search.candidates with
  | some found =>
      host.report ⟨.debug, "kooix_linker::runtime", "native runtime: " ++ found⟩
      return found
  | none => throw (.missingSupport search.candidates)

/-- The path of a tool's program. Only a name without a slash is searched for. -/
def findTool (host : Host m) (stage : Stage) (tool : Tool) : BuildM m String := do
  if tool.program.toList.contains '/' then
    if ← host.isFile tool.program then return tool.program
    else throw (.toolNotFound stage tool.program)
  else
    match ← host.search tool.program with
    | some path => return path
    | none => throw (.toolNotFound stage tool.program)

def makeOutputDirectory (host : Host m) (output : String) : BuildM m Unit := do
  match Path.directory? output with
  | none => return
  | some directory =>
      match ← host.makeDirectories directory with
      | .ok _ => return
      | .error error =>
          throw (.io .locate ("creating output directory '" ++ directory ++ "'") error)

/-- Runs one stage to its end. The stage succeeds when the tool ends with status zero. -/
def runStage (host : Host m) (stage : Stage) (name program : String) (args : List String)
    (limitMs : Option UInt64) : BuildM m Unit := do
  host.report
    ⟨.info, "kooix_linker::driver", stage.name ++ ": " ++ CommandLine.render name args⟩
  match ← host.start { program, args, limitMs } with
  | .error error => throw (.notStarted stage name error)
  | .ok (.lost error) => throw (.io stage ("waiting for '" ++ name ++ "'") error)
  | .ok .expired => throw (.timedOut stage (limitMs.getD 0))
  | .ok (.finished status _ stderr) =>
      let stderr := Text.trim (Text.Utf8.decode stderr).text
      if status = some 0 then
        unless stderr.isEmpty do
          host.report ⟨.debug, "kooix_linker::driver", stage.name ++ " stderr: " ++ stderr⟩
      else throw (.stageFailed stage name status stderr)

/-- Takes away the object file. That it stays is worth a warning, but no failure. -/
def discardObject (host : Host m) (object : String) : BuildM m Unit := do
  match ← host.remove object with
  | .ok _ => return
  | .error error =>
      host.report
        ⟨.warn, "kooix_linker::driver",
          "could not remove '" ++ object ++ "': " ++ error.message⟩

/-- Builds `output` from `code`. The object file is taken away after success, and left where it is
after a failure. -/
def build (host : Host m) (chain : Toolchain) (code output : String) : BuildM m Unit := do
  if code.isEmpty then throw (.missingInput .code)
  if output.isEmpty then throw (.missingInput .output)
  unless ← host.isFile code do throw (.missingCode code)
  let support ← host.findSupport chain.runtime
  let translator ← host.findTool .translate chain.translator
  let linker ← host.findTool .link chain.linker
  host.makeOutputDirectory output
  let object := objectPath output
  host.runStage .translate chain.translator.program translator
    (chain.translateArgs code object) chain.timeoutMs
  host.runStage .link chain.linker.program linker
    (chain.linkArgsFor object support output) chain.timeoutMs
  host.discardObject object
  host.report ⟨.info, "kooix_linker::driver", "linked " ++ output⟩

end Host

end Bundler.Native
