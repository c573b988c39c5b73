import Bundler.Arguments.Invocation
import Bundler.Native.Run
import Bundler.Source.Load
import Bundler.Source.Tree

/-! The program: an invocation carried out on a host with files and a console. -/

namespace Bundler

open Native (BuildError Host RunResult)
open Source (Graph LoadError LoadRun Loaded)

inductive ManifestError
  | unreadable (path : String) (source : IoError)
  | invalid (path : String) (defect : ManifestDefect)
  deriving DecidableEq, Repr

namespace ManifestError

def causes : ManifestError → List String
  | unreadable path source => ["Failed to read " ++ path, source.message]
  | invalid path defect => ("Invalid manifest " ++ path) :: defect.causes

end ManifestError

inductive ProgramError
  | manifest (error : ManifestError)
  | session (error : SessionError)
  | load (error : LoadError)
  | build (error : BuildError)
  | notWritten (path : String) (source : IoError)
  | inputUnreadable (source : IoError)
  | inputFileUnreadable (path : String) (source : IoError)
  deriving DecidableEq, Repr

namespace ProgramError

def causes : ProgramError → List String
  | manifest error => error.causes
  | session error => [error.message]
  | load error => error.causes
  | build error => error.causes
  | notWritten path source => ["Failed to write " ++ path, source.message]
  | inputUnreadable source => ["Failed to read stdin", source.message]
  | inputFileUnreadable path source => ["Failed to read stdin file " ++ path, source.message]

def message (error : ProgramError) : String :=
  String.intercalate ": " error.causes

end ProgramError

structure Console (m : Type → Type) extends Host m where
  read : String → m (Except IoError ByteArray)
  write : String → String → m (Except IoError Unit)
  load : String → m LoadRun
  workingDirectory : m String
  environment : String → m (Option String)
  input : m (Except IoError ByteArray)
  print : String → m Unit
  printError : String → m Unit
  origin : String := Native.SupportSearch.usualOrigin

abbrev ProgramM (m : Type → Type) := ExceptT ProgramError m

namespace Graph

open Json (Value)

def value (graph : Graph) : Value :=
  .object [
    ("entry", .text graph.entry.text),
    ("modules", .list (graph.modules.map fun module =>
      .object [
        ("path", .text module.path.text),
        ("location", .text module.location),
        ("imports", .list (module.imports.map fun edge =>
          .object [("raw", .text edge.specifier), ("resolved", .text edge.target.text)]))])),
    ("cycles", .list (graph.cycles.map fun cycle =>
      .object [("importer", .text cycle.importer.text), ("target", .text cycle.target.text)]))]

end Graph

namespace Console

variable {m : Type → Type} [Monad m]

def showing (console : Console m) (threshold : Severity) : Console m :=
  { console with
    report := fun record => do
      if record.passes threshold then console.printError record.line }

def readManifest (console : Console m) (path : String) :
    ExceptT ManifestError m (String × Manifest) := do
  match ← console.read path with
  | .error error => throw (.unreadable path error)
  | .ok bytes =>
      let decoded := Text.Utf8.decode bytes
      if !decoded.wellFormed then throw (.unreadable path .notUtf8)
      match Manifest.parse decoded.text with
      | .error defect => throw (.invalid path defect)
      | .ok manifest =>
          console.report
            ⟨.debug, "kooix_native::manifest",
              "using manifest " ++ path ++ " (project " ++ manifest.name.getD "<unnamed>" ++ ")"⟩
          return (path, manifest)

/-- The manifest given, or else the one in a directory, if there is one. -/
def discover (console : Console m) (explicit? : Option String) (dir : String) :
    ExceptT ManifestError m (Option (String × Manifest)) := do
  match explicit? with
  | some path => some <$> console.readManifest path
  | none =>
      let path := Path.join dir Manifest.fileName
      if ← console.isFile path then some <$> console.readManifest path else return none

def overrides (console : Console m) : m Native.Overrides := do
  let translator ← console.environment Native.Overrides.translatorVariable
  let linker ← console.environment Native.Overrides.linkerVariable
  let runtime ← console.environment Native.Overrides.runtimeVariable
  return .ofVariables translator linker runtime

def buildByDefault (console : Console m) (code output : String) : Native.BuildM m Unit := do
  let overrides ← console.overrides
  (Native.Toolchain.resolveRecords none overrides).forM fun record => console.report record
  console.build (.resolve none overrides console.origin) code output

def openSession (console : Console m) (explicit? : Option String) :
    ExceptT ManifestError m Session := do
  let manifest ← console.discover explicit? (← console.workingDirectory)
  return { manifest, overrides := ← console.overrides, origin := console.origin }

private def orFail (wrap : ε → ProgramError) (result : Except ε α) : ProgramM m α :=
  match result with
  | .ok value => return value
  | .error error => throw (wrap error)

def loadEntry (console : Console m) (session : Session) (given? : Option String) :
    ProgramM m (String × Loaded) := do
  let entry ← orFail .session (session.entry given?)
  let run ← console.load entry
  run.records.forM fun record => console.report record
  return (entry, ← orFail .load run.result)

def flatten (console : Console m) (session : Session) (given? output? : Option String) :
    ProgramM m Unit := do
  let (entry, loaded) ← console.loadEntry session given?
  match output? with
  | none => console.print loaded.unit.text
  | some path =>
      orFail (.notWritten path) (← console.write path loaded.unit.text)
      console.printError ("Flattened " ++ entry ++ " -> " ++ path ++ "\n")

def graph (console : Console m) (session : Session) (given? : Option String) (json : Bool) :
    ProgramM m Unit := do
  let (_, loaded) ← console.loadEntry session given?
  if json then console.print ((Graph.value loaded.graph).pretty 0 ++ "\n")
  else
    console.print loaded.graph.tree
    loaded.graph.cycles.forM fun cycle =>
      console.printError
        ("note: import cycle " ++ cycle.importer.text ++ " -> " ++ cycle.target.text ++ "\n")

def programInput (console : Console m) : Option String → ProgramM m (Option ByteArray)
  | none => return none
  | some "-" => do return some (← orFail .inputUnreadable (← console.input))
  | some path => do return some (← orFail (.inputFileUnreadable path) (← console.read path))

/-- Passes on what a program wrote and gives the status to end with: its own when that fits a
byte. -/
def relay (console : Console m) (result : RunResult) : m UInt8 := do
  console.print result.stdout
  console.printError result.stderr
  match result.status with
  | some status =>
      unless status = 0 do
        console.printError ("note: program exited with status " ++ toString status ++ "\n")
      return if 0 ≤ status ∧ status < 256 then .ofNat status.toNat else 1
  | none =>
      console.printError "note: program was terminated by a signal\n"
      return 1

def link (console : Console m) (session : Session) (request : LinkRequest) :
    ProgramM m UInt8 := do
  session.toolchainRecords.forM fun record => console.report record
  let chain ← orFail .session (session.toolchain request.flags)
  orFail .build (← (console.build chain request.code request.output).run)
  console.printError ("Linked " ++ request.output ++ "\n")
  if request.run then
    let stdin ← console.programInput request.stdin
    let result ← orFail .build
      (← (console.run chain.timeoutMs request.output request.args stdin).run)
    console.relay result
  else return 0

def carryOut (console : Console m) (invocation : Invocation) : ProgramM m UInt8 := do
  let session ← orFail .manifest (← (console.openSession invocation.manifest).run)
  match invocation.command with
  | .flatten entry output => do
      console.flatten session entry output
      return 0
  | .graph entry json => do
      console.graph session entry json
      return 0
  | .link request => console.link session request

def usage : String :=
  "Kooix module flattener and native link driver\n\n" ++
    "Usage: kooix-native [-v] [--manifest <PATH>] <flatten|graph|link|help> ...\n"

def usageText : Arguments.UsageError → String
  | .help => usage
  | .version => "kooix-native 0.2.0\n"
  | .nothingGiven => usage
  | .missingCommand => "error: a command is required\n\n" ++ usage
  | .unknownCommand => "error: unrecognized command\n\n" ++ usage
  | .unknownArgument => "error: unexpected argument\n\n" ++ usage
  | .invalidValue => "error: a value is required for an argument\n\n" ++ usage
  | .notANumber => "error: invalid value for an argument\n\n" ++ usage
  | .repeated => "error: an argument cannot be used multiple times\n\n" ++ usage
  | .unwantedValue => "error: unexpected value for an argument\n\n" ++ usage
  | .missingArgument => "error: a required argument was not provided\n\n" ++ usage

def execute (console : Console m) (words : List String) : m UInt8 := do
  match Invocation.parse words with
  | .error error =>
      if error.exitStatus = 0 then console.print (usageText error)
      else console.printError (usageText error)
      return .ofNat error.exitStatus
  | .ok invocation =>
      let console := console.showing (if invocation.verbose then .debug else .warn)
      match ← (console.carryOut invocation).run with
      | .ok status => return status
      | .error error =>
          console.printError ("error: " ++ error.message ++ "\n")
          return 1

end Console

end Bundler
