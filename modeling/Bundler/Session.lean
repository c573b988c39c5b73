import Bundler.Manifest
import Bundler.Path

/-!
What one invocation works with: the manifest and the environment, from which the entry module and
the toolchain follow.
-/

namespace Bundler

open Native (NativeSettings Overrides Tool Toolchain)

structure ToolchainFlags where
  runtime : Option String := none
  translator : Option String := none
  linker : Option String := none
  linkArgs : List String := []
  timeoutMs : Option UInt64 := none
  deriving DecidableEq, Repr

inductive SessionError
  | noEntry
  | blankFlag (flag : String)
  deriving DecidableEq, Repr

namespace SessionError

def message : SessionError → String
  | noEntry => "no entry module given and no manifest `entry` to fall back on"
  | blankFlag flag => flag ++ " cannot be blank"

end SessionError

structure Session where
  manifest : Option (String × Manifest) := none
  overrides : Overrides := {}
  /-- Where the program was built. -/
  origin : String := Native.SupportSearch.usualOrigin
  deriving DecidableEq, Repr

namespace Session

def manifestDir? (session : Session) : Option String :=
  session.manifest.bind fun (path, _) => Path.directory? path

def fromManifest (session : Session) (path : String) : String :=
  match session.manifestDir? with
  | some dir => if Path.isAbsolute path then path else Path.join dir path
  | none => path

def entry (session : Session) (given? : Option String) : Except SessionError String :=
  match given? with
  | some given => .ok given
  | none =>
      match session.manifest.bind (·.2.entry) with
      | some entry => .ok (session.fromManifest entry)
      | none => .error .noEntry

def settings? (session : Session) : Option NativeSettings :=
  (session.manifest.bind (·.2.native)).map fun settings =>
    { settings with runtime := settings.runtime.map session.fromManifest }

def flagTool (flag : String) (current : Tool) : Option String → Except SessionError Tool
  | none => .ok current
  | some command =>
      match Tool.parse? command with
      | some tool => .ok tool
      | none => .error (.blankFlag flag)

/-- Flags win over everything else, and must not be blank. -/
def toolchain (session : Session) (flags : ToolchainFlags) : Except SessionError Toolchain := do
  let chain := Toolchain.resolve session.settings? session.overrides session.origin
  let translator ← flagTool "--translator" chain.translator flags.translator
  let linker ← flagTool "--linker" chain.linker flags.linker
  return { chain with
    translator, linker
    runtime := { chain.runtime with explicit := flags.runtime.or chain.runtime.explicit }
    linkArgs := chain.linkArgs ++ flags.linkArgs
    timeoutMs := flags.timeoutMs.or chain.timeoutMs }

def toolchainRecords (session : Session) : List Record :=
  Toolchain.resolveRecords session.settings? session.overrides

end Session

end Bundler
