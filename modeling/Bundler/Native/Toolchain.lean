import Bundler.Log
import Bundler.Native.Support
import Bundler.Native.Tool

/-!
The settings a build runs under. Defaults are overridden by a manifest, and both by the
environment.
-/

namespace Bundler.Native

structure NativeSettings where
  translator : Option String := none
  linker : Option String := none
  runtime : Option String := none
  relocationModel : Option String := none
  linkArgs : List String := []
  timeoutMs : Option UInt64 := none
  deriving DecidableEq, Repr

structure Overrides where
  translator : Option String := none
  linker : Option String := none
  runtime : Option String := none
  deriving DecidableEq, Repr

namespace Overrides

def translatorVariable : String :=
  "KOOIX_LLC"

def linkerVariable : String :=
  "KOOIX_CC"

def runtimeVariable : String :=
  "KOOIX_NATIVE_RUNTIME"

/-- The settings that three variables make. A variable with a blank value counts as not set. -/
def ofVariables (translator linker runtime : Option String) : Overrides where
  translator := translator.filter (!Text.allBlank ·)
  linker := linker.filter (!Text.allBlank ·)
  runtime := runtime.filter (!Text.allBlank ·)

end Overrides

structure Toolchain where
  translator : Tool := ⟨"llc", []⟩
  linker : Tool := ⟨"clang", []⟩
  relocationModel : String := "pic"
  linkArgs : List String := []
  timeoutMs : Option UInt64 := none
  runtime : SupportSearch := .standard
  deriving DecidableEq, Repr

private def blankRecords (source : String) : Option String → List Record
  | none => []
  | some command =>
      if (Tool.parse? command).isNone then
        [⟨.warn, "kooix_linker::config", "ignoring blank " ++ source ++ " command"⟩]
      else []

namespace Toolchain

def standard (origin : String := SupportSearch.usualOrigin) : Toolchain :=
  { runtime := .standard origin }

def applySettings (chain : Toolchain) (settings : NativeSettings) : Toolchain where
  translator := chain.translator.choose settings.translator
  linker := chain.linker.choose settings.linker
  relocationModel := settings.relocationModel.getD chain.relocationModel
  linkArgs := chain.linkArgs ++ settings.linkArgs
  timeoutMs := settings.timeoutMs.or chain.timeoutMs
  runtime := { chain.runtime with explicit := settings.runtime.or chain.runtime.explicit }

/-- The environment's support file takes the place of an explicit one, and is otherwise one of
several candidates. -/
def applyOverrides (chain : Toolchain) (overrides : Overrides) : Toolchain :=
  { chain with
    translator := chain.translator.choose overrides.translator
    linker := chain.linker.choose overrides.linker
    runtime :=
      { chain.runtime with
        explicit := chain.runtime.explicit.map overrides.runtime.getD
        override := overrides.runtime.or chain.runtime.override } }

def resolve (settings? : Option NativeSettings) (overrides : Overrides)
    (origin : String := SupportSearch.usualOrigin) : Toolchain :=
  match settings? with
  | none => (standard origin).applyOverrides overrides
  | some settings => ((standard origin).applySettings settings).applyOverrides overrides

end Toolchain

namespace NativeSettings

def records (settings : NativeSettings) : List Record :=
  blankRecords "translator" settings.translator ++ blankRecords "linker" settings.linker

end NativeSettings

namespace Overrides

def records (overrides : Overrides) (chain : Toolchain) : List Record :=
  blankRecords translatorVariable overrides.translator ++
    blankRecords linkerVariable overrides.linker ++
    match overrides.runtime, chain.runtime.explicit with
    | some _, some previous =>
        [⟨.debug, "kooix_linker::config",
          runtimeVariable ++ " replaces configured runtime '" ++ previous ++ "'"⟩]
    | _, _ => []

end Overrides

def Toolchain.resolveRecords (settings? : Option NativeSettings) (overrides : Overrides) :
    List Record :=
  match settings? with
  | none => overrides.records {}
  | some settings =>
      settings.records ++ overrides.records (Toolchain.applySettings {} settings)

end Bundler.Native
