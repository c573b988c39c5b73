import Bundler.IoError
import Bundler.Json.Record
import Bundler.Json.Writer
import Bundler.Native.Toolchain

/-! A project's manifest: its name, its entry module and its native settings. -/

namespace Bundler

open Native (NativeSettings)

structure Manifest where
  name : Option String := none
  entry : Option String := none
  native : Option NativeSettings := none
  deriving DecidableEq, Repr

inductive ManifestDefect
  | json (error : Json.Error)
  | blankEntry
  deriving DecidableEq, Repr

namespace ManifestDefect

def causes : ManifestDefect → List String
  | json error => ["Failed to parse kooix.json", error.message]
  | blankEntry => ["`entry` cannot be empty"]

end ManifestDefect

namespace Manifest

def fileName : String :=
  "kooix.json"

open Json (FieldReader string natural optional list)

def nativeFields : List (FieldReader NativeSettings) :=
  [ .of "translator" (optional string) fun s v => { s with translator := v },
    .of "linker" (optional string) fun s v => { s with linker := v },
    .of "runtime" (optional string) fun s v => { s with runtime := v },
    .of "relocation_model" (optional string) fun s v => { s with relocationModel := v },
    .of "link_args" (list string) fun s v => { s with linkArgs := v },
    .of "timeout_ms" (optional natural) fun s v => { s with timeoutMs := v } ]

def fields : List (FieldReader Manifest) :=
  [ .of "name" (optional string) fun m v => { m with name := v },
    .of "entry" (optional string) fun m v => { m with entry := v },
    .of "native" (optional (Json.record "struct NativeConfig" nativeFields {}))
      fun m v => { m with native := v } ]

/-- The manifest that a text holds. An entry that is given must not be blank. -/
def parse (source : String) : Except ManifestDefect Manifest := do
  let manifest ← (Json.whole (Json.record "struct Manifest" fields {}) source).mapError .json
  match manifest.entry with
  | some entry => if Text.allBlank entry then throw .blankEntry else return manifest
  | none => return manifest

def member (key : String) (value? : Option Json.Value) : List (String × Json.Value) :=
  (value?.map (key, ·)).toList

def nativeValue (settings : NativeSettings) : Json.Value :=
  .object (
    member "translator" (settings.translator.map .text) ++
    member "linker" (settings.linker.map .text) ++
    member "runtime" (settings.runtime.map .text) ++
    member "relocation_model" (settings.relocationModel.map .text) ++
    member "link_args" (
      if settings.linkArgs.isEmpty then none else some (.list (settings.linkArgs.map .text))) ++
    member "timeout_ms" (settings.timeoutMs.map fun ms => .natural ms.toNat))

/-- What is not set is not written. -/
def value (manifest : Manifest) : Json.Value :=
  .object (
    member "name" (manifest.name.map .text) ++
    member "entry" (manifest.entry.map .text) ++
    member "native" (manifest.native.map nativeValue))

def render (manifest : Manifest) : String :=
  manifest.value.compact

end Manifest

end Bundler
