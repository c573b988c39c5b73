import Bundler.Proofs.Native.Precedence
import Mathlib.Data.List.Induction

/-!
Settings and overrides put over the defaults in any number and order. The last layer that states a
setting decides it. Arguments are gathered from all layers, and an explicit support file, whichever
layer it comes from, depends on settings that name one.
-/

namespace Bundler.Native

inductive Layer
  | settings (given : NativeSettings)
  | overrides (given : Overrides)
  deriving DecidableEq, Repr

namespace Layer

def apply (chain : Toolchain) : Layer → Toolchain
  | settings given => chain.applySettings given
  | overrides given => chain.applyOverrides given

def translator? : Layer → Option String
  | settings given => given.translator
  | overrides given => given.translator

def linker? : Layer → Option String
  | settings given => given.linker
  | overrides given => given.linker

def relocationModel? : Layer → Option String
  | settings given => given.relocationModel
  | overrides _ => none

def linkArgs : Layer → List String
  | settings given => given.linkArgs
  | overrides _ => []

def timeoutMs? : Layer → Option UInt64
  | settings given => given.timeoutMs
  | overrides _ => none

def demanded? : Layer → Option String
  | settings given => given.runtime
  | overrides _ => none

def override? : Layer → Option String
  | settings _ => none
  | overrides given => given.runtime

def runtime? (layer : Layer) : Option String :=
  layer.demanded?.or layer.override?

/-- What the last of some layers to state a setting gives it. -/
def last? {α : Type} (setting : Layer → Option α) (layers : List Layer) : Option α :=
  (layers.filterMap setting).getLast?

section

variable {α β : Type} {setting : Layer → Option α} {layers : List Layer}

theorem last?_concat (layer : Layer) :
    last? setting (layers ++ [layer]) = (setting layer).or (last? setting layers) := by
  rw [last?, List.filterMap_append, List.getLast?_append, last?]
  cases here : setting layer with
  | none => simp [here]
  | some value => simp [here]

theorem last?_map (transform : α → β) :
    last? (fun layer => (setting layer).map transform) layers =
      (last? setting layers).map transform := by
  rw [last?, last?, ← List.getLast?_map, List.map_filterMap]

theorem last?_ne_none_iff : last? setting layers ≠ none ↔
    ∃ layer ∈ layers, setting layer ≠ none := by
  rw [last?, Ne, List.getLast?_eq_none_iff, List.filterMap_eq_nil_iff]
  push Not
  rfl

end

end Layer

namespace Toolchain

open Layer (last?)

/-- The defaults with layers over them, the first one lowest. -/
def layered (origin : String) (layers : List Layer) : Toolchain :=
  layers.foldl Layer.apply (standard origin)

variable {α : Type} (origin : String) (layers : List Layer)

theorem layered_concat (layer : Layer) :
    layered origin (layers ++ [layer]) = layer.apply (layered origin layers) :=
  List.foldl_concat ..

theorem resolve_eq_layered (settings? : Option NativeSettings) (overrides : Overrides) :
    resolve settings? overrides origin =
      layered origin ((settings?.map Layer.settings).toList ++ [.overrides overrides]) := by
  cases settings? <;> rfl

/-- A setting that each layer replaces or leaves is decided by the last one that replaces it. -/
theorem layered_eq_last? (read : Toolchain → α) (setting : Layer → Option α)
    (step : ∀ chain (layer : Layer), read (layer.apply chain) = (setting layer).getD (read chain)) :
    read (layered origin layers) = (last? setting layers).getD (read (standard origin)) := by
  induction layers using List.reverseRecOn with
  | nil => rfl
  | append_singleton layers layer ih =>
      rw [layered_concat, step, ih, Layer.last?_concat]
      cases setting layer <;> rfl

theorem layered_eq_last?_of_none (read : Toolchain → Option α) (setting : Layer → Option α)
    (step : ∀ chain (layer : Layer), read (layer.apply chain) = (setting layer).or (read chain))
    (absent : read (standard origin) = none) :
    read (layered origin layers) = last? setting layers := by
  induction layers using List.reverseRecOn with
  | nil => exact absent
  | append_singleton layers layer ih => rw [layered_concat, step, ih, Layer.last?_concat]

theorem words_layered (tool : Toolchain → Tool) (command? : Layer → Option String)
    (step : ∀ chain (layer : Layer), tool (layer.apply chain) =
      (tool chain).choose (command? layer))
    {fallback : String} (there : (tool (standard origin)).words = Text.words fallback) :
    (tool (layered origin layers)).words =
      Text.words ((last? (fun layer => stated (command? layer)) layers).getD fallback) := by
  have replaced : ∀ chain (layer : Layer), (tool (layer.apply chain)).words =
      ((stated (command? layer)).map Text.words).getD (tool chain).words := by
    intro chain layer
    rw [step, Tool.words_choose]
  rw [layered_eq_last? origin layers (fun chain => (tool chain).words) _ replaced, Layer.last?_map,
    there,
    Option.getD_map]

theorem linkArgs_layered : (layered origin layers).linkArgs = layers.flatMap (·.linkArgs) := by
  induction layers using List.reverseRecOn with
  | nil => rfl
  | append_singleton layers layer ih =>
      rw [layered_concat, List.flatMap_append, List.flatMap_singleton, ← ih]
      cases layer with
      | settings given => rfl
      | overrides given => exact (List.append_nil _).symm

theorem runtime?_of_demanded? (demanded : last? Layer.demanded? layers ≠ none) :
    last? Layer.runtime? layers ≠ none := by
  rw [Layer.last?_ne_none_iff] at demanded ⊢
  obtain ⟨layer, member, given⟩ := demanded
  refine ⟨layer, member, ?_⟩
  intro silent
  exact given (Option.or_eq_none_iff.mp silent).1

theorem explicit_layered : (layered origin layers).runtime.explicit =
    (last? Layer.demanded? layers).bind fun _ => last? Layer.runtime? layers := by
  induction layers using List.reverseRecOn with
  | nil => rfl
  | append_singleton layers layer ih =>
      rw [layered_concat, Layer.last?_concat, Layer.last?_concat]
      cases layer with
      | settings given =>
          -- Settings that name a file replace whatever there is, and others leave it.
          have applied : ((Layer.settings given).apply (layered origin layers)).runtime.explicit =
              given.runtime.or (layered origin layers).runtime.explicit := rfl
          rw [applied, ih, Layer.demanded?, Layer.runtime?, Layer.demanded?, Layer.override?,
            Option.or_none]
          cases given.runtime <;> rfl
      | overrides given =>
          -- Overrides replace what there is, which after a demand is the last file given.
          have applied : ((Layer.overrides given).apply (layered origin layers)).runtime.explicit =
              (layered origin layers).runtime.explicit.map given.runtime.getD := rfl
          rw [applied, ih, Layer.demanded?, Layer.runtime?, Layer.demanded?, Layer.override?,
            Option.none_or, Option.none_or]
          cases demanded : last? Layer.demanded? layers with
          | none => rfl
          | some path =>
              obtain ⟨current, there⟩ := Option.ne_none_iff_exists'.mp
                (runtime?_of_demanded? layers (by simp [demanded]))
              rw [there]
              cases given.runtime <;> rfl

theorem location_layered :
    (layered origin layers).runtime.builtin = some (SupportSearch.builtinLocation origin) ∧
    (layered origin layers).runtime.root = none := by
  induction layers using List.reverseRecOn with
  | nil => exact ⟨rfl, rfl⟩
  | append_singleton layers layer ih =>
      rw [layered_concat]
      cases layer <;> exact ih

/-- Whatever settings and overrides are put over the defaults, and in whatever order: the last of
them to state a command, a relocation model, a time limit or another support file decides it. All
arguments are kept. There is an explicit support file just when settings demand one, and then it is
the last that either kind of layer gave. -/
theorem layered_settled :
    (layered origin layers).translator.words =
      Text.words ((last? (fun layer => stated layer.translator?) layers).getD "llc") ∧
    (layered origin layers).linker.words =
      Text.words ((last? (fun layer => stated layer.linker?) layers).getD "clang") ∧
    (layered origin layers).relocationModel = (last? Layer.relocationModel? layers).getD "pic" ∧
    (layered origin layers).timeoutMs = last? Layer.timeoutMs? layers ∧
    (layered origin layers).linkArgs = layers.flatMap (·.linkArgs) ∧
    (layered origin layers).runtime.override = last? Layer.override? layers ∧
    (layered origin layers).runtime.explicit =
      (if ∃ layer ∈ layers, layer.demanded? ≠ none then last? Layer.runtime? layers else none) ∧
    (layered origin layers).runtime.builtin = some (SupportSearch.builtinLocation origin) ∧
    (layered origin layers).runtime.root = none := by
  refine ⟨?_, ?_, ?_, ?_, linkArgs_layered origin layers, ?_, ?_, location_layered origin layers⟩
  · apply words_layered origin layers (·.translator) Layer.translator?
    · intro chain layer
      cases layer <;> rfl
    · exact words_translator_standard origin
  · apply words_layered origin layers (·.linker) Layer.linker?
    · intro chain layer
      cases layer <;> rfl
    · exact words_linker_standard origin
  · apply layered_eq_last? origin layers (·.relocationModel) Layer.relocationModel?
    intro chain layer
    cases layer <;> rfl
  · refine layered_eq_last?_of_none origin layers (·.timeoutMs) Layer.timeoutMs? ?_ rfl
    intro chain layer
    cases layer <;> rfl
  · refine layered_eq_last?_of_none origin layers (·.runtime.override) Layer.override? ?_ rfl
    intro chain layer
    cases layer <;> rfl
  · rw [explicit_layered]
    have given := @Layer.last?_ne_none_iff _ Layer.demanded? layers
    cases demanded : last? Layer.demanded? layers with
    | none =>
        rw [if_neg (given.not.mp (by simp [demanded]))]
        rfl
    | some path =>
        rw [if_pos (given.mp (by simp [demanded]))]
        rfl

/-- Overrides alone make no support file explicit, and what they put in gives way to a later
demand. -/
example :
    (layered "/" [.overrides { runtime := some "e" }]).runtime.explicit = none ∧
    (layered "/" [.overrides { runtime := some "e" },
      .settings { runtime := some "m" }]).runtime.explicit = some "m" := by
  decide

end Toolchain

end Bundler.Native
