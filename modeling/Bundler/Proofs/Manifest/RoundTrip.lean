import Bundler.Manifest
import Bundler.Proofs.Json.Writing

/-!
Manifests are read as what was written, in whatever order, however spread out and among whatever
else their settings stand.
-/

namespace Bundler

open Json (FieldText OptionalText StringText NaturalText ListText RecordText Yields Takes IsBlank)
open Json.Value (Writes)

namespace Native.NativeSettings

variable (settings : NativeSettings)

def fieldTexts : List FieldText :=
  [ ⟨"translator", settings.translator.isSome, OptionalText StringText settings.translator⟩,
    ⟨"linker", settings.linker.isSome, OptionalText StringText settings.linker⟩,
    ⟨"runtime", settings.runtime.isSome, OptionalText StringText settings.runtime⟩,
    ⟨"relocation_model", settings.relocationModel.isSome,
      OptionalText StringText settings.relocationModel⟩,
    ⟨"link_args", !settings.linkArgs.isEmpty, ListText StringText settings.linkArgs⟩,
    ⟨"timeout_ms", settings.timeoutMs.isSome, OptionalText NaturalText settings.timeoutMs⟩ ]

def only (names : List String) : NativeSettings where
  translator := if "translator" ∈ names then settings.translator else none
  linker := if "linker" ∈ names then settings.linker else none
  runtime := if "runtime" ∈ names then settings.runtime else none
  relocationModel := if "relocation_model" ∈ names then settings.relocationModel else none
  linkArgs := if "link_args" ∈ names then settings.linkArgs else []
  timeoutMs := if "timeout_ms" ∈ names then settings.timeoutMs else none

end Native.NativeSettings

namespace Manifest

variable (m : Manifest)

def fieldTexts : List FieldText :=
  [ ⟨"name", m.name.isSome, OptionalText StringText m.name⟩,
    ⟨"entry", m.entry.isSome, OptionalText StringText m.entry⟩,
    ⟨"native", m.native.isSome,
      OptionalText (fun settings => RecordText settings.fieldTexts) m.native⟩ ]

def only (names : List String) : Manifest where
  name := if "name" ∈ names then m.name else none
  entry := if "entry" ∈ names then m.entry else none
  native := if "native" ∈ names then m.native else none

inductive Layout (m : Manifest) : List Char → Prop
  | text {before object after : List Char} : IsBlank before → RecordText m.fieldTexts object →
      IsBlank after → Layout m (before ++ (object ++ after))

end Manifest

section Reading

open Json

theorem optionalString_yields {s? : Option String} {chars : List Char}
    (written : OptionalText StringText s? chars) : Yields (optional string) chars s? :=
  optional_yields (StringText.opens (by decide)) string_yields written

theorem optionalNatural_yields {n? : Option UInt64} {chars : List Char}
    (written : OptionalText NaturalText n? chars) : Yields (optional natural) chars n? :=
  optional_yields NaturalText.opens natural_yields written

theorem strings_yields {strings : List String} {chars : List Char}
    (written : ListText StringText strings chars) : Yields (list string) chars strings :=
  list_yields (StringText.opens (by decide)) string_yields written

theorem ite_none_eq {p : Prop} [Decidable p] {a? : Option α} (kept : a?.isSome → p) :
    (if p then a? else none) = a? := by
  cases a? with
  | none => exact ite_self none
  | some a => exact if_pos (kept rfl)

end Reading

namespace Native.NativeSettings

variable {settings : NativeSettings}

theorem takes (settings : NativeSettings) :
    List.Forall₂ (Takes settings.only) Manifest.nativeFields settings.fieldTexts :=
  .cons (.of optionalString_yields fun _ => by simp [only]) <|
  .cons (.of optionalString_yields fun _ => by simp [only]) <|
  .cons (.of optionalString_yields fun _ => by simp [only]) <|
  .cons (.of optionalString_yields fun _ => by simp [only]) <|
  .cons (.of strings_yields fun _ => by simp [only]) <|
  .cons (.of optionalNatural_yields fun _ => by simp [only]) .nil

theorem distinct (settings : NativeSettings) : (settings.fieldTexts.map (·.name)).Nodup := by
  simp [fieldTexts]

theorem only_eq (met : List String)
    (complete : ∀ field ∈ settings.fieldTexts, field.isRequired → field.name ∈ met) :
    settings.only met = settings := by
  simp only [fieldTexts, List.forall_mem_cons, List.not_mem_nil, false_implies, implies_true,
    and_true] at complete
  obtain ⟨translator, linker, runtime, model, given, timeout⟩ := complete
  have args : (if "link_args" ∈ met then settings.linkArgs else []) = settings.linkArgs := by
    cases shape : settings.linkArgs with
    | nil => exact ite_self []
    | cons arg args =>
      rw [shape] at given
      exact if_pos (given rfl)
  simp only [only, ite_none_eq translator, ite_none_eq linker, ite_none_eq runtime,
    ite_none_eq model, ite_none_eq timeout, args]

theorem yields {chars : List Char} (written : RecordText settings.fieldTexts chars) :
    Yields (Json.record "struct NativeConfig" Manifest.nativeFields {}) chars settings :=
  Json.record_yields settings.takes settings.distinct only_eq written

end Native.NativeSettings

namespace Manifest

open Native (NativeSettings)

variable {m : Manifest}

theorem native_yields {native? : Option NativeSettings} {chars : List Char}
    (written : OptionalText (fun settings => RecordText settings.fieldTexts) native? chars) :
    Yields (Json.optional (Json.record "struct NativeConfig" nativeFields {})) chars native? :=
  Json.optional_yields RecordText.opens NativeSettings.yields written

theorem takes (m : Manifest) : List.Forall₂ (Takes m.only) fields m.fieldTexts :=
  .cons (.of optionalString_yields fun _ => by simp [only]) <|
  .cons (.of optionalString_yields fun _ => by simp [only]) <|
  .cons (.of native_yields fun _ => by simp [only]) .nil

theorem distinct (m : Manifest) : (m.fieldTexts.map (·.name)).Nodup := by
  simp [fieldTexts]

theorem only_eq (met : List String)
    (complete : ∀ field ∈ m.fieldTexts, field.isRequired → field.name ∈ met) : m.only met = m := by
  simp only [fieldTexts, List.forall_mem_cons, List.not_mem_nil, false_implies, implies_true,
    and_true] at complete
  obtain ⟨name, entry, native⟩ := complete
  simp only [only, ite_none_eq name, ite_none_eq entry, ite_none_eq native]

theorem yields {chars : List Char} (written : RecordText m.fieldTexts chars) :
    Yields (Json.record "struct Manifest" fields {}) chars m :=
  Json.record_yields m.takes m.distinct only_eq written

/-- What comes of a manifest that is read: it is turned down if its entry is blank. -/
def judged (m : Manifest) : Except ManifestDefect Manifest :=
  if m.entry.any Text.allBlank then .error .blankEntry else .ok m

theorem parse_of_whole {source : String}
    (read : Json.whole (Json.record "struct Manifest" fields {}) source = .ok m) :
    parse source = m.judged := by
  cases given : m.entry with
  | none => simp [parse, read, judged, given, bind, Except.bind, Except.mapError, pure, Except.pure]
  | some entry =>
    simp [parse, read, judged, given, bind, Except.bind, Except.mapError, pure, Except.pure, throw,
      throwThe, MonadExceptOf.throw]

theorem parse_of_layout {source : String} (written : m.Layout source.toList) :
    parse source = m.judged := by
  generalize chars : source.toList = text at written
  cases written with
  | text blankBefore object blankAfter =>
    exact parse_of_whole (Json.whole_eq_ok (yields object) blankBefore blankAfter chars)

section Rendering

theorem writes_string (name : String) (s? : Option String) :
    Writes ⟨name, s?.isSome, OptionalText StringText s?⟩ (s?.map .text) :=
  .optional Json.Value.stringText_compact s?

theorem writes_strings (name : String) (strings : List String) :
    Writes ⟨name, !strings.isEmpty, ListText StringText strings⟩
      (if strings.isEmpty then none else some (.list (strings.map .text))) := by
  cases strings with
  | nil => exact rfl
  | cons s strings => exact Json.Value.listText_compact Json.Value.stringText_compact _

theorem recordText_nativeValue (settings : NativeSettings) :
    RecordText settings.fieldTexts (nativeValue settings).compact.toList := by
  have writes : List.Forall₂ Writes settings.fieldTexts
      [settings.translator.map .text, settings.linker.map .text, settings.runtime.map .text,
        settings.relocationModel.map .text,
        if settings.linkArgs.isEmpty then none else some (.list (settings.linkArgs.map .text)),
        settings.timeoutMs.map fun ms => .natural ms.toNat] :=
    .cons (writes_string _ _) <| .cons (writes_string _ _) <| .cons (writes_string _ _) <|
    .cons (writes_string _ _) <| .cons (writes_strings _ _) <|
    .cons (.optional Json.Value.naturalText_compact _) .nil
  have text := Json.Value.recordText_compact writes
  simpa [nativeValue, member, Json.Value.writtenMembers, NativeSettings.fieldTexts] using text

theorem layout_render (m : Manifest) : m.Layout m.render.toList := by
  have writes : List.Forall₂ Writes m.fieldTexts
      [m.name.map .text, m.entry.map .text, m.native.map nativeValue] :=
    .cons (writes_string _ _) <| .cons (writes_string _ _) <|
    .cons (.optional recordText_nativeValue _) .nil
  have object := Json.Value.recordText_compact writes
  have written : RecordText m.fieldTexts m.render.toList := by
    simpa [render, value, member, Json.Value.writtenMembers, fieldTexts] using object
  have text := Layout.text .nil written .nil
  simpa using text

end Rendering

/-- A manifest is read back from each of its texts, its compact rendering among them, and no text
that a manifest with a blank entry is read from is accepted. -/
theorem parse_layout (m : Manifest) :
    parse m.render = m.judged ∧
    (∀ source : String, m.Layout source.toList → parse source = m.judged) ∧
    (∀ source : String, Json.whole (Json.record "struct Manifest" fields {}) source = .ok m →
      parse source = m.judged) :=
  ⟨parse_of_layout m.layout_render, fun _ => parse_of_layout, fun _ => parse_of_whole⟩

theorem parse_layout_shuffled :
    parse "\x7b\"x\":[\"\\ud800\"], \"native\":\x7b\"linker\":null\x7d,\"entry\":\"a\"\x7d" =
      .ok { entry := some "a", native := some {} } ∧
    parse "[null,\"\\t\"]" = .error .blankEntry := by
  have key (name : String) := Json.Value.spells_escape name.toList
  have half : Json.IsStringBody ['\\', 'u', 'd', '8', '0', '0'] := .hex rfl .nil
  have items : ListText Eq ['"' :: (['\\', 'u', 'd', '8', '0', '0'] ++ ['"'])] _ :=
    .items .nil (.last rfl .nil)
  have stray := Json.IsJson.list items (List.forall_mem_singleton.mpr (.string half))
  have native : RecordText (NativeSettings.fieldTexts {}) _ :=
    .object (.omitted rfl <| .written .null <| .omitted rfl <| .omitted rfl <| .omitted rfl <|
        .omitted rfl .none) (List.forall_mem_nil _) (List.forall_mem_nil _) (.refl _)
      (.members .nil <| .last (key "linker") .nil .nil .nil)
  have space : IsBlank [' '] := by simp [IsBlank, Json.isSpace]
  have object : RecordText (fieldTexts { entry := some "a", native := some {} }) _ :=
    .object (.omitted rfl <| .written (.value (.quoted (key "a"))) <|
        .written (.value native) .none)
      (List.forall_mem_singleton.mpr rfl) (List.forall_mem_singleton.mpr stray)
      (List.reverse_perm _)
      (.members .nil <| .more (key "x") .nil .nil .nil space <|
        .more (key "native") .nil .nil .nil .nil <| .last (key "entry") .nil .nil .nil)
  refine ⟨(parse_layout { entry := some "a", native := some {} }).2.1 _ ?_,
    (parse_layout { entry := some "\t" }).2.2 _ (by decide +kernel)⟩
  simpa [Json.Value.escape] using Layout.text .nil object .nil

end Manifest

end Bundler
