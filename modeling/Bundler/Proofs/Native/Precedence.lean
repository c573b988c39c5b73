import Bundler.Proofs.Text.Words
import Bundler.Session

/-!
Which setting counts. Each layer of settings is put over those below it, and the rule differs from
one setting to another: a command gives way to one above it that is not blank, arguments are
gathered, and a support file that the manifest names may be replaced but not joined by others.
-/

namespace Bundler

namespace Native

/-- A command that is given and not blank. -/
def stated (command? : Option String) : Option String :=
  command?.filter (!Text.allBlank ·)

namespace Tool

/-- What a command line that calls the tool begins with. -/
def words (tool : Tool) : List String :=
  tool.program :: tool.args

theorem parse?_eq_none_iff {command : String} : parse? command = none ↔ Text.allBlank command := by
  rw [parse?, ← Text.words_eq_nil_iff]
  cases Text.words command with
  | nil => simp
  | cons program args => simp

theorem words_of_parse? {command : String} {tool : Tool} (parsed : parse? command = some tool) :
    tool.words = Text.words command := by
  rw [parse?] at parsed
  split at parsed
  · cases parsed
  · rename_i program args split
    cases parsed
    exact split.symm

theorem allBlank_of_parse? {command : String} {tool : Tool} (parsed : parse? command = some tool) :
    Text.allBlank command = false := by
  rw [← Bool.not_eq_true, ← parse?_eq_none_iff, parsed]
  exact Option.some_ne_none tool

theorem words_choose (current : Tool) (command? : Option String) :
    (current.choose command?).words = ((stated command?).map Text.words).getD current.words := by
  cases command? with
  | none => rfl
  | some command =>
      rw [choose, Option.bind_some, stated, Option.filter_some]
      cases parsed : parse? command with
      | none => simp [parse?_eq_none_iff.mp parsed]
      | some tool =>
          simp [allBlank_of_parse? parsed, words_of_parse? parsed]

theorem words_choose_choose {current : Tool} {command : String}
    (there : current.words = Text.words command) (lower? upper? : Option String) :
    ((current.choose lower?).choose upper?).words =
      Text.words (((stated upper?).or (stated lower?)).getD command) := by
  rw [words_choose, words_choose, there]
  cases stated upper? with
  | some upper => rfl
  | none =>
      cases stated lower? with
      | some lower => rfl
      | none => rfl

end Tool

namespace SupportSearch

/-- The relative locations, each from the working directory on and then from those above it. -/
def upward : List String :=
  relativeLocations.flatMap fun location =>
    (List.range (maxLevels + 1)).map fun level =>
      String.join (List.replicate level "../") ++ location

theorem join_above_empty (level : Nat) {path : String} (relative : Path.isAbsolute path = false) :
    Path.join (above "" level) path = String.join (List.replicate level "../") ++ path := by
  induction level generalizing path with
  | zero => simp [above, Path.join, relative]
  | succ level ih =>
      have up : above "" (level + 1) = String.join (List.replicate level "../") ++ ".." :=
        ih (by decide +kernel)
      have open_ :
          (String.join (List.replicate level "../") ++ "..").toList.getLast? = some '.' := by
        simp [String.toList_append]
      have nonempty : (String.join (List.replicate level "../") ++ "..").isEmpty = false := by
        simp
      rw [up, Path.join, relative, nonempty, open_]
      simp [List.replicate_succ', String.append_assoc]

theorem candidates_eq (search : SupportSearch) (anywhere : search.explicit = none)
    (here : search.root = none) :
    search.candidates = search.builtin.toList ++ search.override.toList ++ upward := by
  have relative : ∀ location ∈ relativeLocations, Path.isAbsolute location = false := by
    decide +kernel
  rw [candidates, anywhere, here, upward]
  refine congrArg (search.builtin.toList ++ search.override.toList ++ ·) ?_
  refine List.flatMap_congr fun location member => List.map_congr_left fun level _ => ?_
  exact join_above_empty level (relative location member)

end SupportSearch

namespace Toolchain

variable (settings? : Option NativeSettings) (overrides : Overrides) (origin : String)

theorem words_translator_standard : (standard origin).translator.words = Text.words "llc" := by
  have single : Text.words "llc" = ["llc"] := by decide +kernel
  exact single.symm

theorem words_linker_standard : (standard origin).linker.words = Text.words "clang" := by
  have single : Text.words "clang" = ["clang"] := by decide +kernel
  exact single.symm

theorem translator_resolve : (resolve settings? overrides origin).translator =
    ((standard origin).translator.choose (settings?.bind (·.translator))).choose
      overrides.translator := by
  cases settings? <;> rfl

theorem linker_resolve : (resolve settings? overrides origin).linker =
    ((standard origin).linker.choose (settings?.bind (·.linker))).choose overrides.linker := by
  cases settings? <;> rfl

theorem relocationModel_resolve : (resolve settings? overrides origin).relocationModel =
    (settings?.bind (·.relocationModel)).getD "pic" := by
  cases settings? <;> rfl

theorem linkArgs_resolve : (resolve settings? overrides origin).linkArgs =
    (settings?.map (·.linkArgs)).getD [] := by
  cases settings? <;> rfl

theorem timeoutMs_resolve : (resolve settings? overrides origin).timeoutMs =
    settings?.bind (·.timeoutMs) := by
  cases settings? with
  | none => rfl
  | some settings => exact Option.or_none

theorem runtime_resolve : (resolve settings? overrides origin).runtime =
    { explicit := (settings?.bind (·.runtime)).map overrides.runtime.getD
      builtin := some (SupportSearch.builtinLocation origin)
      override := overrides.runtime } := by
  cases settings? with
  | none =>
      simp [resolve, standard, applyOverrides, SupportSearch.standard]
  | some settings =>
      simp [resolve, standard, applyOverrides, applySettings, SupportSearch.standard]

end Toolchain

end Native

namespace Session

open Native

def native? (session : Session) : Option NativeSettings :=
  session.manifest.bind (·.2.native)

/-- The directory of the manifest, where there is one and that is not the working directory. -/
def directory (session : Session) : String :=
  (session.manifest.bind fun (file, _) => Path.parent? file).getD ""

theorem fromManifest_eq (session : Session) (path : String) : session.fromManifest path =
    if Path.isAbsolute path || session.directory.isEmpty then path
    else Path.join session.directory path := by
  rw [fromManifest, manifestDir?, directory]
  cases session.manifest with
  | none => simp
  | some manifest =>
      obtain ⟨file, manifest⟩ := manifest
      simp only [Option.bind_some, Path.directory?]
      cases Path.parent? file with
      | none => simp
      | some directory =>
          by_cases nowhere : directory.isEmpty
          · simp [Option.filter_some, nowhere]
          · simp [Option.filter_some, nowhere]

theorem settings?_eq (session : Session) : session.settings? = session.native?.map fun settings =>
    { settings with runtime := settings.runtime.map session.fromManifest } := rfl

def IsVoid (command? : Option String) : Prop :=
  ∃ command, command? = some command ∧ Text.allBlank command

variable {session : Session} {flags : ToolchainFlags} {chain : Toolchain} {error : SessionError}
  {flag : String} {current tool : Tool} {command? : Option String}

theorem flagTool_eq_error_iff : flagTool flag current command? = .error error ↔
    error = .blankFlag flag ∧ IsVoid command? := by
  cases command? with
  | none => simp [flagTool, IsVoid]
  | some command =>
      cases parsed : Tool.parse? command with
      | none =>
          simp only [flagTool, parsed, IsVoid, Except.error.injEq, Option.some.injEq,
            exists_eq_left', Tool.parse?_eq_none_iff.mp parsed, and_true]
          exact eq_comm
      | some tool => simp [flagTool, parsed, IsVoid, Tool.allBlank_of_parse? parsed]

theorem flagTool_eq_ok (chosen : flagTool flag current command? = .ok tool) :
    ¬IsVoid command? ∧ tool.words = (command?.map Text.words).getD current.words := by
  constructor
  · intro blank
    rw [flagTool_eq_error_iff.mpr ⟨rfl, blank⟩] at chosen
    cases chosen
  · cases command? with
    | none =>
        cases chosen
        rfl
    | some command =>
        rw [flagTool] at chosen
        split at chosen
        · rename_i parsed
          cases chosen
          exact Tool.words_of_parse? parsed
        · cases chosen

def resolved (session : Session) : Toolchain :=
  .resolve session.settings? session.overrides session.origin

/-- The toolchain with the flags over it, of which the commands have been made tools. -/
def flagged (session : Session) (flags : ToolchainFlags) (translator linker : Tool) : Toolchain :=
  { session.resolved with
    translator, linker
    runtime := { session.resolved.runtime with
      explicit := flags.runtime.or session.resolved.runtime.explicit }
    linkArgs := session.resolved.linkArgs ++ flags.linkArgs
    timeoutMs := flags.timeoutMs.or session.resolved.timeoutMs }

theorem toolchain_eq (session : Session) (flags : ToolchainFlags) : session.toolchain flags =
    (flagTool "--translator" session.resolved.translator flags.translator).bind fun translator =>
    (flagTool "--linker" session.resolved.linker flags.linker).bind fun linker =>
    .ok (session.flagged flags translator linker) := rfl

theorem toolchain_eq_ok (success : session.toolchain flags = .ok chain) :
    ∃ translator linker,
      flagTool "--translator" session.resolved.translator flags.translator = .ok translator ∧
      flagTool "--linker" session.resolved.linker flags.linker = .ok linker ∧
      chain = session.flagged flags translator linker := by
  rw [toolchain_eq] at success
  cases translated : flagTool "--translator" session.resolved.translator flags.translator with
  | error error =>
      rw [translated] at success
      cases success
  | ok translator =>
      cases linked : flagTool "--linker" session.resolved.linker flags.linker with
      | error error =>
          rw [translated, linked] at success
          cases success
      | ok linker =>
          rw [translated, linked] at success
          cases success
          exact ⟨translator, linker, rfl, rfl, rfl⟩

/-- A blank flag is what it fails for, that of the translator before that of the linker. -/
theorem toolchain_eq_error_iff : session.toolchain flags = .error error ↔
    (IsVoid flags.translator ∧ error = .blankFlag "--translator") ∨
    (¬IsVoid flags.translator ∧ IsVoid flags.linker ∧ error = .blankFlag "--linker") := by
  rw [toolchain_eq]
  cases translated : flagTool "--translator" session.resolved.translator flags.translator with
  | error failure =>
      obtain ⟨rfl, blank⟩ := flagTool_eq_error_iff.mp translated
      simp [Except.bind, blank, eq_comm]
  | ok translator =>
      have sound := (flagTool_eq_ok translated).1
      cases linked : flagTool "--linker" session.resolved.linker flags.linker with
      | error failure =>
          obtain ⟨rfl, blank⟩ := flagTool_eq_error_iff.mp linked
          simp [Except.bind, sound, blank, eq_comm]
      | ok linker => simp [Except.bind, sound, (flagTool_eq_ok linked).1]

/-! What has been resolved before any flags are looked at, by the layer it comes from. -/

theorem bind_settings? {α : Type} (session : Session) (setting : NativeSettings → Option α)
    (untouched : ∀ settings runtime,
      setting { settings with runtime } = setting settings) :
    session.settings?.bind setting = session.native?.bind setting := by
  rw [settings?_eq]
  cases session.native? with
  | none => rfl
  | some settings => exact untouched settings _

theorem words_translator_resolved (session : Session) : session.resolved.translator.words =
    Text.words (((stated session.overrides.translator).or
      (stated (session.native?.bind (·.translator)))).getD "llc") := by
  rw [resolved, Toolchain.translator_resolve, bind_settings? session _ fun _ _ => rfl,
    Tool.words_choose_choose (Toolchain.words_translator_standard session.origin)]

theorem words_linker_resolved (session : Session) : session.resolved.linker.words =
    Text.words (((stated session.overrides.linker).or
      (stated (session.native?.bind (·.linker)))).getD "clang") := by
  rw [resolved, Toolchain.linker_resolve, bind_settings? session _ fun _ _ => rfl,
    Tool.words_choose_choose (Toolchain.words_linker_standard session.origin)]

theorem runtime_resolved (session : Session) : session.resolved.runtime =
    { explicit := (session.native?.bind (·.runtime)).map fun path =>
        session.overrides.runtime.getD (session.fromManifest path)
      builtin := some (SupportSearch.builtinLocation session.origin)
      override := session.overrides.runtime } := by
  rw [resolved, Toolchain.runtime_resolve, settings?_eq]
  cases session.native? with
  | none => rfl
  | some settings => simp [Function.comp_def]

theorem words_flagTool {default : String} {lower? : Option String}
    (chosen : flagTool flag current command? = .ok tool)
    (below : current.words = Text.words (lower?.getD default)) :
    tool.words = Text.words ((command?.or lower?).getD default) := by
  rw [(flagTool_eq_ok chosen).2, below]
  cases command? with
  | none => rfl
  | some command => rfl

theorem candidates_flagged (session : Session) (flags : ToolchainFlags) (translator linker : Tool) :
    (session.flagged flags translator linker).runtime.candidates =
      match flags.runtime, session.native?.bind (·.runtime) with
      | some path, _ => [path]
      | none, some path => [session.overrides.runtime.getD (session.fromManifest path)]
      | none, none => SupportSearch.builtinLocation session.origin ::
          session.overrides.runtime.toList ++ SupportSearch.upward := by
  rw [flagged, runtime_resolved]
  cases flags.runtime with
  | some path => rfl
  | none =>
      cases session.native?.bind (·.runtime) with
      | some path => rfl
      | none => exact SupportSearch.candidates_eq _ rfl rfl

/-- A toolchain is denied for nothing but a blank flag. Otherwise each of its settings follows from
the flags, the environment and the manifest, by the rule of that setting. -/
theorem toolchain_precedence (session : Session) (flags : ToolchainFlags) :
    ((∃ error, session.toolchain flags = .error error) ↔
      IsVoid flags.translator ∨ IsVoid flags.linker) ∧
    ∀ chain, session.toolchain flags = .ok chain →
      chain.translator.words = Text.words ((flags.translator.or
        ((stated session.overrides.translator).or
          (stated (session.native?.bind (·.translator))))).getD "llc") ∧
      chain.linker.words = Text.words ((flags.linker.or
        ((stated session.overrides.linker).or
          (stated (session.native?.bind (·.linker))))).getD "clang") ∧
      chain.relocationModel = (session.native?.bind (·.relocationModel)).getD "pic" ∧
      chain.linkArgs = (session.native?.map (·.linkArgs)).getD [] ++ flags.linkArgs ∧
      chain.timeoutMs = flags.timeoutMs.or (session.native?.bind (·.timeoutMs)) ∧
      chain.runtime.candidates =
        match flags.runtime, session.native?.bind (·.runtime) with
        | some path, _ => [path]
        | none, some path => [session.overrides.runtime.getD
            (if Path.isAbsolute path || session.directory.isEmpty then path
              else Path.join session.directory path)]
        | none, none => SupportSearch.builtinLocation session.origin ::
            session.overrides.runtime.toList ++ SupportSearch.upward := by
  constructor
  · simp only [toolchain_eq_error_iff]
    constructor
    · rintro ⟨error, ⟨blank, _⟩ | ⟨_, blank, _⟩⟩
      · exact .inl blank
      · exact .inr blank
    · intro blank
      by_cases first : IsVoid flags.translator
      · exact ⟨_, .inl ⟨first, rfl⟩⟩
      · exact ⟨_, .inr ⟨first, blank.resolve_left first, rfl⟩⟩
  · intro chain success
    obtain ⟨translator, linker, translated, linked, rfl⟩ := toolchain_eq_ok success
    refine ⟨words_flagTool translated session.words_translator_resolved,
      words_flagTool linked session.words_linker_resolved, ?_, ?_, ?_, ?_⟩
    · rw [flagged, resolved, Toolchain.relocationModel_resolve,
        bind_settings? session _ fun _ _ => rfl]
    · rw [flagged, resolved, Toolchain.linkArgs_resolve, settings?_eq, Option.map_map]
      rfl
    · rw [flagged, resolved, Toolchain.timeoutMs_resolve, bind_settings? session _ fun _ _ => rfl]
    · simp only [candidates_flagged, fromManifest_eq]

/-- A session with a manifest in another directory, and a blank command in the environment. -/
def nested : Session where
  manifest := some ("proj/kooix.json",
    { native := some { translator := some "opt -x", runtime := some "rt.c" } })
  overrides := { translator := some " " }

theorem toolchain_precedence_nested :
    ∃ chain, nested.toolchain { linker := some "ld -s" } = .ok chain ∧
      chain.translator.words = ["opt", "-x"] ∧ chain.linker.words = ["ld", "-s"] ∧
      chain.runtime.candidates = ["proj/rt.c"] := by
  obtain ⟨denied, settled⟩ := toolchain_precedence nested { linker := some "ld -s" }
  have sound : ¬(IsVoid none ∨ IsVoid (some "ld -s")) := by
    have blank : Text.allBlank "ld -s" = false := by decide +kernel
    simp [IsVoid, blank]
  cases outcome : nested.toolchain { linker := some "ld -s" } with
  | error error => exact absurd (denied.mp ⟨error, outcome⟩) sound
  | ok chain =>
      obtain ⟨translator, linker, _, _, _, candidates⟩ := settled chain outcome
      refine ⟨chain, rfl, translator.trans ?_, linker.trans ?_, candidates.trans ?_⟩
      · decide +kernel
      · decide +kernel
      · decide +kernel

end Session

end Bundler
