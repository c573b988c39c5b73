import Bundler.Proofs.Load.Closure
import Bundler.Proofs.Load.Sources
import Bundler.Proofs.Path.Denotation

/-!
Where the modules of a load were found, and which of them were found at one place. Modules are told
apart by the paths that were asked for, so that a search from the directories above can come upon
one file for two of them.
-/

namespace Bundler.Source

open Bundler.Path (IsBase Place denote)

namespace ModulePath

variable {path other : ModulePath}

/-! A search from the directories above. -/

theorem climbed_zero (path : ModulePath) : path.climbed 0 = path :=
  ext_iff_text.mpr (climb_zero path.text)

theorem key_climbed_add_iff (relative : Path.isAbsolute path.text = false)
    (otherRelative : Path.isAbsolute other.text = false) (levels more : Nat) :
    (path.climbed levels).key = (other.climbed (levels + more)).key ↔
      path.key = (other.climbed more).key := by
  rw [key_eq_iff, key_eq_iff, climbed, climbed, climbed, isAbsolute_climb relative,
    isAbsolute_climb otherRelative, isAbsolute_climb otherRelative, relative,
    normalNames_climb relative, normalNames_climb otherRelative, normalNames_climb otherRelative,
    List.replicate_add, List.append_assoc, List.append_right_inj]

theorem key_climbed_eq_iff (relative : Path.isAbsolute path.text = false)
    (otherRelative : Path.isAbsolute other.text = false) (distinct : path.key ≠ other.key)
    (levels otherLevels : Nat) :
    (path.climbed levels).key = (other.climbed otherLevels).key ↔
      levels < otherLevels ∧ path.key = (other.climbed (otherLevels - levels)).key ∨
      otherLevels < levels ∧ other.key = (path.climbed (levels - otherLevels)).key := by
  rcases Nat.lt_trichotomy levels otherLevels with lower | rfl | higher
  · obtain ⟨more, rfl⟩ := Nat.exists_eq_add_of_le lower.le
    rw [key_climbed_add_iff relative otherRelative, Nat.add_sub_cancel_left]
    simp [lower, lower.not_gt]
  · have same := key_climbed_add_iff relative otherRelative levels 0
    rw [Nat.add_zero, climbed_zero] at same
    simp [same, distinct]
  · obtain ⟨more, rfl⟩ := Nat.exists_eq_add_of_le higher.le
    rw [eq_comm, key_climbed_add_iff otherRelative relative, Nat.add_sub_cancel_left]
    simp [higher, higher.not_gt]

theorem denote_root (path : String) : denote [] path = Place.follow [] (Path.names path) := by
  rw [denote, ite_self]

theorem denote_of_absolute {path : String} (absolute : Path.isAbsolute path = true)
    (cwd : Place) : denote cwd path = denote [] path := by
  rw [denote, denote, if_pos absolute, if_pos absolute]

theorem denote_root_climb (levels : Nat) (path : String) :
    denote [] (climb levels path) = denote [] path := by
  induction levels with
  | zero => rw [climb_zero]
  | succ levels ih =>
      have above := Path.names_append_slash ['.', '.'] (climb levels path).toList
      have parent : Path.names (String.ofList ['.', '.']) = [".."] := by decide +kernel
      have whole : String.ofList (['.', '.'] ++ '/' :: (climb levels path).toList) =
          climb (levels + 1) path := by
        rw [climb_succ, ← String.toList_inj]
        simp [String.toList_append]
      rw [whole, parent, String.ofList_toList, List.singleton_append] at above
      rw [← ih, denote_root, denote_root, above, Place.follow_cons, Place.step_parent]
      rfl

theorem key_eq_of_key_climbed_eq (absolute : Path.isAbsolute path.text = true)
    (otherAbsolute : Path.isAbsolute other.text = true) {levels otherLevels : Nat}
    (same : (path.climbed levels).key = (other.climbed otherLevels).key) :
    path.key = other.key := by
  apply key_eq_of_denote_eq
  intro cwd _
  -- Nothing lies above the root, so read there each path leads to where it was looked for.
  calc denote cwd path.text
      = denote [] path.text := denote_of_absolute absolute cwd
    _ = denote [] (path.climbed levels).text := (denote_root_climb levels path.text).symm
    _ = denote [] (other.climbed otherLevels).text := by rw [← denote_key, same, denote_key]
    _ = denote [] other.text := denote_root_climb otherLevels other.text
    _ = denote cwd other.text := (denote_of_absolute otherAbsolute cwd).symm

theorem isBase_dot : IsBase "./" :=
  .inr ⟨['.'], rfl⟩

/-- A path read from the directory it is looked for in, even if it begins at the root. -/
def unrooted (path : ModulePath) : ModulePath where
  text := "./" ++ path.text
  extended := by rw [hasExtension_append isBase_dot, path.extended]

theorem isAbsolute_climb_succ (levels : Nat) (path : String) :
    Path.isAbsolute (climb (levels + 1) path) = false := by
  simp [climb_succ, Path.isAbsolute, String.toList_append]

theorem normalRead_climb_unrooted (levels : Nat) (path : ModulePath) (above : List String) :
    normalRead false above (climb levels path.unrooted.text) =
      normalRead false above (climb levels path.text) := by
  induction levels generalizing above with
  | zero =>
      have here : normalRead false above "./" = above := by
        have dot : Path.names "./" = [".", ""] := by decide +kernel
        simp [normalRead, dot, normalStep]
      rw [climb_zero, climb_zero, unrooted, normalRead_append isBase_dot, here]
  | succ levels ih =>
      rw [climb_succ, climb_succ, normalRead_append isBase_parent, normalRead_append isBase_parent,
        ih]

theorem key_climbed_unrooted {levels : Nat} (above : 0 < levels) (path : ModulePath) :
    (path.unrooted.climbed levels).key = (path.climbed levels).key := by
  obtain ⟨levels, rfl⟩ := Nat.exists_eq_add_of_lt above
  rw [key_eq_iff, climbed, climbed, Nat.zero_add, isAbsolute_climb_succ, isAbsolute_climb_succ,
    normalNames_eq, normalNames_eq, isAbsolute_climb_succ, isAbsolute_climb_succ,
    normalRead_climb_unrooted]
  exact ⟨rfl, rfl⟩

end ModulePath

/-! Modules of a load. -/

namespace Module

def place (module : Module) : String :=
  (ModulePath.ofRaw module.location).key

/-- The module was found at its path from the directory so many levels up. -/
def FoundAt (module : Module) (levels : Nat) : Prop :=
  module.location = (module.path.climbed levels).text

variable {module other : Module} {levels otherLevels : Nat}

theorem FoundAt.place_eq (found : module.FoundAt levels) :
    module.place = (module.path.climbed levels).key := by
  rw [place, found, ModulePath.ofRaw_text]

theorem exists_foundAt {reader : Reader} {text : String}
    (located : locate reader module.path = .ok ⟨module.location, text⟩) :
    ∃ levels ≤ ModulePath.maxClimb, module.FoundAt levels := by
  obtain ⟨_, read, _⟩ := conclude_eq_ok located
  obtain ⟨levels, inRange, location⟩ := List.mem_map.mp (mem_probe read).1
  exact ⟨levels, Nat.lt_succ_iff.mp (List.mem_range.mp inRange), location.symm⟩

theorem place_ne_of_absolute (distinct : module.key ≠ other.key) (found : module.FoundAt levels)
    (otherFound : other.FoundAt otherLevels) (absolute : Path.isAbsolute module.path.text = true)
    (otherAbsolute : Path.isAbsolute other.path.text = true) : module.place ≠ other.place := by
  rw [found.place_eq, otherFound.place_eq]
  intro same
  exact distinct (ModulePath.key_eq_of_key_climbed_eq absolute otherAbsolute same)

theorem place_eq_iff_of_absolute_left (found : module.FoundAt levels)
    (otherFound : other.FoundAt otherLevels) (absolute : Path.isAbsolute module.path.text = true)
    (otherRelative : Path.isAbsolute other.path.text = false) :
    module.place = other.place ↔ 0 < levels ∧
      (module.path.unrooted.climbed levels).key = (other.path.climbed otherLevels).key := by
  rw [found.place_eq, otherFound.place_eq]
  rcases Nat.eq_zero_or_pos levels with rfl | above
  · rw [ModulePath.climbed_zero, ModulePath.key_eq_iff, absolute, ModulePath.climbed,
      ModulePath.isAbsolute_climb otherRelative]
    simp
  · rw [ModulePath.key_climbed_unrooted above]
    simp [above]

end Module

/-- Which distinct modules of a load were found at one place. Two whose paths begin at the root
never are. Two whose paths do not are just when the path of one, from as many levels up as the other was
found higher, is a spelling of the other. One of each kind can be only when that from the root was
found from a directory above, where its path is read as if it did not begin there. -/
theorem load_places {reader : Reader} {depth : Nat} {entry : String} {loaded : Loaded}
    (success : (load reader depth entry).result = .ok loaded) :
    loaded.graph.modules.Nodup ∧
    (∀ module ∈ loaded.graph.modules, ∃ levels ≤ ModulePath.maxClimb, module.FoundAt levels) ∧
    ∀ module ∈ loaded.graph.modules, ∀ other ∈ loaded.graph.modules, module ≠ other →
      ∀ levels otherLevels, module.FoundAt levels → other.FoundAt otherLevels →
        (Path.isAbsolute module.path.text → Path.isAbsolute other.path.text →
          module.place ≠ other.place) ∧
        (¬Path.isAbsolute module.path.text → ¬Path.isAbsolute other.path.text →
          (module.place = other.place ↔
            levels < otherLevels ∧
              module.key = (other.path.climbed (otherLevels - levels)).key ∨
            otherLevels < levels ∧
              other.key = (module.path.climbed (levels - otherLevels)).key)) ∧
        (Path.isAbsolute module.path.text → ¬Path.isAbsolute other.path.text →
          (module.place = other.place ↔ 0 < levels ∧
            (module.path.unrooted.climbed levels).key =
              (other.path.climbed otherLevels).key)) := by
  obtain ⟨final, run, rfl⟩ := visits_of_load success
  have nodup := run.entry_balanced.keys_nodup
  obtain ⟨texts, read, _⟩ := run.entry_sourced
  simp only [Traversal.loaded, Bool.not_eq_true]
  refine ⟨nodup.of_map _, ?_, ?_⟩
  · have located := read.imp fun module text readAs =>
      And.intro (Module.exists_foundAt readAs.located) readAs
    exact (List.forall₂_and_left _ _).mp located |>.1
  · intro module member other otherMember different levels otherLevels found otherFound
    have distinct : module.key ≠ other.key := fun same =>
      different (List.inj_on_of_nodup_map nodup member otherMember same)
    refine ⟨Module.place_ne_of_absolute distinct found otherFound, ?_,
      Module.place_eq_iff_of_absolute_left found otherFound⟩
    intro relative otherRelative
    rw [found.place_eq, otherFound.place_eq]
    exact ModulePath.key_climbed_eq_iff relative otherRelative distinct levels otherLevels

def raised : Reader :=
  .ofList
    [("m.kooix", .ok ⟨"import \"/x\"; import \"y\";", true⟩), ("..//x.kooix", .ok ⟨"", true⟩),
      ("../y.kooix", .ok ⟨"", true⟩)]
    .noSuchFile

theorem load_places_raised :
    ∃ loaded, (load raised 2 "m").result = .ok loaded ∧
      loaded.graph.modules.map (fun module => (module.key, module.place)) =
        [("/x.kooix", "../x.kooix"), ("y.kooix", "../y.kooix"), ("m.kooix", "m.kooix")] ∧
      ∀ module ∈ loaded.graph.modules, ∃ levels ≤ ModulePath.maxClimb, module.FoundAt levels := by
  have outcome : ((load raised 2 "m").result.toOption.map fun loaded =>
      loaded.graph.modules.map fun module => (module.key, module.place)) =
        some [("/x.kooix", "../x.kooix"), ("y.kooix", "../y.kooix"), ("m.kooix", "m.kooix")] := by
    decide +kernel
  obtain ⟨loaded, success, places⟩ := exists_ok_of_map_eq outcome
  obtain ⟨_, found, _⟩ := load_places success
  exact ⟨loaded, success, places, found⟩

def strayed : Reader :=
  .ofList
    [("a.kooix", .ok ⟨"import \"b\";\nimport \"../b\";", true⟩), ("../b.kooix", .ok ⟨"", true⟩)]
    .noSuchFile

/-- One file is in the unit twice, for two modules. -/
theorem load_strayed :
    ∃ loaded, (load strayed 2 "a").result = .ok loaded ∧
      loaded.graph.modules.map Module.key = ["b.kooix", "../b.kooix", "a.kooix"] ∧
      loaded.graph.modules.map Module.place = ["../b.kooix", "../b.kooix", "a.kooix"] ∧
      ¬loaded.graph.modules.Pairwise fun module other => module.place ≠ other.place := by
  have outcome : ((load strayed 2 "a").result.toOption.map fun loaded =>
      (loaded.graph.modules.map Module.key, loaded.graph.modules.map Module.place)) =
        some (["b.kooix", "../b.kooix", "a.kooix"], ["../b.kooix", "../b.kooix", "a.kooix"]) := by
    decide +kernel
  obtain ⟨loaded, success, both⟩ := exists_ok_of_map_eq outcome
  obtain ⟨keys, places⟩ := Prod.mk.inj both
  refine ⟨loaded, success, keys, places, ?_⟩
  rw [← List.pairwise_map (f := Module.place) (R := (· ≠ ·)), places]
  decide +kernel

end Bundler.Source
