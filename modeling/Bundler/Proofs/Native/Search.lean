import Bundler.Proofs.Native.Course
import Bundler.Proofs.Path.Denotation

/-!
Where the support file is looked for, and which file is taken. However the directory is written that
a search starts from, its candidates lie below that directory and those above it.
-/

namespace Bundler.Native

open Bundler.Path (IsProper Place denote)

namespace SupportSearch

variable (search : SupportSearch) (cwd : Place)

theorem denote_above (root : String) (level : Nat) :
    denote cwd (above root level) = (denote cwd root).rdrop level := by
  have climbed : denote cwd (above root level) =
      (denote cwd root).follow (List.replicate level "..") := by
    induction level with
    | zero => rfl
    | succ level ih =>
        have up : Path.names ".." = [".."] := Path.names_of_no_slash (by simp)
        rw [above, Path.denote_join cwd (by decide +kernel), ih, up, List.replicate_succ',
          Place.follow_append]
  rw [climbed, Place.follow_parents]

def start : Place :=
  search.root.elim cwd (denote cwd)

theorem denote_root : denote cwd (search.root.getD "") = search.start cwd := by
  rw [start]
  cases search.root with
  | none => exact Path.denote_empty cwd
  | some root => rfl

theorem names_relativeLocations : relativeLocations.map Path.names =
    [["native_runtime", "runtime.c"], ["kooix-linker", "native_runtime", "runtime.c"]] := by
  decide +kernel

theorem relative_location {location : String} (member : location ∈ relativeLocations) :
    Path.isAbsolute location = false ∧ ∀ name ∈ Path.names location, IsProper name := by
  revert location
  decide +kernel

theorem denote_candidate {location : String} (member : location ∈ relativeLocations)
    (level : Nat) :
    denote cwd (Path.join (above (search.root.getD "") level) location) =
      (search.start cwd).rdrop level ++ Path.names location := by
  obtain ⟨relative, proper⟩ := relative_location member
  rw [Path.denote_join cwd relative, denote_above, denote_root, Place.follow_proper _ proper]

theorem denote_builtinLocation (origin : String) :
    denote cwd (builtinLocation origin) = denote cwd origin ++ ["native_runtime", "runtime.c"] := by
  have directory : Path.names "native_runtime" = ["native_runtime"] := by decide +kernel
  have file : Path.names "runtime.c" = ["runtime.c"] := by decide +kernel
  rw [builtinLocation, Path.denote_join cwd (by decide +kernel), file,
    Path.denote_join cwd (by decide +kernel), directory, Place.follow_proper _ (by decide +kernel),
    Place.follow_proper _ (by decide +kernel), List.append_assoc]
  rfl

end SupportSearch

namespace World

variable {σ : Type} (world : World σ) (ledger : Ledger σ) (search : SupportSearch)

theorem findSupport_eq_ok_iff {found : String} :
    (perform (world.host.findSupport search) ledger).1 = .ok found ↔
      ∃ before after, search.candidates = before ++ found :: after ∧
        world.isFile ledger.state found = true ∧
        ∀ path ∈ before, world.isFile ledger.state path = false := by
  have first : (perform (world.host.findSupport search) ledger).1 = .ok found ↔
      search.candidates.find? (world.isFile ledger.state) = some found := by
    rw [perform_findSupport]
    cases search.candidates.find? (world.isFile ledger.state) <;> simp
  rw [first, List.find?_eq_some_iff_append]
  constructor
  · rintro ⟨isFile, before, after, same, missing⟩
    exact ⟨before, after, same, isFile, by simpa using missing⟩
  · rintro ⟨before, after, same, isFile, missing⟩
    exact ⟨isFile, before, after, same, by simpa using missing⟩

theorem findSupport_eq_error_iff {error : BuildError} :
    (perform (world.host.findSupport search) ledger).1 = .error error ↔
      error = .missingSupport search.candidates ∧
        ∀ path ∈ search.candidates, world.isFile ledger.state path = false := by
  have missing := @List.find?_eq_none _ (world.isFile ledger.state) search.candidates
  simp only [Bool.not_eq_true] at missing
  rw [perform_findSupport, ← missing]
  cases search.candidates.find? (world.isFile ledger.state) with
  | none => simp [eq_comm]
  | some found => simp

/-- The search takes the first of its candidates that is a file and fails, telling all of them, when
none is. Unless it is told the path of the file, the candidates are the file of the installation and
that of the environment, and then each relative location, below the directory that the search starts
from and below those above it. -/
theorem findSupport_first :
    (∀ found, (perform (world.host.findSupport search) ledger).1 = .ok found ↔
      ∃ before after, search.candidates = before ++ found :: after ∧
        world.isFile ledger.state found = true ∧
        ∀ path ∈ before, world.isFile ledger.state path = false) ∧
    (∀ error, (perform (world.host.findSupport search) ledger).1 = .error error ↔
      error = .missingSupport search.candidates ∧
        ∀ path ∈ search.candidates, world.isFile ledger.state path = false) ∧
    ∃ relative,
      search.candidates =
        (match search.explicit with
        | some path => [path]
        | none => search.builtin.toList ++ search.override.toList ++ relative) ∧
      ∀ cwd, relative.map (denote cwd) =
        [["native_runtime", "runtime.c"], ["kooix-linker", "native_runtime", "runtime.c"]].flatMap
          fun names => (List.range 9).map fun level => (search.start cwd).rdrop level ++ names := by
  refine ⟨fun _ => world.findSupport_eq_ok_iff ledger search,
    fun _ => world.findSupport_eq_error_iff ledger search, _, rfl, ?_⟩
  intro cwd
  rw [List.map_flatMap, ← SupportSearch.names_relativeLocations, List.flatMap_map]
  refine List.flatMap_congr fun location member => ?_
  rw [List.map_map]
  exact List.map_congr_left fun level _ => search.denote_candidate cwd member level

/-- No slash is put behind the root, which has one, nor in front of a path that starts from the
working directory. -/
example :
    ({ root := some "/" } : SupportSearch).candidates[1]? = some "/../native_runtime/runtime.c" ∧
    ({} : SupportSearch).candidates[1]? = some "../native_runtime/runtime.c" := by
  decide +kernel

end World

end Bundler.Native
