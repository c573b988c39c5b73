import Bundler.Source.Load

/-!
Loads that succeed, told without a bound on their depth: `Visits` relates the states before and
after a sequence of visits, and holds of exactly those that some depth allows.
-/

namespace Bundler.Source

namespace Traversal

@[simp] theorem visited_note (state : Traversal) (events : List Event) :
    (state.note events).visited = state.visited := rfl

@[simp] theorem loading_note (state : Traversal) (events : List Event) :
    (state.note events).loading = state.loading := rfl

@[simp] theorem unit_note (state : Traversal) (events : List Event) :
    (state.note events).unit = state.unit := rfl

@[simp] theorem modules_note (state : Traversal) (events : List Event) :
    (state.note events).modules = state.modules := rfl

@[simp] theorem cycles_note (state : Traversal) (events : List Event) :
    (state.note events).cycles = state.cycles := rfl

theorem revisit_eq (state : Traversal) (importer? : Option ModulePath) (path : ModulePath) :
    ∃ cycles events,
      state.revisit importer? path = { state with cycles := cycles, events := events } := by
  unfold revisit
  split
  · split
    · exact ⟨_, _, rfl⟩
    · exact ⟨_, _, rfl⟩
  · exact ⟨_, _, rfl⟩

@[simp] theorem visited_revisit (state : Traversal) (importer? : Option ModulePath)
    (path : ModulePath) : (state.revisit importer? path).visited = state.visited := by
  obtain ⟨_, _, same⟩ := state.revisit_eq importer? path
  rw [same]

@[simp] theorem loading_revisit (state : Traversal) (importer? : Option ModulePath)
    (path : ModulePath) : (state.revisit importer? path).loading = state.loading := by
  obtain ⟨_, _, same⟩ := state.revisit_eq importer? path
  rw [same]

@[simp] theorem unit_revisit (state : Traversal) (importer? : Option ModulePath)
    (path : ModulePath) : (state.revisit importer? path).unit = state.unit := by
  obtain ⟨_, _, same⟩ := state.revisit_eq importer? path
  rw [same]

@[simp] theorem modules_revisit (state : Traversal) (importer? : Option ModulePath)
    (path : ModulePath) : (state.revisit importer? path).modules = state.modules := by
  obtain ⟨_, _, same⟩ := state.revisit_eq importer? path
  rw [same]

theorem cycles_revisit_none (state : Traversal) (path : ModulePath) :
    (state.revisit none path).cycles = state.cycles := rfl

theorem cycles_revisit_some (state : Traversal) (importer path : ModulePath) :
    (state.revisit (some importer) path).cycles =
      state.cycles ++ if path.key ∈ state.loading then [⟨importer, path⟩] else [] := by
  by_cases open_ : path.key ∈ state.loading
  · simp [revisit, open_]
  · simp [revisit, open_]

/-- A module that is met for the first time and found, before its imports are followed. -/
def opening (state : Traversal) (reader : Reader) (path : ModulePath) : Traversal :=
  (state.enter path (reader.probe path.candidates)).begin path

@[simp] theorem visited_opening (state : Traversal) (reader : Reader) (path : ModulePath) :
    (state.opening reader path).visited = path.key :: state.visited := rfl

@[simp] theorem loading_opening (state : Traversal) (reader : Reader) (path : ModulePath) :
    (state.opening reader path).loading = path.key :: state.loading := rfl

@[simp] theorem unit_opening (state : Traversal) (reader : Reader) (path : ModulePath) :
    (state.opening reader path).unit = state.unit := rfl

@[simp] theorem modules_opening (state : Traversal) (reader : Reader) (path : ModulePath) :
    (state.opening reader path).modules = state.modules := rfl

@[simp] theorem cycles_opening (state : Traversal) (reader : Reader) (path : ModulePath) :
    (state.opening reader path).cycles = state.cycles := rfl

@[simp] theorem visited_close (state : Traversal) (path : ModulePath) (source : Located)
    (imports : List Import) : (state.close path source imports).visited = state.visited := rfl

@[simp] theorem loading_close (state : Traversal) (path : ModulePath) (source : Located)
    (imports : List Import) :
    (state.close path source imports).loading = state.loading.tail := rfl

@[simp] theorem unit_close (state : Traversal) (path : ModulePath) (source : Located)
    (imports : List Import) :
    (state.close path source imports).unit = state.unit.append path source.text := rfl

@[simp] theorem modules_close (state : Traversal) (path : ModulePath) (source : Located)
    (imports : List Import) :
    (state.close path source imports).modules =
      state.modules ++ [⟨path, source.location, imports⟩] := rfl

@[simp] theorem cycles_close (state : Traversal) (path : ModulePath) (source : Located)
    (imports : List Import) : (state.close path source imports).cycles = state.cycles := rfl

end Traversal

def targetsOf (path : ModulePath) (text : String) : List ModulePath :=
  (importsOf path text).map (·.target)

/-- All paths are visited in order, from one state to another, and no visit fails. -/
inductive Visits (reader : Reader) :
    Option ModulePath → List ModulePath → Traversal → Traversal → Prop
  | nil {importer? : Option ModulePath} {state : Traversal} :
      Visits reader importer? [] state state
  | again {importer? : Option ModulePath} {path : ModulePath} {paths : List ModulePath}
      {state final : Traversal}
      (met : path.key ∈ state.visited)
      (rest : Visits reader importer? paths (state.revisit importer? path) final) :
      Visits reader importer? (path :: paths) state final
  | fresh {importer? : Option ModulePath} {path : ModulePath} {paths : List ModulePath}
      {source : Located} {state inner final : Traversal}
      (new : path.key ∉ state.visited)
      (found : locate reader path = .ok source)
      (below : Visits reader (some path) (targetsOf path source.text)
        (state.opening reader path) inner)
      (rest : Visits reader importer? paths
        (inner.close path source (importsOf path source.text)) final) :
      Visits reader importer? (path :: paths) state final

/-! One visit, by cases. -/

variable {reader : Reader} {importer? : Option ModulePath} {path : ModulePath}
  {paths : List ModulePath} {state inner final : Traversal} {source : Located} {depth : Nat}

def visitAll (reader : Reader) (depth : Nat) (importer? : Option ModulePath)
    (paths : List ModulePath) : LoadM PUnit :=
  forM paths (visit reader depth importer?)

theorem visit_met (met : path.key ∈ state.visited) :
    (visit reader depth importer? path).run state = .ok () (state.revisit importer? path) := by
  unfold visit
  simp [met]

theorem visit_zero (new : path.key ∉ state.visited) :
    (visit reader 0 importer? path).run state = .error (.tooDeep path) state := by
  unfold visit
  simp [new]

theorem visit_missing {error : LoadError} (new : path.key ∉ state.visited)
    (missing : locate reader path = .error error) :
    (visit reader (depth + 1) importer? path).run state =
      .error error (state.enter path (reader.probe path.candidates)) := by
  unfold locate at missing
  unfold visit
  simp [new, missing]

theorem visit_found (new : path.key ∉ state.visited)
    (found : locate reader path = .ok source) :
    (visit reader (depth + 1) importer? path).run state =
      match (visitAll reader depth (some path) (targetsOf path source.text)).run
          (state.opening reader path) with
      | .ok _ inner => .ok () (inner.close path source (importsOf path source.text))
      | .error error inner => .error error inner := by
  unfold locate at found
  rw [visit]
  simp only [new, found, visitAll, targetsOf, Traversal.opening, List.forM_map,
    List.contains_eq_mem, decide_false, Bool.false_eq_true, ↓reduceIte, EStateM.run_bind,
    EStateM.run_get, EStateM.run_set, EStateM.run_modify]
  generalize EStateM.run _ _ = result
  cases result <;> rfl

/-! Visits in sequence. -/

theorem visitAll_nil : (visitAll reader depth importer? []).run state = .ok () state := by
  simp [visitAll]

theorem visitAll_cons : (visitAll reader depth importer? (path :: paths)).run state =
    match (visit reader depth importer? path).run state with
    | .ok _ inner => (visitAll reader depth importer? paths).run inner
    | .error error inner => .error error inner := by
  simp only [visitAll, List.forM_cons, EStateM.run_bind]
  generalize EStateM.run (visit reader depth importer? path) state = result
  cases result <;> rfl

theorem visitAll_cons_ok {inner : Traversal}
    (head : (visit reader depth importer? path).run state = .ok () inner) :
    (visitAll reader depth importer? (path :: paths)).run state =
      (visitAll reader depth importer? paths).run inner := by
  rw [visitAll_cons, head]

theorem Visits.of_visitAll
    (ran : (visitAll reader depth importer? paths).run state = .ok () final) :
    Visits reader importer? paths state final := by
  induction depth generalizing importer? paths state final with
  | zero =>
      induction paths generalizing state with
      | nil =>
          rw [visitAll_nil] at ran
          cases ran
          exact .nil
      | cons path paths tail =>
          by_cases met : path.key ∈ state.visited
          · rw [visitAll_cons_ok (visit_met met)] at ran
            exact .again met (tail ran)
          · rw [visitAll_cons, visit_zero met] at ran
            cases ran
  | succ depth deeper =>
      induction paths generalizing state with
      | nil =>
          rw [visitAll_nil] at ran
          cases ran
          exact .nil
      | cons path paths tail =>
          by_cases met : path.key ∈ state.visited
          · rw [visitAll_cons_ok (visit_met met)] at ran
            exact .again met (tail ran)
          · cases found : locate reader path with
            | error error =>
                rw [visitAll_cons, visit_missing met found] at ran
                cases ran
            | ok source =>
                rw [visitAll_cons, visit_found met found] at ran
                cases below : (visitAll reader depth (some path)
                    (targetsOf path source.text)).run (state.opening reader path) with
                | error error inner =>
                    rw [below] at ran
                    cases ran
                | ok value inner =>
                    rw [below] at ran
                    exact .fresh met found (deeper below) (tail ran)

theorem Visits.of_visit (ran : (visit reader depth importer? path).run state = .ok () final) :
    Visits reader importer? [path] state final := by
  apply Visits.of_visitAll
  rw [visitAll_cons_ok ran, visitAll_nil]

theorem Visits.modules_prefix (run : Visits reader importer? paths state final) :
    state.modules <+: final.modules := by
  induction run with
  | nil => exact List.prefix_rfl
  | again _ _ tail => simpa using tail
  | fresh _ _ _ _ under tail =>
      simp only [Traversal.modules_opening] at under
      exact (under.trans (List.prefix_append _ _)).trans tail

theorem Visits.visitAll_eq_ok (run : Visits reader importer? paths state final)
    (enough : final.modules.length ≤ state.modules.length + depth) :
    (visitAll reader depth importer? paths).run state = .ok () final := by
  induction run generalizing depth with
  | nil => exact visitAll_nil
  | again met _ tail =>
      rw [visitAll_cons_ok (visit_met met)]
      exact tail (by simpa using enough)
  | @fresh _ path _ _ state inner _ new found below rest under tail =>
      have grown := below.modules_prefix.length_le
      have left := rest.modules_prefix.length_le
      simp only [Traversal.modules_opening] at grown
      simp only [Traversal.modules_close, List.length_append, List.length_singleton] at left
      obtain ⟨depth, rfl⟩ : ∃ less, depth = less + 1 := ⟨depth - 1, by omega⟩
      have deep : inner.modules.length ≤ (state.opening reader path).modules.length + depth := by
        simp only [Traversal.modules_opening]
        omega
      rw [visitAll_cons, visit_found new found, under deep]
      exact tail (by
        simp only [Traversal.modules_close, List.length_append, List.length_singleton]
        omega)

theorem Visits.of_unmet (run : Visits reader importer? [path] state final)
    (new : path.key ∉ state.visited) :
    ∃ source inner, locate reader path = .ok source ∧
      Visits reader (some path) (targetsOf path source.text) (state.opening reader path) inner ∧
      final = inner.close path source (importsOf path source.text) := by
  cases run with
  | again met _ => exact absurd met new
  | fresh _ found below rest =>
      cases rest
      exact ⟨_, _, found, below, rfl⟩

/-! Whole loads. -/

theorem exists_ok_of_map_eq {ε α β : Type} {result : Except ε α} {f : α → β} {value : β}
    (outcome : result.toOption.map f = some value) :
    ∃ item, result = .ok item ∧ f item = value := by
  cases result with
  | error error => cases outcome
  | ok item => exact ⟨item, rfl, Option.some.inj outcome⟩

def Traversal.loaded (state : Traversal) (entry : ModulePath) : Loaded :=
  ⟨state.unit, ⟨entry, state.modules, state.cycles⟩⟩

theorem visits_of_load {entry : String} {loaded : Loaded}
    (success : (load reader depth entry).result = .ok loaded) :
    ∃ final, Visits reader none [.ofRaw entry] {} final ∧
      loaded = final.loaded (.ofRaw entry) := by
  unfold load at success
  split at success
  · cases success
  · cases ran : (visit reader depth none (.ofRaw entry)).run {} with
    | error error state =>
        simp only [ran] at success
        cases success
    | ok value final =>
        simp only [ran] at success
        cases success
        exact ⟨final, .of_visit ran, rfl⟩

theorem load_of_visits {entry : String} (named : entry ≠ "")
    (run : Visits reader none [.ofRaw entry] {} final) (enough : final.modules.length ≤ depth) :
    (load reader depth entry).result = .ok (final.loaded (.ofRaw entry)) := by
  have sequence : (visitAll reader depth none [.ofRaw entry]).run {} = .ok () final :=
    run.visitAll_eq_ok (by simpa using enough)
  cases ran : (visit reader depth none (.ofRaw entry)).run {} with
  | error error state =>
      rw [visitAll_cons, ran] at sequence
      cases sequence
  | ok value state =>
      rw [visitAll_cons_ok ran, visitAll_nil] at sequence
      cases sequence
      simp [load, named, ran, Traversal.loaded]

end Bundler.Source
