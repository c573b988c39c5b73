import Bundler.Proofs.Load.Visits

/-!
Loads that fail. `Stops` relates the state before a sequence of visits to the one in which the
first of them fails, at whatever depth.
-/

namespace Bundler.Source

/-- Paths are visited in order, with at most `depth` modules open below each other, and the first
visit that fails ends them. -/
inductive Stops (reader : Reader) :
    Nat → Option ModulePath → List ModulePath → LoadError → Traversal → Traversal → Prop
  | deep {importer? : Option ModulePath} {path : ModulePath} {paths : List ModulePath}
      {state : Traversal} (new : path.key ∉ state.visited) :
      Stops reader 0 importer? (path :: paths) (.tooDeep path) state state
  | missing {depth : Nat} {importer? : Option ModulePath} {path : ModulePath}
      {paths : List ModulePath} {error : LoadError} {state : Traversal}
      (new : path.key ∉ state.visited) (lost : locate reader path = .error error) :
      Stops reader (depth + 1) importer? (path :: paths) error state
        (state.enter path (reader.probe path.candidates))
  | inside {depth : Nat} {importer? : Option ModulePath} {path : ModulePath}
      {paths : List ModulePath} {error : LoadError} {source : Located} {state final : Traversal}
      (new : path.key ∉ state.visited) (found : locate reader path = .ok source)
      (under : Stops reader depth (some path) (targetsOf path source.text) error
        (state.opening reader path) final) :
      Stops reader (depth + 1) importer? (path :: paths) error state final
  | later {depth : Nat} {importer? : Option ModulePath} {path : ModulePath}
      {paths : List ModulePath} {error : LoadError} {state inner final : Traversal}
      (first : Visits reader importer? [path] state inner)
      (rest : Stops reader depth importer? paths error inner final) :
      Stops reader depth importer? (path :: paths) error state final

variable {reader : Reader} {depth : Nat} {importer? : Option ModulePath} {path : ModulePath}
  {paths : List ModulePath} {error : LoadError} {state final : Traversal}

namespace Stops

theorem of_visitAll_of_visit
    (single : ∀ {path : ModulePath} {state final : Traversal},
      (visit reader depth importer? path).run state = .error error final →
        ∀ paths, Stops reader depth importer? (path :: paths) error state final)
    (ran : (visitAll reader depth importer? paths).run state = .error error final) :
    Stops reader depth importer? paths error state final := by
  induction paths generalizing state with
  | nil =>
      rw [visitAll_nil] at ran
      cases ran
  | cons path paths tail =>
      rw [visitAll_cons] at ran
      cases first : (visit reader depth importer? path).run state with
      | ok value inner =>
          rw [first] at ran
          exact .later (.of_visit first) (tail ran)
      | error error inner =>
          rw [first] at ran
          cases ran
          exact single first paths

theorem of_visit (ran : (visit reader depth importer? path).run state = .error error final)
    (paths : List ModulePath) :
    Stops reader depth importer? (path :: paths) error state final := by
  induction depth generalizing importer? path state final paths with
  | zero =>
      by_cases met : path.key ∈ state.visited
      · rw [visit_met met] at ran
        cases ran
      · rw [visit_zero met] at ran
        cases ran
        exact .deep met
  | succ depth deeper =>
      by_cases met : path.key ∈ state.visited
      · rw [visit_met met] at ran
        cases ran
      · cases found : locate reader path with
        | error lost =>
            rw [visit_missing met found] at ran
            cases ran
            exact .missing met found
        | ok source =>
            rw [visit_found met found] at ran
            cases under : (visitAll reader depth (some path)
                (targetsOf path source.text)).run (state.opening reader path) with
            | ok value inner =>
                rw [under] at ran
                cases ran
            | error error inner =>
                rw [under] at ran
                cases ran
                exact .inside met found (of_visitAll_of_visit deeper under)

end Stops

theorem load_cases (reader : Reader) (depth : Nat) {entry : String} (named : entry ≠ "") :
    (∃ final, Visits reader none [.ofRaw entry] {} final ∧
      load reader depth entry = ⟨.ok (final.loaded (.ofRaw entry)),
        (final.note [.finished final.modules.length (.ofRaw entry)]).events⟩) ∨
    (∃ error final, Stops reader depth none [.ofRaw entry] error {} final ∧
      load reader depth entry = ⟨.error error, final.events⟩) := by
  cases ran : (visit reader depth none (.ofRaw entry)).run {} with
  | ok value final =>
      refine .inl ⟨final, .of_visit ran, ?_⟩
      simp [load, named, ran, Traversal.loaded]
  | error error final =>
      refine .inr ⟨error, final, .of_visit ran [], ?_⟩
      simp [load, named, ran]

/-! The limit of depth. -/

def Exceeds (result : EStateM.Result LoadError Traversal PUnit) : Prop :=
  ∃ path final, result = .error (.tooDeep path) final

variable {limit : Nat}

theorem visitAll_eq_of_visit_eq
    (single : ∀ path state, ¬Exceeds ((visit reader depth importer? path).run state) →
      (visit reader limit importer? path).run state =
        (visit reader depth importer? path).run state)
    (within : ¬Exceeds ((visitAll reader depth importer? paths).run state)) :
    (visitAll reader limit importer? paths).run state =
      (visitAll reader depth importer? paths).run state := by
  induction paths generalizing state with
  | nil => rw [visitAll_nil, visitAll_nil]
  | cons path paths tail =>
      rw [visitAll_cons] at within
      cases first : (visit reader depth importer? path).run state with
      | ok value inner =>
          have same := single path state (by simp [first, Exceeds])
          rw [first] at within same
          rw [visitAll_cons_ok first, visitAll_cons_ok same, tail within]
      | error error inner =>
          rw [first] at within
          have same := single path state (by rwa [first])
          rw [visitAll_cons, visitAll_cons, same, first]

theorem visit_eq_of_le (enough : depth ≤ limit)
    (within : ¬Exceeds ((visit reader depth importer? path).run state)) :
    (visit reader limit importer? path).run state =
      (visit reader depth importer? path).run state := by
  induction depth generalizing limit importer? path state with
  | zero =>
      by_cases met : path.key ∈ state.visited
      · rw [visit_met met, visit_met met]
      · exact absurd ⟨path, state, visit_zero met⟩ within
  | succ depth deeper =>
      obtain ⟨limit, rfl⟩ : ∃ less, limit = less + 1 := ⟨limit - 1, by omega⟩
      by_cases met : path.key ∈ state.visited
      · rw [visit_met met, visit_met met]
      · cases found : locate reader path with
        | error lost => rw [visit_missing met found, visit_missing met found]
        | ok source =>
            rw [visit_found met found] at within
            rw [visit_found met found, visit_found met found,
              visitAll_eq_of_visit_eq fun _ _ => deeper (by omega)]
            rintro ⟨other, final, exceeded⟩
            rw [exceeded] at within
            exact within ⟨other, final, rfl⟩

theorem load_eq_of_le {entry : String} (enough : depth ≤ limit)
    (within : ∀ path, (load reader depth entry).result ≠ .error (.tooDeep path)) :
    load reader limit entry = load reader depth entry := by
  by_cases named : entry = ""
  · simp [load, named]
  · have shallow : ¬Exceeds ((visit reader depth none (.ofRaw entry)).run {}) := by
      rintro ⟨path, final, exceeded⟩
      apply within path
      simp [load, named, exceeded]
    simp [load, named, visit_eq_of_le enough shallow]

end Bundler.Source
