import Bundler.Proofs.Load.Closure

/-!
The visits that begin in the course of a load, those inside of others included, each with the state
that it begins in. They are seen by watching the load, which changes nothing about it.
-/

namespace Bundler.Source

open Relation

/-- A visit as it begins, with the depth that is left to it. -/
structure Call where
  depth : Nat
  importer? : Option ModulePath
  path : ModulePath
  state : Traversal

structure Watched where
  state : Traversal := {}
  calls : List Call := []

abbrev WatchedM := EStateM LoadError Watched

namespace Watched

def attach {α : Type} (calls : List Call) :
    EStateM.Result LoadError Traversal α → EStateM.Result LoadError Watched α
  | .ok value state => .ok value ⟨state, calls⟩
  | .error error state => .error error ⟨state, calls⟩

def quietly {α : Type} (step : LoadM α) : WatchedM α := fun watched =>
  attach watched.calls (step.run watched.state)

def note (watched : Watched) (depth : Nat) (importer? : Option ModulePath) (path : ModulePath) :
    Watched :=
  { watched with calls := watched.calls ++ [⟨depth, importer?, path, watched.state⟩] }

end Watched

open Watched (attach quietly)

/-- A visit that is noted as it begins, as are those inside of it. -/
def watch (reader : Reader) (depth : Nat) (importer? : Option ModulePath) (path : ModulePath) :
    WatchedM PUnit := do
  modify (·.note depth importer? path)
  let state ← quietly get
  if state.visited.contains path.key then
    quietly (set (state.revisit importer? path))
  else
    match depth with
    | 0 => throw (.tooDeep path)
    | depth + 1 =>
        let reads := reader.probe path.candidates
        quietly (set (state.enter path reads))
        match conclude path reads with
        | .error error => throw error
        | .ok source =>
            quietly (modify (·.begin path))
            let imports := importsOf path source.text
            imports.forM fun edge => watch reader depth (some path) edge.target
            quietly (modify (·.close path source imports))

variable {reader : Reader} {importer? : Option ModulePath} {path : ModulePath}
  {paths : List ModulePath} {start : Watched} {source : Located} {depth : Nat}

def watchAll (reader : Reader) (depth : Nat) (importer? : Option ModulePath)
    (paths : List ModulePath) : WatchedM PUnit :=
  forM paths (watch reader depth importer?)

section

variable {α : Type} {watched : Watched}

@[simp] theorem run_quietly_get :
    (quietly get : WatchedM Traversal).run watched = .ok watched.state watched := rfl

@[simp] theorem run_quietly_set (state : Traversal) :
    (quietly (set state) : WatchedM PUnit).run watched = .ok () { watched with state } := rfl

@[simp] theorem run_quietly_modify (change : Traversal → Traversal) :
    (quietly (modify change) : WatchedM PUnit).run watched =
      .ok () { watched with state := change watched.state } := rfl

end

theorem watch_met (met : path.key ∈ start.state.visited) :
    (watch reader depth importer? path).run start =
      .ok () ⟨start.state.revisit importer? path, (start.note depth importer? path).calls⟩ := by
  unfold watch
  simp [met, Watched.note]

theorem watch_zero (new : path.key ∉ start.state.visited) :
    (watch reader 0 importer? path).run start =
      .error (.tooDeep path) (start.note 0 importer? path) := by
  unfold watch
  simp [new, Watched.note]

theorem watch_missing {error : LoadError} (new : path.key ∉ start.state.visited)
    (missing : locate reader path = .error error) :
    (watch reader (depth + 1) importer? path).run start =
      .error error ⟨start.state.enter path (reader.probe path.candidates),
        (start.note (depth + 1) importer? path).calls⟩ := by
  unfold locate at missing
  unfold watch
  simp [new, missing, Watched.note]

theorem watch_found (new : path.key ∉ start.state.visited)
    (found : locate reader path = .ok source) :
    (watch reader (depth + 1) importer? path).run start =
      match (watchAll reader depth (some path) (targetsOf path source.text)).run
          ⟨start.state.opening reader path, (start.note (depth + 1) importer? path).calls⟩ with
      | .ok _ inner =>
          .ok () ⟨inner.state.close path source (importsOf path source.text), inner.calls⟩
      | .error error inner => .error error inner := by
  unfold locate at found
  rw [watch]
  simp only [new, found, watchAll, targetsOf, Traversal.opening, List.forM_map,
    List.contains_eq_mem, decide_false, Bool.false_eq_true, ↓reduceIte, EStateM.run_bind,
    run_quietly_get, run_quietly_set, run_quietly_modify, EStateM.run_modify, Watched.note]
  generalize EStateM.run _ _ = result
  cases result <;> rfl

theorem watchAll_nil : (watchAll reader depth importer? []).run start = .ok () start := by
  simp [watchAll]

theorem watchAll_cons : (watchAll reader depth importer? (path :: paths)).run start =
    match (watch reader depth importer? path).run start with
    | .ok _ inner => (watchAll reader depth importer? paths).run inner
    | .error error inner => .error error inner := by
  simp only [watchAll, List.forM_cons, EStateM.run_bind]
  generalize EStateM.run (watch reader depth importer? path) start = result
  cases result <;> rfl

/-! What visits leave as it was. -/

/-- What is in a unit is in the other one too, at the same place. -/
def CompilationUnit.Continues (unit later : CompilationUnit) : Prop :=
  ∃ text segments, later = ⟨unit.text ++ text, unit.segments ++ segments⟩

namespace CompilationUnit.Continues

variable {unit later last : CompilationUnit}

theorem refl (unit : CompilationUnit) : unit.Continues unit :=
  ⟨"", [], by simp⟩

theorem append (unit : CompilationUnit) (path : ModulePath) (text : String) :
    unit.Continues (unit.append path text) := by
  refine ⟨path.marker ++ text ++ separator, (unit.append path text).segments.drop
    unit.segments.length, ?_⟩
  simp [CompilationUnit.append, String.append_assoc]

theorem trans (continues : unit.Continues later) (further : later.Continues last) :
    unit.Continues last := by
  obtain ⟨text, segments, rfl⟩ := continues
  obtain ⟨more, others, rfl⟩ := further
  exact ⟨text ++ more, segments ++ others, by simp [String.append_assoc]⟩

end CompilationUnit.Continues

namespace Visits

variable {state final : Traversal}

theorem cycles_prefix (run : Visits reader importer? paths state final) :
    state.cycles <+: final.cycles := by
  induction run with
  | nil => exact List.prefix_rfl
  | @again importer? path _ state _ _ _ tail =>
      refine List.IsPrefix.trans ?_ tail
      cases importer? with
      | none => exact List.prefix_rfl
      | some importer =>
          rw [Traversal.cycles_revisit_some]
          exact List.prefix_append _ _
  | fresh _ _ _ _ under tail => exact under.trans tail

theorem unit_continues (run : Visits reader importer? paths state final) :
    state.unit.Continues final.unit := by
  induction run with
  | nil => exact .refl _
  | again _ _ tail => simpa using tail
  | fresh _ _ _ _ under tail => exact (under.trans (.append _ _ _)).trans tail

end Visits

/-! Which visits begin. -/

/-- One visit begins another: its module is met for the first time and found, and the imports in
front of the other have been visited. -/
structure Call.Begins (reader : Reader) (call next : Call) : Prop where
  depth : call.depth = next.depth + 1
  new : call.path.key ∉ call.state.visited
  importer : next.importer? = some call.path
  reached : ∃ source before after, locate reader call.path = .ok source ∧
    targetsOf call.path source.text = before ++ next.path :: after ∧
    (visitAll reader next.depth (some call.path) before).run
      (call.state.opening reader call.path) = .ok () next.state

namespace Call

variable {call first next : Call}

def Within (reader : Reader) (depth : Nat) (importer? : Option ModulePath)
    (paths : List ModulePath) (state : Traversal) (call : Call) : Prop :=
  ∃ before path after inner, paths = before ++ path :: after ∧
    (visitAll reader depth importer? before).run state = .ok () inner ∧
    ReflTransGen (Begins reader) ⟨depth, importer?, path, inner⟩ call

theorem not_within_nil {state : Traversal} : ¬Within reader depth importer? [] state call := by
  rintro ⟨before, _, _, _, split, _⟩
  simp at split

theorem within_cons {state : Traversal} : Within reader depth importer? (path :: paths) state call ↔
    ReflTransGen (Begins reader) ⟨depth, importer?, path, state⟩ call ∨
    ∃ inner, (visit reader depth importer? path).run state = .ok () inner ∧
      Within reader depth importer? paths inner call := by
  constructor
  · rintro ⟨_ | ⟨first, before⟩, next, after, inner, split, ran, begun⟩
    · obtain ⟨rfl, rfl⟩ := List.cons.inj split
      rw [visitAll_nil] at ran
      cases ran
      exact .inl begun
    · obtain ⟨rfl, rfl⟩ := List.cons.inj split
      rw [visitAll_cons] at ran
      cases visited : (visit reader depth importer? path).run state with
      | error error inner =>
          rw [visited] at ran
          cases ran
      | ok value between =>
          rw [visited] at ran
          exact .inr ⟨between, rfl, before, next, after, inner, rfl, ran, begun⟩
  · rintro (begun | ⟨between, visited, before, next, after, inner, rfl, ran, begun⟩)
    · exact ⟨[], path, paths, state, rfl, visitAll_nil, begun⟩
    · exact ⟨path :: before, next, after, inner, rfl, (visitAll_cons_ok visited).trans ran, begun⟩

theorem begun_iff_of_idle (idle : ∀ next, ¬first.Begins reader next) :
    ReflTransGen (Begins reader) first call ↔ call = first := by
  rw [ReflTransGen.cases_head_iff]
  constructor
  · rintro (rfl | ⟨next, begins, _⟩)
    · rfl
    · exact absurd begins (idle next)
  · rintro rfl
    exact .inl rfl

theorem begun_iff_of_found {state : Traversal} (new : path.key ∉ state.visited)
    (found : locate reader path = .ok source) :
    ReflTransGen (Begins reader) ⟨depth + 1, importer?, path, state⟩ call ↔
      call = ⟨depth + 1, importer?, path, state⟩ ∨
      Within reader depth (some path) (targetsOf path source.text) (state.opening reader path)
        call := by
  rw [ReflTransGen.cases_head_iff]
  refine or_congr eq_comm ⟨?_, ?_⟩
  · rintro ⟨⟨_, _, next, inner⟩, ⟨deeper, _, rfl, _, before, after, again, split, ran⟩, begun⟩
    cases found.symm.trans again
    obtain rfl := Nat.succ.inj deeper
    exact ⟨before, next, after, inner, split, ran, begun⟩
  · rintro ⟨before, next, after, inner, split, ran, begun⟩
    exact ⟨_, ⟨rfl, new, rfl, source, before, after, found, split, ran⟩, begun⟩

end Call

/-- The outcome is the plain one, and the visits noted on the way to it are those that are meant. -/
def Notes (meant : Call → Prop) (start : Watched)
    (result : EStateM.Result LoadError Watched PUnit)
    (plain : EStateM.Result LoadError Traversal PUnit) : Prop :=
  ∃ calls, result = attach (start.calls ++ calls) plain ∧ ∀ call, call ∈ calls ↔ meant call

theorem Notes.alone {first : Call} {result : EStateM.Result LoadError Watched PUnit}
    {plain : EStateM.Result LoadError Traversal PUnit} (idle : ∀ next, ¬first.Begins reader next)
    (same : result = attach (start.calls ++ [first]) plain) :
    Notes (ReflTransGen (Call.Begins reader) first) start result plain :=
  ⟨[first], same, fun call => by rw [List.mem_singleton, Call.begun_iff_of_idle idle]⟩

theorem Notes.watchAll
    (single : ∀ path start,
      Notes (ReflTransGen (Call.Begins reader) ⟨depth, importer?, path, start.state⟩) start
        ((watch reader depth importer? path).run start)
        ((visit reader depth importer? path).run start.state)) :
    Notes (Call.Within reader depth importer? paths start.state) start
      ((watchAll reader depth importer? paths).run start)
      ((visitAll reader depth importer? paths).run start.state) := by
  induction paths generalizing start with
  | nil =>
      refine ⟨[], by simp [watchAll_nil, visitAll_nil, attach], fun call => ?_⟩
      simp [Call.not_within_nil]
  | cons path paths ih =>
      obtain ⟨calls, same, begun⟩ := single path start
      rw [watchAll_cons, visitAll_cons, same]
      cases visited : (visit reader depth importer? path).run start.state with
      | error error inner =>
          refine ⟨calls, rfl, fun call => ?_⟩
          simp [Call.within_cons, visited, begun]
      | ok value inner =>
          obtain ⟨later, sameLater, begunLater⟩ := @ih ⟨inner, start.calls ++ calls⟩
          refine ⟨calls ++ later, ?_, fun call => ?_⟩
          · rw [← List.append_assoc]
            exact sameLater
          · simp [Call.within_cons, visited, begun, begunLater]

theorem notes_watch (reader : Reader) (depth : Nat) (importer? : Option ModulePath)
    (path : ModulePath) (start : Watched) :
    Notes (ReflTransGen (Call.Begins reader) ⟨depth, importer?, path, start.state⟩) start
      ((watch reader depth importer? path).run start)
      ((visit reader depth importer? path).run start.state) := by
  induction depth generalizing importer? path start with
  | zero =>
      have idle : ∀ next, ¬Call.Begins reader ⟨0, importer?, path, start.state⟩ next :=
        fun next begins => nomatch begins.depth
      by_cases met : path.key ∈ start.state.visited
      · rw [watch_met met, visit_met met]
        exact .alone idle rfl
      · rw [watch_zero met, visit_zero met]
        exact .alone idle rfl
  | succ depth deeper =>
      by_cases met : path.key ∈ start.state.visited
      · rw [watch_met met, visit_met met]
        exact .alone (fun next begins => begins.new met) rfl
      · cases found : locate reader path with
        | error error =>
            rw [watch_missing met found, visit_missing met found]
            refine .alone (fun next begins => ?_) rfl
            obtain ⟨_, _, _, again, _⟩ := begins.reached
            cases found.symm.trans again
        | ok source =>
            rw [watch_found met found, visit_found met found]
            obtain ⟨calls, same, begun⟩ :=
              @Notes.watchAll reader (some path) (targetsOf path source.text)
                ⟨start.state.opening reader path, (start.note (depth + 1) importer? path).calls⟩
                depth (deeper (some path))
            rw [same]
            refine ⟨⟨depth + 1, importer?, path, start.state⟩ :: calls, ?_, fun call => ?_⟩
            · dsimp only
              cases (visitAll reader depth (some path) (targetsOf path source.text)).run
                (start.state.opening reader path) <;> simp [attach, Watched.note]
            · rw [List.mem_cons, begun, Call.begun_iff_of_found met found]

/-! What holds when a visit begins. -/

/-- The path is what a directive in the importer's text leads to. -/
def Reader.Directs (reader : Reader) (path importer : ModulePath) : Prop :=
  ∃ source, locate reader importer = .ok source ∧
    ∃ specifier ∈ imports source.text, path = .resolve importer.baseDir specifier

theorem directs_of_mem_targetsOf {importer : ModulePath}
    (found : locate reader importer = .ok source) (member : path ∈ targetsOf importer source.text) :
    reader.Directs path importer := by
  obtain ⟨edge, edgeMember, rfl⟩ := mem_targetsOf.mp member
  obtain ⟨specifier, specifierMember, rfl⟩ := List.mem_map.mp edgeMember
  exact ⟨source, found, specifier, specifierMember, rfl⟩

namespace Call

structure Sound (reader : Reader) (entry : ModulePath) (call : Call) : Prop where
  balanced : call.state.Balanced
  chained : ∃ outer : List ModulePath, call.state.loading = outer.map ModulePath.key ∧
    call.importer? = outer.head? ∧ (call.path :: outer).getLast? = some entry ∧
    (call.path :: outer).IsChain reader.Directs

theorem sound_first (reader : Reader) (depth : Nat) (entry : ModulePath) :
    Sound reader entry ⟨depth, none, entry, {}⟩ :=
  ⟨Traversal.balanced_empty, [], rfl, rfl, rfl, .singleton _⟩

variable {entry : ModulePath} {call next : Call}

theorem Sound.step (sound : call.Sound reader entry) (begins : call.Begins reader next) :
    next.Sound reader entry := by
  obtain ⟨source, before, after, found, split, visited⟩ := begins.reached
  obtain ⟨outer, stack, _, last, chain⟩ := sound.chained
  have ran := Visits.of_visitAll visited
  have directed : reader.Directs next.path call.path :=
    directs_of_mem_targetsOf found (by simp [split])
  refine ⟨ran.balanced (sound.balanced.opening begins.new), call.path :: outer, ?_, ?_, ?_, ?_⟩
  · rw [ran.loading_eq, Traversal.loading_opening, stack, List.map_cons]
  · rw [begins.importer, List.head?_cons]
  · rwa [List.getLast?_cons_cons]
  · exact .cons_cons directed chain

theorem Sound.steps (sound : call.Sound reader entry)
    (begun : ReflTransGen (Begins reader) call next) : next.Sound reader entry := by
  induction begun with
  | refl => exact sound
  | tail _ begins earlier => exact earlier.step begins

end Call

/-! Whole loads. -/

def watchedLoad (reader : Reader) (depth : Nat) (entry : String) : LoadRun × List Call :=
  if entry.isEmpty then (⟨.error .emptyEntry, []⟩, [])
  else
    let path := ModulePath.ofRaw entry
    match (watch reader depth none path).run {} with
    | .error error ⟨state, calls⟩ => (⟨.error error, state.events⟩, calls)
    | .ok _ ⟨state, calls⟩ =>
        (⟨.ok (state.loaded path),
          (state.note [.finished state.modules.length path]).events⟩, calls)

theorem watchedLoad_eq (reader : Reader) (depth : Nat) (entry : String) :
    (watchedLoad reader depth entry).1 = load reader depth entry ∧
      ∀ call, call ∈ (watchedLoad reader depth entry).2 ↔
        entry.isEmpty = false ∧
          ReflTransGen (Call.Begins reader) ⟨depth, none, .ofRaw entry, {}⟩ call := by
  unfold watchedLoad load
  by_cases named : entry.isEmpty
  · simp [named]
  · obtain ⟨calls, same, begun⟩ := notes_watch reader depth none (.ofRaw entry) {}
    rw [if_neg named, if_neg named]
    dsimp only
    rw [same]
    simp only [Bool.not_eq_true] at named
    cases (visit reader depth none (.ofRaw entry)).run {} with
    | ok value final => exact ⟨rfl, fun call => (begun call).trans (by simp [named])⟩
    | error error final => exact ⟨rfl, fun call => (begun call).trans (by simp [named])⟩

/-- Watching a load changes nothing about it, and shows all visits that the visit of the entry
begins, those that it begins by others included. Whenever a visit begins in the course of the load,
whatever becomes of that, no module is open twice, and the modules met are those that are open and,
apart from them, those that are emitted. Each open module is what a directive of the one that it is
open below leads to, the outermost is the entry, and the innermost is the importer of the visit. A
visit that succeeds leaves open what was open and takes back nothing of what was met, emitted or
reported, and its own module has been met. -/
theorem load_calls (reader : Reader) (depth : Nat) (entry : String) :
    (watchedLoad reader depth entry).1 = load reader depth entry ∧
    (∀ call, call ∈ (watchedLoad reader depth entry).2 ↔ entry.isEmpty = false ∧
      ReflTransGen (Call.Begins reader) ⟨depth, none, .ofRaw entry, {}⟩ call) ∧
    ∀ call ∈ (watchedLoad reader depth entry).2,
      call.state.loading.Nodup ∧
      call.state.loading.Disjoint (call.state.modules.map Module.key) ∧
      (∀ key, key ∈ call.state.visited ↔
        key ∈ call.state.loading ∨ key ∈ call.state.modules.map Module.key) ∧
      (∃ outer : List ModulePath, call.state.loading = outer.map ModulePath.key ∧
        call.importer? = outer.head? ∧
        (call.path :: outer).getLast? = some (.ofRaw entry) ∧
        (call.path :: outer).IsChain reader.Directs) ∧
      ∀ final, (visit reader call.depth call.importer? call.path).run call.state = .ok () final →
        final.loading = call.state.loading ∧
        call.state.visited ⊆ final.visited ∧
        call.state.modules <+: final.modules ∧
        call.state.cycles <+: final.cycles ∧
        call.state.unit.Continues final.unit ∧
        call.path.key ∈ final.visited := by
  obtain ⟨same, begun⟩ := watchedLoad_eq reader depth entry
  refine ⟨same, begun, fun call member => ?_⟩
  have sound := (Call.sound_first reader depth (.ofRaw entry)).steps ((begun call).mp member).2
  have balanced := sound.balanced
  refine ⟨?_, ?_, fun key => balanced.mem_visited_iff, sound.chained, fun final ran => ?_⟩
  · exact balanced.append_nodup.of_append_left
  · exact fun key open_ => balanced.not_mem_keys open_
  · have run : Visits reader call.importer? [call.path] call.state final := .of_visit ran
    exact ⟨run.loading_eq, run.visited_subset, run.modules_prefix, run.cycles_prefix,
      run.unit_continues, run.key_mem_visited call.path List.mem_cons_self⟩

theorem load_calls_ring :
    ∃ call ∈ (watchedLoad ring 2 "a").2, ∃ final,
      (visit ring call.depth call.importer? call.path).run call.state = .ok () final ∧
      call.path.key = "b.kooix" ∧ call.state.loading = ["a.kooix"] ∧
      (∀ key, key ∈ call.state.visited ↔
        key ∈ ["a.kooix"] ∨ key ∈ call.state.modules.map Module.key) ∧
      final.loading = ["a.kooix"] ∧ "b.kooix" ∈ final.visited := by
  have outcome : ((watchedLoad ring 2 "a").2[1]?.map fun call =>
      (call.path.key, call.state.loading,
        (visit ring call.depth call.importer? call.path).run' call.state)) =
        some ("b.kooix", ["a.kooix"], some ()) := by decide +kernel
  obtain ⟨call, second, shape⟩ := Option.map_eq_some_iff.mp outcome
  obtain ⟨key, rest⟩ := Prod.mk.inj shape
  obtain ⟨stack, succeeded⟩ := Prod.mk.inj rest
  have member := List.mem_of_getElem? second
  obtain ⟨_, _, met, _, kept⟩ := (load_calls ring 2 "a").2.2 call member
  rw [stack] at met kept
  cases ran : (visit ring call.depth call.importer? call.path).run call.state with
  | error error final =>
      have failed : (visit ring call.depth call.importer? call.path).run' call.state = none :=
        congrArg (fun result => EStateM.run' (fun _ => result) call.state) ran
      cases failed.symm.trans succeeded
  | ok value final =>
      obtain ⟨open_, _, _, _, _, own⟩ := kept final ran
      exact ⟨call, member, final, ran, key, stack, met, open_, key ▸ own⟩

end Bundler.Source
