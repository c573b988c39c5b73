import Bundler.Proofs.Load.Keys
import Bundler.Proofs.Load.Reads
import Mathlib.Combinatorics.Enumerative.DoubleCounting

/-!
Loads from finitely many files. A file that can be read is a candidate of at most nine modules, so
that only so many can be found, and be open below each other, however the imports go round and
however long the paths grow.
-/

namespace Bundler.Source

open Text (Decoded)

variable {reader : Reader} {importer? : Option ModulePath} {path : ModulePath}
  {paths chain : List ModulePath} {state inner final : Traversal} {source : Located}
  {depth : Nat} {error : LoadError} {files : Finset String}

/-! How many modules the files can be. -/

theorem ModulePath.eq_of_climb_eq {path other : ModulePath} {levels : Nat}
    (same : climb levels path.text = climb levels other.text) : path = other := by
  rw [ext_iff_text, ← String.toList_inj]
  rw [climb, climb, ← String.toList_inj, String.toList_append, String.toList_append] at same
  exact List.append_cancel_left same

theorem length_le_of_readable (finite : ∀ candidate, reader.readable candidate → candidate ∈ files)
    (distinct : (paths.map ModulePath.key).Nodup)
    (found : ∀ path ∈ paths, ∃ candidate ∈ path.candidates, reader.readable candidate) :
    paths.length ≤ 9 * files.card := by
  have count : paths.toFinset.card ≤ (Finset.range 9 ×ˢ files).card := by
    refine Finset.card_le_card_of_forall_subsingleton
      (fun path place => place.2 = ModulePath.climb place.1 path.text) ?_ ?_
    · intro path member
      obtain ⟨candidate, listed, read⟩ := found path (List.mem_toFinset.mp member)
      obtain ⟨levels, inRange, rfl⟩ := List.mem_map.mp listed
      refine ⟨(levels, ModulePath.climb levels path.text), Finset.mem_product.mpr ⟨?_, ?_⟩, rfl⟩
      · exact Finset.mem_range.mpr (List.mem_range.mp inRange)
      · exact finite _ read
    · rintro ⟨levels, candidate⟩ _ path ⟨_, here⟩ other ⟨_, there⟩
      exact ModulePath.eq_of_climb_eq (here.symm.trans there)
  rwa [List.toFinset_card_of_nodup (distinct.of_map _), Finset.card_product, Finset.card_range]
    at count

/-! What the events tell of the modules that were looked for. -/

namespace Event

/-- The module whose search begins. Its own path is the first of its candidates. -/
def sought? : Event → Option ModulePath
  | read path candidate _ => if candidate = path.text then some path else none
  | _ => none

def found? : Event → Option ModulePath
  | read path _ (.ok _) => some path
  | _ => none

end Event

namespace LoadRun

def sought (run : LoadRun) : List ModulePath :=
  run.events.filterMap Event.sought?

def found (run : LoadRun) : List ModulePath :=
  run.events.filterMap Event.found?

end LoadRun

theorem ModulePath.climb_ne {levels : Nat} (above : 0 < levels) (path : ModulePath) :
    climb levels path.text ≠ path.text := by
  obtain ⟨levels, rfl⟩ := Nat.exists_eq_add_of_lt above
  intro same
  have lengths := congrArg String.length same
  simp only [climb, String.length_append, List.replicate_succ, String.join_cons, Nat.zero_add]
    at lengths
  have step : "../".length = 3 := by decide
  omega

theorem filterMap_sought?_probe (reader : Reader) (path : ModulePath) :
    ((reader.probe path.candidates).map fun (candidate, result) =>
      Event.read path candidate result).filterMap Event.sought? = [path] := by
  have later (candidates : List String) (other : ∀ candidate ∈ candidates, candidate ≠ path.text) :
      ((reader.probe candidates).map fun (candidate, result) =>
        Event.read path candidate result).filterMap Event.sought? = [] := by
    rw [List.filterMap_map, List.filterMap_eq_nil_iff]
    rintro ⟨candidate, result⟩ member
    simp [Event.sought?, other candidate (mem_probe member).1]
  have above : ∀ candidate ∈ (List.range ModulePath.maxClimb).map fun levels =>
      ModulePath.climb (levels + 1) path.text, candidate ≠ path.text := by
    intro candidate member
    obtain ⟨levels, _, rfl⟩ := List.mem_map.mp member
    exact ModulePath.climb_ne (Nat.succ_pos levels) path
  rw [candidates_eq_cons]
  cases read : reader path.text with
  | ok decoded => simp [Reader.probe, read, Event.sought?]
  | error failure =>
      rw [Reader.probe, read]
      simp only [List.map_cons, List.filterMap_cons, Event.sought?, ↓reduceIte, later _ above]

theorem filterMap_found?_probe (reader : Reader) (path : ModulePath) (candidates : List String) :
    ((reader.probe candidates).map fun (candidate, result) =>
      Event.read path candidate result).filterMap Event.found? =
        if candidates.any reader.readable then [path] else [] := by
  induction candidates with
  | nil => rfl
  | cons candidate rest ih =>
      cases read : reader candidate with
      | ok decoded => simp [Reader.probe, read, Event.found?, readable_of_ok read]
      | error failure =>
          rw [Reader.probe, read, List.any_cons, Bool.eq_false_of_not_eq_true
            (not_readable_of_error read), Bool.false_or, ← ih]
          rfl

namespace Traversal

def sought (state : Traversal) : List ModulePath :=
  state.events.filterMap Event.sought?

def found (state : Traversal) : List ModulePath :=
  state.events.filterMap Event.found?

@[simp] theorem sought_revisit (state : Traversal) (importer? : Option ModulePath)
    (path : ModulePath) : (state.revisit importer? path).sought = state.sought := by
  unfold revisit sought
  split
  · split <;> simp [note, Event.sought?]
  · simp [note, Event.sought?]

@[simp] theorem found_revisit (state : Traversal) (importer? : Option ModulePath)
    (path : ModulePath) : (state.revisit importer? path).found = state.found := by
  unfold revisit found
  split
  · split <;> simp [note, Event.found?]
  · simp [note, Event.found?]

@[simp] theorem sought_enter (state : Traversal) (reader : Reader) (path : ModulePath) :
    (state.enter path (reader.probe path.candidates)).sought = state.sought ++ [path] := by
  rw [← filterMap_sought?_probe reader path]
  simp [enter, note, sought]

theorem found_enter (state : Traversal) (reader : Reader) (path : ModulePath) :
    (state.enter path (reader.probe path.candidates)).found =
      state.found ++ if path.candidates.any reader.readable then [path] else [] := by
  rw [← filterMap_found?_probe reader path]
  simp [enter, note, found]

@[simp] theorem sought_opening (state : Traversal) (reader : Reader) (path : ModulePath) :
    (state.opening reader path).sought = state.sought ++ [path] := by
  rw [← sought_enter state reader]
  simp [opening, begin, note, sought, Event.sought?]

theorem found_opening (state : Traversal) (located : locate reader path = .ok source) :
    (state.opening reader path).found = state.found ++ [path] := by
  have readable : path.candidates.any reader.readable := by
    simpa using readable_of_locate located
  have entered := state.found_enter reader path
  rw [if_pos readable] at entered
  rw [← entered]
  simp [opening, begin, note, found, Event.found?]

@[simp] theorem sought_close (state : Traversal) (path : ModulePath) (source : Located)
    (imports : List Import) : (state.close path source imports).sought = state.sought := rfl

@[simp] theorem found_close (state : Traversal) (path : ModulePath) (source : Located)
    (imports : List Import) : (state.close path source imports).found = state.found := rfl

structure Tallied (reader : Reader) (state : Traversal) : Prop where
  visited_eq : state.visited = (state.sought.map ModulePath.key).reverse
  nodup : state.visited.Nodup
  found_eq : state.found = state.sought
  readable : ∀ path ∈ state.sought, ∃ candidate ∈ path.candidates, reader.readable candidate

theorem tallied_empty (reader : Reader) : Tallied reader {} :=
  ⟨rfl, .nil, rfl, by simp [sought]⟩

namespace Tallied

theorem revisit (tallied : state.Tallied reader) :
    (state.revisit importer? path).Tallied reader :=
  ⟨by simpa using tallied.visited_eq, by simpa using tallied.nodup, by simpa using tallied.found_eq,
    by simpa using tallied.readable⟩

theorem opening (tallied : state.Tallied reader) (new : path.key ∉ state.visited)
    (located : locate reader path = .ok source) : (state.opening reader path).Tallied reader where
  visited_eq := by simp [tallied.visited_eq]
  nodup := by simpa using ⟨new, tallied.nodup⟩
  found_eq := by rw [found_opening state located, sought_opening, tallied.found_eq]
  readable := by
    rw [sought_opening, List.forall_mem_append, List.forall_mem_singleton]
    exact ⟨tallied.readable, readable_of_locate located⟩

theorem close (tallied : inner.Tallied reader) (imports : List Import) :
    (inner.close path source imports).Tallied reader :=
  ⟨tallied.visited_eq, tallied.nodup, tallied.found_eq, tallied.readable⟩

theorem length_le (tallied : state.Tallied reader)
    (finite : ∀ candidate, reader.readable candidate → candidate ∈ files) :
    state.sought.length ≤ 9 * files.card ∧ state.found.length ≤ 9 * files.card := by
  have distinct := tallied.nodup
  rw [tallied.visited_eq, List.nodup_reverse] at distinct
  have few := length_le_of_readable finite distinct tallied.readable
  exact ⟨few, by rwa [tallied.found_eq]⟩

end Tallied

end Traversal

theorem Visits.tallied (run : Visits reader importer? paths state final)
    (tallied : state.Tallied reader) : final.Tallied reader := by
  induction run with
  | nil => exact tallied
  | again _ _ tail => exact tail tallied.revisit
  | fresh new found _ _ under tail => exact tail ((under (tallied.opening new found)).close _)

theorem Stops.tallied (stops : Stops reader depth importer? paths error state final)
    (tallied : state.Tallied reader) :
    ∃ inner : Traversal, inner.Tallied reader ∧ final.found = inner.found ∧
      final.sought.length ≤ inner.sought.length + 1 := by
  induction stops with
  | deep _ => exact ⟨_, tallied, rfl, Nat.le_succ _⟩
  | @missing _ _ path _ _ state _ lost =>
      have unreadable : ¬path.candidates.any reader.readable := by
        simpa using (locate_eq_error lost).1
      refine ⟨state, tallied, ?_, by simp⟩
      rw [Traversal.found_enter, if_neg unreadable, List.append_nil]
  | inside new found _ under => exact under (tallied.opening new found)
  | later first _ tail => exact tail (first.tallied tallied)

/-! How deep visits are nested. -/

/-- At some moment of the visits, modules on a chain of paths are looked for, or have been found
and are still open, each below the one before it. -/
inductive Nested (reader : Reader) :
    Option ModulePath → List ModulePath → Traversal → List ModulePath → Prop
  | here {importer? : Option ModulePath} {path : ModulePath} {paths : List ModulePath}
      {state : Traversal} (new : path.key ∉ state.visited) :
      Nested reader importer? (path :: paths) state [path]
  | inside {importer? : Option ModulePath} {path : ModulePath} {paths chain : List ModulePath}
      {source : Located} {state : Traversal}
      (new : path.key ∉ state.visited) (found : locate reader path = .ok source)
      (below : Nested reader (some path) (targetsOf path source.text)
        (state.opening reader path) chain) :
      Nested reader importer? (path :: paths) state (path :: chain)
  | later {importer? : Option ModulePath} {path : ModulePath} {paths chain : List ModulePath}
      {state inner : Traversal} (first : Visits reader importer? [path] state inner)
      (rest : Nested reader importer? paths inner chain) :
      Nested reader importer? (path :: paths) state chain

namespace Nested

theorem nodup (nested : Nested reader importer? paths state chain) :
    (chain.map ModulePath.key).Nodup ∧ ∀ path ∈ chain, path.key ∉ state.visited := by
  induction nested with
  | here new => simpa using new
  | inside new _ _ ih =>
      simp only [Traversal.visited_opening, List.mem_cons, not_or] at ih
      refine ⟨List.nodup_cons.mpr ⟨?_, ih.1⟩, List.forall_mem_cons.mpr ⟨new, ?_⟩⟩
      · rw [List.mem_map]
        rintro ⟨other, member, same⟩
        exact (ih.2 other member).1 same
      · exact fun other member => (ih.2 other member).2
  | later first _ ih =>
      exact ⟨ih.1, fun other member met => ih.2 other member (first.visited_subset met)⟩

theorem exists_located (nested : Nested reader importer? paths state chain) :
    ∃ above last, chain = above ++ [last] ∧
      ∀ path ∈ above, ∃ source, locate reader path = .ok source := by
  induction nested with
  | here _ => exact ⟨[], _, rfl, by simp⟩
  | @inside _ path _ _ source _ _ found _ ih =>
      obtain ⟨above, last, rfl, located⟩ := ih
      exact ⟨path :: above, last, rfl, List.forall_mem_cons.mpr ⟨⟨source, found⟩, located⟩⟩
  | later _ _ ih => exact ih

theorem length_le (nested : Nested reader importer? paths state chain)
    (finite : ∀ candidate, reader.readable candidate → candidate ∈ files) :
    chain.length ≤ 9 * files.card + 1 := by
  obtain ⟨above, last, rfl, located⟩ := nested.exists_located
  have distinct := nested.nodup.1
  rw [List.map_append, List.nodup_append] at distinct
  have few : above.length ≤ 9 * files.card := by
    refine length_le_of_readable finite distinct.1 fun path member => ?_
    obtain ⟨source, found⟩ := located path member
    exact readable_of_locate found
  rw [List.length_append, List.length_singleton]
  omega

end Nested

theorem Stops.exists_nested (stops : Stops reader depth importer? paths error state final)
    (limit : error = .tooDeep path) :
    ∃ chain, Nested reader importer? paths state chain ∧ chain.length = depth + 1 := by
  induction stops with
  | deep new => exact ⟨_, .here new, rfl⟩
  | missing _ lost =>
      obtain ⟨_, failure, _, told⟩ := locate_eq_error lost
      rw [limit] at told
      split at told <;> cases told
  | inside new found _ ih =>
      obtain ⟨chain, nested, size⟩ := ih limit
      exact ⟨_, .inside new found nested, by rw [List.length_cons, size]⟩
  | later first _ ih =>
      obtain ⟨chain, nested, size⟩ := ih limit
      exact ⟨chain, .later first nested, size⟩

theorem load_ne_tooDeep (finite : ∀ candidate, reader.readable candidate → candidate ∈ files)
    (entry : String) (path : ModulePath) :
    (load reader (sufficientDepth files.card) entry).result ≠ .error (.tooDeep path) := by
  by_cases named : entry = ""
  · simp [load, named]
  · rcases load_cases reader (sufficientDepth files.card) named with
      ⟨final, _, result⟩ | ⟨error, final, stops, result⟩
    · simp [result]
    · rw [result]
      intro failed
      obtain ⟨chain, nested, size⟩ := stops.exists_nested (Except.error.inj failed)
      have few := nested.length_le finite
      simp only [sufficientDepth, ModulePath.maxClimb] at size
      omega

theorem load_sought_le (finite : ∀ candidate, reader.readable candidate → candidate ∈ files)
    (depth : Nat) (entry : String) :
    (load reader depth entry).sought.length ≤ 9 * files.card + 1 ∧
      (load reader depth entry).found.length ≤ 9 * files.card := by
  have start := Traversal.tallied_empty reader
  by_cases named : entry = ""
  · simp [load, named, LoadRun.sought, LoadRun.found]
  · rcases load_cases reader depth named with ⟨final, run, result⟩ | ⟨error, final, stops, result⟩
    · have few := (run.tallied start).length_le finite
      simp only [Traversal.sought, Traversal.found] at few
      simp only [result, LoadRun.sought, LoadRun.found, Traversal.note, List.filterMap_append,
        List.filterMap_cons, List.filterMap_nil, Event.sought?, Event.found?, List.append_nil]
      omega
    · obtain ⟨inner, tallied, found, sought⟩ := stops.tallied start
      have few := tallied.length_le finite
      simp only [Traversal.sought, Traversal.found] at few found sought
      simp only [result, LoadRun.sought, LoadRun.found, found]
      omega

/-- Where only finitely many files can be read, each load ends: nine modules for each of them, and
one, are a depth that none exceeds, and more make no difference. No more modules than that are
looked for, or looked for below each other, and no more than nine for each file are found. -/
theorem load_bounded (finite : ∀ candidate, reader.readable candidate → candidate ∈ files)
    (entry : String) :
    (∀ depth, 9 * files.card + 1 ≤ depth →
      (∀ path, (load reader depth entry).result ≠ .error (.tooDeep path)) ∧
      load reader depth entry = load reader (9 * files.card + 1) entry) ∧
    (∀ depth, (load reader depth entry).sought.length ≤ 9 * files.card + 1 ∧
      (load reader depth entry).found.length ≤ 9 * files.card) ∧
    ∀ chain, Nested reader none [.ofRaw entry] {} chain → chain.length ≤ 9 * files.card + 1 := by
  have within := load_ne_tooDeep finite entry
  refine ⟨fun depth enough => ?_, fun depth => load_sought_le finite depth entry,
    fun chain nested => nested.length_le finite⟩
  have same : load reader depth entry = load reader (9 * files.card + 1) entry :=
    load_eq_of_le enough within
  rw [same]
  exact ⟨within, rfl⟩

def steep : Reader :=
  .ofList [(ModulePath.climb 8 "x.kooix", .ok ⟨"import \"../x\";", true⟩)] .noSuchFile

theorem readable_steep (candidate : String) (read : steep.readable candidate) :
    candidate ∈ ({ModulePath.climb 8 "x.kooix"} : Finset String) := by
  rw [Finset.mem_singleton]
  by_contra other
  rw [steep, Reader.readable, Reader.ofList, List.lookup_cons, beq_false_of_ne other] at read
  cases read

theorem load_bounded_steep :
    (load steep 10 "x").result = .error (.fileNotFound (.ofRaw "../../../../../../../../../x")) ∧
      (load steep 10 "x").sought.length = 10 ∧ (load steep 10 "x").found.length = 9 ∧
      ∀ depth, 10 ≤ depth → load steep depth "x" = load steep 10 "x" := by
  have outcome : ((load steep 10 "x").result, (load steep 10 "x").sought.length,
      (load steep 10 "x").found.length) =
        (.error (.fileNotFound (.ofRaw "../../../../../../../../../x")), 10, 9) := by
    decide +kernel
  obtain ⟨result, counts⟩ := Prod.mk.inj outcome
  obtain ⟨sought, found⟩ := Prod.mk.inj counts
  obtain ⟨ends, _, _⟩ := load_bounded readable_steep "x"
  exact ⟨result, sought, found, fun depth enough => (ends depth (by simpa using enough)).2⟩

end Bundler.Source
