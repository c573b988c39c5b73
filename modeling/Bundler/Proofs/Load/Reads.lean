import Bundler.Proofs.Load.Sources
import Bundler.Proofs.Load.Stops
import Mathlib.Data.List.Nodup

/-!
What a load asks its reader for: for each module met, in the order of a depth-first search, its
candidates up to the first that can be read. The first module without such a candidate ends it.
-/

namespace Bundler.Source

open Text (Decoded)

namespace Reader

variable (reader : Reader)

def readable (candidate : String) : Bool :=
  (reader candidate).isOk

def tried (path : ModulePath) : List String :=
  path.candidates.take (path.candidates.findIdx reader.readable + 1)

def Finds (path : ModulePath) : Prop :=
  ∃ candidate, (reader.tried path).getLast? = some candidate ∧ reader.readable candidate

def targets (path : ModulePath) : List ModulePath :=
  match locate reader path with
  | .ok source => targetsOf path source.text
  | .error _ => []

/-- The imports of the modules met, those of the last one first, and behind them the entry. -/
def ahead (entry : ModulePath) (met : List ModulePath) : List ModulePath :=
  met.reverse.flatMap reader.targets ++ [entry]

/-- The path with which a depth-first search goes on: the first import that is not met yet, of the
module met last that has such an import. -/
def next? (entry : ModulePath) (met : List ModulePath) : Option ModulePath :=
  (reader.ahead entry met).find? (·.key ∉ met.map ModulePath.key)

end Reader

inductive Discovered (reader : Reader) (entry : ModulePath) : List ModulePath → Prop
  | nil : Discovered reader entry []
  | snoc {met : List ModulePath} {path : ModulePath} (earlier : Discovered reader entry met)
      (next : reader.next? entry met = some path) : Discovered reader entry (met ++ [path])

variable {reader : Reader} {entry path : ModulePath} {met : List ModulePath}
  {importer? : Option ModulePath} {paths outer : List ModulePath} {source : Located}
  {state inner final : Traversal} {depth : Nat} {error : LoadError}

/-! The candidates of one path. -/

theorem readable_of_ok {candidate : String} {decoded : Decoded}
    (read : reader candidate = .ok decoded) : reader.readable candidate := by
  rw [Reader.readable, read]
  rfl

theorem not_readable_of_error {candidate : String} {failure : IoError}
    (read : reader candidate = .error failure) : ¬reader.readable candidate := by
  rw [Reader.readable, read]
  exact Bool.false_ne_true

theorem exists_error_of_not_readable {candidate : String} (lost : ¬reader.readable candidate) :
    ∃ failure, reader candidate = .error failure := by
  cases read : reader candidate with
  | ok decoded => exact absurd (readable_of_ok read) lost
  | error failure => exact ⟨failure, rfl⟩

theorem map_fst_probe (candidates : List String) :
    (reader.probe candidates).map Prod.fst =
      candidates.take (candidates.findIdx reader.readable + 1) := by
  induction candidates with
  | nil => rfl
  | cons candidate rest ih =>
      cases read : reader candidate with
      | ok decoded => simp [Reader.probe, read, List.findIdx_cons, readable_of_ok read]
      | error failure =>
          simp [Reader.probe, read, List.findIdx_cons, not_readable_of_error read, ih]

theorem getLast?_probe {candidates : List String}
    (hit : ∃ candidate ∈ candidates, reader.readable candidate) :
    ∃ candidate decoded, (reader.probe candidates).getLast? = some (candidate, .ok decoded) := by
  induction candidates with
  | nil => simp at hit
  | cons first rest ih =>
      cases read : reader first with
      | ok decoded => exact ⟨first, decoded, by simp [Reader.probe, read]⟩
      | error failure =>
          have later : ∃ candidate ∈ rest, reader.readable candidate := by
            simpa [not_readable_of_error read] using hit
          obtain ⟨candidate, decoded, last⟩ := ih later
          refine ⟨candidate, decoded, ?_⟩
          simp [Reader.probe, read, List.getLast?_cons, last]

theorem probe_of_unreadable {candidates : List String}
    (lost : ∀ candidate ∈ candidates, ¬reader.readable candidate) :
    reader.probe candidates = candidates.map fun candidate => (candidate, reader candidate) := by
  induction candidates with
  | nil => rfl
  | cons first rest ih =>
      obtain ⟨head, tail⟩ := List.forall_mem_cons.mp lost
      obtain ⟨failure, read⟩ := exists_error_of_not_readable head
      simp [Reader.probe, read, ih tail]

theorem readable_of_locate (found : locate reader path = .ok source) :
    ∃ candidate ∈ path.candidates, reader.readable candidate := by
  obtain ⟨decoded, member, _⟩ := conclude_eq_ok found
  obtain ⟨candidate, read⟩ := mem_probe member
  exact ⟨source.location, candidate, readable_of_ok read⟩

theorem locate_of_readable (hit : ∃ candidate ∈ path.candidates, reader.readable candidate) :
    ∃ source, locate reader path = .ok source := by
  obtain ⟨candidate, decoded, last⟩ := getLast?_probe hit
  exact ⟨⟨candidate, decoded.text⟩, by simp [locate, conclude, last]⟩

theorem finds_of_locate (found : locate reader path = .ok source) : reader.Finds path := by
  obtain ⟨candidate, decoded, last⟩ := getLast?_probe (readable_of_locate found)
  refine ⟨candidate, ?_, readable_of_ok (mem_probe (List.mem_of_getLast? last)).2⟩
  rw [Reader.tried, ← map_fst_probe, List.getLast?_map, last]
  rfl

theorem tried_of_unreadable (lost : ∀ candidate ∈ path.candidates, ¬reader.readable candidate) :
    reader.tried path = path.candidates := by
  rw [Reader.tried, ← map_fst_probe, probe_of_unreadable lost, List.map_map]
  simp [Function.comp_def]

theorem locate_of_unreadable {failure : IoError}
    (lost : ∀ candidate ∈ path.candidates, ¬reader.readable candidate)
    (direct : reader path.text = .error failure) :
    locate reader path = .error (if failure.kind = .notFound then .fileNotFound path
      else .unreadable path failure) := by
  have first : (reader.probe path.candidates).head? = some (path.text, .error failure) := by
    rw [probe_of_unreadable lost, candidates_eq_cons, List.map_cons, List.head?_cons, direct]
  unfold locate conclude
  split
  · rename_i location decoded last
    have read := mem_probe (List.mem_of_getLast? last)
    exact absurd (readable_of_ok read.2) (lost location read.1)
  · rename_i head _
    rw [first] at head
    cases head
    split <;> rfl
  · rename_i unread
    exact absurd first (unread _ _)

theorem locate_eq_error (missing : locate reader path = .error error) :
    (∀ candidate ∈ path.candidates, ¬reader.readable candidate) ∧
      ∃ failure, reader path.text = .error failure ∧
        error = if failure.kind = .notFound then .fileNotFound path
          else .unreadable path failure := by
  -- If one of them could be read, the search would not have ended without it.
  have lost : ∀ candidate ∈ path.candidates, ¬reader.readable candidate := by
    intro candidate member read
    obtain ⟨source, found⟩ := locate_of_readable ⟨candidate, member, read⟩
    rw [missing] at found
    cases found
  obtain ⟨failure, direct⟩ :=
    exists_error_of_not_readable (lost path.text (by simp [candidates_eq_cons]))
  refine ⟨lost, failure, direct, ?_⟩
  rw [locate_of_unreadable lost direct] at missing
  exact (Except.error.inj missing).symm

/-! Discovery, and what is ahead of it. -/

theorem Discovered.nodup (discovered : Discovered reader entry met) :
    (met.map ModulePath.key).Nodup := by
  induction discovered with
  | nil => exact .nil
  | snoc _ next ih =>
      have new := List.find?_some next
      rw [List.map_append, List.map_singleton, ← List.concat_eq_append]
      exact List.Nodup.concat (by simpa using new) ih

/-- Of what is ahead, the agenda has all that is not met yet, in the same order. -/
def Pending (reader : Reader) (entry : ModulePath) (met agenda : List ModulePath) : Prop :=
  (reader.ahead entry met).filter (·.key ∉ met.map ModulePath.key) =
    agenda.filter (·.key ∉ met.map ModulePath.key)

namespace Pending

theorem start (reader : Reader) (entry : ModulePath) : Pending reader entry [] [entry] := rfl

theorem next?_eq (pending : Pending reader entry met (path :: paths))
    (new : path.key ∉ met.map ModulePath.key) : reader.next? entry met = some path := by
  rw [Reader.next?, ← List.head?_filter, pending, List.filter_cons_of_pos (by simpa using new),
    List.head?_cons]

theorem next?_eq_none (pending : Pending reader entry met []) : reader.next? entry met = none := by
  rw [Reader.next?, ← List.head?_filter, pending]
  rfl

theorem skip (pending : Pending reader entry met (path :: paths))
    (old : path.key ∈ met.map ModulePath.key) : Pending reader entry met paths := by
  rw [Pending, List.filter_cons_of_neg (by simpa using old)] at pending
  exact pending

theorem enter (pending : Pending reader entry met (path :: paths)) :
    Pending reader entry (met ++ [path]) (reader.targets path ++ paths) := by
  have ahead : reader.ahead entry (met ++ [path]) =
      reader.targets path ++ reader.ahead entry met := by
    simp [Reader.ahead]
  have narrowed (agenda : List ModulePath) :
      agenda.filter (·.key ∉ (met ++ [path]).map ModulePath.key) =
        (agenda.filter (·.key ∉ met.map ModulePath.key)).filter (·.key ≠ path.key) := by
    rw [List.filter_filter]
    apply List.filter_congr
    intro other _
    simp [not_or, and_comm]
  have passed : ((path :: paths).filter (·.key ∉ met.map ModulePath.key)).filter
      (·.key ≠ path.key) = (paths.filter (·.key ∉ met.map ModulePath.key)).filter
        (·.key ≠ path.key) := by
    by_cases old : path.key ∈ met.map ModulePath.key
    · rw [List.filter_cons_of_neg (by simpa using old)]
    · rw [List.filter_cons_of_pos (by simpa using old), List.filter_cons_of_neg (by simp)]
  rw [Pending, ahead, List.filter_append, List.filter_append, narrowed (reader.ahead entry met),
    pending, passed, ← narrowed paths]

end Pending

/-! What a state has asked for. -/

namespace Traversal

def asked (state : Traversal) : List String :=
  state.events.filterMap Event.asked?

@[simp] theorem asked_revisit (state : Traversal) (importer? : Option ModulePath)
    (path : ModulePath) : (state.revisit importer? path).asked = state.asked := by
  unfold revisit asked
  split
  · split <;> simp [note, Event.asked?]
  · simp [note, Event.asked?]

@[simp] theorem asked_enter (state : Traversal) (reader : Reader) (path : ModulePath) :
    (state.enter path (reader.probe path.candidates)).asked = state.asked ++ reader.tried path := by
  rw [Reader.tried, ← map_fst_probe]
  simp [enter, note, asked, Event.asked?, List.filterMap_map, Function.comp_def]

@[simp] theorem asked_opening (state : Traversal) (reader : Reader) (path : ModulePath) :
    (state.opening reader path).asked = state.asked ++ reader.tried path := by
  rw [← asked_enter]
  simp [opening, begin, note, asked, Event.asked?]

@[simp] theorem asked_close (state : Traversal) (path : ModulePath) (source : Located)
    (imports : List Import) : (state.close path source imports).asked = state.asked := rfl

structure Traced (reader : Reader) (entry : ModulePath) (met : List ModulePath)
    (state : Traversal) : Prop where
  discovered : Discovered reader entry met
  asked_eq : state.asked = met.flatMap reader.tried
  mem_visited : ∀ key, key ∈ state.visited ↔ key ∈ met.map ModulePath.key

theorem traced_empty (reader : Reader) (entry : ModulePath) : Traced reader entry [] {} :=
  ⟨.nil, rfl, by simp⟩

namespace Traced

theorem revisit (traced : state.Traced reader entry met) :
    (state.revisit importer? path).Traced reader entry met :=
  ⟨traced.discovered, by simpa using traced.asked_eq, by simpa using traced.mem_visited⟩

theorem enter (traced : state.Traced reader entry met)
    (next : reader.next? entry met = some path) :
    (state.enter path (reader.probe path.candidates)).Traced reader entry (met ++ [path]) := by
  refine ⟨traced.discovered.snoc next, ?_, fun key => ?_⟩
  · rw [asked_enter, traced.asked_eq, List.flatMap_append, List.flatMap_singleton]
  · rw [List.map_append, List.mem_append, ← traced.mem_visited key]
    simp [Traversal.enter, or_comm]

theorem opening (traced : state.Traced reader entry met)
    (next : reader.next? entry met = some path) :
    (state.opening reader path).Traced reader entry (met ++ [path]) := by
  have entered := traced.enter next
  exact ⟨entered.discovered, by rw [asked_opening, ← asked_enter, entered.asked_eq],
    entered.mem_visited⟩

theorem close (traced : inner.Traced reader entry met) (imports : List Import) :
    (inner.close path source imports).Traced reader entry met :=
  ⟨traced.discovered, by rw [asked_close, traced.asked_eq], traced.mem_visited⟩

end Traced

end Traversal

theorem targets_of_locate (found : locate reader path = .ok source) :
    reader.targets path = targetsOf path source.text := by
  rw [Reader.targets, found]

theorem Visits.traced (run : Visits reader importer? paths state final)
    (traced : state.Traced reader entry met) (pending : Pending reader entry met (paths ++ outer)) :
    ∃ more, final.Traced reader entry (met ++ more) ∧ Pending reader entry (met ++ more) outer ∧
      (∀ path ∈ more, reader.Finds path) ∧
      final.modules.length = state.modules.length + more.length := by
  induction run generalizing met outer with
  | nil => exact ⟨[], by simpa using traced, by simpa using pending, by simp, rfl⟩
  | again old _ tail =>
      have skipped := pending.skip ((traced.mem_visited _).mp old)
      obtain ⟨more, after, left, found, size⟩ := tail traced.revisit skipped
      exact ⟨more, after, left, found, by simpa using size⟩
  | @fresh _ path paths source state inner final new found _ _ under tail =>
      -- The imports of the module stand before what is left of its importer's, which come back
      -- as the agenda once the module is closed.
      have next := pending.next?_eq (mt (traced.mem_visited _).mpr new)
      have entered := pending.enter
      rw [targets_of_locate found] at entered
      obtain ⟨below, inside, left, foundBelow, sizeBelow⟩ := under (traced.opening next) entered
      obtain ⟨more, after, rest, foundLater, sizeLater⟩ :=
        tail (inside.close (importsOf path source.text)) left
      refine ⟨path :: below ++ more, by simpa using after, by simpa using rest, ?_, ?_⟩
      · intro other member
        simp only [List.cons_append, List.mem_cons, List.mem_append] at member
        rcases member with rfl | earlier | later
        · exact finds_of_locate found
        · exact foundBelow other earlier
        · exact foundLater other later
      · simp only [Traversal.modules_opening] at sizeBelow
        simp only [Traversal.modules_close, List.length_append, List.length_singleton] at sizeLater
        simp only [List.cons_append, List.length_cons, List.length_append]
        omega

/-- How a sequence of visits ends that meets `more` and fails: at the limit of its depth, with a
module still to be met, or at the last module met, which cannot be read. -/
inductive Halts (reader : Reader) (entry : ModulePath) (depth : Nat) (met : List ModulePath) :
    List ModulePath → LoadError → Prop
  | limit {more : List ModulePath} {path : ModulePath} (deep : depth ≤ more.length)
      (next : reader.next? entry (met ++ more) = some path)
      (found : ∀ other ∈ more, reader.Finds other) :
      Halts reader entry depth met more (.tooDeep path)
  | lost {more : List ModulePath} {path : ModulePath} {error : LoadError}
      (found : ∀ other ∈ more, reader.Finds other) (lost : locate reader path = .error error) :
      Halts reader entry depth met (more ++ [path]) error

theorem Halts.after {more below : List ModulePath} {deeper : Nat}
    (halts : Halts reader entry depth (met ++ below) more error)
    (found : ∀ other ∈ below, reader.Finds other) (deep : deeper ≤ depth + below.length) :
    Halts reader entry deeper met (below ++ more) error := by
  cases halts with
  | limit enough next later =>
      refine .limit ?_ (by rwa [← List.append_assoc]) (List.forall_mem_append.mpr ⟨found, later⟩)
      rw [List.length_append]
      omega
  | lost later missing =>
      rw [← List.append_assoc]
      exact .lost (List.forall_mem_append.mpr ⟨found, later⟩) missing

theorem Stops.traced (stops : Stops reader depth importer? paths error state final)
    (traced : state.Traced reader entry met) (pending : Pending reader entry met (paths ++ outer)) :
    ∃ more, final.Traced reader entry (met ++ more) ∧ Halts reader entry depth met more error := by
  induction stops generalizing met outer with
  | deep new =>
      have next := pending.next?_eq (mt (traced.mem_visited _).mpr new)
      exact ⟨[], by simpa using traced, .limit (by simp) (by simpa using next) (by simp)⟩
  | @missing _ _ path _ _ _ new lost =>
      have next := pending.next?_eq (mt (traced.mem_visited _).mpr new)
      exact ⟨[] ++ [path], traced.enter next, .lost (by simp) lost⟩
  | @inside _ _ path _ _ source _ _ new found _ under =>
      have next := pending.next?_eq (mt (traced.mem_visited _).mpr new)
      have entered := pending.enter
      rw [targets_of_locate found] at entered
      obtain ⟨more, after, halts⟩ := under (traced.opening next) entered
      refine ⟨[path] ++ more, by simpa using after, halts.after ?_ (by simp)⟩
      simpa using finds_of_locate found
  | later first _ tail =>
      obtain ⟨below, inside, left, found, _⟩ := first.traced traced pending
      obtain ⟨more, after, halts⟩ := tail inside left
      exact ⟨below ++ more, by simpa using after, halts.after found (by omega)⟩

/-- A load asks for the candidates of each module that it meets, in the order of a depth-first
search, up to the first that can be read. It ends with the modules that are to be met, or with the
first of which no candidate can be read; that one's own failure is told. A limit of depth that is
not reached makes no difference. -/
theorem load_reads (reader : Reader) (depth : Nat) {entry : String} (named : entry ≠ "") :
    ∃ met : List ModulePath,
      (load reader depth entry).asked = met.flatMap reader.tried ∧
      Discovered reader (.ofRaw entry) met ∧ (met.map ModulePath.key).Nodup ∧
      (∀ loaded, (load reader depth entry).result = .ok loaded →
        (∀ path ∈ met, reader.Finds path) ∧ met.length = loaded.graph.size ∧
        reader.next? (.ofRaw entry) met = none) ∧
      (∀ error, (load reader depth entry).result = .error error →
        (∃ path, error = .tooDeep path ∧ depth ≤ met.length ∧
          reader.next? (.ofRaw entry) met = some path ∧ ∀ other ∈ met, reader.Finds other) ∨
        ∃ earlier path failure, met = earlier ++ [path] ∧
          (∀ other ∈ earlier, reader.Finds other) ∧
          reader.tried path = path.candidates ∧ path.candidates.length = 9 ∧
          (∀ candidate ∈ path.candidates, ¬reader.readable candidate) ∧
          reader path.text = .error failure ∧
          error = if failure.kind = .notFound then .fileNotFound path
            else .unreadable path failure) ∧
      ((∀ path, (load reader depth entry).result ≠ .error (.tooDeep path)) →
        ∀ limit, depth ≤ limit → load reader limit entry = load reader depth entry) := by
  have start := Traversal.traced_empty reader (.ofRaw entry)
  have pending : Pending reader (.ofRaw entry) [] ([.ofRaw entry] ++ []) := Pending.start _ _
  rcases load_cases reader depth named with ⟨final, run, result⟩ | ⟨error, final, stops, result⟩
  · obtain ⟨met, traced, left, found, size⟩ := run.traced start pending
    rw [List.nil_append] at traced left
    refine ⟨met, ?_, traced.discovered, traced.discovered.nodup, ?_, ?_,
      fun within _ enough => load_eq_of_le enough within⟩
    · rw [← traced.asked_eq, result]
      simp [LoadRun.asked, Traversal.asked, Traversal.note, Event.asked?]
    · rintro loaded success
      rw [result] at success
      cases success
      exact ⟨found, by simpa [Graph.size, Traversal.loaded] using size.symm, left.next?_eq_none⟩
    · rintro error failed
      rw [result] at failed
      cases failed
  · obtain ⟨met, traced, halts⟩ := stops.traced start pending
    rw [List.nil_append] at traced
    refine ⟨met, by rw [← traced.asked_eq, result]; rfl, traced.discovered,
      traced.discovered.nodup, ?_, ?_, fun within _ enough => load_eq_of_le enough within⟩
    · rintro loaded success
      rw [result] at success
      cases success
    · rintro other failed
      rw [result] at failed
      cases failed
      cases halts with
      | limit deep next found => exact .inl ⟨_, rfl, deep, next, found⟩
      | @lost earlier path _ found missing =>
          obtain ⟨lost, failure, direct, told⟩ := locate_eq_error missing
          exact .inr ⟨earlier, path, failure, rfl, found, tried_of_unreadable lost,
            by simp [ModulePath.candidates, ModulePath.maxClimb], lost, direct, told⟩

def partly : Reader :=
  .ofList
    [("m.kooix", .ok ⟨"import \"a\";\nimport \"gone\";\nimport \"n\";\n", true⟩),
      ("../a.kooix", .ok ⟨"", true⟩), ("n.kooix", .ok ⟨"", true⟩)]
    .noSuchFile

theorem load_reads_partly :
    (load partly 2 "m").result = .error (.fileNotFound (.ofRaw "gone")) ∧
      ∃ earlier : List ModulePath, (load partly 2 "m").asked =
          earlier.flatMap partly.tried ++ (ModulePath.ofRaw "gone").candidates ∧
        ∀ other ∈ earlier, partly.Finds other := by
  have failed : (load partly 2 "m").result = .error (.fileNotFound (.ofRaw "gone")) := by
    decide +kernel
  obtain ⟨met, asked, _, _, _, failing, _⟩ := load_reads partly 2 (show "m" ≠ "" by decide)
  refine ⟨failed, ?_⟩
  rcases failing _ failed with
    ⟨_, deep, _⟩ | ⟨earlier, path, failure, rfl, found, tried, _, _, _, told⟩
  · cases deep
  · refine ⟨earlier, ?_, found⟩
    obtain rfl : ModulePath.ofRaw "gone" = path := by
      split at told
      · exact LoadError.fileNotFound.inj told
      · cases told
    rw [asked, List.flatMap_append, List.flatMap_singleton, tried]

end Bundler.Source
