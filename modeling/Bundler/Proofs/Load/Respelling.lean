import Bundler.Proofs.Load.Composition

/-!
Loads of two spellings of one path. With a reader to which two spellings of a path string are the
same, the two loads go on alike: whenever one of them meets a module, cuts a cycle or fails, so does
the other, at a spelling of the same path.
-/

namespace Bundler.Source

open ModulePath (EndsInDots climbed)

namespace Reader

def text? (reader : Reader) (candidate : String) : Option String :=
  (reader candidate).toOption.map (·.text)

/-- Two spellings of one path string yield one text, or both of them none. -/
def Consistent (reader : Reader) : Prop :=
  ∀ path other : ModulePath, path.key = other.key →
    reader.text? path.text = reader.text? other.text

/-- Whatever can be read imports only what can be the name of a file. -/
def ImportsFiles (reader : Reader) : Prop :=
  ∀ candidate text, reader.text? candidate = some text →
    ∀ specifier ∈ imports text, ¬EndsInDots specifier

end Reader

variable {reader : Reader} {depth : Nat}

theorem Reader.ImportsFiles.of_locate (files : reader.ImportsFiles) {path : ModulePath}
    {source : Located} (found : locate reader path = .ok source) :
    ∀ specifier ∈ imports source.text, ¬EndsInDots specifier := by
  obtain ⟨decoded, read, same⟩ := read_of_locate found
  apply files source.location
  rw [Reader.text?, read, ← same]
  rfl

/-! What a path leads to. -/

theorem text_conclude (path : ModulePath) (reads : List (String × Except IoError Text.Decoded)) :
    (conclude path reads).toOption.map (·.text) =
      reads.getLast?.bind fun (_, result) => result.toOption.map (·.text) := by
  unfold conclude
  generalize reads.getLast? = last
  generalize reads.head? = first
  rcases last with _ | ⟨location, error | decoded⟩
  · rcases first with _ | ⟨candidate, failure | decoded⟩
    · rfl
    · dsimp only
      split <;> rfl
    · rfl
  · rcases first with _ | ⟨candidate, failure | decoded⟩
    · rfl
    · dsimp only
      split <;> rfl
    · rfl
  · rfl

theorem Reader.textAt?_eq_findSome? (reader : Reader) (path : ModulePath) :
    reader.textAt? path = path.candidates.findSome? reader.text? := by
  rw [Reader.textAt?, locate, text_conclude]
  induction path.candidates with
  | nil => rfl
  | cons candidate rest ih =>
      cases read : reader candidate with
      | ok decoded => simp [Reader.probe, Reader.text?, read, Except.toOption]
      | error error =>
          have unread : reader.text? candidate = none := by
            rw [Reader.text?, read]
            rfl
          rw [List.findSome?_cons, unread, ← ih, Reader.probe, read, List.getLast?_cons]
          cases (reader.probe rest).getLast? <;> rfl

/-- Spellings of one path that name a file. From the root on, a path has one spelling only. -/
structure ModulePath.Alike (path other : ModulePath) : Prop where
  named : path.Named
  otherNamed : other.Named
  key_eq : path.key = other.key
  eq_of_absolute : Path.isAbsolute path.text = true → path = other

namespace ModulePath.Alike

variable {path other : ModulePath}

theorem textAt?_eq (alike : path.Alike other) (consistent : reader.Consistent) :
    reader.textAt? path = reader.textAt? other := by
  cases absolute : Path.isAbsolute path.text with
  | true => rw [alike.eq_of_absolute absolute]
  | false =>
      have level (levels : Nat) :
          reader.text? (climb levels path.text) = reader.text? (climb levels other.text) :=
        consistent (path.climbed levels) (other.climbed levels)
          (key_climbed_eq absolute alike.key_eq levels)
      simp only [Reader.textAt?_eq_findSome?, candidates, List.findSome?_map, Function.comp_def,
        level]

theorem resolve (alike : path.Alike other) {specifier : String}
    (proper : ¬EndsInDots specifier) :
    (resolve path.baseDir specifier).Alike (resolve other.baseDir specifier) where
  named := named_resolve (isBase_directoryPart path.text) proper
  otherNamed := named_resolve (isBase_directoryPart other.text) proper
  key_eq := key_resolve_eq alike.named alike.otherNamed alike.key_eq specifier
  eq_of_absolute := by
    intro absolute
    by_cases rooted : Path.isAbsolute specifier = true
    · rw [ModulePath.resolve, ModulePath.resolve, if_pos rooted, if_pos rooted]
    · rw [ModulePath.resolve, if_neg rooted, isAbsolute_ofRaw, baseDir,
        (isBase_directoryPart path.text).isAbsolute_append (by simpa using rooted),
        isAbsolute_directoryPart] at absolute
      rw [alike.eq_of_absolute absolute]

theorem targets (alike : path.Alike other) {text : String}
    (proper : ∀ specifier ∈ imports text, ¬EndsInDots specifier) :
    List.Forall₂ ModulePath.Alike (targetsOf path text) (targetsOf other text) := by
  rw [targetsOf_eq_map, targetsOf_eq_map, List.forall₂_map_left_iff, List.forall₂_map_right_iff]
  exact List.forall₂_same.mpr fun specifier member => alike.resolve (proper specifier member)

end ModulePath.Alike

/-! Two loads under way. -/

structure Module.Alike (module other : Module) : Prop where
  path : module.path.Alike other.path
  specifiers_eq : module.imports.map (·.specifier) = other.imports.map (·.specifier)

def Cycle.ends (cycle : Cycle) : String × String :=
  (cycle.importer.key, cycle.target.key)

structure Traversal.Alike (state other : Traversal) : Prop where
  visited_eq : state.visited = other.visited
  loading_eq : state.loading = other.loading
  modules : List.Forall₂ Module.Alike state.modules other.modules
  ends_eq : state.cycles.map Cycle.ends = other.cycles.map Cycle.ends

/-- Either both visits succeed, and leave loads that are alike, or both fail. -/
inductive Matched : EStateM.Result LoadError Traversal PUnit →
    EStateM.Result LoadError Traversal PUnit → Prop
  | succeeded {value value' : PUnit} {state other : Traversal} (alike : state.Alike other) :
      Matched (.ok value state) (.ok value' other)
  | failed {error error' : LoadError} {state other : Traversal} :
      Matched (.error error state) (.error error' other)

namespace Traversal.Alike

variable {state other : Traversal} {importer? importer'? : Option ModulePath}
  {path path' : ModulePath}

theorem empty : ({} : Traversal).Alike {} :=
  ⟨rfl, rfl, .nil, rfl⟩

theorem mem_visited_iff (alike : state.Alike other) (paths : path.Alike path') :
    path.key ∈ state.visited ↔ path'.key ∈ other.visited := by
  rw [alike.visited_eq, paths.key_eq]

theorem revisit (alike : state.Alike other)
    (importers : Option.Rel ModulePath.Alike importer? importer'?) (paths : path.Alike path') :
    (state.revisit importer? path).Alike (other.revisit importer'? path') where
  visited_eq := by simp [alike.visited_eq]
  loading_eq := by simp [alike.loading_eq]
  modules := by simpa using alike.modules
  ends_eq := by
    cases importers with
    | none => exact alike.ends_eq
    | some importers =>
        rw [cycles_revisit_some, cycles_revisit_some, List.map_append, List.map_append,
          alike.ends_eq, alike.loading_eq, paths.key_eq]
        split
        · simp [Cycle.ends, importers.key_eq, paths.key_eq]
        · rfl

theorem opening (alike : state.Alike other) (paths : path.Alike path') :
    (state.opening reader path).Alike (other.opening reader path') where
  visited_eq := by simp [alike.visited_eq, paths.key_eq]
  loading_eq := by simp [alike.loading_eq, paths.key_eq]
  modules := by simpa using alike.modules
  ends_eq := by simpa using alike.ends_eq

theorem close (alike : state.Alike other) (paths : path.Alike path') {source source' : Located}
    {text : String} :
    (state.close path source (importsOf path text)).Alike
      (other.close path' source' (importsOf path' text)) where
  visited_eq := by simp [alike.visited_eq]
  loading_eq := by simp [alike.loading_eq]
  modules := by
    have last : Module.Alike ⟨path, source.location, importsOf path text⟩
        ⟨path', source'.location, importsOf path' text⟩ :=
      ⟨paths, by rw [specifiers_importsOf, specifiers_importsOf]⟩
    exact List.rel_append alike.modules (.cons last .nil)
  ends_eq := by simpa using alike.ends_eq

end Traversal.Alike

section Visits

variable {importer? importer'? : Option ModulePath} {path path' : ModulePath}
  {paths paths' : List ModulePath} {state other : Traversal}

theorem Matched.andThen {result result' : EStateM.Result LoadError Traversal PUnit}
    {next next' : Traversal → EStateM.Result LoadError Traversal PUnit}
    (later : ∀ {state other : Traversal}, state.Alike other → Matched (next state) (next' other)) :
    Matched result result' → Matched
      (match result with
        | .ok _ state => next state
        | .error error state => .error error state)
      (match result' with
        | .ok _ state => next' state
        | .error error state => .error error state)
  | succeeded alike => later alike
  | failed => .failed

theorem Matched.visitAll
    (each : ∀ {path path' : ModulePath} {state other : Traversal}, path.Alike path' →
      state.Alike other → Matched ((visit reader depth importer? path).run state)
        ((visit reader depth importer'? path').run other))
    (alike : List.Forall₂ ModulePath.Alike paths paths') (states : state.Alike other) :
    Matched ((visitAll reader depth importer? paths).run state)
      ((visitAll reader depth importer'? paths').run other) := by
  induction alike generalizing state other with
  | nil =>
      rw [visitAll_nil, visitAll_nil]
      exact .succeeded states
  | cons head _ tail =>
      rw [visitAll_cons, visitAll_cons]
      exact .andThen tail (each head states)

theorem Matched.visit_met (importers : Option.Rel ModulePath.Alike importer? importer'?)
    (paths : path.Alike path') (states : state.Alike other) (met : path.key ∈ state.visited) :
    Matched ((visit reader depth importer? path).run state)
      ((visit reader depth importer'? path').run other) := by
  rw [Bundler.Source.visit_met met,
    Bundler.Source.visit_met ((states.mem_visited_iff paths).mp met)]
  exact .succeeded (states.revisit importers paths)

theorem visit_matched (consistent : reader.Consistent) (files : reader.ImportsFiles)
    (importers : Option.Rel ModulePath.Alike importer? importer'?)
    (paths : path.Alike path') (states : state.Alike other) :
    Matched ((visit reader depth importer? path).run state)
      ((visit reader depth importer'? path').run other) := by
  induction depth generalizing importer? importer'? path path' state other with
  | zero =>
      by_cases met : path.key ∈ state.visited
      · exact .visit_met importers paths states met
      · rw [visit_zero met, visit_zero ((states.mem_visited_iff paths).not.mp met)]
        exact .failed
  | succ depth deeper =>
      by_cases met : path.key ∈ state.visited
      · exact .visit_met importers paths states met
      · have met' := (states.mem_visited_iff paths).not.mp met
        have texts := paths.textAt?_eq consistent
        cases found : locate reader path with
        | error error =>
            cases found' : locate reader path' with
            | error error' =>
                rw [visit_missing met found, visit_missing met' found']
                exact .failed
            | ok source' => simp [Reader.textAt?, found, found', Except.toOption] at texts
        | ok source =>
            cases found' : locate reader path' with
            | error error' => simp [Reader.textAt?, found, found', Except.toOption] at texts
            | ok source' =>
                rw [textAt?_of_locate found, textAt?_of_locate found', Option.some.injEq] at texts
                rw [visit_found met found, visit_found met' found', ← texts]
                have proper := files.of_locate found
                have opened : (state.opening reader path).Alike (other.opening reader path') :=
                  states.opening paths
                have below := Matched.visitAll (deeper (.some paths)) (paths.targets proper) opened
                revert below
                generalize (visitAll reader depth (some path) _).run _ = result
                generalize (visitAll reader depth (some path') _).run _ = result'
                exact .andThen fun inner => .succeeded (inner.close paths)

end Visits

/-! Whole loads. -/

theorem Traversal.Alike.listing_eq {state other : Traversal} (alike : state.Alike other)
    (consistent : reader.Consistent) :
    state.modules.map (Module.listed reader) = other.modules.map (Module.listed reader) := by
  rw [← List.forall₂_eq_eq_eq, List.forall₂_map_left_iff, List.forall₂_map_right_iff]
  refine alike.modules.imp fun module module' same => ?_
  rw [Module.listed, Module.listed, Module.key, Module.key, same.path.key_eq,
    same.path.textAt?_eq consistent]

theorem Traversal.Alike.specifiers_eq {state other : Traversal} (alike : state.Alike other) :
    (state.modules.map fun module => module.imports.map (·.specifier)) =
      other.modules.map fun module => module.imports.map (·.specifier) := by
  rw [← List.forall₂_eq_eq_eq, List.forall₂_map_left_iff, List.forall₂_map_right_iff]
  exact alike.modules.imp fun _ _ same => same.specifiers_eq

theorem ModulePath.alike_ofRaw {entry other : String}
    (relative : Path.isAbsolute entry = false) (proper : ¬EndsInDots entry)
    (otherProper : ¬EndsInDots other) (same : (ofRaw entry).key = (ofRaw other).key) :
    (ofRaw entry).Alike (ofRaw other) where
  named := named_ofRaw proper
  otherNamed := named_ofRaw otherProper
  key_eq := same
  eq_of_absolute := by simp [isAbsolute_ofRaw, relative]

theorem load_alike {entry other : String} (depth : Nat) (consistent : reader.Consistent)
    (files : reader.ImportsFiles) (named : entry ≠ "") (otherNamed : other ≠ "")
    (alike : (ModulePath.ofRaw entry).Alike (.ofRaw other)) :
    (∃ state state' : Traversal, state.Alike state' ∧
        state.Sourced reader ∧ state'.Sourced reader ∧
        (load reader depth entry).result = .ok (state.loaded (.ofRaw entry)) ∧
        (load reader depth other).result = .ok (state'.loaded (.ofRaw other))) ∨
      ∃ error error', (load reader depth entry).result = .error error ∧
        (load reader depth other).result = .error error' := by
  have matched : Matched ((visit reader depth none (.ofRaw entry)).run {})
      ((visit reader depth none (.ofRaw other)).run {}) :=
    visit_matched consistent files .none alike .empty
  generalize ran : (visit reader depth none (.ofRaw entry)).run {} = result at matched
  generalize ran' : (visit reader depth none (.ofRaw other)).run {} = result' at matched
  cases matched with
  | @succeeded _ _ state state' states =>
      refine .inl ⟨state, state', states, (Visits.of_visit ran).entry_sourced,
        (Visits.of_visit ran').entry_sourced, ?_, ?_⟩
      · simp [load, named, ran, Traversal.loaded]
      · simp [load, otherNamed, ran', Traversal.loaded]
  | @failed error error' =>
      refine .inr ⟨error, error', ?_, ?_⟩
      · simp [load, named, ran]
      · simp [load, otherNamed, ran']

/-- Two spellings of a relative path load alike: both loads succeed or neither does, and the modules
have the same keys, texts and specifiers, in the same order, with the same cycles between them. -/
theorem load_respelled {entry other : String} (consistent : reader.Consistent)
    (files : reader.ImportsFiles) (named : entry ≠ "") (otherNamed : other ≠ "")
    (relative : Path.isAbsolute entry = false) (proper : ¬EndsInDots entry)
    (otherProper : ¬EndsInDots other)
    (same : (ModulePath.ofRaw entry).key = (ModulePath.ofRaw other).key) :
    ((∃ loaded, (load reader depth entry).result = .ok loaded) ↔
      ∃ loaded, (load reader depth other).result = .ok loaded) ∧
    ∀ loaded loaded', (load reader depth entry).result = .ok loaded →
      (load reader depth other).result = .ok loaded' →
      loaded.graph.modules.map Module.key = loaded'.graph.modules.map Module.key ∧
      loaded.listing.map Listed.key = loaded.graph.modules.map Module.key ∧
      loaded.listing = loaded'.listing ∧
      ((loaded.graph.modules.map fun module => module.imports.map (·.specifier)) =
        loaded'.graph.modules.map fun module => module.imports.map (·.specifier)) ∧
      loaded.graph.cycles.map Cycle.ends = loaded'.graph.cycles.map Cycle.ends := by
  rcases load_alike depth consistent files named otherNamed
    (ModulePath.alike_ofRaw relative proper otherProper same) with
    ⟨state, state', states, sourced, sourced', success, success'⟩ |
      ⟨error, error', failure, failure'⟩
  · refine ⟨⟨fun _ => ⟨_, success'⟩, fun _ => ⟨_, success⟩⟩, ?_⟩
    intro loaded loaded' isLoaded isLoaded'
    obtain rfl := Except.ok.inj (success.symm.trans isLoaded)
    obtain rfl := Except.ok.inj (success'.symm.trans isLoaded')
    have listings := states.listing_eq consistent
    have keys := congrArg (List.map Listed.key) listings
    rw [map_key_listed, map_key_listed] at keys
    rw [sourced.listing_loaded, sourced'.listing_loaded, map_key_listed]
    exact ⟨keys, rfl, listings, states.specifiers_eq, states.ends_eq⟩
  · simp [failure, failure']

def higherText? : String → Option String
  | "m.kooix" => some "import \"lib\";\nimport \"sub/n\";\n"
  | "sub/n.kooix" => some "import \"../m\";\nimport \"./../lib\";\n"
  | "../lib.kooix" => some ""
  | _ => none

def higher : Reader := fun path =>
  match higherText? (ModulePath.ofRaw path).key with
  | some text => .ok ⟨text, true⟩
  | none => .error .noSuchFile

theorem text?_higher (path : String) :
    higher.text? path = higherText? (ModulePath.ofRaw path).key := by
  unfold Reader.text? higher
  generalize higherText? (ModulePath.ofRaw path).key = content
  cases content with
  | some text => rfl
  | none => rfl

theorem consistent_higher : higher.Consistent := by
  intro path other same
  rw [text?_higher, text?_higher, ModulePath.ofRaw_text, ModulePath.ofRaw_text, same]

theorem importsFiles_higher : higher.ImportsFiles := by
  intro candidate text read
  rw [text?_higher] at read
  revert read
  generalize (ModulePath.ofRaw candidate).key = key
  unfold higherText?
  split
  · rintro ⟨⟩
    decide +kernel
  · rintro ⟨⟩
    decide +kernel
  · rintro ⟨⟩
    decide +kernel
  · rintro ⟨⟩

theorem load_respelled_higher :
    ∃ loaded loaded', (load higher 3 "m").result = .ok loaded ∧
      (load higher 3 "x/.././m").result = .ok loaded' ∧
      loaded.graph.modules.map (·.path.text) = ["lib.kooix", "sub/n.kooix", "m.kooix"] ∧
      loaded'.graph.modules.map (·.path.text) =
        ["x/.././lib.kooix", "x/.././sub/n.kooix", "x/.././m.kooix"] ∧
      loaded.listing = loaded'.listing ∧
      loaded.graph.cycles.map Cycle.ends = loaded'.graph.cycles.map Cycle.ends := by
  have outcome : ((load higher 3 "m").result.toOption.map fun loaded =>
      loaded.graph.modules.map (·.path.text)) =
        some ["lib.kooix", "sub/n.kooix", "m.kooix"] := by decide +kernel
  have outcome' : ((load higher 3 "x/.././m").result.toOption.map fun loaded =>
      loaded.graph.modules.map (·.path.text)) =
        some ["x/.././lib.kooix", "x/.././sub/n.kooix", "x/.././m.kooix"] := by decide +kernel
  obtain ⟨loaded, success, paths⟩ := exists_ok_of_map_eq outcome
  obtain ⟨loaded', success', paths'⟩ := exists_ok_of_map_eq outcome'
  obtain ⟨_, _, listing, _, cycles⟩ := (load_respelled consistent_higher importsFiles_higher
    (by decide) (by decide) (by decide +kernel) (by decide +kernel) (by decide +kernel)
    (by decide +kernel)).2 loaded loaded' success success'
  exact ⟨loaded, loaded', success, success', paths, paths', listing, cycles⟩

end Bundler.Source
