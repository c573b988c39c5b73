import Bundler.Proofs.Load.Visits
import Bundler.Proofs.Unit.Layout

/-!
What the modules of a load were read from. The unit is built from the same texts as the modules,
in the same order.
-/

namespace Bundler.Source

open Text (Decoded)

variable {reader : Reader} {importer? : Option ModulePath} {path : ModulePath}
  {paths : List ModulePath} {state inner final : Traversal} {source : Located}

/-! Reading candidates. -/

theorem mem_probe {candidates : List String} {candidate : String}
    {result : Except IoError Decoded} (member : (candidate, result) ∈ reader.probe candidates) :
    candidate ∈ candidates ∧ reader candidate = result := by
  induction candidates with
  | nil => cases member
  | cons first rest ih =>
      cases outcome : reader first with
      | ok decoded =>
          simp only [Reader.probe, outcome, List.mem_singleton, Prod.mk.injEq] at member
          obtain ⟨rfl, rfl⟩ := member
          exact ⟨List.mem_cons_self, outcome⟩
      | error error =>
          simp only [Reader.probe, outcome, List.mem_cons, Prod.mk.injEq] at member
          rcases member with ⟨rfl, rfl⟩ | later
          · exact ⟨List.mem_cons_self, outcome⟩
          · exact ⟨List.mem_cons_of_mem _ (ih later).1, (ih later).2⟩

theorem conclude_eq_ok {reads : List (String × Except IoError Decoded)}
    (found : conclude path reads = .ok source) :
    ∃ decoded, (source.location, .ok decoded) ∈ reads ∧ decoded.text = source.text := by
  unfold conclude at found
  split at found
  · rename_i location decoded last
    cases found
    exact ⟨decoded, List.mem_of_getLast? last, rfl⟩
  · split at found <;> cases found
  · cases found

theorem read_of_locate (found : locate reader path = .ok source) :
    ∃ decoded, reader source.location = .ok decoded ∧ decoded.text = source.text := by
  obtain ⟨decoded, member, text⟩ := conclude_eq_ok found
  exact ⟨decoded, (mem_probe member).2, text⟩

theorem candidates_eq_cons (path : ModulePath) : path.candidates = path.text ::
    (List.range ModulePath.maxClimb).map fun levels =>
      ModulePath.climb (levels + 1) path.text := by
  rw [ModulePath.candidates, List.range_succ_eq_map, List.map_cons, List.map_map]
  simp [ModulePath.climb, Function.comp_def]

theorem locate_of_read {decoded : Decoded} (read : reader path.text = .ok decoded) :
    locate reader path = .ok ⟨path.text, decoded.text⟩ := by
  simp [locate, candidates_eq_cons, Reader.probe, read, conclude]

/-! Emitted modules. -/

/-- A module that was found with the text, and that has the imports which the text asks for. -/
structure Module.ReadAs (reader : Reader) (module : Module) (text : String) : Prop where
  located : locate reader module.path = .ok ⟨module.location, text⟩
  imports_eq : module.imports = importsOf module.path text

def Traversal.Sourced (reader : Reader) (state : Traversal) : Prop :=
  ∃ texts, List.Forall₂ (Module.ReadAs reader) state.modules texts ∧
    state.unit = .ofTexts ((state.modules.map (·.path)).zip texts)

theorem Traversal.Sourced.close (sourced : inner.Sourced reader)
    (found : locate reader path = .ok source) :
    (inner.close path source (importsOf path source.text)).Sourced reader := by
  obtain ⟨texts, read, unit⟩ := sourced
  refine ⟨texts ++ [source.text], ?_, ?_⟩
  · exact List.rel_append read (.cons ⟨found, rfl⟩ .nil)
  · have sizes : (inner.modules.map (·.path)).length = texts.length := by
      rw [List.length_map]
      exact read.length_eq
    rw [unit_close, unit, modules_close, List.map_append, List.map_singleton,
      List.zip_append sizes, List.zip_cons_cons, List.zip_nil_right,
      CompilationUnit.ofTexts_concat]

theorem Visits.sourced (run : Visits reader importer? paths state final)
    (start : state.Sourced reader) : final.Sourced reader := by
  induction run with
  | nil => exact start
  | again _ _ tail => exact tail (by simpa [Traversal.Sourced] using start)
  | fresh _ found _ _ under tail => exact tail ((under start).close found)

theorem Visits.entry_sourced (run : Visits reader none paths {} final) :
    final.Sourced reader :=
  run.sourced ⟨[], .nil, rfl⟩

/-- The text of the unit is that of its modules, each behind its marker and in front of a
separator; the table of segments selects exactly these texts; and the modules have the imports
which their texts ask for. -/
theorem load_layout {depth : Nat} {entry : String} {loaded : Loaded}
    (success : (load reader depth entry).result = .ok loaded) :
    ∃ texts : List String,
      List.Forall₂
        (fun module text =>
          (∃ decoded, reader module.location = .ok decoded ∧ decoded.text = text) ∧
          module.imports.map (·.specifier) = imports text ∧
          ∀ edge ∈ module.imports, edge.target = .resolve module.path.baseDir edge.specifier)
        loaded.graph.modules texts ∧
      loaded.unit.segments.map (·.path) = loaded.graph.modules.map (·.path) ∧
      loaded.unit.text = String.join (List.zipWith
        (fun module text => module.path.marker ++ text ++ "\n\n") loaded.graph.modules texts) ∧
      List.Forall₂
        (fun segment text => loaded.unit.textOf segment = text ∧
          segment.stop = segment.start + text.utf8ByteSize)
        loaded.unit.segments texts ∧
      (loaded.unit.segments.Pairwise fun earlier later => earlier.stop < later.start) ∧
      ∀ segment ∈ loaded.unit.segments, segment.stop ≤ loaded.unit.text.utf8ByteSize := by
  obtain ⟨final, run, rfl⟩ := visits_of_load success
  obtain ⟨texts, read, unit⟩ := run.entry_sourced
  have sizes : (final.modules.map (·.path)).length = texts.length := by
    rw [List.length_map]
    exact read.length_eq
  simp only [Traversal.loaded, unit]
  refine ⟨texts, read.imp ?_, ?_, ?_, ?_, ?_, ?_⟩
  · intro module text readAs
    refine ⟨read_of_locate readAs.located, ?_, ?_⟩
    · simp [readAs.imports_eq, importsOf, Function.comp_def]
    · intro edge member
      rw [readAs.imports_eq, importsOf, List.mem_map] at member
      obtain ⟨specifier, _, rfl⟩ := member
      rfl
  · exact CompilationUnit.map_path_ofTexts_zip sizes
  · rw [CompilationUnit.text_ofTexts, List.map_zip_eq_zipWith, List.zipWith_map_left]
    rfl
  · have selected := CompilationUnit.textOf_ofTexts ((final.modules.map (·.path)).zip texts)
    rwa [List.map_snd_zip (Nat.le_of_eq sizes.symm)] at selected
  · rw [CompilationUnit.segments_ofTexts]
    exact CompilationUnit.segmentsFrom_pairwise 0 _
  · intro segment member
    rw [CompilationUnit.segments_ofTexts] at member
    rw [CompilationUnit.text_ofTexts]
    have within := CompilationUnit.segmentsFrom_within 0 _ segment member
    omega

def accented : Reader :=
  .ofList [("m.kooix", .ok ⟨"import \"é\";", true⟩), ("é.kooix", .ok ⟨"", true⟩)] .noSuchFile

theorem load_layout_accented :
    ∃ loaded, (load accented 2 "m").result = .ok loaded ∧
      loaded.unit.segments.map (fun segment => (segment.start, segment.stop)) =
        [(26, 26), (53, 65)] ∧
      ∀ segment ∈ loaded.unit.segments, segment.stop ≤ loaded.unit.text.utf8ByteSize := by
  have outcome : ((load accented 2 "m").result.toOption.map fun loaded =>
      loaded.unit.segments.map fun segment => (segment.start, segment.stop)) =
        some [(26, 26), (53, 65)] := by decide +kernel
  obtain ⟨loaded, success, places⟩ := exists_ok_of_map_eq outcome
  obtain ⟨_, _, _, _, _, _, within⟩ := load_layout success
  exact ⟨loaded, success, places, within⟩

end Bundler.Source
