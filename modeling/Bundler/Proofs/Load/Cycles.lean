import Bundler.Proofs.Load.Closure

/-!
Imports that a load reports as cycles. A module whose imports are being followed is open, and a
report is an import of an open module: one whose text comes later than that of its importer, or is
the importer's own.
-/

namespace Bundler.Source

open Relation

variable {reader : Reader} {importer? : Option ModulePath} {importer path target : ModulePath}
  {paths : List ModulePath} {state inner final : Traversal}

namespace Traversal

theorem count_revisit (state : Traversal) (importer path other target : ModulePath) :
    (state.revisit (some importer) path).cycles.count ⟨other, target⟩ =
      state.cycles.count ⟨other, target⟩ +
        if path.key ∈ state.loading ∧ importer = other ∧ path = target then 1 else 0 := by
  rw [cycles_revisit_some, List.count_append]
  by_cases open_ : path.key ∈ state.loading
  · simp [open_, List.count_singleton]
  · simp [open_]

end Traversal

namespace Visits

theorem count_of_ne {other : ModulePath} (run : Visits reader importer? paths state final)
    (met : other.key ∈ state.visited) (distinct : importer? ≠ some other) :
    final.cycles.count ⟨other, target⟩ = state.cycles.count ⟨other, target⟩ := by
  induction run with
  | nil => rfl
  | @again importer? path paths state final _ _ tail =>
      rw [tail (by simpa using met) distinct]
      cases importer? with
      | none => rw [Traversal.cycles_revisit_none]
      | some importer =>
          have different : importer ≠ other := fun same => distinct (congrArg some same)
          simp [Traversal.count_revisit, different]
  | @fresh importer? path paths source state inner final new _ below _ under tail =>
      have different : path ≠ other := by
        rintro rfl
        exact new met
      have opened : other.key ∈ (state.opening reader path).visited :=
        List.mem_cons_of_mem _ met
      rw [tail (below.visited_subset opened) distinct, Traversal.cycles_close,
        under opened (by simpa using different), Traversal.cycles_opening]

theorem count_importer (run : Visits reader (some importer) paths state final)
    (start : state.Balanced) (met : importer.key ∈ state.visited) :
    final.cycles.count ⟨importer, target⟩ = state.cycles.count ⟨importer, target⟩ +
      if target.key ∈ state.loading then paths.count target else 0 := by
  generalize known : some importer = importer? at run
  induction run with
  | nil => simp
  | @again _ path paths state final _ _ tail =>
      subst known
      rw [tail start.revisit (by simpa using met) rfl, Traversal.count_revisit,
        Traversal.loading_revisit, List.count_cons]
      by_cases same : path = target
      · subst same
        by_cases open_ : path.key ∈ state.loading
        · simp [open_]
          omega
        · simp [open_]
      · simp [same]
  | @fresh _ path paths source state inner final new _ below rest under tail =>
      subst known
      have opened : importer.key ∈ (state.opening reader path).visited :=
        List.mem_cons_of_mem _ met
      have different : path ≠ importer := by
        rintro rfl
        exact new met
      have balanced : (inner.close path source (importsOf path source.text)).Balanced :=
        (below.balanced (start.opening new)).close below.loading_eq
      rw [tail balanced (below.visited_subset opened) rfl, Traversal.cycles_close,
        below.count_of_ne opened (by simpa using different), Traversal.cycles_opening,
        Traversal.loading_close, below.loading_eq, Traversal.loading_opening, List.tail_cons,
        List.count_cons]
      by_cases same : path = target
      · subst same
        have closed : path.key ∉ state.loading := fun open_ =>
          new (start.mem_visited_iff.mpr (.inl open_))
        simp [closed]
      · simp [same]

theorem importer_emitted (run : Visits reader importer? paths state final) :
    ∀ cycle ∈ final.cycles, cycle ∈ state.cycles ∨ importer? = some cycle.importer ∨
      ∃ module ∈ final.modules, module.path = cycle.importer := by
  induction run with
  | nil =>
      intro cycle member
      exact .inl member
  | @again importer? path paths state final _ _ tail =>
      intro cycle member
      rcases tail cycle member with before | later
      · cases importer? with
        | none => exact .inl before
        | some importer =>
            rw [Traversal.cycles_revisit_some, List.mem_append] at before
            rcases before with earlier | added
            · exact .inl earlier
            · split at added
              · rw [List.mem_singleton] at added
                subst added
                exact .inr (.inl rfl)
              · cases added
      · exact .inr later
  | @fresh _ path _ source _ inner final _ _ _ rest under tail =>
      have kept := rest.modules_prefix.subset
      intro cycle member
      rcases tail cycle member with before | later
      · rcases under cycle before with earlier | importer | ⟨module, emitted, named⟩
        · exact .inl earlier
        · refine .inr (.inr ⟨⟨path, source.location, importsOf path source.text⟩,
            kept (by simp), ?_⟩)
          exact Option.some.inj importer
        · exact .inr (.inr ⟨module, kept (by simp [emitted]), named⟩)
      · exact .inr later

theorem cycle_leads (run : Visits reader importer? paths state final)
    {leads : String → String → Prop}
    (recorded : ∀ key other, Leads final.modules key other → leads key other)
    (edges : ∀ importer, importer? = some importer →
      ∀ path ∈ paths, leads importer.key path.key)
    (stack : ∀ key ∈ state.loading, ∃ importer, importer? = some importer ∧
      ReflTransGen leads key importer.key) :
    ∀ cycle ∈ final.cycles, cycle ∈ state.cycles ∨
      (leads cycle.importer.key cycle.target.key ∧
        ReflTransGen leads cycle.target.key cycle.importer.key) := by
  induction run with
  | nil =>
      intro cycle member
      exact .inl member
  | @again importer? path paths state final _ _ tail =>
      have later := tail recorded
        (fun importer known path member =>
          edges importer known path (List.mem_cons_of_mem _ member))
        (by simpa using stack)
      intro cycle member
      rcases later cycle member with before | closes
      · cases importer? with
        | none => exact .inl before
        | some importer =>
            rw [Traversal.cycles_revisit_some, List.mem_append] at before
            rcases before with earlier | added
            · exact .inl earlier
            · split at added
              next open_ =>
                rw [List.mem_singleton] at added
                subst added
                obtain ⟨_, known, reached⟩ := stack path.key open_
                cases known
                exact .inr ⟨edges importer rfl path List.mem_cons_self, reached⟩
              next => cases added
      · exact .inr closes
  | @fresh importer? path paths source state inner final _ _ below rest under tail =>
      have inside := under
        (by
          rintro key other ⟨module, member, keyed⟩
          exact recorded key other
            ⟨module, rest.modules_prefix.subset (by simp [member]), keyed⟩)
        (by
          rintro _ ⟨⟩ target member
          exact recorded _ _ (rest.leads_of_close target member))
        (by
          intro key open_
          refine ⟨path, rfl, ?_⟩
          rcases List.mem_cons.mp open_ with rfl | outer
          · exact .refl
          · obtain ⟨importer, known, reached⟩ := stack key outer
            exact reached.tail (edges importer known path List.mem_cons_self))
      have later := tail recorded
        (fun importer known path member =>
          edges importer known path (List.mem_cons_of_mem _ member))
        (by simpa [below.loading_eq] using stack)
      intro cycle member
      rcases later cycle member with before | closes
      · exact inside cycle before
      · exact .inr closes

end Visits

/-! Reports about emitted modules. -/

namespace Traversal

/-- The reports about each emitted module are its imports of modules that come no earlier. -/
def Reported (state : Traversal) : Prop :=
  ∀ before module after, state.modules = before ++ module :: after → ∀ target,
    state.cycles.count ⟨module.path, target⟩ =
      if target.key ∈ before.map Module.key then 0
      else (module.imports.map (·.target)).count target

def ImportersMet (state : Traversal) : Prop :=
  ∀ cycle ∈ state.cycles, cycle.importer.key ∈ state.visited

theorem ImportersMet.count_eq_zero (known : state.ImportersMet)
    (new : path.key ∉ state.visited) : state.cycles.count ⟨path, target⟩ = 0 := by
  rw [List.count_eq_zero]
  intro member
  exact new (known ⟨path, target⟩ member)

theorem Reported.revisit (reported : state.Reported) (start : state.Balanced)
    (importing : ∀ importer, importer? = some importer → importer.key ∈ state.loading) :
    (state.revisit importer? path).Reported := by
  cases importer? with
  | none => exact reported
  | some importer =>
      intro before module after split target
      rw [modules_revisit] at split
      have different : importer ≠ module.path := by
        rintro rfl
        have emitted : module.key ∈ state.modules.map Module.key := by simp [split]
        exact start.not_mem_keys (importing module.path rfl) emitted
      rw [count_revisit, reported before module after split target]
      simp [different]

theorem Reported.close (reported : inner.Reported) {source : Located} {imports : List Import}
    (counted : ∀ target, inner.cycles.count ⟨path, target⟩ =
      if target.key ∈ inner.modules.map Module.key then 0
      else (imports.map (·.target)).count target) :
    (inner.close path source imports).Reported := by
  intro before module after split target
  rw [modules_close] at split
  rcases List.eq_nil_or_concat after with rfl | ⟨earlier, last, rfl⟩
  · obtain ⟨rfl, same⟩ := List.append_inj' split rfl
    cases same
    exact counted target
  · have extended : inner.modules ++ [⟨path, source.location, imports⟩] =
        (before ++ module :: earlier) ++ [last] := by
      rw [split]
      simp
    exact reported before module earlier (List.append_inj' extended rfl).1 target

end Traversal

namespace Visits

theorem importersMet (run : Visits reader importer? paths state final) (start : state.Balanced)
    (importing : ∀ importer, importer? = some importer → importer.key ∈ state.loading)
    (known : state.ImportersMet) : final.ImportersMet := by
  intro cycle member
  rcases run.importer_emitted cycle member with before | importer | ⟨module, emitted, named⟩
  · exact run.visited_subset (known cycle before)
  · exact run.visited_subset (start.mem_visited_iff.mpr (.inl (importing _ importer)))
  · rw [(run.balanced start).mem_visited_iff, ← named]
    exact .inr (List.mem_map_of_mem emitted)

theorem count_own {source : Located} (below : Visits reader (some path)
      (targetsOf path source.text) (state.opening reader path) inner)
    (start : state.Balanced) (new : path.key ∉ state.visited) (known : state.ImportersMet)
    (target : ModulePath) :
    inner.cycles.count ⟨path, target⟩ =
      if target.key ∈ inner.modules.map Module.key then 0
      else (targetsOf path source.text).count target := by
  have balanced := below.balanced (start.opening new)
  rw [below.count_importer (start.opening new) List.mem_cons_self, Traversal.cycles_opening,
    known.count_eq_zero new, Nat.zero_add, ← below.loading_eq]
  by_cases emitted : target.key ∈ inner.modules.map Module.key
  · have closed : target.key ∉ inner.loading := fun open_ =>
      balanced.not_mem_keys open_ emitted
    rw [if_neg closed, if_pos emitted]
  · rw [if_neg emitted]
    by_cases open_ : target.key ∈ inner.loading
    · rw [if_pos open_]
    · rw [if_neg open_, eq_comm, List.count_eq_zero]
      intro member
      rcases balanced.mem_visited_iff.mp (below.key_mem_visited target member) with found | found
      · exact open_ found
      · exact emitted found

theorem reported (run : Visits reader importer? paths state final) (start : state.Balanced)
    (importing : ∀ importer, importer? = some importer → importer.key ∈ state.loading)
    (known : state.ImportersMet) (before : state.Reported) : final.Reported := by
  induction run with
  | nil => exact before
  | @again importer? path _ state _ met _ tail =>
      have single : Visits reader importer? [path] state (state.revisit importer? path) :=
        .again met .nil
      exact tail start.revisit (by simpa using importing)
        (single.importersMet start importing known) (before.revisit start importing)
  | @fresh importer? path paths source state inner final new _ below rest under tail =>
      have opened : (state.opening reader path).Balanced := start.opening new
      have opening : ∀ importer, some path = some importer →
          importer.key ∈ (state.opening reader path).loading := by
        rintro _ ⟨⟩
        exact List.mem_cons_self
      have openedKnown : (state.opening reader path).ImportersMet := fun cycle member =>
        List.mem_cons_of_mem _ (known cycle member)
      have closed : (inner.close path source (importsOf path source.text)).Balanced :=
        (below.balanced opened).close below.loading_eq
      refine tail closed ?_ ?_ ?_
      · simpa [below.loading_eq] using importing
      · exact below.importersMet opened opening openedKnown
      · exact (under opened opening openedKnown before).close
          (below.count_own start new known)

end Visits

/-! The place of a module in the unit. -/

def Graph.place (graph : Graph) (key : String) : Nat :=
  (graph.modules.map Module.key).idxOf key

theorem Graph.place_le_iff {graph : Graph} {before after : List Module} {module : Module}
    (split : graph.modules = before ++ module :: after)
    (nodup : (graph.modules.map Module.key).Nodup) (key : String) :
    graph.place module.key ≤ graph.place key ↔ key ∉ before.map Module.key := by
  rw [split, List.map_append, List.map_cons, List.nodup_middle, List.nodup_cons] at nodup
  have fresh : module.key ∉ before.map Module.key := fun member =>
    nodup.1 (List.mem_append_left _ member)
  have own : graph.place module.key = before.length := by
    rw [Graph.place, split, List.map_append, List.map_cons, List.idxOf_append_of_notMem fresh,
      List.idxOf_cons_self, List.length_map, Nat.add_zero]
  rw [own, Graph.place, split, List.map_append]
  by_cases member : key ∈ before.map Module.key
  · rw [List.idxOf_append_of_mem member]
    have earlier := List.idxOf_lt_length_of_mem member
    rw [List.length_map] at earlier
    simp only [member, not_true_eq_false, iff_false]
    omega
  · rw [List.idxOf_append_of_notMem member, List.length_map]
    simp only [member, not_false_eq_true, iff_true]
    omega

/-! Relations that go down in rank. -/

section

variable {leads : String → String → Prop} {rank : String → Nat}
  (descends : ∀ key other, leads key other → rank other < rank key)

include descends

theorem rank_lt_of_transGen {key other : String} (steps : TransGen leads key other) :
    rank other < rank key := by
  induction steps with
  | single step => exact descends _ _ step
  | tail _ step earlier => exact Nat.lt_trans (descends _ _ step) earlier

theorem not_transGen_self (key : String) : ¬ TransGen leads key key := fun cycle =>
  Nat.lt_irrefl _ (rank_lt_of_transGen descends cycle)

end

namespace Graph

/-- An import is reported as often as it is written when its target's text is not before that of
its importer, and else not at all. -/
def ReportsLate (graph : Graph) : Prop :=
  ∀ module ∈ graph.modules, ∀ target,
    graph.cycles.count ⟨module.path, target⟩ =
      if graph.place module.key ≤ graph.place target.key then
        (module.imports.map (·.target)).count target
      else 0

variable {graph : Graph}

theorem ReportsLate.place_lt (reports : graph.ReportsLate) {module : Module}
    (member : module ∈ graph.modules) {edge : Import} (edgeMember : edge ∈ module.imports)
    (silent : ⟨module.path, edge.target⟩ ∉ graph.cycles) :
    graph.place edge.target.key < graph.place module.key := by
  have count := reports module member edge.target
  rw [List.count_eq_zero.mpr silent] at count
  refine Nat.lt_of_not_le fun late => ?_
  rw [if_pos late, eq_comm, List.count_eq_zero] at count
  exact count (List.mem_map_of_mem edgeMember)

theorem ReportsLate.descends (reports : graph.ReportsLate) (silent : graph.cycles = []) :
    ∀ key other, Leads graph.modules key other → graph.place other < graph.place key := by
  rintro _ _ ⟨module, member, rfl, edge, edgeMember, rfl⟩
  exact reports.place_lt member edgeMember (by simp [silent])

theorem ReportsLate.exists_import (reports : graph.ReportsLate) {module : Module}
    (member : module ∈ graph.modules) {target : ModulePath}
    (reported : ⟨module.path, target⟩ ∈ graph.cycles) :
    ∃ edge ∈ module.imports, edge.target = target := by
  have present := List.count_pos_iff.mpr reported
  rw [reports module member target] at present
  by_cases late : graph.place module.key ≤ graph.place target.key
  · rw [if_pos late] at present
    exact List.mem_map.mp (List.count_pos_iff.mp present)
  · rw [if_neg late] at present
    cases present

theorem ReportsLate.hasCycles_iff (reports : graph.ReportsLate)
    (closes : ∀ cycle ∈ graph.cycles,
      Leads graph.modules cycle.importer.key cycle.target.key ∧
      ReflTransGen (Leads graph.modules) cycle.target.key cycle.importer.key) :
    graph.hasCycles ↔ ∃ key, TransGen (Leads graph.modules) key key := by
  constructor
  · intro reported
    obtain ⟨cycle, member⟩ : ∃ cycle, cycle ∈ graph.cycles := by
      apply List.exists_mem_of_ne_nil
      simpa [hasCycles] using reported
    obtain ⟨step, back⟩ := closes cycle member
    exact ⟨cycle.importer.key, .head' step back⟩
  · rintro ⟨key, cycle⟩
    by_contra silent
    have none : graph.cycles = [] := by simpa [hasCycles] using silent
    exact not_transGen_self (reports.descends none) key cycle

end Graph

namespace Visits

theorem entry_reported (run : Visits reader none paths {} final) : final.Reported :=
  run.reported Traversal.balanced_empty (by simp) (fun _ member => absurd member (by simp))
    (fun _ _ _ split => absurd split (by simp))

theorem reportsLate (run : Visits reader none paths {} final) (entry : ModulePath) :
    (final.loaded entry).graph.ReportsLate := by
  intro module member target
  obtain ⟨before, after, split⟩ := List.append_of_mem member
  have place := Graph.place_le_iff split run.entry_balanced.keys_nodup target.key
  refine (run.entry_reported before module after split target).trans ?_
  by_cases earlier : target.key ∈ before.map Module.key
  · rw [if_pos earlier, if_neg (by simpa [place] using earlier)]
  · rw [if_neg earlier, if_pos (place.mpr earlier)]

theorem entry_cycle_leads (run : Visits reader none paths {} final) :
    ∀ cycle ∈ final.cycles, Leads final.modules cycle.importer.key cycle.target.key ∧
      ReflTransGen (Leads final.modules) cycle.target.key cycle.importer.key := by
  intro cycle member
  have closes := run.cycle_leads (fun key other (leads : Leads final.modules key other) => leads)
    (by simp) (by simp) cycle member
  simpa using closes

theorem entry_importer_emitted (run : Visits reader none paths {} final) :
    ∀ cycle ∈ final.cycles, ∃ module ∈ final.modules, module.path = cycle.importer := by
  intro cycle member
  simpa using run.importer_emitted cycle member

end Visits

/-- An import is reported as often as it is written when its target's text is not before that of
its importer, and else not at all; nothing more is reported. So the imports that are not reported
lead to earlier modules, those that are lie on cycles, and there are reports when there are
cycles. -/
theorem load_cycles {depth : Nat} {entry : String} {loaded : Loaded}
    (success : (load reader depth entry).result = .ok loaded) :
    (∀ module ∈ loaded.graph.modules, ∀ target,
      loaded.graph.cycles.count ⟨module.path, target⟩ =
        if loaded.graph.place module.key ≤ loaded.graph.place target.key then
          (module.imports.map (·.target)).count target
        else 0) ∧
    (∀ cycle ∈ loaded.graph.cycles, ∃ module ∈ loaded.graph.modules,
      module.path = cycle.importer ∧ ∃ edge ∈ module.imports, edge.target = cycle.target) ∧
    (∀ module ∈ loaded.graph.modules, ∀ edge ∈ module.imports,
      ⟨module.path, edge.target⟩ ∉ loaded.graph.cycles →
        loaded.graph.place edge.target.key < loaded.graph.place module.key) ∧
    (∀ cycle ∈ loaded.graph.cycles,
      Leads loaded.graph.modules cycle.importer.key cycle.target.key ∧
      ReflTransGen (Leads loaded.graph.modules) cycle.target.key cycle.importer.key) ∧
    (loaded.graph.hasCycles ↔ ∃ key, TransGen (Leads loaded.graph.modules) key key) := by
  obtain ⟨final, run, rfl⟩ := visits_of_load success
  have reports := run.reportsLate (.ofRaw entry)
  refine ⟨reports, ?_, ?_, run.entry_cycle_leads, reports.hasCycles_iff run.entry_cycle_leads⟩
  · intro cycle member
    obtain ⟨module, emitted, named⟩ := run.entry_importer_emitted cycle member
    refine ⟨module, emitted, named, reports.exists_import emitted ?_⟩
    rw [named]
    exact member
  · intro module member edge edgeMember silent
    exact reports.place_lt member edgeMember silent

theorem load_cycles_ring :
    ∃ loaded, (load ring 2 "a").result = .ok loaded ∧ loaded.graph.hasCycles ∧
      ∃ key, TransGen (Leads loaded.graph.modules) key key := by
  have outcome : ((load ring 2 "a").result.toOption.map fun loaded =>
      loaded.graph.hasCycles) = some true := by decide +kernel
  obtain ⟨loaded, success, reported⟩ := exists_ok_of_map_eq outcome
  exact ⟨loaded, success, reported, (load_cycles success).2.2.2.2.mp reported⟩

end Bundler.Source
