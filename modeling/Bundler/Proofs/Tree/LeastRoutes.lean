import Bundler.Proofs.Load.Cycles
import Bundler.Proofs.Load.Sources
import Bundler.Proofs.Tree.Routes
import Bundler.Proofs.Unit.Layout
import Mathlib.Data.List.Induction
import Mathlib.Order.Bounds.Defs

/-!
The order of a load's modules, told without its course. Where no imports form a cycle, each module
is found on the least way to it, and two modules of which neither leads to the other come in the
order of their least ways.
-/

namespace Bundler.Source

open Relation (ReflTransGen TransGen)

theorem append_lt_append_of_parted {earlier later : List Nat} (less : earlier < later)
    (apart : ¬ earlier <+: later) (rest more : List Nat) : earlier ++ rest < later ++ more := by
  induction earlier generalizing later with
  | nil => exact absurd List.nil_prefix apart
  | cons place earlier ih =>
      cases later with
      | nil => exact absurd less (List.not_lt_nil _)
      | cons other later =>
          rw [List.cons_append, List.cons_append, List.cons_lt_cons_iff]
          rcases List.cons_lt_cons_iff.mp less with here | ⟨rfl, behind⟩
          · exact .inl here
          · refine .inr ⟨rfl, ih behind fun begins => apart ?_⟩
            exact (List.prefix_cons_inj place).mpr begins

namespace Graph

/-- Each module was found on a way from the entry, no import leads on to one that was found later
than behind it, and the modules come in the order in which those found behind them are done. -/
structure FoundOn (graph : Graph) (routes : String → List Nat) : Prop where
  distinct : (graph.modules.map Module.key).Nodup
  entry : routes graph.entry.key = []
  route : ∀ module ∈ graph.modules,
    Route graph.modules graph.entry.key (routes module.key) module.key
  target_le : ∀ module ∈ graph.modules, ∀ (step : Nat) edge, module.imports[step]? = some edge →
    routes edge.target.key ≤ routes module.key ++ [step]
  closes : (graph.modules.map Module.key).Pairwise fun key other =>
    Outline.Closes (routes key) (routes other)

theorem place_ne {graph : Graph} (distinct : (graph.modules.map Module.key).Nodup)
    {first second : Module} (member : first ∈ graph.modules) (member' : second ∈ graph.modules)
    (different : first ≠ second) : graph.place first.key ≠ graph.place second.key := by
  intro same
  have keys := (List.idxOf_inj (List.mem_map_of_mem member)).mp same
  exact different (List.inj_on_of_nodup_map distinct member member' keys)

namespace FoundOn

variable {graph : Graph} {routes : String → List Nat} {first second : Module}

theorem closes_of_place_lt (found : graph.FoundOn routes) (member : first ∈ graph.modules)
    (member' : second ∈ graph.modules) (before : graph.place first.key < graph.place second.key) :
    Outline.Closes (routes first.key) (routes second.key) := by
  have closes := List.pairwise_iff_getElem.mp found.closes _ _
    (List.idxOf_lt_length_of_mem (List.mem_map_of_mem member))
    (List.idxOf_lt_length_of_mem (List.mem_map_of_mem member')) before
  rwa [List.getElem_idxOf, List.getElem_idxOf] at closes

theorem transGen_of_append (found : graph.FoundOn routes) (member : first ∈ graph.modules)
    (member' : second ∈ graph.modules) {step : Nat} {rest : List Nat}
    (behind : routes first.key = routes second.key ++ step :: rest) :
    TransGen (Leads graph.modules) second.key first.key := by
  have route := found.route first member
  rw [behind] at route
  obtain ⟨middle, front, back⟩ := route.exists_split
  obtain rfl := front.unique found.distinct (found.route second member')
  exact back.leads_of_ne_nil (List.cons_ne_nil _ _)

section

variable (found : graph.FoundOn routes)
  (descends : ∀ key other, Leads graph.modules key other → graph.place other < graph.place key)

include found descends

theorem parted {module : Module} (member : module ∈ graph.modules) {places : List Nat}
    (route : Route graph.modules graph.entry.key places module.key)
    (different : routes module.key ≠ places) : ¬ routes module.key <+: places := by
  rintro ⟨more, rfl⟩
  obtain ⟨middle, front, back⟩ := route.exists_split
  obtain rfl := front.unique found.distinct (found.route module member)
  refine not_transGen_self descends module.key (back.leads_of_ne_nil ?_)
  rintro rfl
  exact different (List.append_nil _).symm

theorem routes_le {places : List Nat} {key : String}
    (route : Route graph.modules graph.entry.key places key) : routes key ≤ places := by
  -- The last step of a way is taken from a module that is found no later than on the rest of it.
  induction places using List.reverseRecOn generalizing key with
  | nil =>
      rw [← route.eq_of_nil]
      exact found.entry.le
  | append_singleton places last ih =>
      obtain ⟨middle, front, back⟩ := route.exists_split
      obtain ⟨module, member, rfl, edge, followed, rest⟩ := back.of_cons
      rw [← rest.eq_of_nil]
      refine (found.target_le module member last edge followed).trans ?_
      by_cases same : routes module.key = places
      · rw [same]
      · have less := lt_of_le_of_ne (ih front) same
        have apart := found.parted descends member front same
        exact (append_lt_append_of_parted less apart _ _).le

theorem isLeast {module : Module} (member : module ∈ graph.modules) :
    IsLeast {places | Route graph.modules graph.entry.key places module.key}
      (routes module.key) :=
  ⟨found.route module member, fun _ route => found.routes_le descends route⟩

theorem place_lt_iff (member : first ∈ graph.modules) (member' : second ∈ graph.modules)
    (different : first ≠ second) :
    graph.place first.key < graph.place second.key ↔
      TransGen (Leads graph.modules) second.key first.key ∨
        (¬ TransGen (Leads graph.modules) first.key second.key ∧
          ¬ TransGen (Leads graph.modules) second.key first.key ∧
          routes first.key < routes second.key) := by
  constructor
  · intro before
    by_cases imported : TransGen (Leads graph.modules) second.key first.key
    · exact .inl imported
    · have unrelated : ¬ TransGen (Leads graph.modules) first.key second.key := fun steps =>
        Nat.lt_asymm before (rank_lt_of_transGen descends steps)
      refine .inr ⟨unrelated, imported, ?_⟩
      rcases found.closes_of_place_lt member member' before with ⟨step, rest, behind⟩ | less
      · exact absurd (found.transGen_of_append member member' behind) imported
      · exact less
  · rintro (imported | ⟨unrelated, _, less⟩)
    · exact rank_lt_of_transGen descends imported
    · by_contra late
      have after := lt_of_le_of_ne (Nat.le_of_not_lt late)
        (place_ne found.distinct member' member different.symm)
      rcases found.closes_of_place_lt member' member after with ⟨step, rest, behind⟩ | greater
      · exact unrelated (found.transGen_of_append member' member behind)
      · exact lt_asymm less greater

end

end FoundOn

theorem mem_of_lookup_byKey {graph : Graph} {key : String} {module : Module}
    (known : graph.byKey.lookup key = some module) :
    module ∈ graph.modules ∧ module.key = key := by
  obtain ⟨earlier, later, split, _⟩ := List.lookup_eq_some_iff.mp known
  have member : (key, module) ∈ graph.byKey := by simp [split]
  obtain ⟨other, otherMember, same⟩ := List.mem_map.mp member
  obtain ⟨rfl, rfl⟩ := Prod.mk.inj same
  exact ⟨List.mem_reverse.mp otherMember, rfl⟩

end Graph

theorem exists_assigned {items : List (ModulePath × List Nat)}
    (distinct : (items.map (·.1.key)).Nodup) :
    ∃ routes : String → List Nat, ∀ item ∈ items, routes item.1.key = item.2 := by
  have assigned : ∀ key, ∃ route, ∀ item ∈ items, item.1.key = key → route = item.2 := by
    intro key
    by_cases listed : ∃ item ∈ items, item.1.key = key
    · obtain ⟨item, member, rfl⟩ := listed
      refine ⟨item.2, fun other otherMember same => ?_⟩
      rw [List.inj_on_of_nodup_map distinct otherMember member same]
    · exact ⟨[], fun item member same => absurd ⟨item, member, same⟩ listed⟩
  choose routes routed using assigned
  exact ⟨routes, fun item member => routed _ item member rfl⟩

namespace Outline

def foundFrom (entry : ModulePath) (below : Outline) : List (ModulePath × List Nat) :=
  below.found [] 0 ++ [(entry, [])]

theorem map_fst_foundFrom (entry : ModulePath) (below : Outline) :
    (foundFrom entry below).map Prod.fst = below.postorder ++ [entry] := by
  rw [foundFrom, List.map_append, map_fst_found]
  rfl

theorem pairwise_foundFrom (entry : ModulePath) (below : Outline) :
    (foundFrom entry below).Pairwise fun earlier later => Closes earlier.2 later.2 := by
  rw [foundFrom, List.pairwise_append]
  refine ⟨below.pairwise_found [] 0, List.pairwise_singleton _ _, ?_⟩
  intro item member last lastMember
  obtain rfl := List.mem_singleton.mp lastMember
  obtain ⟨step, rest, _, same⟩ := route_of_mem_found member
  exact .inl ⟨step, rest, same⟩

end Outline

theorem Draws.inside {recorded : List (String × Module)} {path : ModulePath} {module : Module}
    {below : Outline} {final : List String}
    (drawn : Draws recorded [] [] [path] (.entry path .expanded below .empty) final)
    (known : recorded.lookup path.key = some module) :
    ∃ inner, Draws recorded [path.key] [path.key] (module.imports.map (·.target)) below inner := by
  cases drawn with
  | missing _ _ unknown _ =>
      rw [unknown] at known
      cases known
  | expanded _ _ found inside _ =>
      obtain rfl := Option.some.inj (known.symm.trans found)
      exact ⟨_, inside⟩

namespace Graph

section

variable {graph : Graph} {below : Outline} {inner : List String} {module : Module}
  (distinct : (graph.modules.map Module.key).Nodup) (member : module ∈ graph.modules)
  (named : module.path = graph.entry)
  (postorder : graph.modules.map (·.path) = below.postorder ++ [graph.entry])

include postorder in
theorem keys_foundFrom :
    (Outline.foundFrom graph.entry below).map (·.1.key) = graph.modules.map Module.key := by
  have paths := Outline.map_fst_foundFrom graph.entry below
  rw [← postorder] at paths
  have keys := congrArg (List.map ModulePath.key) paths
  rwa [List.map_map, List.map_map] at keys

include distinct member named postorder

theorem eq_or_found {other : Module} (otherMember : other ∈ graph.modules) :
    other = module ∨ ∃ item ∈ below.found [] 0, item.1.key = other.key := by
  have listed := List.mem_map_of_mem (f := Module.path) otherMember
  rw [postorder, ← Outline.map_fst_found below [] 0, List.mem_append, List.mem_singleton] at listed
  rcases listed with inside | last
  · obtain ⟨item, found, same⟩ := List.mem_map.mp inside
    exact .inr ⟨item, found, congrArg ModulePath.key same⟩
  · have keys : other.key = module.key := congrArg ModulePath.key (last.trans named.symm)
    exact .inl (List.inj_on_of_nodup_map distinct otherMember member keys)

theorem exists_foundOn (drawn : Draws graph.byKey [graph.entry.key] [graph.entry.key]
    (module.imports.map (·.target)) below inner) : ∃ routes, graph.FoundOn routes := by
  have keys := keys_foundFrom postorder
  have keyed : module.key = graph.entry.key := congrArg ModulePath.key named
  obtain ⟨routes, routed⟩ := exists_assigned (by rwa [keys])
  have entry : routes graph.entry.key = [] := routed (graph.entry, []) (by simp [Outline.foundFrom])
  have assigns : Assigns routes below [] 0 := fun item found =>
    routed item (by simp [Outline.foundFrom, found])
  have start : Timely routes [] 0 [graph.entry.key] := by simp [Timely, entry]
  have stack := List.Subset.refl [graph.entry.key]
  refine ⟨routes, distinct, entry, ?_, ?_, ?_⟩
  · intro other otherMember
    rcases eq_or_found distinct member named postorder otherMember with rfl | ⟨item, found, same⟩
    · rw [keyed, entry]
      exact .nil
    · rw [← same, assigns item found]
      exact drawn.route_of_found (fun _ _ => mem_of_lookup_byKey)
        (Route.leading .nil member keyed) item found
  · intro other otherMember step edge followed
    rcases eq_or_found distinct member named postorder otherMember with rfl | ⟨item, found, same⟩
    · have listed : (other.imports.map (·.target))[step]? = some edge.target := by simp [followed]
      have behind := drawn.routes_le stack assigns start listed
      rw [keyed, entry]
      rwa [Nat.zero_add] at behind
    · rw [← same, assigns item found]
      exact drawn.routes_target_le stack assigns start item found other
        (by rw [same, lookup_byKey distinct otherMember]) step edge followed
  · rw [← keys, List.pairwise_map]
    refine (Outline.pairwise_foundFrom graph.entry below).imp_of_mem ?_
    intro earlier later earlierMember laterMember closes
    rwa [routed earlier earlierMember, routed later laterMember]

end

end Graph

theorem Visits.exists_foundOn {reader : Reader} {path : ModulePath} {final : Traversal}
    (run : Visits reader none [path] {} final) :
    ∃ routes, (final.loaded path).graph.FoundOn routes := by
  have distinct := run.entry_balanced.keys_nodup
  have known : ∀ module ∈ final.modules,
      (final.loaded path).graph.byKey.lookup module.key = some module :=
    fun module member => Graph.lookup_byKey distinct member
  obtain ⟨below, drawn, postorder, _⟩ := run.entry_outline known
  obtain ⟨module, member, named⟩ : ∃ module ∈ final.modules, module.path = path :=
    List.mem_map.mp (by simp [postorder])
  have recorded := known module member
  rw [Module.key, named] at recorded
  obtain ⟨inner, inside⟩ := drawn.inside recorded
  exact Graph.exists_foundOn distinct member named postorder inside

/-- In a load without cycles a module comes before another when the other imports it, on whatever
way; and of two modules that do not import each other, the one with the least way from the entry
comes first. The texts of the unit are in that order. -/
theorem load_precedence {reader : Reader} {depth : Nat} {entry : String} {loaded : Loaded}
    (success : (load reader depth entry).result = .ok loaded)
    (acyclic : loaded.graph.cycles = []) :
    loaded.unit.segments.map (·.path) = loaded.graph.modules.map (·.path) ∧
    ∃ routes : String → List Nat,
      (∀ module ∈ loaded.graph.modules,
        IsLeast {places | Route loaded.graph.modules loaded.graph.entry.key places module.key}
          (routes module.key)) ∧
      ∀ first ∈ loaded.graph.modules, ∀ second ∈ loaded.graph.modules, first ≠ second →
        (loaded.graph.place first.key < loaded.graph.place second.key ↔
          TransGen (Leads loaded.graph.modules) second.key first.key ∨
            (¬ TransGen (Leads loaded.graph.modules) first.key second.key ∧
              ¬ TransGen (Leads loaded.graph.modules) second.key first.key ∧
              routes first.key < routes second.key)) := by
  obtain ⟨final, run, rfl⟩ := visits_of_load success
  have descends := (run.reportsLate (.ofRaw entry)).descends acyclic
  obtain ⟨texts, read, unit⟩ := run.entry_sourced
  obtain ⟨routes, found⟩ := run.exists_foundOn
  refine ⟨?_, routes, fun module member => found.isLeast descends member, ?_⟩
  · have sizes : (final.modules.map (·.path)).length = texts.length := by
      rw [List.length_map]
      exact read.length_eq
    simp only [Traversal.loaded, unit]
    exact CompilationUnit.map_path_ofTexts_zip sizes
  · intro first member second member' different
    exact found.place_lt_iff descends member member' different

def tied : Reader :=
  .ofList
    [("m.kooix", .ok ⟨"import \"b\"; import \"c\";", true⟩),
      ("b.kooix", .ok ⟨"import \"e\"; import \"d\";", true⟩),
      ("c.kooix", .ok ⟨"import \"d\"; import \"./d\";", true⟩), ("d.kooix", .ok ⟨"", true⟩),
      ("e.kooix", .ok ⟨"", true⟩)]
    .noSuchFile

theorem load_precedence_tied :
    ∃ loaded, (load tied 3 "m").result = .ok loaded ∧ loaded.graph.cycles = [] ∧
      loaded.graph.modules.map Module.key =
        ["e.kooix", "d.kooix", "b.kooix", "c.kooix", "m.kooix"] ∧
      ∃ routes : String → List Nat, routes "e.kooix" < routes "d.kooix" ∧
        ∀ module ∈ loaded.graph.modules,
          IsLeast {places | Route loaded.graph.modules loaded.graph.entry.key places module.key}
            (routes module.key) := by
  have outcome : ((load tied 3 "m").result.toOption.map fun loaded =>
      (loaded.graph.cycles, loaded.graph.modules.map fun module =>
        (module.key, module.imports.length))) =
      some ([], [("e.kooix", 0), ("d.kooix", 0), ("b.kooix", 2), ("c.kooix", 2),
        ("m.kooix", 2)]) := by
    decide +kernel
  obtain ⟨loaded, success, both⟩ := exists_ok_of_map_eq outcome
  obtain ⟨acyclic, counted⟩ := Prod.mk.inj both
  obtain ⟨_, routes, least, ordered⟩ := load_precedence success acyclic
  have keys : loaded.graph.modules.map Module.key =
      ["e.kooix", "d.kooix", "b.kooix", "c.kooix", "m.kooix"] := by
    have firsts := congrArg (List.map Prod.fst) counted
    rw [List.map_map] at firsts
    exact firsts
  have lone : ∀ module ∈ loaded.graph.modules, module.key = "d.kooix" → module.imports = [] := by
    intro module member keyed
    have listed : (module.key, module.imports.length) ∈ _ := counted ▸ List.mem_map_of_mem member
    rw [keyed] at listed
    simpa using listed
  obtain ⟨first, member, firstKey⟩ : ∃ module ∈ loaded.graph.modules, module.key = "e.kooix" :=
    List.mem_map.mp (by rw [keys]; simp)
  obtain ⟨second, member', secondKey⟩ : ∃ module ∈ loaded.graph.modules, module.key = "d.kooix" :=
    List.mem_map.mp (by rw [keys]; simp)
  have before : loaded.graph.place first.key < loaded.graph.place second.key := by
    rw [Graph.place, Graph.place, keys, firstKey, secondKey]
    decide
  have different : first ≠ second := by
    rintro rfl
    exact Nat.lt_irrefl _ before
  refine ⟨loaded, success, acyclic, keys, routes, ?_, least⟩
  rcases (ordered first member second member' different).mp before with imported | ⟨_, _, less⟩
  · obtain ⟨_, ⟨module, inside, keyed, edge, edgeMember, _⟩, _⟩ :=
      Relation.TransGen.head'_iff.mp imported
    rw [lone module inside (keyed.trans secondKey)] at edgeMember
    cases edgeMember
  · rwa [firstKey, secondKey] at less

end Bundler.Source
