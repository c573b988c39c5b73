import Bundler.Proofs.Load.Keys
import Mathlib.Data.List.Nodup
import Mathlib.Logic.Relation

/-!
The modules of a load are the import closure of its entry: one for each key that recorded imports
lead to.
-/

namespace Bundler.Source

open Relation

variable {reader : Reader} {importer? : Option ModulePath} {path : ModulePath}
  {paths : List ModulePath} {state final : Traversal}

def Leads (modules : List Module) (key other : String) : Prop :=
  ∃ module ∈ modules, module.key = key ∧ ∃ edge ∈ module.imports, edge.target.key = other

theorem Leads.intro {modules : List Module} {module : Module} {edge : Import}
    (member : module ∈ modules) (edgeMember : edge ∈ module.imports) :
    Leads modules module.key edge.target.key :=
  ⟨module, member, rfl, edge, edgeMember, rfl⟩

theorem mem_targetsOf {text : String} {target : ModulePath} :
    target ∈ targetsOf path text ↔ ∃ edge ∈ importsOf path text, edge.target = target := by
  simp [targetsOf]

def Traversal.Followed (state : Traversal) : Prop :=
  ∀ module ∈ state.modules, ∀ edge ∈ module.imports, edge.target.key ∈ state.visited

namespace Visits

theorem followed (run : Visits reader importer? paths state final) (start : state.Followed) :
    final.Followed := by
  induction run with
  | nil => exact start
  | again _ _ tail =>
      apply tail
      simpa [Traversal.Followed] using start
  | @fresh _ path _ source state inner _ _ _ below _ under tail =>
      have opened : (state.opening reader path).Followed := by
        intro module member edge edgeMember
        exact List.mem_cons_of_mem _ (start module member edge edgeMember)
      apply tail
      intro module member edge edgeMember
      rw [Traversal.modules_close, List.mem_append, List.mem_singleton] at member
      rcases member with earlier | rfl
      · exact under opened module earlier edge edgeMember
      · exact below.key_mem_visited edge.target (mem_targetsOf.mpr ⟨edge, edgeMember, rfl⟩)

theorem leads_of_close {source : Located} {inner : Traversal}
    (rest : Visits reader importer? paths
      (inner.close path source (importsOf path source.text)) final) :
    ∀ target ∈ targetsOf path source.text, Leads final.modules path.key target.key := by
  intro target member
  obtain ⟨edge, edgeMember, rfl⟩ := mem_targetsOf.mp member
  have closed : (⟨path, source.location, importsOf path source.text⟩ : Module) ∈ final.modules :=
    rest.modules_prefix.subset (by simp)
  exact ⟨_, closed, rfl, edge, edgeMember, rfl⟩

theorem reachable (run : Visits reader importer? paths state final) {leads : String → String → Prop}
    (recorded : ∀ key other, Leads final.modules key other → leads key other) :
    ∀ key ∈ final.visited, key ∈ state.visited ∨
      ∃ path ∈ paths, ReflTransGen leads path.key key := by
  induction run with
  | nil =>
      intro key met
      exact .inl met
  | again _ _ tail =>
      intro key met
      rcases tail recorded key met with before | ⟨path, member, reached⟩
      · exact .inl (by simpa using before)
      · exact .inr ⟨path, List.mem_cons_of_mem _ member, reached⟩
  | @fresh _ path paths source state inner final _ _ _ rest under tail =>
      have inside := under (by
        rintro key other ⟨module, member, keyed⟩
        exact recorded key other
          ⟨module, rest.modules_prefix.subset (by simp [member]), keyed⟩)
      intro key met
      rcases tail recorded key met with before | ⟨later, member, reached⟩
      · rcases inside key before with earlier | ⟨target, targetMember, reached⟩
        · rcases List.mem_cons.mp earlier with rfl | earlier
          · exact .inr ⟨path, List.mem_cons_self, .refl⟩
          · exact .inl earlier
        · have edge := recorded _ _ (rest.leads_of_close target targetMember)
          exact .inr ⟨path, List.mem_cons_self, .head edge reached⟩
      · exact .inr ⟨later, List.mem_cons_of_mem _ member, reached⟩

end Visits

/-! The state after a whole load. -/

namespace Visits

theorem entry_loading (run : Visits reader none paths {} final) : final.loading = [] :=
  run.loading_eq

theorem entry_balanced (run : Visits reader none paths {} final) : final.Balanced :=
  run.balanced Traversal.balanced_empty

theorem entry_mem_visited_iff (run : Visits reader none paths {} final) {key : String} :
    key ∈ final.visited ↔ key ∈ final.modules.map Module.key := by
  simp [run.entry_balanced.mem_visited_iff, run.entry_loading]

theorem entry_followed (run : Visits reader none paths {} final) :
    ∀ module ∈ final.modules, ∀ edge ∈ module.imports,
      edge.target.key ∈ final.modules.map Module.key := by
  intro module member edge edgeMember
  rw [← run.entry_mem_visited_iff]
  exact run.followed (fun _ none => absurd none (by simp)) module member edge edgeMember

theorem mem_keys_iff_reachable (run : Visits reader none [path] {} final) {key : String} :
    key ∈ final.modules.map Module.key ↔ ReflTransGen (Leads final.modules) path.key key := by
  constructor
  · intro member
    rw [← run.entry_mem_visited_iff] at member
    simpa using run.reachable (fun _ _ leads => leads) key member
  · intro reached
    induction reached with
    | refl =>
        rw [← run.entry_mem_visited_iff]
        exact run.key_mem_visited path (by simp)
    | tail _ leads _ =>
        obtain ⟨module, member, _, edge, edgeMember, rfl⟩ := leads
        exact run.entry_followed module member edge edgeMember

end Visits

/-! Looking modules up by key. -/

theorem ModulePath.ofRaw_text (path : ModulePath) : ModulePath.ofRaw path.text = path := by
  simp [ModulePath.ofRaw, path.extended]

theorem exists_only_of_mem_keys {modules : List Module} (nodup : (modules.map Module.key).Nodup)
    {key : String} (member : key ∈ modules.map Module.key) :
    ∃ module ∈ modules, module.key = key ∧ modules.filter (·.key == key) = [module] ∧
      modules.find? (·.key == key) = some module := by
  obtain ⟨module, moduleMember, rfl⟩ := List.mem_map.mp member
  obtain ⟨before, after, rfl⟩ := List.append_of_mem moduleMember
  rw [List.map_append, List.map_cons, List.nodup_middle, List.nodup_cons, ← List.map_append]
    at nodup
  have distinct : ∀ other ∈ before ++ after, other.key ≠ module.key := by
    intro other otherMember same
    exact nodup.1 (same ▸ List.mem_map_of_mem otherMember)
  have noneBefore : before.filter (·.key == module.key) = [] := by
    rw [List.filter_eq_nil_iff]
    intro other otherMember
    simpa using distinct other (List.mem_append_left _ otherMember)
  have noneAfter : after.filter (·.key == module.key) = [] := by
    rw [List.filter_eq_nil_iff]
    intro other otherMember
    simpa using distinct other (List.mem_append_right _ otherMember)
  have only : (before ++ module :: after).filter (·.key == module.key) = [module] := by
    simp [noneBefore, noneAfter]
  refine ⟨module, moduleMember, rfl, only, ?_⟩
  rw [← List.head?_filter, only, List.head?_cons]

theorem Graph.node?_text (graph : Graph) (path : ModulePath) :
    graph.node? path.text = graph.modules.find? (·.key == path.key) := by
  simp [Graph.node?, ModulePath.ofRaw_text]

/-- The modules of a load are those that recorded imports lead to from the entry, each once. The
entry comes last, and each import is answered by exactly one module. -/
theorem load_closure {depth : Nat} {entry : String} {loaded : Loaded}
    (success : (load reader depth entry).result = .ok loaded) :
    loaded.graph.entry = .ofRaw entry ∧
    (loaded.graph.modules.map Module.key).Nodup ∧
    loaded.graph.modules.getLast?.map (·.path) = some loaded.graph.entry ∧
    (∀ module ∈ loaded.graph.modules, ∀ edge ∈ module.imports, ∃ target,
      loaded.graph.modules.filter (·.key == edge.target.key) = [target] ∧
      loaded.graph.node? edge.target.text = some target) ∧
    (∀ key, key ∈ loaded.graph.modules.map Module.key ↔
      ReflTransGen (Leads loaded.graph.modules) loaded.graph.entry.key key) := by
  obtain ⟨final, run, rfl⟩ := visits_of_load success
  have nodup := run.entry_balanced.keys_nodup
  simp only [Traversal.loaded]
  refine ⟨trivial, nodup, ?_, ?_, ?_⟩
  · obtain ⟨source, inner, _, _, rfl⟩ := run.of_unmet (by simp)
    simp
  · intro module member edge edgeMember
    obtain ⟨target, _, _, only, found⟩ :=
      exists_only_of_mem_keys nodup (run.entry_followed module member edge edgeMember)
    refine ⟨target, only, ?_⟩
    rw [Graph.node?_text]
    exact found
  · intro key
    exact run.mem_keys_iff_reachable

def ring : Reader :=
  .ofList
    [("a.kooix", .ok ⟨"import \"./b\";\nimport \"a\";\n", true⟩),
      ("./b.kooix", .ok ⟨"import \"x/../a\";\n", true⟩)]
    .noSuchFile

theorem load_closure_ring :
    ∃ loaded, (load ring 2 "a").result = .ok loaded ∧
      loaded.graph.modules.map Module.key = ["b.kooix", "a.kooix"] ∧
      ReflTransGen (Leads loaded.graph.modules) "a.kooix" "b.kooix" := by
  have outcome : ((load ring 2 "a").result.toOption.map fun loaded =>
      (loaded.graph.modules.map Module.key, loaded.graph.entry.key)) =
        some (["b.kooix", "a.kooix"], "a.kooix") := by decide +kernel
  obtain ⟨loaded, success, shape⟩ := exists_ok_of_map_eq outcome
  obtain ⟨keys, entry⟩ := Prod.mk.inj shape
  obtain ⟨_, _, _, _, closure⟩ := load_closure success
  refine ⟨loaded, success, keys, ?_⟩
  rw [← entry, ← closure, keys]
  simp

end Bundler.Source
