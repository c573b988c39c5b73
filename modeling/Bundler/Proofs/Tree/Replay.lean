import Bundler.Proofs.Load.Closure
import Bundler.Proofs.Tree.Outline

/-!
The import tree of a load shows how it went: the listing takes at each import the turn that the
load took there.
-/

namespace Bundler.Source

variable {reader : Reader} {importer path : ModulePath} {importer? : Option ModulePath}
  {paths : List ModulePath} {state inner final : Traversal} {source : Located}
  {recorded : List (String × Module)} {below after : Outline}

def importCount (modules : List Module) : Nat :=
  (modules.flatMap (·.imports)).length

theorem importCount_append (modules more : List Module) :
    importCount (modules ++ more) = importCount modules + importCount more := by
  simp [importCount]

/-- Visits from one state to another are what an outline shows. -/
structure Replays (recorded : List (String × Module)) (importer : ModulePath)
    (paths : List ModulePath) (state final : Traversal) (outline : Outline) : Prop where
  drawn : Draws recorded state.loading state.visited paths outline final.visited
  modules : final.modules.map (·.path) = state.modules.map (·.path) ++ outline.postorder
  cycles : final.cycles = state.cycles ++ outline.cycles importer
  size : outline.size + importCount state.modules = paths.length + importCount final.modules

namespace Replays

theorem nil : Replays recorded importer [] state state .empty :=
  ⟨.nil, by simp [Outline.postorder], by simp [Outline.cycles], by simp [Outline.size]⟩

theorem cycle (met : path.key ∈ state.loading)
    (rest : Replays recorded importer paths (state.revisit (some importer) path) final after) :
    Replays recorded importer (path :: paths) state final (.entry path .cycle .empty after) := by
  obtain ⟨drawn, modules, cycles, size⟩ := rest
  simp only [Traversal.loading_revisit, Traversal.visited_revisit, Traversal.modules_revisit]
    at drawn modules size
  refine ⟨.cycle met drawn, ?_, ?_, ?_⟩
  · simpa [Outline.postorder] using modules
  · rw [cycles, Traversal.cycles_revisit_some, if_pos met]
    simp [Outline.cycles]
  · simp only [Outline.size, List.length_cons]
    omega

theorem seen (closed : path.key ∉ state.loading) (met : path.key ∈ state.visited)
    (rest : Replays recorded importer paths (state.revisit (some importer) path) final after) :
    Replays recorded importer (path :: paths) state final (.entry path .seen .empty after) := by
  obtain ⟨drawn, modules, cycles, size⟩ := rest
  simp only [Traversal.loading_revisit, Traversal.visited_revisit, Traversal.modules_revisit]
    at drawn modules size
  refine ⟨.seen closed met drawn, ?_, ?_, ?_⟩
  · simpa [Outline.postorder] using modules
  · rw [cycles, Traversal.cycles_revisit_some, if_neg closed]
    simp [Outline.cycles]
  · simp only [Outline.size, List.length_cons]
    omega

theorem fresh (closed : path.key ∉ state.loading) (new : path.key ∉ state.visited)
    (known : recorded.lookup path.key =
      some ⟨path, source.location, importsOf path source.text⟩)
    (stack : inner.loading = path.key :: state.loading)
    (inside : Replays recorded path (targetsOf path source.text) (state.opening reader path) inner
      below)
    (rest : Replays recorded importer paths
      (inner.close path source (importsOf path source.text)) final after) :
    Replays recorded importer (path :: paths) state final (.entry path .expanded below after) := by
  obtain ⟨drawnBelow, modulesBelow, cyclesBelow, sizeBelow⟩ := inside
  obtain ⟨drawn, modules, cycles, size⟩ := rest
  simp only [Traversal.loading_opening, Traversal.visited_opening, Traversal.modules_opening,
    Traversal.cycles_opening] at drawnBelow modulesBelow cyclesBelow sizeBelow
  simp only [Traversal.loading_close, Traversal.visited_close, Traversal.modules_close,
    Traversal.cycles_close, stack, List.tail_cons] at drawn modules cycles size
  refine ⟨.expanded closed new known drawnBelow drawn, ?_, ?_, ?_⟩
  · rw [modules, List.map_append, modulesBelow]
    simp [Outline.postorder]
  · rw [cycles, cyclesBelow]
    simp [Outline.cycles]
  · rw [importCount_append] at size
    simp only [importCount, List.flatMap_singleton] at size sizeBelow ⊢
    simp only [targetsOf, List.length_map, Outline.size, List.length_cons] at sizeBelow ⊢
    omega

end Replays

theorem Visits.replays (run : Visits reader (some importer) paths state final)
    (start : state.Balanced)
    (known : ∀ module ∈ final.modules, recorded.lookup module.key = some module) :
    ∃ outline, Replays recorded importer paths state final outline := by
  generalize importing : some importer = importer? at run
  induction run generalizing importer with
  | nil => exact ⟨.empty, .nil⟩
  | @again _ path _ state _ met _ tail =>
      subst importing
      obtain ⟨after, rest⟩ := tail start.revisit known rfl
      by_cases inside : path.key ∈ state.loading
      · exact ⟨_, .cycle inside rest⟩
      · exact ⟨_, .seen inside met rest⟩
  | @fresh _ path _ source state inner final new _ inside rest under tail =>
      subst importing
      have kept := rest.modules_prefix.subset
      have closed : path.key ∉ state.loading := fun open_ =>
        new (start.mem_visited_iff.mpr (.inl open_))
      have stack := inside.loading_eq
      rw [Traversal.loading_opening] at stack
      have balanced := inside.balanced (start.opening new)
      obtain ⟨below, replaysBelow⟩ := under (start.opening new)
        (fun module member => known module (kept (by simp [member]))) rfl
      obtain ⟨after, replays⟩ := tail (balanced.close stack) known rfl
      have module := known ⟨path, source.location, importsOf path source.text⟩ (kept (by simp))
      exact ⟨_, .fresh closed new module stack replaysBelow replays⟩

theorem Visits.entry_outline (run : Visits reader none [path] {} final)
    (known : ∀ module ∈ final.modules, recorded.lookup module.key = some module) :
    ∃ below, Draws recorded [] [] [path] (.entry path .expanded below .empty) final.visited ∧
      final.modules.map (·.path) = below.postorder ++ [path] ∧
      final.cycles = below.cycles path ∧ below.size = importCount final.modules := by
  have new : path.key ∉ ({} : Traversal).visited := by simp
  obtain ⟨source, inner, _, inside, rfl⟩ := run.of_unmet new
  obtain ⟨below, drawn, modules, cycles, size⟩ := inside.replays
    (Traversal.balanced_empty.opening new) fun module member => known module (by simp [member])
  have module := known ⟨path, source.location, importsOf path source.text⟩ (by simp)
  refine ⟨below, .expanded (by simp) new module drawn .nil, ?_, cycles, ?_⟩
  · simp [modules]
  · rw [Traversal.modules_close, importCount_append]
    simpa [importCount, targetsOf, Nat.add_comm] using size

namespace Graph

theorem lookup_byKey {graph : Graph} (nodup : (graph.modules.map Module.key).Nodup)
    {module : Module} (member : module ∈ graph.modules) :
    graph.byKey.lookup module.key = some module := by
  obtain ⟨before, after, split⟩ := List.append_of_mem member
  rw [split, List.map_append, List.map_cons, List.nodup_middle, List.nodup_cons] at nodup
  rw [List.lookup_eq_some_iff]
  refine ⟨after.reverse.map fun module => (module.key, module),
    before.reverse.map fun module => (module.key, module), ?_, ?_⟩
  · simp [byKey, split]
  · intro pair pairMember
    obtain ⟨other, otherMember, rfl⟩ := List.mem_map.mp pairMember
    rw [bne_iff_ne]
    intro same
    exact nodup.1 (List.mem_append_right _
      (List.mem_map.mpr ⟨other, List.mem_reverse.mp otherMember, same.symm⟩))

theorem treeLines_eq {graph : Graph} {outline : Outline} {final : List String}
    (drawn : Draws graph.byKey [] [] [graph.entry] outline final)
    (enough : outline.postorder.length ≤ graph.size) :
    graph.treeLines = outline.lines 0 := by
  have fuel : outline.height ≤ graph.size + 1 :=
    Nat.le_trans drawn.height_le (Nat.succ_le_succ enough)
  exact visit_eq drawn fuel

end Graph

/-- The tree of a load lists the entry and all imports. What it expands is each module once, in
post-order the modules of the graph, and what it marks as cycles are the reports of the load, each
below its importer. The listing has one outline only. -/
theorem load_tree {depth : Nat} {entry : String} {loaded : Loaded}
    (success : (load reader depth entry).result = .ok loaded) :
    loaded.graph.tree = String.join (loaded.graph.treeLines.map (·.text)) ∧
    loaded.graph.treeLines.length =
      1 + (loaded.graph.modules.flatMap (·.imports)).length ∧
    ((loaded.graph.treeLines.filter (·.mark = .expanded)).map (·.path)).Perm
      (loaded.graph.modules.map (·.path)) ∧
    (loaded.graph.modules.map (·.path)).Nodup ∧
    (loaded.graph.treeLines.filter (·.mark = .cycle)).map (·.path) =
      loaded.graph.cycles.map (·.target) ∧
    ∃ below, let outline := Outline.entry loaded.graph.entry .expanded below .empty
      (∀ other : Outline, other.lines 0 = loaded.graph.treeLines ↔ other = outline) ∧
      outline.postorder = loaded.graph.modules.map (·.path) ∧
      below.cycles loaded.graph.entry = loaded.graph.cycles := by
  obtain ⟨final, run, rfl⟩ := visits_of_load success
  generalize ModulePath.ofRaw entry = path at *
  obtain ⟨graph, isGraph⟩ : ∃ graph, graph = (final.loaded path).graph := ⟨_, rfl⟩
  have nodup := run.entry_balanced.keys_nodup
  have known : ∀ module ∈ final.modules, graph.byKey.lookup module.key = some module :=
    fun module member => Graph.lookup_byKey (by rwa [isGraph]) (by rwa [isGraph])
  obtain ⟨below, drawn, modules, cycles, size⟩ := run.entry_outline known
  have postorder : (Outline.entry path .expanded below .empty).postorder =
      final.modules.map (·.path) := by
    simp [modules, Outline.postorder]
  have few := congrArg List.length postorder
  rw [List.length_map] at few
  have lines : graph.treeLines = (Outline.entry path .expanded below .empty).lines 0 :=
    Graph.treeLines_eq (by rwa [isGraph] at drawn ⊢) (by rw [isGraph]; exact Nat.le_of_eq few)
  subst isGraph
  rw [lines]
  refine ⟨by rw [Graph.tree, lines], ?_, ?_, ?_, ?_, below, ?_, postorder, cycles.symm⟩
  · rw [Outline.length_lines, Outline.size, Outline.size, size]
    simp only [Traversal.loaded, importCount]
    omega
  · have perm := Outline.perm_postorder (.entry path .expanded below .empty) 0
    rwa [postorder] at perm
  · apply List.Nodup.of_map ModulePath.key
    rw [List.map_map]
    exact nodup
  · rw [← Outline.map_target_cycles _ path 0]
    simp [Traversal.loaded, cycles, Outline.cycles]
  · intro other
    exact ⟨Outline.lines_injective, fun same => by rw [same]; rfl⟩

def crossed : Reader :=
  .ofList
    [("m.kooix", .ok ⟨"import \"a\"; import \"./b\";", true⟩),
      ("a.kooix", .ok ⟨"import \"d\";", true⟩),
      ("./b.kooix", .ok ⟨"import \"c\"; import \"x/../d\";", true⟩),
      ("./c.kooix", .ok ⟨"import \"b\";", true⟩), ("d.kooix", .ok ⟨"", true⟩)]
    .noSuchFile

theorem load_tree_crossed :
    ∃ loaded, (load crossed 4 "m").result = .ok loaded ∧
      loaded.graph.tree = "m.kooix\n  a.kooix\n    d.kooix\n" ++
        "  ./b.kooix\n    ./c.kooix\n      ./b.kooix (cycle)\n    ./x/../d.kooix (seen)\n" ∧
      loaded.graph.treeLines.length = 1 + (loaded.graph.modules.flatMap (·.imports)).length := by
  have outcome : ((load crossed 4 "m").result.toOption.map fun loaded => loaded.graph.tree) =
      some ("m.kooix\n  a.kooix\n    d.kooix\n" ++
        "  ./b.kooix\n    ./c.kooix\n      ./b.kooix (cycle)\n    ./x/../d.kooix (seen)\n") := by
    decide +kernel
  obtain ⟨loaded, success, tree⟩ := exists_ok_of_map_eq outcome
  exact ⟨loaded, success, tree, (load_tree success).2.1⟩

end Bundler.Source
