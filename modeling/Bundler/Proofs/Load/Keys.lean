import Bundler.Proofs.Load.Visits

/-!
The keys that a load has met: those of modules that are still open and those of modules whose
texts are in the unit. Between two visits no key is both.
-/

namespace Bundler.Source

variable {reader : Reader} {importer? : Option ModulePath} {path : ModulePath}
  {paths : List ModulePath} {state inner final : Traversal}

namespace Traversal

structure Balanced (state : Traversal) : Prop where
  perm : state.visited.Perm (state.loading ++ state.modules.map Module.key)
  nodup : state.visited.Nodup

theorem balanced_empty : ({} : Traversal).Balanced :=
  ⟨.refl _, .nil⟩

namespace Balanced

theorem mem_visited_iff (balanced : state.Balanced) {key : String} :
    key ∈ state.visited ↔ key ∈ state.loading ∨ key ∈ state.modules.map Module.key := by
  rw [balanced.perm.mem_iff, List.mem_append]

theorem append_nodup (balanced : state.Balanced) :
    (state.loading ++ state.modules.map Module.key).Nodup :=
  balanced.perm.nodup balanced.nodup

theorem keys_nodup (balanced : state.Balanced) : (state.modules.map Module.key).Nodup :=
  (List.nodup_append.mp balanced.append_nodup).2.1

theorem not_mem_keys (balanced : state.Balanced) {key : String} (open_ : key ∈ state.loading) :
    key ∉ state.modules.map Module.key := by
  intro emitted
  exact (List.nodup_append.mp balanced.append_nodup).2.2 key open_ key emitted rfl

theorem revisit (balanced : state.Balanced) :
    (state.revisit importer? path).Balanced :=
  ⟨by simpa using balanced.perm, by simpa using balanced.nodup⟩

theorem opening (balanced : state.Balanced) (new : path.key ∉ state.visited) :
    (state.opening reader path).Balanced :=
  ⟨by simpa using balanced.perm, by simpa using ⟨new, balanced.nodup⟩⟩

theorem close (balanced : inner.Balanced) {stack : List String} {source : Located}
    {imports : List Import} (top : inner.loading = path.key :: stack) :
    (inner.close path source imports).Balanced := by
  refine ⟨?_, balanced.nodup⟩
  have perm := balanced.perm
  rw [top] at perm
  simp only [visited_close, loading_close, modules_close, top, List.tail_cons, List.map_append,
    List.map_singleton]
  refine perm.trans ?_
  rw [← List.append_assoc]
  exact (List.perm_append_singleton _ _).symm

end Balanced

end Traversal

namespace Visits

theorem loading_eq (run : Visits reader importer? paths state final) :
    final.loading = state.loading := by
  induction run with
  | nil => rfl
  | again _ _ tail => simpa using tail
  | fresh _ _ _ _ under tail =>
      rw [tail, Traversal.loading_close, under, Traversal.loading_opening, List.tail_cons]

theorem balanced (run : Visits reader importer? paths state final) (start : state.Balanced) :
    final.Balanced := by
  induction run with
  | nil => exact start
  | again _ _ tail => exact tail start.revisit
  | fresh new _ below _ under tail =>
      exact tail ((under (start.opening new)).close below.loading_eq)

theorem visited_subset (run : Visits reader importer? paths state final) :
    state.visited ⊆ final.visited := by
  induction run with
  | nil => exact List.Subset.refl _
  | again _ _ tail => simpa using tail
  | fresh _ _ _ _ under tail =>
      simp only [Traversal.visited_opening, List.cons_subset] at under
      exact List.Subset.trans under.2 tail

theorem key_mem_visited (run : Visits reader importer? paths state final) :
    ∀ path ∈ paths, path.key ∈ final.visited := by
  induction run with
  | nil => simp
  | again met rest tail =>
      simp only [List.forall_mem_cons]
      exact ⟨rest.visited_subset (by simpa using met), tail⟩
  | fresh _ _ below rest _ tail =>
      simp only [List.forall_mem_cons]
      exact ⟨rest.visited_subset (below.visited_subset (by simp)), tail⟩

end Visits

end Bundler.Source
