import Bundler.Source.Tree

/-!
The shape of an import tree's listing. An outline holds the entries of a listing, each with those
below it and those after it on its own level, and `Draws` says which outline is drawn of a graph.
-/

namespace Bundler.Source

inductive Outline
  | empty
  | entry (path : ModulePath) (mark : Mark) (below after : Outline)

namespace Outline

def lines (depth : Nat) : Outline → List TreeLine
  | empty => []
  | entry path mark below after =>
      ⟨depth, path, mark⟩ :: (lines (depth + 1) below ++ lines depth after)

/-- The paths that are expanded, each behind those below it. -/
def postorder : Outline → List ModulePath
  | empty => []
  | entry path mark below after =>
      postorder below ++ (if mark = .expanded then [path] else []) ++ postorder after

/-- The entries that are marked as cycles, from above, each with the path of the entry that it
stands under. -/
def cycles (importer : ModulePath) : Outline → List Cycle
  | empty => []
  | entry path mark below after =>
      (if mark = .cycle then [⟨importer, path⟩] else []) ++ cycles path below ++
        cycles importer after

def size : Outline → Nat
  | empty => 0
  | entry _ _ below after => below.size + after.size + 1

def height : Outline → Nat
  | empty => 0
  | entry _ _ below after => max (below.height + 1) after.height

theorem fuel_of_height_le {path : ModulePath} {mark : Mark} {below after : Outline} {fuel : Nat}
    (enough : (entry path mark below after).height ≤ fuel) :
    ∃ less, fuel = less + 1 ∧ below.height ≤ less ∧ after.height ≤ less + 1 := by
  rw [height, Nat.max_le] at enough
  exact ⟨fuel - 1, by omega, by omega, by omega⟩

theorem length_lines (outline : Outline) (depth : Nat) :
    (outline.lines depth).length = outline.size := by
  induction outline generalizing depth with
  | empty => rfl
  | entry path mark below after ihBelow ihAfter =>
      simp only [lines, size, List.length_cons, List.length_append, ihBelow, ihAfter]

theorem le_depth_of_mem_lines (outline : Outline) (depth : Nat) :
    ∀ line ∈ outline.lines depth, depth ≤ line.depth := by
  induction outline generalizing depth with
  | empty => simp [lines]
  | entry path mark below after ihBelow ihAfter =>
      intro line member
      rw [lines, List.mem_cons, List.mem_append] at member
      rcases member with rfl | inside | later
      · exact Nat.le_refl _
      · exact Nat.le_of_succ_le (ihBelow (depth + 1) line inside)
      · exact ihAfter depth line later

theorem takeWhile_lines (below after : Outline) (depth : Nat) :
    (below.lines (depth + 1) ++ after.lines depth).takeWhile (depth < ·.depth) =
      below.lines (depth + 1) := by
  have deeper : ∀ line ∈ below.lines (depth + 1), decide (depth < line.depth) = true := by
    intro line member
    exact decide_eq_true (below.le_depth_of_mem_lines (depth + 1) line member)
  rw [List.takeWhile_append_of_pos deeper]
  cases after with
  | empty => simp [lines]
  | entry path mark inner rest => simp [lines]

theorem lines_injective {outline other : Outline} {depth : Nat}
    (same : outline.lines depth = other.lines depth) : outline = other := by
  induction outline generalizing other depth with
  | empty =>
      cases other with
      | empty => rfl
      | entry => simp [lines] at same
  | entry path mark below after ihBelow ihAfter =>
      cases other with
      | empty => simp [lines] at same
      | entry path' mark' below' after' =>
          rw [lines, lines, List.cons.injEq, TreeLine.mk.injEq] at same
          obtain ⟨⟨_, rfl, rfl⟩, tails⟩ := same
          have heads := congrArg (List.takeWhile (depth < ·.depth)) tails
          rw [takeWhile_lines, takeWhile_lines] at heads
          rw [heads] at tails
          rw [ihBelow heads, ihAfter (List.append_cancel_left tails)]

theorem perm_postorder (outline : Outline) (depth : Nat) :
    (((outline.lines depth).filter (·.mark = .expanded)).map (·.path)).Perm outline.postorder := by
  induction outline generalizing depth with
  | empty => exact .refl _
  | entry path mark below after ihBelow ihAfter =>
      have rest := (ihBelow (depth + 1)).append (ihAfter depth)
      by_cases expanded : mark = .expanded
      · simp only [lines, postorder, expanded, List.filter_cons, List.filter_append, decide_true,
          if_true, List.map_cons, List.map_append, List.append_assoc, List.singleton_append]
        exact (rest.cons path).trans List.perm_middle.symm
      · simpa [lines, postorder, expanded] using rest

theorem map_target_cycles (outline : Outline) (importer : ModulePath) (depth : Nat) :
    (outline.cycles importer).map (·.target) =
      ((outline.lines depth).filter (·.mark = .cycle)).map (·.path) := by
  induction outline generalizing importer depth with
  | empty => rfl
  | entry path mark below after ihBelow ihAfter =>
      by_cases cycle : mark = .cycle
      · simp [lines, cycles, cycle, ihBelow path (depth + 1), ihAfter importer depth]
      · simp [lines, cycles, cycle, ihBelow path (depth + 1), ihAfter importer depth]

end Outline

/-! One path of a listing, by cases. -/

namespace Listing

variable {modules : List (String × Module)} {fuel : Nat} {above : List String}
  {listing : Listing} {path : ModulePath}

theorem visit_cycle (inside : path.key ∈ above) :
    visit modules (fuel + 1) above listing path = listing.write above.length path .cycle := by
  simp [visit, inside]

theorem visit_seen (outside : path.key ∉ above) (old : path.key ∈ listing.met) :
    visit modules (fuel + 1) above listing path = listing.write above.length path .seen := by
  simp [visit, outside, old]

theorem visit_missing (outside : path.key ∉ above) (new : path.key ∉ listing.met)
    (unknown : modules.lookup path.key = none) :
    visit modules (fuel + 1) above listing path =
      { listing with met := path.key :: listing.met }.write above.length path .expanded := by
  simp [visit, outside, new, unknown]

theorem visit_expanded {module : Module} (outside : path.key ∉ above)
    (new : path.key ∉ listing.met) (known : modules.lookup path.key = some module) :
    visit modules (fuel + 1) above listing path =
      (module.imports.map (·.target)).foldl (visit modules fuel (path.key :: above))
        ({ listing with met := path.key :: listing.met }.write above.length path .expanded) := by
  simp [visit, outside, new, known, List.foldl_map]

end Listing

/-- Paths are listed below the modules whose keys are `above`, with the keys in `met` expanded
before, and those in `final` afterwards. -/
inductive Draws (modules : List (String × Module)) :
    (above met : List String) → List ModulePath → Outline → (final : List String) → Prop
  | nil {above met : List String} : Draws modules above met [] .empty met
  | cycle {above met final : List String} {path : ModulePath} {paths : List ModulePath}
      {after : Outline} (inside : path.key ∈ above)
      (rest : Draws modules above met paths after final) :
      Draws modules above met (path :: paths) (.entry path .cycle .empty after) final
  | seen {above met final : List String} {path : ModulePath} {paths : List ModulePath}
      {after : Outline} (outside : path.key ∉ above) (old : path.key ∈ met)
      (rest : Draws modules above met paths after final) :
      Draws modules above met (path :: paths) (.entry path .seen .empty after) final
  | missing {above met final : List String} {path : ModulePath} {paths : List ModulePath}
      {after : Outline} (outside : path.key ∉ above) (new : path.key ∉ met)
      (unknown : modules.lookup path.key = none)
      (rest : Draws modules above (path.key :: met) paths after final) :
      Draws modules above met (path :: paths) (.entry path .expanded .empty after) final
  | expanded {above met inner final : List String} {path : ModulePath} {paths : List ModulePath}
      {module : Module} {below after : Outline} (outside : path.key ∉ above)
      (new : path.key ∉ met) (known : modules.lookup path.key = some module)
      (inside : Draws modules (path.key :: above) (path.key :: met)
        (module.imports.map (·.target)) below inner)
      (rest : Draws modules above inner paths after final) :
      Draws modules above met (path :: paths) (.entry path .expanded below after) final

namespace Draws

variable {modules : List (String × Module)} {above met final : List String}
  {paths : List ModulePath} {outline : Outline}

theorem height_le (drawn : Draws modules above met paths outline final) :
    outline.height ≤ outline.postorder.length + 1 := by
  induction drawn with
  | nil => exact Nat.zero_le _
  | cycle _ _ ih | seen _ _ _ ih =>
      simp only [Outline.height, Outline.postorder, reduceCtorEq, if_false, List.length_append,
        List.length_nil]
      omega
  | missing _ _ _ _ ih =>
      simp only [Outline.height, Outline.postorder, if_true, List.length_append,
        List.length_singleton, List.length_nil]
      omega
  | expanded _ _ _ _ _ ihInside ihRest =>
      simp only [Outline.height, Outline.postorder, if_true, List.length_append,
        List.length_singleton]
      omega

theorem foldl_visit (drawn : Draws modules above met paths outline final) {fuel : Nat}
    (enough : outline.height ≤ fuel) (lines : List TreeLine) :
    paths.foldl (Listing.visit modules fuel above) ⟨met, lines⟩ =
      ⟨final, (outline.lines above.length).reverse ++ lines⟩ := by
  induction drawn generalizing fuel lines with
  | nil => rfl
  | cycle inside _ ih =>
      obtain ⟨less, rfl, _, further⟩ := Outline.fuel_of_height_le enough
      rw [List.foldl_cons, Listing.visit_cycle inside, Listing.write, ih further]
      simp [Outline.lines]
  | seen outside old _ ih =>
      obtain ⟨less, rfl, _, further⟩ := Outline.fuel_of_height_le enough
      rw [List.foldl_cons, Listing.visit_seen outside old, Listing.write, ih further]
      simp [Outline.lines]
  | missing outside new unknown _ ih =>
      obtain ⟨less, rfl, _, further⟩ := Outline.fuel_of_height_le enough
      rw [List.foldl_cons, Listing.visit_missing outside new unknown, Listing.write, ih further]
      simp [Outline.lines]
  | expanded outside new known _ _ ihInside ihRest =>
      obtain ⟨less, rfl, deeper, further⟩ := Outline.fuel_of_height_le enough
      rw [List.foldl_cons, Listing.visit_expanded outside new known, Listing.write,
        ihInside deeper, ihRest further]
      simp [Outline.lines]

end Draws

theorem Graph.visit_eq {graph : Graph} {outline : Outline} {final : List String}
    (drawn : Draws graph.byKey [] [] [graph.entry] outline final) {fuel : Nat}
    (enough : outline.height ≤ fuel) :
    (Listing.visit graph.byKey fuel [] {} graph.entry).lines.reverse = outline.lines 0 := by
  have listed := drawn.foldl_visit enough []
  rw [List.foldl_cons, List.foldl_nil] at listed
  rw [listed]
  simp

end Bundler.Source
