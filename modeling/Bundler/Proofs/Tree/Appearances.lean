import Bundler.Proofs.Load.Listing
import Bundler.Proofs.Tree.Outline
import Mathlib.Algebra.GroupWithZero.Nat

/-!
The import tree of any graph, whether a load made it or not. What is reached from the entry is
expanded where it appears first, and a mark tells of each line whether its key stands above it.
-/

namespace Bundler.Source

open Relation (ReflTransGen)

theorem Mark.eq_seen_iff {mark : Mark} : mark = .seen ↔ mark ≠ .expanded ∧ mark ≠ .cycle := by
  cases mark <;> simp

namespace TreeLine

/-! Lines as they are written. -/

theorem newline_not_mem_indentation (depth : Nat) :
    '\n' ∉ (String.join (List.replicate depth "  ")).toList := by
  simp

theorem count_text {line : TreeLine} (single : '\n' ∉ line.path.text.toList) :
    line.text.toList.count '\n' = 1 := by
  have mark : '\n' ∉ line.mark.text.toList := by
    cases line.mark <;> decide
  simp only [text, String.toList_append, List.count_append]
  rw [List.count_eq_zero_of_not_mem (newline_not_mem_indentation line.depth),
    List.count_eq_zero_of_not_mem single, List.count_eq_zero_of_not_mem mark]
  decide

theorem count_join {lines : List TreeLine}
    (single : ∀ line ∈ lines, '\n' ∉ line.path.text.toList) :
    (String.join (lines.map text)).toList.count '\n' = lines.length := by
  induction lines with
  | nil => rfl
  | cons line lines ih =>
      obtain ⟨first, later⟩ := List.forall_mem_cons.mp single
      rw [List.map_cons, String.join_cons, String.toList_append, List.count_append,
        count_text first, ih later, List.length_cons, Nat.add_comm]

/-! Lines as they are read from the listing alone. -/

def key (line : TreeLine) : String :=
  line.path.key

/-- The lines that a line of some depth stands under, innermost first, told from the lines above it,
last one first: the nearest one of less depth, and those that it stands under itself. -/
def ancestors (depth : Nat) : List TreeLine → List TreeLine
  | [] => []
  | line :: earlier =>
      if line.depth < depth then line :: ancestors line.depth earlier else ancestors depth earlier

theorem mem_of_mem_ancestors {depth : Nat} {earlier : List TreeLine} {line : TreeLine}
    (member : line ∈ ancestors depth earlier) : line ∈ earlier := by
  induction earlier generalizing depth with
  | nil => exact member
  | cons first earlier ih =>
      rw [ancestors] at member
      split at member
      · rcases List.mem_cons.mp member with rfl | deeper
        · exact List.mem_cons_self
        · exact List.mem_cons_of_mem _ (ih deeper)
      · exact List.mem_cons_of_mem _ (ih member)

theorem ancestors_append {depth : Nat} {between : List TreeLine}
    (deep : ∀ line ∈ between, depth ≤ line.depth) (earlier : List TreeLine) :
    ancestors depth (between ++ earlier) = ancestors depth earlier := by
  induction between with
  | nil => rfl
  | cons line between ih =>
      obtain ⟨first, later⟩ := List.forall_mem_cons.mp deep
      rw [List.cons_append, ancestors, if_neg (Nat.not_lt.mpr first), ih later]

/-- The depth and the mark of a line are what the lines above it, last one first, ask for. -/
structure Marked (earlier : List TreeLine) (line : TreeLine) : Prop where
  depth : line.depth = (ancestors line.depth earlier).length
  expanded : line.mark = .expanded ↔ ∀ other ∈ earlier, other.key ≠ line.key
  cycle : line.mark = .cycle ↔ ∃ other ∈ ancestors line.depth earlier, other.key = line.key

def AllMarked : List TreeLine → List TreeLine → Prop
  | _, [] => True
  | earlier, line :: lines => Marked earlier line ∧ AllMarked (line :: earlier) lines

theorem allMarked_append {earlier lines more : List TreeLine} :
    AllMarked earlier (lines ++ more) ↔
      AllMarked earlier lines ∧ AllMarked (lines.reverse ++ earlier) more := by
  induction lines generalizing earlier with
  | nil => simp [AllMarked]
  | cons line lines ih => simp [AllMarked, ih, and_assoc]

def expandedKeys (lines : List TreeLine) : List String :=
  (lines.filter (·.mark = .expanded)).map key

theorem expandedKeys_append (lines more : List TreeLine) :
    expandedKeys (lines ++ more) = expandedKeys lines ++ expandedKeys more := by
  simp [expandedKeys]

theorem expandedKeys_cons_expanded (depth : Nat) (path : ModulePath) (lines : List TreeLine) :
    expandedKeys (⟨depth, path, .expanded⟩ :: lines) = path.key :: expandedKeys lines := by
  simp [expandedKeys, key]

theorem expandedKeys_cons {line : TreeLine} (other : line.mark ≠ .expanded)
    (lines : List TreeLine) : expandedKeys (line :: lines) = expandedKeys lines := by
  simp [expandedKeys, other]

end TreeLine

open TreeLine (ancestors Marked AllMarked expandedKeys)

/-! What a listing does with its keys. -/

def importsIn (modules : List (String × Module)) (key : String) : List Import :=
  ((modules.lookup key).map (·.imports)).getD []

/-- A listing asks for no text, only for the keys that come below another. -/
def AsksIn (modules : List (String × Module)) (key text : String) (below : List String) : Prop :=
  text = "" ∧ below = (importsIn modules key).map (·.target.key)

namespace Draws

variable {modules : List (String × Module)} {above met final : List String}
  {paths : List ModulePath} {outline : Outline}

theorem final_eq (drawn : Draws modules above met paths outline final) (depth : Nat) :
    final = (expandedKeys (outline.lines depth)).reverse ++ met := by
  induction drawn generalizing depth with
  | nil => rfl
  | cycle _ _ ih | seen _ _ _ ih =>
      rw [ih depth, Outline.lines, TreeLine.expandedKeys_cons (by simp)]
      rfl
  | missing _ _ _ _ ih =>
      rw [ih depth, Outline.lines, TreeLine.expandedKeys_cons_expanded]
      simp [Outline.lines]
  | expanded _ _ _ _ _ ihInside ihRest =>
      rw [ihRest depth, ihInside (depth + 1), Outline.lines, TreeLine.expandedKeys_cons_expanded,
        TreeLine.expandedKeys_append]
      simp

theorem nodup (drawn : Draws modules above met paths outline final) (start : met.Nodup) :
    final.Nodup := by
  induction drawn with
  | nil => exact start
  | cycle _ _ ih | seen _ _ _ ih => exact ih start
  | missing _ new _ _ ih => exact ih (List.nodup_cons.mpr ⟨new, start⟩)
  | expanded _ new _ _ _ ihInside ihRest =>
      exact ihRest (ihInside (List.nodup_cons.mpr ⟨new, start⟩))

theorem met_subset (drawn : Draws modules above met paths outline final) : met ⊆ final := by
  rw [drawn.final_eq 0]
  exact List.subset_append_right _ _

theorem above_subset {key : String}
    (inside : Draws modules (key :: above) (key :: met) paths outline final)
    (stack : above ⊆ met) : above ⊆ final :=
  List.Subset.trans (List.subset_cons_of_subset key stack) inside.met_subset

theorem size_eq (drawn : Draws modules above met paths outline final) (depth : Nat) :
    outline.size = paths.length +
      ((expandedKeys (outline.lines depth)).map fun key => (importsIn modules key).length).sum := by
  induction drawn generalizing depth with
  | nil => rfl
  | cycle _ _ ih | seen _ _ _ ih =>
      rw [Outline.size, ih depth, Outline.lines, TreeLine.expandedKeys_cons (by simp)]
      simp only [Outline.size, Outline.lines, List.nil_append, List.length_cons]
      omega
  | missing _ _ unknown _ ih =>
      rw [Outline.size, ih depth, Outline.lines, TreeLine.expandedKeys_cons_expanded]
      simp only [Outline.size, Outline.lines, List.nil_append, List.length_cons, List.map_cons,
        List.sum_cons, importsIn, unknown, Option.map_none, Option.getD_none, List.length_nil]
      omega
  | expanded _ _ known _ _ ihInside ihRest =>
      rw [Outline.size, ihInside (depth + 1), ihRest depth, Outline.lines,
        TreeLine.expandedKeys_cons_expanded, TreeLine.expandedKeys_append]
      simp only [List.length_cons, List.length_map, List.map_cons, List.map_append, List.sum_cons,
        List.sum_append, importsIn, known, Option.map_some, Option.getD_some]
      omega

/-- The keys that are expanded are those that are listed when each key asks for its imports. -/
theorem lists (drawn : Draws modules above met paths outline final)
    (stack : above ⊆ met) :
    ∃ listing, Lists (AsksIn modules) (paths.map ModulePath.key) met listing ∧
      ∀ key, key ∈ final ↔ key ∈ listing.map Listed.key ∨ key ∈ met := by
  induction drawn with
  | nil => exact ⟨[], .nil, by simp⟩
  | cycle inside _ ih =>
      obtain ⟨listing, rest, members⟩ := ih stack
      exact ⟨listing, .again (stack inside) rest, members⟩
  | seen _ old _ ih =>
      obtain ⟨listing, rest, members⟩ := ih stack
      exact ⟨listing, .again old rest, members⟩
  | @missing _ met _ path _ _ _ new unknown _ ih =>
      obtain ⟨listing, rest, members⟩ := ih (List.subset_cons_of_subset _ stack)
      have asked : AsksIn modules path.key "" [] := ⟨rfl, by simp [importsIn, unknown]⟩
      refine ⟨_, .fresh new asked .nil rest, ?_⟩
      intro key
      rw [members key]
      simp only [List.nil_append, List.map_cons, List.mem_cons, or_assoc, or_left_comm]
  | @expanded _ met inner _ path _ module _ _ _ new known inside rest ihInside ihRest =>
      obtain ⟨below, listedBelow, membersBelow⟩ := ihInside (List.cons_subset_cons _ stack)
      obtain ⟨listing, listed, members⟩ := ihRest (inside.above_subset stack)
      have asked : AsksIn modules path.key ""
          ((module.imports.map (·.target)).map ModulePath.key) :=
        ⟨rfl, by simp [importsIn, known]⟩
      refine ⟨_, .fresh new asked listedBelow (listed.congr fun key => ?_), ?_⟩
      · rw [membersBelow key, List.mem_append]
      · intro key
        rw [members key, membersBelow key]
        simp only [List.map_append, List.map_cons, List.mem_append, List.mem_cons, or_assoc,
          or_left_comm]

end Draws

/-- The lines of a listing so far, last one first, when those of some keys are above the next path
and `met` are the keys listed. -/
structure Preceded (above met : List String) (earlier : List TreeLine) : Prop where
  stack : (ancestors above.length earlier).map TreeLine.key = above
  listed : ∀ key, key ∈ met ↔ ∃ line ∈ earlier, line.key = key

namespace Preceded

variable {above met : List String} {earlier : List TreeLine} {path : ModulePath} {mark : Mark}

theorem above_subset (preceded : Preceded above met earlier) : ∀ key ∈ above, key ∈ met := by
  intro key member
  rw [← preceded.stack] at member
  obtain ⟨line, inside, rfl⟩ := List.mem_map.mp member
  exact (preceded.listed line.key).mpr ⟨line, TreeLine.mem_of_mem_ancestors inside, rfl⟩

theorem marked (preceded : Preceded above met earlier)
    (expanded : mark = .expanded ↔ path.key ∉ met) (cycle : mark = .cycle ↔ path.key ∈ above) :
    Marked earlier ⟨above.length, path, mark⟩ := by
  refine ⟨?_, ?_, ?_⟩
  · have length := congrArg List.length preceded.stack
    rw [List.length_map] at length
    exact length.symm
  · rw [expanded, preceded.listed]
    simp [TreeLine.key]
  · rw [cycle]
    conv_lhs => rw [← preceded.stack, List.mem_map]
    rfl

theorem append (preceded : Preceded above met earlier) {between : List TreeLine}
    {final : List String} (deep : ∀ line ∈ between, above.length ≤ line.depth)
    (listed : ∀ key, key ∈ final ↔ ∃ line ∈ between ++ earlier, line.key = key) :
    Preceded above final (between ++ earlier) := by
  refine ⟨?_, listed⟩
  rw [TreeLine.ancestors_append deep]
  exact preceded.stack

theorem cons (preceded : Preceded above met earlier) (mark : Mark) {final : List String}
    (listed : ∀ key, key ∈ final ↔ path.key = key ∨ key ∈ met) :
    Preceded above final (⟨above.length, path, mark⟩ :: earlier) := by
  have deep : ∀ line ∈ [(⟨above.length, path, mark⟩ : TreeLine)], above.length ≤ line.depth := by
    simp
  refine preceded.append deep fun key => ?_
  rw [listed, preceded.listed, List.singleton_append, List.exists_mem_cons_iff]
  rfl

theorem again (preceded : Preceded above met earlier) (old : path.key ∈ met) (mark : Mark) :
    Preceded above met (⟨above.length, path, mark⟩ :: earlier) := by
  refine preceded.cons mark fun key => ?_
  rw [iff_or_self]
  rintro rfl
  exact old

theorem first (preceded : Preceded above met earlier) (path : ModulePath) (mark : Mark) :
    Preceded above (path.key :: met) (⟨above.length, path, mark⟩ :: earlier) := by
  refine preceded.cons mark fun key => ?_
  rw [List.mem_cons, eq_comm]

theorem descend (preceded : Preceded above met earlier) (path : ModulePath) (mark : Mark) :
    Preceded (path.key :: above) (path.key :: met) (⟨above.length, path, mark⟩ :: earlier) := by
  refine ⟨?_, (preceded.first path mark).listed⟩
  rw [ancestors, List.length_cons, if_pos (Nat.lt_succ_self _), List.map_cons, preceded.stack]
  rfl

end Preceded

theorem Draws.allMarked {modules : List (String × Module)} {above met final : List String}
    {paths : List ModulePath} {outline : Outline}
    (drawn : Draws modules above met paths outline final) {earlier : List TreeLine}
    (preceded : Preceded above met earlier) :
    AllMarked earlier (outline.lines above.length) ∧
      Preceded above final ((outline.lines above.length).reverse ++ earlier) := by
  induction drawn generalizing earlier with
  | nil => exact ⟨trivial, preceded⟩
  | cycle inside _ ih =>
      have old := preceded.above_subset _ inside
      obtain ⟨marked, later⟩ := ih (preceded.again old .cycle)
      refine ⟨⟨preceded.marked (by simp [old]) (by simp [inside]), marked⟩, ?_⟩
      simpa [Outline.lines] using later
  | seen outside old _ ih =>
      obtain ⟨marked, later⟩ := ih (preceded.again old .seen)
      refine ⟨⟨preceded.marked (by simp [old]) (by simp [outside]), marked⟩, ?_⟩
      simpa [Outline.lines] using later
  | @missing _ _ _ path _ _ outside new _ _ ih =>
      obtain ⟨marked, later⟩ := ih (preceded.first path .expanded)
      refine ⟨⟨preceded.marked (by simp [new]) (by simp [outside]), marked⟩, ?_⟩
      simpa [Outline.lines] using later
  | @expanded above _ _ _ path _ _ below after outside new _ _ _ ihInside ihRest =>
      obtain ⟨markedBelow, inner⟩ := ihInside (preceded.descend path .expanded)
      -- Beside a path, the lines below it stand above none that follow.
      have deep := below.le_depth_of_mem_lines (above.length + 1)
      have ascended : Preceded above _ ((below.lines (above.length + 1)).reverse ++
          ⟨above.length, path, .expanded⟩ :: earlier) :=
        (preceded.first path .expanded).append
          (fun line member => Nat.le_of_succ_le (deep line (List.mem_reverse.mp member)))
          inner.listed
      obtain ⟨marked, later⟩ := ihRest ascended
      refine ⟨⟨preceded.marked (by simp [new]) (by simp [outside]), ?_⟩, ?_⟩
      · exact TreeLine.allMarked_append.mpr ⟨markedBelow, marked⟩
      · simpa [Outline.lines] using later

/-! Termination. -/

theorem Outline.height_entry_le {path : ModulePath} {mark : Mark} {below after : Outline}
    {bound : Nat} (deep : below.height < bound) (flat : after.height ≤ bound) :
    (entry path mark below after).height ≤ bound := by
  rw [height, Nat.max_le]
  exact ⟨deep, flat⟩

/-- Every listing comes to an end, since no key is expanded twice. Only those that have a module
open a level. -/
theorem exists_draws (modules : List (String × Module)) (above met : List String)
    (paths : List ModulePath) {left : Nat}
    (bound : Lists.unmet (modules.map (·.1)) met ≤ left) :
    ∃ outline final, Draws modules above met paths outline final ∧ outline.height ≤ left + 1 := by
  -- There are fewer keys left below a path that has a module, and no more of them beside it.
  induction left using Nat.strongRecOn generalizing above met paths with
  | ind left deeper =>
      induction paths generalizing met with
      | nil => exact ⟨.empty, met, .nil, Nat.zero_le _⟩
      | cons path paths tail =>
          by_cases inside : path.key ∈ above
          · obtain ⟨after, final, rest, flat⟩ := tail met bound
            exact ⟨_, final, .cycle inside rest, Outline.height_entry_le (Nat.succ_pos _) flat⟩
          by_cases old : path.key ∈ met
          · obtain ⟨after, final, rest, flat⟩ := tail met bound
            exact ⟨_, final, .seen inside old rest, Outline.height_entry_le (Nat.succ_pos _) flat⟩
          cases known : modules.lookup path.key with
          | none =>
              have grown : Lists.unmet (modules.map (·.1)) (path.key :: met) ≤ _ :=
                Lists.unmet_le _ fun key => List.mem_cons_of_mem _
              obtain ⟨after, final, rest, flat⟩ := tail (path.key :: met) (Nat.le_trans grown bound)
              exact ⟨_, final, .missing inside old known rest,
                Outline.height_entry_le (Nat.succ_pos _) flat⟩
          | some module =>
              obtain ⟨earlier, later, split, _⟩ := List.lookup_eq_some_iff.mp known
              have fewer : Lists.unmet (modules.map (·.1)) (path.key :: met) < _ :=
                Lists.unmet_lt (by simp [split]) old
              obtain ⟨below, inner, under, deep⟩ := deeper _ (Nat.lt_of_lt_of_le fewer bound)
                (path.key :: above) (path.key :: met) (module.imports.map (·.target))
                (Nat.le_refl _)
              have grown : Lists.unmet (modules.map (·.1)) inner ≤ _ :=
                Lists.unmet_le _ fun key member => under.met_subset (List.mem_cons_of_mem _ member)
              obtain ⟨after, final, rest, flat⟩ := tail inner (Nat.le_trans grown bound)
              exact ⟨_, final, .expanded inside old known under rest,
                Outline.height_entry_le (by omega) flat⟩

/-! The tree of a graph. -/

namespace Graph

def lastOf? (graph : Graph) (key : String) : Option Module :=
  (graph.modules.filter (·.key == key)).getLast?

/-- The imports that are listed below a key: those of its last module. -/
def importsAt (graph : Graph) (key : String) : List Import :=
  ((graph.lastOf? key).map (·.imports)).getD []

def Follows (graph : Graph) (key other : String) : Prop :=
  ∃ edge ∈ graph.importsAt key, edge.target.key = other

variable {graph : Graph}

theorem lookup_byKey_eq (graph : Graph) (key : String) :
    graph.byKey.lookup key = graph.lastOf? key := by
  rw [byKey, lastOf?, ← List.head?_reverse, ← List.filter_reverse, List.head?_filter]
  induction graph.modules.reverse with
  | nil => rfl
  | cons module modules ih =>
      by_cases same : module.key = key
      · simp [same]
      · have other : (key == module.key) = false := by simpa using Ne.symm same
        simp [List.lookup_cons, same, other, ih]

theorem importsIn_byKey (graph : Graph) (key : String) :
    importsIn graph.byKey key = graph.importsAt key := by
  rw [importsIn, lookup_byKey_eq, importsAt]

theorem wants_iff {key other : String} :
    Wants (AsksIn graph.byKey) key other ↔ graph.Follows key other := by
  simp [Wants, AsksIn, Follows, importsIn_byKey]

theorem mem_final_iff {outline : Outline} {final : List String}
    (drawn : Draws graph.byKey [] [] [graph.entry] outline final) {key : String} :
    key ∈ final ↔ ReflTransGen graph.Follows graph.entry.key key := by
  obtain ⟨listing, lists, members⟩ := drawn.lists (by simp)
  have functional : Functional (AsksIn graph.byKey) := by
    rintro key _ _ _ _ ⟨rfl, rfl⟩ ⟨rfl, rfl⟩
    exact ⟨rfl, rfl⟩
  have start : graph.entry.key ∈ final := by
    rw [members]
    exact lists.keys_met _ (by simp)
  constructor
  · intro member
    have reached : ∀ key ∈ _, ReflTransGen graph.Follows graph.entry.key key := lists.inside_closed
      (fun key other reached wants => reached.tail (wants_iff.mp wants))
      (by simpa using ReflTransGen.refl)
    exact reached key (by simpa using (members key).mp member)
  · intro reached
    induction reached with
    | refl => exact start
    | @tail middle other _ follows ih =>
        rw [members] at ih ⊢
        exact lists.followed functional middle (by simpa using ih) other (wants_iff.mpr follows)

end Graph

/-- The import tree of a graph, whatever modules and cycles it has. Each key that is reached from
the entry is expanded where it appears first, with the imports of its last module below it; any
other line is a cycle when its key stands above it, and else was seen. A line stands for one entry
of the tree, and is one line of the text unless its path has a line feed. The listing never runs out
of fuel. -/
theorem tree_appearances (graph : Graph) :
    graph.tree = String.join (graph.treeLines.map (·.text)) ∧
    ((∀ line ∈ graph.treeLines, '\n' ∉ line.path.text.toList) →
      graph.tree.toList.count '\n' = graph.treeLines.length) ∧
    (∀ fuel, graph.size < fuel →
      (Listing.visit graph.byKey fuel [] {} graph.entry).lines.reverse = graph.treeLines) ∧
    graph.treeLines.length = 1 +
      ((expandedKeys graph.treeLines).map fun key => (graph.importsAt key).length).sum ∧
    (expandedKeys graph.treeLines).Nodup ∧
    (∀ key, key ∈ expandedKeys graph.treeLines ↔
      ReflTransGen graph.Follows graph.entry.key key) ∧
    ∀ before line after, graph.treeLines = before ++ line :: after →
      let above := ancestors line.depth before.reverse
      (line.mark = .expanded ↔ ∀ other ∈ before, other.key ≠ line.key) ∧
      (line.mark = .cycle ↔ ∃ other ∈ above, other.key = line.key) ∧
      (line.mark = .seen ↔
        (∃ other ∈ before, other.key = line.key) ∧ ∀ other ∈ above, other.key ≠ line.key) ∧
      line.text = String.join (List.replicate above.length "  ") ++ line.path.text ++
        line.mark.text ++ "\n" := by
  have known : Lists.unmet (graph.byKey.map (·.1)) [] ≤ graph.size := by
    refine Nat.le_trans List.countP_le_length ?_
    simp [Graph.byKey, Graph.size]
  obtain ⟨outline, final, drawn, flat⟩ := exists_draws graph.byKey [] [] [graph.entry] known
  have lines : graph.treeLines = outline.lines 0 := Graph.visit_eq drawn flat
  have keys : final = (expandedKeys graph.treeLines).reverse := by
    rw [drawn.final_eq 0, List.append_nil, lines]
  refine ⟨rfl, TreeLine.count_join, ?_, ?_, ?_, ?_, ?_⟩
  · intro fuel enough
    rw [Graph.visit_eq drawn (Nat.le_trans flat enough), lines]
  · rw [lines, outline.length_lines, drawn.size_eq 0]
    simp only [Graph.importsIn_byKey, List.length_singleton]
  · rw [← (List.reverse_perm _).nodup_iff, ← keys]
    exact drawn.nodup .nil
  · intro key
    rw [← Graph.mem_final_iff drawn, keys, List.mem_reverse]
  · intro before line after split above
    have start : Preceded [] [] [] := ⟨rfl, by simp⟩
    have all := (drawn.allMarked start).1
    rw [List.length_nil, ← lines, split, TreeLine.allMarked_append, List.append_nil] at all
    obtain ⟨depth, expanded, cycle⟩ := all.2.1
    simp only [List.mem_reverse] at expanded
    refine ⟨expanded, cycle, ?_, ?_⟩
    · rw [Mark.eq_seen_iff, Ne, Ne, expanded, cycle]
      simp [above]
    · rw [TreeLine.text, depth]

def tangled : Graph where
  entry := .ofRaw "a"
  modules :=
    [⟨.ofRaw "b", "b.kooix", [⟨"a", .ofRaw "a"⟩, ⟨"gone", .ofRaw "gone"⟩]⟩,
      ⟨.ofRaw "a", "a.kooix", []⟩,
      ⟨.ofRaw "x/../a", "a.kooix", [⟨"b", .ofRaw "b"⟩, ⟨"./gone", .ofRaw "./gone"⟩]⟩]
  cycles := []

theorem tree_appearances_tangled :
    tangled.tree =
      "a.kooix\n  b.kooix\n    a.kooix (cycle)\n    gone.kooix\n  ./gone.kooix (seen)\n" ∧
    tangled.tree.toList.count '\n' = tangled.treeLines.length ∧
    tangled.size < 4 ∧
    (Listing.visit tangled.byKey 4 [] {} tangled.entry).lines.reverse = tangled.treeLines ∧
    ReflTransGen tangled.Follows tangled.entry.key "gone.kooix" ∧
    tangled.treeLines =
      tangled.treeLines.take 2 ++ ⟨2, .ofRaw "a", .cycle⟩ :: tangled.treeLines.drop 3 ∧
    ∃ other ∈ ancestors 2 (tangled.treeLines.take 2).reverse,
      other.key = (ModulePath.ofRaw "a").key := by
  obtain ⟨_, counted, fueled, _, _, reached, marks⟩ := tree_appearances tangled
  have enough : tangled.size < 4 := by decide
  have split : tangled.treeLines =
      tangled.treeLines.take 2 ++ ⟨2, .ofRaw "a", .cycle⟩ :: tangled.treeLines.drop 3 := by
    decide +kernel
  obtain ⟨_, cycle, _, _⟩ := marks _ _ _ split
  exact ⟨by decide +kernel, counted (by decide +kernel), enough, fueled 4 enough,
    (reached _).mp (by decide +kernel), split,
    cycle.mp rfl⟩

end Bundler.Source
