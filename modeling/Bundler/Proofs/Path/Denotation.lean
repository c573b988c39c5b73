import Bundler.Proofs.Path.Normal
import Mathlib.Data.List.DropRight
import Mathlib.Data.Set.Finite.Basic

/-!
What paths lead to. A normal path is a run of parent steps followed by proper names, so it leads
to one place from each directory, and two of them that differ are told apart by some directory.
-/

namespace Bundler.Path

/-- A name that a directory can have: one that leads below it. -/
def IsProper (name : String) : Prop :=
  name ≠ "" ∧ name ≠ "." ∧ name ≠ ".." ∧ '/' ∉ name.toList

instance (name : String) : Decidable (IsProper name) :=
  inferInstanceAs (Decidable (_ ∧ _))

namespace Place

variable (place : Place)

@[simp] theorem follow_nil : follow place [] = place := rfl

@[simp] theorem follow_cons (name : String) (names : List String) :
    follow place (name :: names) = follow (place.step name) names := rfl

theorem follow_append (names more : List String) :
    follow place (names ++ more) = follow (follow place names) more :=
  List.foldl_append

@[simp] theorem step_empty : step place "" = place := by simp [step]

@[simp] theorem step_dot : step place "." = place := by simp [step]

@[simp] theorem step_parent : step place ".." = place.dropLast := by simp [step]

theorem step_proper {name : String} (proper : IsProper name) :
    step place name = place ++ [name] := by
  simp [step, proper.1, proper.2.1, proper.2.2.1]

theorem follow_proper {names : List String} (proper : ∀ name ∈ names, IsProper name) :
    follow place names = place ++ names := by
  induction names generalizing place with
  | nil => simp
  | cons name names ih =>
      obtain ⟨first, rest⟩ := List.forall_mem_cons.mp proper
      rw [follow_cons, step_proper place first, ih _ rest, List.append_assoc, List.singleton_append]

theorem follow_parents (count : Nat) :
    follow place (List.replicate count "..") = place.rdrop count := by
  induction count generalizing place with
  | zero => simp
  | succ count ih =>
      rw [List.replicate_succ, follow_cons, step_parent, ih, List.rdrop, List.rdrop,
        List.length_dropLast, List.dropLast_eq_take, List.take_take]
      congr 1
      omega

theorem follow_filter (names : List String) :
    follow place (names.filter (· ≠ "")) = follow place names := by
  induction names generalizing place with
  | nil => rfl
  | cons name names ih =>
      by_cases empty : name = ""
      · rw [List.filter_cons_of_neg (by simpa using empty), follow_cons, empty, step_empty, ih]
      · rw [List.filter_cons_of_pos (by simpa using empty), follow_cons, follow_cons, ih]

end Place

theorem rdrop_replicate {α : Type} (value : α) (count dropped : Nat) :
    (List.replicate count value).rdrop dropped = List.replicate (count - dropped) value := by
  simp [List.rdrop, List.take_replicate]

theorem exists_proper_not_mem (names : List String) : ∃ name, IsProper name ∧ name ∉ names := by
  have injective : Function.Injective fun n => String.ofList (List.replicate (n + 1) 'a') := by
    intro n m same
    have lengths := congrArg (fun name : String => name.toList.length) same
    simpa using lengths
  obtain ⟨name, ⟨n, rfl⟩, fresh⟩ :=
    (Set.infinite_range_of_injective injective).exists_notMem_finset names.toFinset
  refine ⟨_, ?_, by simpa using fresh⟩
  simp [IsProper, ← String.toList_inj, List.replicate_succ]

/-! Paths below others. -/

section

variable (cwd : Place) {base path : String}

theorem names_empty : names "" = [""] :=
  names_of_no_slash (by simp)

theorem denote_empty : denote cwd "" = cwd := by
  rw [denote, names_empty]
  exact Place.step_empty cwd

theorem denote_dot : denote cwd "." = cwd := by
  rw [denote, names_of_no_slash (by simp)]
  exact Place.step_dot cwd

theorem denote_slash (nonempty : base ≠ "") : denote cwd (base ++ "/") = denote cwd base := by
  have split : base ++ "/" = String.ofList (base.toList ++ '/' :: []) := by
    simp
  have absolute : isAbsolute (base ++ "/") = isAbsolute base := by
    obtain ⟨c, rest, chars⟩ := List.exists_cons_of_ne_nil (mt String.toList_eq_nil_iff.mp nonempty)
    simp [isAbsolute, String.toList_append, chars]
  rw [denote, denote, absolute, split, names_append_slash, String.ofList_toList, String.ofList_nil,
    names_empty, Place.follow_append, Place.follow_cons, Place.step_empty, Place.follow_nil]

theorem IsBase.denote_append (isBase : IsBase base) (relative : isAbsolute path = false) :
    denote cwd (base ++ path) = (denote cwd base).follow (names path) := by
  rw [denote, isBase.isAbsolute_append relative, denote]
  rcases isBase with rfl | ⟨above, rfl⟩
  · rw [String.empty_append, names_empty, Place.follow_cons, Place.step_empty, Place.follow_nil]
  · have split : String.ofList (above ++ ['/']) ++ path =
        String.ofList (above ++ '/' :: path.toList) := by
      simp [← String.toList_inj]
    rw [split, names_append_slash, names_append_slash, String.ofList_toList, String.ofList_nil,
      names_empty, Place.follow_append, Place.follow_append, Place.follow_cons, Place.step_empty,
      Place.follow_nil]

theorem isBase_of_getLast? (slash : base.toList.getLast? = some '/') : IsBase base := by
  obtain ⟨above, chars⟩ := List.getLast?_eq_some_iff.mp slash
  exact .inr ⟨above, by rw [← chars, String.ofList_toList]⟩

theorem denote_join (relative : isAbsolute path = false) :
    denote cwd (join base path) = (denote cwd base).follow (names path) := by
  rw [join, relative, if_neg (by decide)]
  by_cases nonempty : base = ""
  · subst nonempty
    exact IsBase.denote_append cwd (.inl rfl) relative
  by_cases slash : base.toList.getLast? = some '/'
  · simp only [slash, beq_self_eq_true, Bool.or_true, if_true]
    exact (isBase_of_getLast? slash).denote_append cwd relative
  · have isBase : IsBase (base ++ "/") := isBase_of_getLast? (by simp [String.toList_append])
    have between : (base.isEmpty || base.toList.getLast? == some '/') = false := by
      simp [nonempty, slash]
    rw [between, if_neg (by decide), isBase.denote_append cwd relative, denote_slash cwd nonempty]

end

end Bundler.Path

namespace Bundler.Source.ModulePath

open Bundler.Path (IsProper Place denote exists_proper_not_mem rdrop_replicate)

variable {absolute : Bool} {above : List String} {name : String}

/-- Normal names, last one first: proper names, and above them parent steps, of which there are
none below the root. -/
def IsNormal (absolute : Bool) (names : List String) : Prop :=
  ∃ plain climbs, names = plain ++ List.replicate climbs ".." ∧
    (∀ name ∈ plain, IsProper name) ∧ (absolute → climbs = 0)

theorem isNormal_nil (absolute : Bool) : IsNormal absolute [] :=
  ⟨[], 0, rfl, by simp, fun _ => rfl⟩

/-! One step of normalization, by what is read. -/

theorem normalStep_idle (idle : name = "" ∨ name = ".") : normalStep absolute above name = above :=
  if_pos idle

theorem normalStep_proper (proper : IsProper name) :
    normalStep absolute above name = name :: above := by
  simp [normalStep, proper.1, proper.2.1, proper.2.2.1]

theorem normalStep_cancel (proper : IsProper name) :
    normalStep absolute (name :: above) ".." = above := by
  simp [normalStep, proper.2.2.1]

theorem normalStep_root : normalStep true [] ".." = [] := by
  simp [normalStep]

theorem normalStep_climb (climbs : Nat) :
    normalStep false (List.replicate climbs "..") ".." = List.replicate (climbs + 1) ".." := by
  cases climbs <;> simp [normalStep, List.replicate_succ]

theorem IsNormal.step (normal : IsNormal absolute above) (clean : '/' ∉ name.toList) (place : Place)
    (rooted : absolute → place = []) :
    IsNormal absolute (normalStep absolute above name) ∧
      place.follow (normalStep absolute above name).reverse =
        (place.follow above.reverse).step name := by
  by_cases idle : name = "" ∨ name = "."
  · rw [normalStep_idle idle]
    refine ⟨normal, ?_⟩
    rcases idle with rfl | rfl <;> simp
  by_cases parent : name = ".."
  · -- A parent step cancels a proper name, is lost at the root, and stays behind others like it.
    subst parent
    obtain ⟨plain, climbs, rfl, proper, grounded⟩ := normal
    cases plain with
    | cons last plain =>
        obtain ⟨first, rest⟩ := List.forall_mem_cons.mp proper
        rw [List.cons_append, normalStep_cancel first]
        refine ⟨⟨plain, climbs, rfl, rest, grounded⟩, ?_⟩
        rw [List.reverse_cons, Place.follow_append, Place.follow_cons, Place.follow_nil,
          Place.step_proper _ first, Place.step_parent, List.dropLast_concat]
    | nil =>
        rw [List.nil_append]
        cases absolute with
        | true =>
            rw [grounded rfl, List.replicate_zero, normalStep_root, rooted rfl]
            exact ⟨isNormal_nil true, by simp⟩
        | false =>
            rw [normalStep_climb]
            refine ⟨⟨[], climbs + 1, rfl, by simp, by simp⟩, ?_⟩
            rw [List.replicate_succ, List.reverse_cons, Place.follow_append]
            rfl
  · have proper : IsProper name := by
      rw [not_or] at idle
      exact ⟨idle.1, idle.2, parent, clean⟩
    rw [normalStep_proper proper]
    constructor
    · obtain ⟨plain, climbs, rfl, others, grounded⟩ := normal
      exact ⟨name :: plain, climbs, rfl, List.forall_mem_cons.mpr ⟨proper, others⟩, grounded⟩
    · rw [List.reverse_cons, Place.follow_append]
      rfl

theorem IsNormal.foldl (normal : IsNormal absolute above) {names : List String}
    (clean : ∀ name ∈ names, '/' ∉ name.toList) (place : Place) (rooted : absolute → place = []) :
    IsNormal absolute (names.foldl (normalStep absolute) above) ∧
      place.follow (names.foldl (normalStep absolute) above).reverse =
        (place.follow above.reverse).follow names := by
  induction names generalizing above with
  | nil => exact ⟨normal, rfl⟩
  | cons name names ih =>
      obtain ⟨first, rest⟩ := List.forall_mem_cons.mp clean
      obtain ⟨kept, moved⟩ := normal.step first place rooted
      obtain ⟨normal, followed⟩ := ih kept rest
      rw [moved] at followed
      exact ⟨normal, followed⟩

theorem isNormal_normalRead (path : String) (place : Place) (rooted : absolute → place = []) :
    IsNormal absolute (normalRead absolute [] path) ∧
      place.follow (normalRead absolute [] path).reverse = place.follow (Path.names path) :=
  (isNormal_nil absolute).foldl (fun _ => Path.slash_not_mem_of_mem_names) place rooted

def origin (cwd : Place) (path : String) : Place :=
  if Path.isAbsolute path then [] else cwd

theorem origin_of_absolute {cwd : Place} {path : String} (absolute : Path.isAbsolute path) :
    origin cwd path = [] := if_pos absolute

theorem denote_eq_follow (cwd : Place) (path : String) :
    denote cwd path = (origin cwd path).follow (normalNames path) := by
  rw [normalNames_eq, (isNormal_normalRead path (origin cwd path) origin_of_absolute).2]
  rfl

theorem denote_key (cwd : Place) (path : ModulePath) :
    denote cwd path.key = denote cwd path.text := by
  rw [denote_eq_follow cwd path.text, ← filter_names_key, Place.follow_filter, origin,
    ← isAbsolute_key]
  rfl

theorem exists_normalNames (path : String) :
    ∃ climbs plain, normalNames path = List.replicate climbs ".." ++ plain ∧
      (∀ name ∈ plain, IsProper name) ∧ (Path.isAbsolute path → climbs = 0) ∧
      ∀ cwd, denote cwd path = (origin cwd path).rdrop climbs ++ plain := by
  obtain ⟨⟨plain, climbs, names, proper, grounded⟩, _⟩ :=
    isNormal_normalRead path (origin [] path) origin_of_absolute
  have normal : normalNames path = List.replicate climbs ".." ++ plain.reverse := by
    rw [normalNames_eq, names, List.reverse_append, List.reverse_replicate]
  have reversed : ∀ name ∈ plain.reverse, IsProper name := by simpa using proper
  refine ⟨climbs, plain.reverse, normal, reversed, grounded, fun cwd => ?_⟩
  rw [denote_eq_follow, normal, Place.follow_append, Place.follow_parents,
    Place.follow_proper _ reversed]

/-- A deep directory of one fresh name tells apart paths that differ in their root, in how far they
climb or in their last names. -/
theorem key_eq_of_denote_eq {path other : ModulePath}
    (same : ∀ cwd, (∀ name ∈ cwd, IsProper name) → denote cwd path.text = denote cwd other.text) :
    path.key = other.key := by
  obtain ⟨climbs, plain, normal, _, grounded, leads⟩ := exists_normalNames path.text
  obtain ⟨climbs', plain', normal', _, grounded', leads'⟩ := exists_normalNames other.text
  obtain ⟨fresh, proper, new⟩ := exists_proper_not_mem (plain ++ plain')
  rw [List.mem_append, not_or] at new
  have places := same (List.replicate (climbs + climbs' + 1) fresh) fun name member =>
    (List.eq_of_mem_replicate member) ▸ proper
  rw [leads, leads'] at places
  have count := congrArg (List.count fresh) places
  rw [List.count_append, List.count_append, List.count_eq_zero_of_not_mem new.1,
    List.count_eq_zero_of_not_mem new.2] at count
  rw [key_eq_iff, normal, normal']
  -- A path from the root leads to a place without the fresh name, any other to one that has it.
  cases absolute : Path.isAbsolute path.text <;> cases absolute' : Path.isAbsolute other.text <;>
    simp only [origin, absolute, absolute', Bool.false_eq_true, ↓reduceIte, rdrop_replicate,
      List.rdrop_nil, List.count_replicate_self, List.count_nil] at places count
  · obtain rfl : climbs = climbs' := by omega
    exact ⟨rfl, by rw [List.append_cancel_left places]⟩
  · omega
  · omega
  · rw [grounded absolute, grounded' absolute']
    exact ⟨rfl, by rw [List.append_cancel_left places]⟩

/-- A key leads to the same place as its path from each directory, and two paths have one key just
when they lead to one place from each directory. Directories with proper names alone suffice. -/
theorem key_denotes (path other : ModulePath) :
    (∀ cwd, denote cwd path.key = denote cwd path.text) ∧
    (path.key = other.key ↔ ∀ cwd, denote cwd path.text = denote cwd other.text) ∧
    ((∀ cwd, (∀ name ∈ cwd, IsProper name) →
      denote cwd path.text = denote cwd other.text) → path.key = other.key) := by
  refine ⟨fun cwd => denote_key cwd path, ⟨?_, ?_⟩, key_eq_of_denote_eq⟩
  · intro same cwd
    rw [← denote_key, ← denote_key, same]
  · intro same
    exact key_eq_of_denote_eq fun cwd _ => same cwd

end Bundler.Source.ModulePath
