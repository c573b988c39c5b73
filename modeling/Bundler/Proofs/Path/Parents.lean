import Bundler.Proofs.Path.Denotation

/-!
The directory that holds what a path names. It is read off the path's text, and leads to the place
that the path goes on from by its last name.
-/

namespace Bundler.Path

variable {path base name : String} {kept : List (List Char)}

theorem anchored_cases (path : String) :
    (∃ rest, path = String.ofList ('/' :: rest) ∧ anchored path = ("/", rest.splitOn '/')) ∨
    (path = "." ∧ anchored path = (".", [])) ∨
    (∃ rest, path = String.ofList ('.' :: '/' :: rest) ∧
      anchored path = (".", [] :: rest.splitOn '/')) ∨
    (isAbsolute path = false ∧ anchored path = ("", path.toList.splitOn '/')) := by
  unfold anchored
  split
  · rename_i rest chars
    exact .inl ⟨rest, by rw [← chars, String.ofList_toList], rfl⟩
  · rename_i chars
    exact .inr (.inl ⟨String.toList_inj.mp chars, rfl⟩)
  · rename_i rest chars
    exact .inr (.inr (.inl ⟨rest, by rw [← chars, String.ofList_toList], rfl⟩))
  · rename_i rooted _ _
    refine .inr (.inr (.inr ⟨?_, rfl⟩))
    rw [isAbsolute, beq_eq_false_iff_ne]
    intro slash
    obtain ⟨rest, chars⟩ := List.head?_eq_some_iff.mp slash
    exact rooted rest chars

theorem anchored_of_no_slash (clean : '/' ∉ path.toList) (undotted : path ≠ ".") :
    anchored path = ("", [path.toList]) := by
  rcases anchored_cases path with ⟨rest, rfl, _⟩ | ⟨rfl, _⟩ | ⟨rest, rfl, _⟩ | ⟨_, same⟩
  · simp at clean
  · exact absurd rfl undotted
  · simp at clean
  · rw [same, List.splitOn_eq_singleton clean]

theorem slash_not_mem_of_mem_anchored {name : List Char} (member : name ∈ (anchored path).2) :
    '/' ∉ name := by
  rcases anchored_cases path with ⟨rest, _, same⟩ | ⟨_, same⟩ | ⟨rest, _, same⟩ | ⟨_, same⟩
  · rw [same] at member
    exact not_mem_of_mem_splitOn member
  · simp [same] at member
  · rw [same] at member
    rcases List.mem_cons.mp member with rfl | member
    · exact List.not_mem_nil
    · exact not_mem_of_mem_splitOn member
  · rw [same] at member
    exact not_mem_of_mem_splitOn member

/-! Anchors with some of the names behind them. -/

def spelled (anchor : String) (kept : List (List Char)) : String :=
  anchor ++ String.ofList (['/'].intercalate kept)

theorem spelled_anchored (path : String) : spelled (anchored path).1 (anchored path).2 = path := by
  rcases anchored_cases path with ⟨rest, rfl, same⟩ | ⟨rfl, same⟩ | ⟨rest, rfl, same⟩ | ⟨_, same⟩
  · rw [same, spelled, List.intercalate_splitOn]
    simp
  · rw [same]
    rfl
  · rw [same, spelled, List.intercalate_cons_of_ne_nil (List.splitOn_ne_nil _ _),
      List.intercalate_splitOn]
    simp
  · rw [same, spelled, List.intercalate_splitOn, String.empty_append, String.ofList_toList]

theorem intercalate_initial {names : List (List Char)} (initial : kept <+: names) :
    ['/'].intercalate kept <+: ['/'].intercalate names := by
  induction kept generalizing names with
  | nil => simp
  | cons first kept ih =>
      obtain ⟨more, rfl⟩ := initial
      rw [List.cons_append]
      cases kept with
      | nil =>
          cases more with
          | nil => exact List.prefix_rfl
          | cons => simp [List.intercalate_cons_cons]
      | cons second kept =>
          rw [List.intercalate_cons_cons, List.cons_append, List.intercalate_cons_cons,
            List.prefix_append_right_inj]
          exact ih (List.prefix_append _ more)

theorem follow_intercalate (clean : ∀ name ∈ kept, '/' ∉ name) (place : Place) :
    place.follow (names (String.ofList (['/'].intercalate kept))) =
      place.follow (kept.map String.ofList) := by
  by_cases none : kept = []
  · rw [none]
    exact Place.step_empty place
  · rw [names, String.toList_ofList, List.splitOn_intercalate '/' clean none]

theorem isAbsolute_spelled (relative : isAbsolute path = false)
    (initial : kept <+: path.toList.splitOn '/') : isAbsolute (spelled "" kept) = false := by
  obtain ⟨more, whole⟩ := intercalate_initial initial
  rw [List.intercalate_splitOn] at whole
  rw [isAbsolute, ← whole] at relative
  rw [isAbsolute, spelled, String.empty_append, String.toList_ofList]
  cases chars : ['/'].intercalate kept with
  | nil => rfl
  | cons c chars => simpa [chars] using relative

theorem denote_spelled (cwd : Place) (initial : kept <+: (anchored path).2) :
    denote cwd (spelled (anchored path).1 kept) =
      Place.follow (if isAbsolute path then [] else cwd) (kept.map String.ofList) := by
  have clean : ∀ name ∈ kept, '/' ∉ name := fun name member =>
    slash_not_mem_of_mem_anchored (initial.subset member)
  rcases anchored_cases path with ⟨rest, rfl, same⟩ | ⟨rfl, same⟩ | ⟨rest, rfl, same⟩ |
    ⟨relative, same⟩
  · rw [same] at initial ⊢
    have whole : spelled "/" kept = String.ofList ([] ++ '/' :: ['/'].intercalate kept) := by
      simp [spelled]
    have rooted : isAbsolute (spelled "/" kept) = true := by
      simp [whole, isAbsolute]
    rw [denote, rooted, whole, names_append_slash, Place.follow_append, follow_intercalate clean]
    simp [isAbsolute, names_empty]
  · rw [same] at initial ⊢
    rw [List.prefix_nil.mp initial]
    exact denote_dot cwd
  · rw [same] at initial ⊢
    have relative : isAbsolute (String.ofList ('.' :: '/' :: rest)) = false := by
      simp [isAbsolute]
    rw [relative]
    cases kept with
    | nil => exact denote_dot cwd
    | cons first kept =>
        obtain ⟨rfl, _⟩ := List.cons_prefix_cons.mp initial
        have clean := (List.forall_mem_cons.mp clean).2
        by_cases none : kept = []
        · rw [none]
          exact denote_dot cwd
        · have whole : spelled "." ([] :: kept) =
              String.ofList (['.'] ++ '/' :: ['/'].intercalate kept) := by
            simp [spelled, List.intercalate_cons_of_ne_nil none]
          have dot : names (String.ofList ['.']) = ["."] := names_of_no_slash (by simp)
          rw [denote, whole, names_append_slash, Place.follow_append, follow_intercalate clean, dot]
          simp [isAbsolute]
  · rw [same] at initial ⊢
    rw [denote, isAbsolute_spelled relative initial, relative, spelled, String.empty_append, follow_intercalate clean]

/-! The last names of a path. -/

theorem exists_splitOn_append (isBase : IsBase base) (clean : '/' ∉ name.toList) :
    ∃ above, (base ++ name).toList.splitOn '/' = above ++ [name.toList] := by
  rcases isBase with rfl | ⟨above, rfl⟩
  · exact ⟨[], by rw [String.empty_append, List.splitOn_eq_singleton clean, List.nil_append]⟩
  · have whole : (String.ofList (above ++ ['/']) ++ name).toList = above ++ '/' :: name.toList := by
      simp
    exact ⟨above.splitOn '/', by
      rw [whole, List.splitOn_append_cons_self, List.splitOn_eq_singleton clean]⟩

theorem suffix_of_idle {head last : List Char} {later rest : List (List Char)}
    (named : isIdle last = false) (idle : isIdle head = true)
    (ends : last :: later <:+ head :: rest) : last :: later <:+ rest := by
  rcases List.suffix_cons_iff.mp ends with whole | within
  · rw [(List.cons.inj whole).1, idle] at named
    cases named
  · exact within

theorem suffix_anchored {last : List Char} {later : List (List Char)} (named : isIdle last = false)
    (ends : last :: later <:+ path.toList.splitOn '/') : last :: later <:+ (anchored path).2 := by
  rcases anchored_cases path with ⟨rest, rfl, same⟩ | ⟨rfl, same⟩ | ⟨rest, rfl, same⟩ | ⟨_, same⟩
  · rw [same]
    rw [String.toList_ofList, ← List.nil_append ('/' :: rest), List.splitOn_append_cons_self,
      List.splitOn_nil, List.singleton_append] at ends
    exact suffix_of_idle named rfl ends
  · have single : ".".toList.splitOn '/' = [['.']] := by decide
    rw [single] at ends
    rw [same]
    exact suffix_of_idle named rfl ends
  · rw [same]
    rw [String.toList_ofList, ← List.singleton_append (l := '/' :: rest),
      List.splitOn_append_cons_self, List.splitOn_eq_singleton (by decide),
      List.singleton_append] at ends
    exact (suffix_of_idle named rfl ends).trans (List.suffix_cons _ _)
  · rwa [same]

theorem IsProper.isIdle_eq (proper : IsProper name) : isIdle name.toList = false := by
  rw [isIdle, Bool.or_eq_false_iff, beq_eq_false_iff_ne, beq_eq_false_iff_ne]
  exact ⟨mt String.toList_eq_nil_iff.mp proper.1,
    fun same => proper.2.1 (String.toList_inj.mp same)⟩

/-! Parents. -/

theorem parent?_eq {last : List Char} {above : List (List Char)} (named : isIdle last = false)
    (ends : (anchored path).2 = above ++ [last]) :
    parent? path = some (spelled (anchored path).1 (above.rdropWhile isIdle)) := by
  unfold parent?
  generalize anchored path = parts at ends ⊢
  obtain ⟨anchor, kept⟩ := parts
  dsimp only at ends ⊢
  rw [ends, List.reverse_append, List.reverse_singleton, List.singleton_append,
    List.dropWhile_cons_of_neg (by simp [named])]
  rfl

theorem follow_rdropWhile (place : Place) (kept : List (List Char)) :
    place.follow ((kept.rdropWhile isIdle).map String.ofList) =
      place.follow (kept.map String.ofList) := by
  induction kept using List.reverseRecOn with
  | nil => rfl
  | append_singleton kept last ih =>
      rw [List.rdropWhile_concat]
      split
      · rename_i idle
        have step : ∀ place : Place, place.step (String.ofList last) = place := by
          intro place
          rw [isIdle, Bool.or_eq_true, beq_iff_eq, beq_iff_eq] at idle
          rcases idle with rfl | rfl
          · exact Place.step_empty place
          · exact Place.step_dot place
        rw [ih, List.map_append, Place.follow_append, List.map_singleton, Place.follow_cons, step,
          Place.follow_nil]
      · rfl

/-- A file in a directory has a parent, which is another spelling of that directory. -/
theorem exists_parent? (isBase : IsBase base) (proper : IsProper name) :
    ∃ parent, parent? (base ++ name) = some parent ∧ ∀ cwd,
      denote cwd parent = denote cwd base ∧
      denote cwd parent = (denote cwd (base ++ name)).dropLast := by
  have clean := proper.2.2.2
  obtain ⟨_, split⟩ := exists_splitOn_append isBase clean
  obtain ⟨above, ends⟩ := suffix_anchored proper.isIdle_eq ⟨_, split.symm⟩
  refine ⟨_, parent?_eq proper.isIdle_eq ends.symm, fun cwd => ?_⟩
  have led : ∀ place : Place, place.follow [name] = place ++ [name] := fun place =>
    Place.follow_proper place (by simpa using proper)
  have below : denote cwd (base ++ name) = denote cwd base ++ [name] := by
    rw [isBase.denote_append cwd (Source.isAbsolute_eq_false_of_no_slash clean),
      names_of_no_slash clean, led]
  have initial : above.rdropWhile isIdle <+: (anchored (base ++ name)).2 :=
    (List.rdropWhile_prefix _ _).trans ⟨_, ends⟩
  have whole := denote_spelled cwd (List.prefix_refl (anchored (base ++ name)).2)
  rw [spelled_anchored, below, ← ends, List.map_append, Place.follow_append, List.map_singleton,
    String.ofList_toList, led] at whole
  rw [denote_spelled cwd initial, follow_rdropWhile, below, List.dropLast_concat,
    List.append_cancel_right whole]
  exact ⟨rfl, rfl⟩

theorem intercalate_concat (nonempty : kept ≠ []) (last : List Char) :
    ['/'].intercalate (kept ++ [last]) = ['/'].intercalate kept ++ '/' :: last := by
  induction kept with
  | nil => exact absurd rfl nonempty
  | cons first kept ih =>
      cases kept with
      | nil => simp
      | cons second kept =>
          rw [List.cons_append, List.cons_append, List.intercalate_cons_cons,
            List.intercalate_cons_cons, ← List.cons_append, ih (List.cons_ne_nil _ _)]
          simp

/-- The parent is spelled as the directory is, if that ends in a name. -/
theorem parent?_below {last : String} (isBase : IsBase base) (ends : IsProper last)
    (proper : IsProper name) : parent? (base ++ last ++ "/" ++ name) = some (base ++ last) := by
  obtain ⟨_, split⟩ := exists_splitOn_append isBase ends.2.2.2
  have tail : (base ++ last ++ "/" ++ name).toList.splitOn '/' =
      (base ++ last).toList.splitOn '/' ++ [name.toList] := by
    have whole : (base ++ last ++ "/" ++ name).toList =
        (base ++ last).toList ++ '/' :: name.toList := by
      simp
    rw [whole, List.splitOn_append_cons_self, List.splitOn_eq_singleton proper.2.2.2]
  rw [split, List.append_assoc] at tail
  obtain ⟨above, within⟩ := suffix_anchored ends.isIdle_eq ⟨_, tail.symm⟩
  have whole := spelled_anchored (base ++ last ++ "/" ++ name)
  have within : above ++ [last.toList] ++ [name.toList] =
      (anchored (base ++ last ++ "/" ++ name)).2 := by rw [← within, List.append_assoc]; rfl
  rw [← within, spelled, intercalate_concat (by simp)] at whole
  rw [parent?_eq proper.isIdle_eq within.symm,
    List.rdropWhile_concat_neg _ _ _ (by simp [ends.isIdle_eq])]
  have cut : (spelled (anchored (base ++ last ++ "/" ++ name)).1 (above ++ [last.toList])).toList ++
      '/' :: name.toList = (base ++ last).toList ++ '/' :: name.toList := by
    simpa [spelled, ← String.toList_inj] using whole
  rw [String.toList_inj.mp (List.append_cancel_right cut)]

theorem directory?_below {last : String} (isBase : IsBase base) (ends : IsProper last)
    (proper : IsProper name) :
    directory? (base ++ last ++ "/" ++ name) = some (base ++ last) := by
  have written : base ++ last ≠ "" := fun empty => ends.1 (String.append_eq_empty_iff.mp empty).2
  rw [directory?, parent?_below isBase ends proper, Option.filter_some,
    if_pos (by simpa using written)]

theorem directory?_single (proper : IsProper name) : directory? name = none := by
  have single := anchored_of_no_slash proper.2.2.2 proper.2.1
  have last : (anchored name).2 = [] ++ [name.toList] := by rw [single, List.nil_append]
  have parent : parent? name = some "" := by
    rw [parent?_eq proper.isIdle_eq last, single]
    rfl
  rw [directory?, parent]
  rfl

example :
    parent? "a//b/.//name" = some "a//b" ∧ parent? "./name" = some "." ∧
    parent? "//name" = some "/" ∧ parent? "a/../.." = some "a/.." := by
  decide +kernel

end Bundler.Path
