import Bundler.Proofs.Load.Keys
import Bundler.Proofs.Load.Sources
import Bundler.Proofs.Text.Numerals
import Bundler.Proofs.Unit.Position
import Mathlib.Data.List.Nodup

/-!
Positions follow the bytes that they are positions of. In one text a later byte is further right or
on a line further down; no two texts of a load have one path; and a position can be read back from
the way it is written. So a byte can be told by its position.
-/

namespace Bundler.Source

theorem lastLine_append_of_not_mem {before inside : String} (oneLine : '\n' ∉ inside.toList) :
    lastLine (before ++ inside) = lastLine before ++ inside.toList := by
  have here : ∀ c ∈ inside.toList.reverse, decide (c ≠ '\n') = true := by
    intro c member
    rw [decide_eq_true_eq]
    rintro rfl
    exact oneLine (List.mem_reverse.mp member)
  rw [lastLine, lastLine, String.toList_append, List.rtakeWhile, List.rtakeWhile,
    List.reverse_append, List.takeWhile_append_of_pos here, List.reverse_append,
    List.reverse_reverse]

namespace Position

def behind (path : ModulePath) (before : String) : Position :=
  ⟨path, before.toList.count '\n' + 1, (lastLine before).length + 1⟩

/-- On a line above, or further left on the same one. -/
def Before (position other : Position) : Prop :=
  position.line < other.line ∨ position.line = other.line ∧ position.column < other.column

theorem Before.ne {position other : Position} (before : position.Before other) :
    position ≠ other := by
  rintro rfl
  rcases before with above | ⟨_, left⟩
  · exact Nat.lt_irrefl _ above
  · exact Nat.lt_irrefl _ left

theorem behind_before_append (path : ModulePath) (before : String) {inside : String}
    (nonempty : inside ≠ "") : (behind path before).Before (behind path (before ++ inside)) := by
  by_cases broken : '\n' ∈ inside.toList
  · have breaks : 0 < inside.toList.count '\n' := List.count_pos_iff.mpr broken
    left
    simp only [behind, String.toList_append, List.count_append]
    omega
  · have length : 0 < inside.toList.length := by
      rw [List.length_pos_iff, Ne, String.toList_eq_nil_iff]
      exact nonempty
    right
    simp only [behind, lastLine_append_of_not_mem broken, String.toList_append, List.count_append,
      List.count_eq_zero_of_not_mem broken, List.length_append, Nat.add_zero, true_and]
    omega

/-! The way a position is written. -/

theorem colon_not_mem_toString (n : Nat) : ':' ∉ (toString n).toList := fun member =>
  absurd (Text.isDigit_of_mem_toString member) (by decide)

theorem rtakeWhile_append_colon (front : String) (n : Nat) :
    (front ++ ":" ++ toString n).toList.rtakeWhile (· ≠ ':') = (toString n).toList := by
  have digits : ∀ c ∈ (toString n).toList.reverse, decide (c ≠ ':') = true := by
    intro c member
    rw [decide_eq_true_eq]
    rintro rfl
    exact colon_not_mem_toString n (List.mem_reverse.mp member)
  rw [List.rtakeWhile, String.toList_append, List.reverse_append,
    List.takeWhile_append_of_pos digits, String.toList_append]
  simp

theorem eq_of_append_colon_eq {front front' : String} {n n' : Nat}
    (same : front ++ ":" ++ toString n = front' ++ ":" ++ toString n') :
    front = front' ∧ n = n' := by
  have numbers : (toString n).toList = (toString n').toList := by
    rw [← rtakeWhile_append_colon front, same, rtakeWhile_append_colon]
  obtain rfl := Text.toString_injective numbers
  rw [← String.toList_inj, String.toList_append, String.toList_append, String.toList_append,
    String.toList_append] at same
  have fronts := List.append_cancel_right (List.append_cancel_right same)
  exact ⟨String.toList_inj.mp fronts, rfl⟩

theorem text_injective : Function.Injective text := by
  rintro ⟨path, line, column⟩ ⟨path', line', column'⟩ same
  obtain ⟨front, columns⟩ := eq_of_append_colon_eq same
  obtain ⟨paths, lines⟩ := eq_of_append_colon_eq front
  rw [mk.injEq]
  exact ⟨ModulePath.ext_iff_text.mpr paths, lines, columns⟩

end Position

namespace CompilationUnit

variable {texts earlier later earlier' later' : List (ModulePath × String)} {path : ModulePath}
  {text text' : String} {segment : Segment} {offset other : Nat} {position position' : Position}

theorem exists_split_of_mem_segmentsFrom {start : Nat}
    (member : segment ∈ segmentsFrom start texts) :
    ∃ earlier path text later, texts = earlier ++ (path, text) :: later ∧
      segment = ⟨path, start + startAfter earlier path,
        start + startAfter earlier path + text.utf8ByteSize⟩ := by
  induction texts generalizing start with
  | nil => cases member
  | cons first texts ih =>
      obtain ⟨path, text⟩ := first
      rw [segmentsFrom] at member
      rcases List.mem_cons.mp member with rfl | behind
      · exact ⟨[], path, text, texts, rfl, by simp [startAfter]⟩
      · obtain ⟨earlier, path', text', later, rfl, rfl⟩ := ih behind
        refine ⟨(path, text) :: earlier, path', text', later, rfl, ?_⟩
        rw [startAfter, startAfter, List.map_cons, String.join_cons, String.utf8ByteSize_append,
          Nat.add_assoc _ _ path'.marker.utf8ByteSize, Nat.add_assoc start]

theorem exists_split_of_position? (found : (ofTexts texts).position? offset = some position) :
    ∃ earlier path before after later, texts = earlier ++ (path, before ++ after) :: later ∧
      offset = startAfter earlier path + before.utf8ByteSize ∧
      (ofTexts texts).locate? offset = some ⟨path, startAfter earlier path,
        startAfter earlier path + (before ++ after).utf8ByteSize⟩ ∧
      position = .behind path before := by
  cases located : (ofTexts texts).locate? offset with
  | none =>
      rw [position?_eq_none located] at found
      cases found
  | some segment =>
      have member : segment ∈ segmentsFrom 0 texts := by
        rw [← segments_ofTexts]
        exact List.mem_of_find?_eq_some located
      have inside : segment.Holds offset := by
        simpa [Segment.Holds] using List.find?_some located
      obtain ⟨earlier, path, text, later, rfl, rfl⟩ := exists_split_of_mem_segmentsFrom member
      simp only [Nat.zero_add] at inside located ⊢
      obtain ⟨width, rfl⟩ : ∃ width, offset = startAfter earlier path + width :=
        ⟨offset - startAfter earlier path, (Nat.add_sub_of_le inside.1).symm⟩
      by_cases boundary : ∃ before after, text = before ++ after ∧ width = before.utf8ByteSize
      · obtain ⟨before, after, rfl, rfl⟩ := boundary
        rw [position?_of_boundary located rfl rfl, Option.some.injEq] at found
        exact ⟨earlier, path, before, after, later, rfl, rfl, rfl, found.symm⟩
      · have between : ∀ before after, text = before ++ after → width ≠ before.utf8ByteSize :=
          fun before after split same => boundary ⟨before, after, split, same⟩
        rw [position?_of_no_boundary located rfl (Nat.lt_of_add_lt_add_left inside.2) between]
          at found
        cases found

theorem split_unique (distinct : (texts.map Prod.fst).Nodup)
    (split : texts = earlier ++ (path, text) :: later)
    (split' : texts = earlier' ++ (path, text') :: later') : earlier = earlier' ∧ text = text' := by
  rw [split', List.map_append, List.map_cons, List.nodup_middle, List.nodup_cons,
    List.mem_append, not_or] at distinct
  have before : (path, text) ∉ earlier' := fun member =>
    distinct.1.1 (List.mem_map.mpr ⟨_, member, rfl⟩)
  have behind : (path, text) ∉ later' := fun member =>
    distinct.1.2 (List.mem_map.mpr ⟨_, member, rfl⟩)
  obtain ⟨sameEarlier, same, _⟩ :=
    (List.append_cons_inj_of_notMem before behind).mp (split'.symm.trans split)
  exact ⟨sameEarlier.symm, (Prod.mk.inj same).2.symm⟩

variable (distinct : (texts.map Prod.fst).Nodup)
  (found : (ofTexts texts).position? offset = some position)
  (found' : (ofTexts texts).position? other = some position')

include distinct found found'

theorem locate?_eq_iff_path_eq :
    (ofTexts texts).locate? offset = (ofTexts texts).locate? other ↔
      position.path = position'.path := by
  obtain ⟨earlier, path, before, after, later, split, _, located, rfl⟩ :=
    exists_split_of_position? found
  obtain ⟨earlier', path', before', after', later', split', _, located', rfl⟩ :=
    exists_split_of_position? found'
  rw [located, located', Option.some.injEq, Position.behind, Position.behind]
  constructor
  · exact fun same => congrArg Segment.path same
  · rintro rfl
    obtain ⟨rfl, text⟩ := split_unique distinct split split'
    rw [text]

theorem position?_before (sameFile : position.path = position'.path) (lower : offset < other) :
    position.Before position' := by
  obtain ⟨earlier, path, before, after, later, split, rfl, _, rfl⟩ :=
    exists_split_of_position? found
  obtain ⟨earlier', path', before', after', later', split', rfl, _, rfl⟩ :=
    exists_split_of_position? found'
  obtain rfl : path = path' := sameFile
  obtain ⟨rfl, text⟩ := split_unique distinct split split'
  have shorter : before.utf8ByteSize < before'.utf8ByteSize := Nat.lt_of_add_lt_add_left lower
  -- The shorter of two beginnings of a text is a beginning of the longer one.
  rw [← String.toList_inj, String.toList_append, String.toList_append] at text
  rcases List.append_eq_append_iff.mp text with ⟨inside, longer, _⟩ | ⟨inside, longer, _⟩
  · obtain rfl : before' = before ++ String.ofList inside := by
      rw [← String.toList_inj, longer, String.toList_append, String.toList_ofList]
    apply Position.behind_before_append
    rintro empty
    rw [empty, String.append_empty] at shorter
    exact Nat.lt_irrefl _ shorter
  · have size := congrArg Text.byteLength longer
    rw [Text.byteLength_append, Text.byteLength_toList, Text.byteLength_toList] at size
    omega

theorem position?_ne (different : offset ≠ other) : position ≠ position' := by
  intro same
  have sameFile := congrArg Position.path same
  rcases Nat.lt_or_gt_of_ne different with lower | higher
  · exact (position?_before distinct found found' sameFile lower).ne same
  · exact (position?_before distinct found' found sameFile.symm higher).ne same.symm

end CompilationUnit

/-- Different bytes of a load's unit have different positions, also as these are written; and of two
in one text, the later byte has the later position. -/
theorem load_positions {reader : Reader} {depth : Nat} {entry : String} {loaded : Loaded}
    (success : (load reader depth entry).result = .ok loaded) :
    ∀ offset other position position', loaded.unit.position? offset = some position →
      loaded.unit.position? other = some position' →
      (offset ≠ other → position ≠ position' ∧ position.text ≠ position'.text) ∧
      (loaded.unit.locate? offset = loaded.unit.locate? other ↔
        position.path = position'.path) ∧
      (loaded.unit.locate? offset = loaded.unit.locate? other → offset < other →
        position.Before position') := by
  obtain ⟨final, run, rfl⟩ := visits_of_load success
  obtain ⟨texts, read, unit⟩ := run.entry_sourced
  have sizes : (final.modules.map (·.path)).length = texts.length := by
    rw [List.length_map]
    exact read.length_eq
  have distinct : (((final.modules.map (·.path)).zip texts).map Prod.fst).Nodup := by
    have keys : ((final.modules.map (·.path)).map ModulePath.key).Nodup := by
      rw [List.map_map]
      exact (run.balanced Traversal.balanced_empty).keys_nodup
    rw [List.map_fst_zip (Nat.le_of_eq sizes)]
    exact keys.of_map _
  simp only [Traversal.loaded, unit]
  intro offset other position position' found found'
  have files := CompilationUnit.locate?_eq_iff_path_eq distinct found found'
  refine ⟨fun different => ?_, files, fun sameFile lower =>
    CompilationUnit.position?_before distinct found found' (files.mp sameFile) lower⟩
  have apart := CompilationUnit.position?_ne distinct found found' different
  exact ⟨apart, fun same => apart (Position.text_injective same)⟩

def posing : Reader :=
  .ofList
    [("a.kooix", .ok ⟨"é\nimport \"a.kooix:1\";", true⟩), ("a.kooix:1", .ok ⟨"x", true⟩)]
    .noSuchFile

theorem load_positions_posing :
    ∃ loaded, (load posing 2 "a").result = .ok loaded ∧
      [27, 55, 58].map (fun offset => (loaded.unit.position? offset).map Position.text) =
        [some "a.kooix:1:1:1", some "a.kooix:1:1", some "a.kooix:2:1"] ∧
      ∀ position position', loaded.unit.position? 55 = some position →
        loaded.unit.position? 58 = some position' →
        position.text ≠ position'.text ∧ position.Before position' := by
  have outcome : ((load posing 2 "a").result.toOption.map fun loaded =>
      ([27, 55, 58].map fun offset => (loaded.unit.position? offset).map Position.text,
        decide (loaded.unit.locate? 55 = loaded.unit.locate? 58))) =
      some ([some "a.kooix:1:1:1", some "a.kooix:1:1", some "a.kooix:2:1"], true) := by
    decide +kernel
  obtain ⟨loaded, success, both⟩ := exists_ok_of_map_eq outcome
  obtain ⟨written, oneFile⟩ := Prod.mk.inj both
  refine ⟨loaded, success, written, fun position position' found found' => ?_⟩
  obtain ⟨apart, _, ordered⟩ := load_positions success 55 58 position position' found found'
  exact ⟨(apart (by decide)).2, ordered (of_decide_eq_true oneFile) (by decide)⟩

end Bundler.Source
