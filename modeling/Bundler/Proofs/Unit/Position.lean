import Bundler.Proofs.Unit.Layout
import Mathlib.Data.List.DropRight

/-!
Byte offsets of a compilation unit, mapped back to the texts that were appended to it. An offset
inside a text has a line and a column there, provided that a character begins at it; one that is
in no text has neither.
-/

namespace Bundler.Source

def Segment.Holds (segment : Segment) (offset : Nat) : Prop :=
  segment.start ≤ offset ∧ offset < segment.stop

instance (segment : Segment) (offset : Nat) : Decidable (segment.Holds offset) :=
  inferInstanceAs (Decidable (_ ∧ _))

def lastLine (text : String) : List Char :=
  text.toList.rtakeWhile (· ≠ '\n')

namespace CompilationUnit

variable {texts earlier later : List (ModulePath × String)} {path : ModulePath} {text : String}
  {segment : Segment} {offset : Nat}

/-! Where the segment of one text lies among the others. -/

theorem segmentsFrom_append (offset : Nat) (earlier later : List (ModulePath × String)) :
    segmentsFrom offset (earlier ++ later) = segmentsFrom offset earlier ++
      segmentsFrom (offset + (String.join (earlier.map block)).utf8ByteSize) later := by
  induction earlier generalizing offset with
  | nil => simp [segmentsFrom]
  | cons text earlier ih =>
      obtain ⟨path, body⟩ := text
      rw [List.cons_append, segmentsFrom, ih, segmentsFrom, List.map_cons, String.join_cons,
        String.utf8ByteSize_append, List.cons_append, ← Nat.add_assoc offset]

@[simp] theorem length_segmentsFrom (offset : Nat) (texts : List (ModulePath × String)) :
    (segmentsFrom offset texts).length = texts.length := by
  rw [← List.length_map (f := (·.path)), map_path_segmentsFrom, List.length_map]

/-- The offset of the first byte of a text, behind the blocks of earlier ones and its marker. -/
def startAfter (earlier : List (ModulePath × String)) (path : ModulePath) : Nat :=
  (String.join (earlier.map block)).utf8ByteSize + path.marker.utf8ByteSize

theorem segments_split (earlier later : List (ModulePath × String)) (path : ModulePath)
    (text : String) :
    (ofTexts (earlier ++ (path, text) :: later)).segments =
      segmentsFrom 0 earlier ++
      ⟨path, startAfter earlier path, startAfter earlier path + text.utf8ByteSize⟩ ::
      segmentsFrom
        (startAfter earlier path + text.utf8ByteSize + separator.utf8ByteSize) later := by
  rw [segments_ofTexts, segmentsFrom_append, segmentsFrom, block, String.utf8ByteSize_append,
    String.utf8ByteSize_append, startAfter, Nat.zero_add, Nat.add_assoc, Nat.add_assoc,
    Nat.add_assoc, Nat.add_assoc]

theorem exists_segment (earlier later : List (ModulePath × String)) (path : ModulePath)
    (text : String) :
    ∃ segment, (ofTexts (earlier ++ (path, text) :: later)).segments[earlier.length]? =
        some segment ∧
      segment ∈ (ofTexts (earlier ++ (path, text) :: later)).segments ∧ segment.path = path ∧
      segment.start = startAfter earlier path ∧
      segment.stop = startAfter earlier path + text.utf8ByteSize := by
  rw [segments_split]
  exact ⟨_, by simp, List.mem_append_right _ List.mem_cons_self, rfl, rfl, rfl⟩

/-! Looking offsets up. -/

theorem locate?_of_holds (member : segment ∈ (ofTexts texts).segments)
    (inside : segment.Holds offset) : (ofTexts texts).locate? offset = some segment := by
  obtain ⟨front, back, split⟩ := List.append_of_mem member
  have ordered := segmentsFrom_pairwise 0 texts
  rw [← segments_ofTexts, split, List.pairwise_append] at ordered
  have before : front.find? (fun segment => segment.start ≤ offset && offset < segment.stop) =
      none := by
    rw [List.find?_eq_none]
    intro earlier earlierMember
    have apart := ordered.2.2 earlier earlierMember segment List.mem_cons_self
    have start := inside.1
    simp only [Bool.and_eq_true, decide_eq_true_eq, not_and]
    omega
  rw [locate?, split, List.find?_append, before, Option.none_or]
  exact List.find?_cons_of_pos (by simpa [Segment.Holds] using inside)

theorem locate?_eq_none (outside : ∀ segment ∈ (ofTexts texts).segments, ¬segment.Holds offset) :
    (ofTexts texts).locate? offset = none := by
  rw [locate?, List.find?_eq_none]
  intro segment member
  simpa [Segment.Holds] using outside segment member

theorem position?_eq_none (outside : (ofTexts texts).locate? offset = none) :
    (ofTexts texts).position? offset = none := by
  rw [position?, outside]
  rfl

theorem sliceBack?_of_split (width : Nat) :
    Text.sliceBack? (ofTexts (earlier ++ (path, text) :: later)).text (startAfter earlier path)
        (startAfter earlier path + width) =
      (Text.cut? [] width
        (text.toList ++ (separator ++ String.join (later.map block)).toList)).map Prod.fst := by
  have slice := Text.sliceBack?_append_add (String.join (earlier.map block) ++ path.marker)
    (text ++ (separator ++ String.join (later.map block))) width
  rw [String.utf8ByteSize_append, String.toList_append] at slice
  rw [text_ofTexts, startAfter, ← slice]
  simp only [List.map_append, List.map_cons, String.join_append, String.join_cons, block,
    String.append_assoc]

theorem position?_of_boundary {before after : String}
    (found : (ofTexts (earlier ++ (path, before ++ after) :: later)).locate?
      (startAfter earlier path + before.utf8ByteSize) = some segment)
    (start : segment.start = startAfter earlier path) (named : segment.path = path) :
    (ofTexts (earlier ++ (path, before ++ after) :: later)).position?
        (startAfter earlier path + before.utf8ByteSize) =
      some ⟨path, before.toList.count '\n' + 1, (lastLine before).length + 1⟩ := by
  have cut := Text.cut?_append [] before.toList
    (after.toList ++ (separator ++ String.join (later.map block)).toList)
  rw [Text.byteLength_toList, ← List.append_assoc, ← String.toList_append] at cut
  rw [position?, found]
  simp only [Option.bind_eq_bind, Option.bind_some, start, sliceBack?_of_split, cut,
    Option.map_some, List.append_nil, named, lastLine, List.rtakeWhile, List.length_reverse,
    List.count_reverse]
  rfl

theorem position?_of_no_boundary {width : Nat}
    (found : (ofTexts (earlier ++ (path, text) :: later)).locate?
      (startAfter earlier path + width) = some segment)
    (start : segment.start = startAfter earlier path) (inside : width < text.utf8ByteSize)
    (between : ∀ before after, text = before ++ after → width ≠ before.utf8ByteSize) :
    (ofTexts (earlier ++ (path, text) :: later)).position? (startAfter earlier path + width) =
      none := by
  have uncut : Text.cut? [] width
      (text.toList ++ (separator ++ String.join (later.map block)).toList) = none := by
    refine Option.eq_none_iff_forall_ne_some.mpr ?_
    rintro ⟨back, rest⟩ cut
    obtain ⟨front, whole, size⟩ := Text.exists_of_cut?_eq_some cut
    -- What is cut off is too short to reach past the text, so it is in front of a part of it.
    rcases List.append_eq_append_iff.mp whole with ⟨beyond, rfl, _⟩ | ⟨beyond, split, _⟩
    · rw [Text.byteLength_append, Text.byteLength_toList] at size
      omega
    · apply between (String.ofList front) (String.ofList beyond)
      · rw [← String.ofList_append, ← split, String.ofList_toList]
      · rw [Text.utf8ByteSize_ofList, size]
  rw [position?, found]
  simp only [Option.bind_eq_bind, Option.bind_some, start, sliceBack?_of_split, uncut,
    Option.map_none, Option.bind_none]

/-- Between the first byte of a text's marker and the last one of its separator, the text alone
lies in a segment. -/
theorem not_holds_of_block
    (member : segment ∈ (ofTexts (earlier ++ (path, text) :: later)).segments)
    (first : startAfter earlier path ≤ offset + path.marker.utf8ByteSize)
    (last : offset < startAfter earlier path + text.utf8ByteSize + separator.utf8ByteSize)
    (outside : ¬(startAfter earlier path ≤ offset ∧
      offset < startAfter earlier path + text.utf8ByteSize)) :
    ¬segment.Holds offset := by
  rw [segments_split, List.mem_append, List.mem_cons] at member
  rintro ⟨start, stop⟩
  rcases member with before | rfl | behind
  · have within := segmentsFrom_within 0 earlier segment before
    rw [startAfter] at first
    omega
  · exact outside ⟨start, stop⟩
  · have within := segmentsFrom_within _ later segment behind
    omega

theorem not_holds_of_end (member : segment ∈ (ofTexts texts).segments)
    (past : (ofTexts texts).text.utf8ByteSize ≤ offset) : ¬segment.Holds offset := by
  rw [segments_ofTexts] at member
  rw [text_ofTexts] at past
  have within := segmentsFrom_within 0 texts segment member
  rintro ⟨_, stop⟩
  omega

/-- Each byte of a text that begins a character is mapped to its line and column in that text, and
the others to the text alone; markers, separators and all that is past the end belong to no
text. -/
theorem ofTexts_position (texts : List (ModulePath × String)) :
    (∀ earlier path text later, texts = earlier ++ (path, text) :: later →
      ∃ segment, (ofTexts texts).segments[earlier.length]? = some segment ∧
        segment.path = path ∧ segment.stop = segment.start + text.utf8ByteSize ∧
        (∀ before after, text = before ++ after → after ≠ "" →
          (ofTexts texts).locate? (segment.start + before.utf8ByteSize) = some segment ∧
          (ofTexts texts).position? (segment.start + before.utf8ByteSize) =
            some ⟨path, before.toList.count '\n' + 1, (lastLine before).length + 1⟩) ∧
        (∀ offset, segment.Holds offset →
          (∀ before after, text = before ++ after →
            offset ≠ segment.start + before.utf8ByteSize) →
          (ofTexts texts).locate? offset = some segment ∧
          (ofTexts texts).position? offset = none) ∧
        (∀ offset, segment.start ≤ offset + path.marker.utf8ByteSize →
          offset < segment.stop + separator.utf8ByteSize → ¬segment.Holds offset →
          (ofTexts texts).locate? offset = none ∧ (ofTexts texts).position? offset = none)) ∧
    (∀ offset, (∀ segment ∈ (ofTexts texts).segments, ¬segment.Holds offset) →
      (ofTexts texts).locate? offset = none ∧ (ofTexts texts).position? offset = none) ∧
    (∀ offset, (ofTexts texts).text.utf8ByteSize ≤ offset →
      (ofTexts texts).locate? offset = none ∧ (ofTexts texts).position? offset = none) := by
  have nowhere : ∀ offset, (∀ segment ∈ (ofTexts texts).segments, ¬segment.Holds offset) →
      (ofTexts texts).locate? offset = none ∧ (ofTexts texts).position? offset = none := by
    intro offset outside
    have lost := locate?_eq_none outside
    exact ⟨lost, position?_eq_none lost⟩
  refine ⟨?_, nowhere, fun offset past => nowhere offset fun _ member =>
    not_holds_of_end member past⟩
  rintro earlier path text later rfl
  obtain ⟨segment, place, member, named, start, stop⟩ := exists_segment earlier later path text
  refine ⟨segment, place, named, by rw [start, stop], ?_, ?_, ?_⟩
  · rintro before after rfl nonempty
    have positive : 0 < after.utf8ByteSize := by
      rw [Nat.pos_iff_ne_zero, Ne, String.utf8ByteSize_eq_zero_iff]
      exact nonempty
    have inside : segment.Holds (segment.start + before.utf8ByteSize) := by
      rw [String.utf8ByteSize_append] at stop
      constructor <;> omega
    have found := locate?_of_holds member inside
    refine ⟨found, ?_⟩
    rw [start] at found ⊢
    exact position?_of_boundary found start named
  · intro offset inside between
    have found := locate?_of_holds member inside
    refine ⟨found, ?_⟩
    obtain ⟨width, rfl⟩ : ∃ width, offset = startAfter earlier path + width :=
      ⟨offset - startAfter earlier path, by have := inside.1; omega⟩
    apply position?_of_no_boundary found start
    · have := inside.2
      omega
    · rintro before after rfl same
      exact between before after rfl (by rw [start, same])
  · intro offset first last outside
    apply nowhere
    intro other otherMember
    refine not_holds_of_block otherMember (by omega) (by omega) ?_
    rwa [Segment.Holds, start, stop] at outside

def accentedTexts : List (ModulePath × String) :=
  [(.ofRaw "é", "a\néb\n"), (.ofRaw "m", "")]

theorem ofTexts_position_accented :
    (ofTexts accentedTexts).position? 30 = some ⟨.ofRaw "é", 2, 2⟩ ∧
      (ofTexts accentedTexts).position? 29 = none ∧
      (ofTexts accentedTexts).locate? 33 = none ∧
      (ofTexts accentedTexts).locate? 70 = none := by
  obtain ⟨files, _, past⟩ := ofTexts_position accentedTexts
  obtain ⟨segment, first, _, stop, boundary, inner, outer⟩ :=
    files [] (.ofRaw "é") "a\néb\n" [(.ofRaw "m", "")] rfl
  have place : (ofTexts accentedTexts).segments[0]?.map (·.start) = some 26 := by decide +kernel
  have start : segment.start = 26 := by
    rw [List.length_nil] at first
    rw [first] at place
    exact Option.some.inj place
  have bytes : "a\néb\n".utf8ByteSize = 6 := by decide +kernel
  have between : ∀ before after, "a\néb\n" = before ++ after →
      29 ≠ segment.start + before.utf8ByteSize := by
    intro before after split same
    have cut := Text.cut?_append [] before.toList after.toList
    have uncut : Text.cut? [] 3 "a\néb\n".toList = none := by decide +kernel
    have width : before.utf8ByteSize = 3 := by omega
    rw [Text.byteLength_toList, ← String.toList_append, ← split, width, uncut] at cut
    cases cut
  have column := (boundary "a\né" "b\n" (by decide +kernel) (by decide +kernel)).2
  have four : "a\né".utf8ByteSize = 4 := by decide +kernel
  have lastChars : lastLine "a\né" = ['é'] := by decide +kernel
  rw [start, four, lastChars] at column
  refine ⟨column, (inner 29 ⟨by omega, by omega⟩ between).2, (outer 33 ?_ ?_ ?_).1,
    (past 70 (by decide +kernel)).1⟩
  · omega
  · rw [utf8ByteSize_separator]
    omega
  · rintro ⟨_, last⟩
    omega

end CompilationUnit

end Bundler.Source
