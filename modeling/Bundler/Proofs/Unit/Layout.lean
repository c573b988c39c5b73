import Bundler.Proofs.Text.Bytes
import Bundler.Source.Unit
import Mathlib.Data.List.Forall2

/-!
Where the texts of a compilation unit lie: one after another in the order in which they were
appended, each with its marker in front and a separator behind.
-/

namespace Bundler.Source

namespace CompilationUnit

def ofTexts (texts : List (ModulePath × String)) : CompilationUnit :=
  texts.foldl (fun unit text => unit.append text.1 text.2) {}

theorem ofTexts_concat (texts : List (ModulePath × String)) (path : ModulePath) (text : String) :
    ofTexts (texts ++ [(path, text)]) = (ofTexts texts).append path text := by
  simp [ofTexts]

def block (text : ModulePath × String) : String :=
  text.1.marker ++ text.2 ++ separator

def segmentsFrom : Nat → List (ModulePath × String) → List Segment
  | _, [] => []
  | offset, (path, text) :: texts =>
      ⟨path, offset + path.marker.utf8ByteSize,
        offset + path.marker.utf8ByteSize + text.utf8ByteSize⟩ ::
      segmentsFrom (offset + (block (path, text)).utf8ByteSize) texts

theorem foldl_append (unit : CompilationUnit) (texts : List (ModulePath × String)) :
    texts.foldl (fun unit text => unit.append text.1 text.2) unit =
      ⟨unit.text ++ String.join (texts.map block),
        unit.segments ++ segmentsFrom unit.text.utf8ByteSize texts⟩ := by
  induction texts generalizing unit with
  | nil => simp [segmentsFrom]
  | cons text texts ih =>
      obtain ⟨path, body⟩ := text
      rw [List.foldl_cons, ih]
      simp only [append, block, segmentsFrom, List.map_cons, String.join_cons,
        String.append_assoc, String.utf8ByteSize_append, List.append_assoc, List.cons_append,
        List.nil_append, Nat.add_assoc]

theorem text_ofTexts (texts : List (ModulePath × String)) :
    (ofTexts texts).text = String.join (texts.map block) := by
  simp [ofTexts, foldl_append]

theorem segments_ofTexts (texts : List (ModulePath × String)) :
    (ofTexts texts).segments = segmentsFrom 0 texts := by
  simp [ofTexts, foldl_append]

@[simp] theorem map_path_segmentsFrom (offset : Nat) (texts : List (ModulePath × String)) :
    (segmentsFrom offset texts).map (·.path) = texts.map (·.1) := by
  induction texts generalizing offset with
  | nil => rfl
  | cons text texts ih => simp [segmentsFrom, ih]

theorem map_path_ofTexts_zip {paths : List ModulePath} {texts : List String}
    (sizes : paths.length = texts.length) :
    (ofTexts (paths.zip texts)).segments.map (·.path) = paths := by
  rw [segments_ofTexts, map_path_segmentsFrom, List.map_fst_zip (Nat.le_of_eq sizes)]

theorem utf8ByteSize_separator : separator.utf8ByteSize = 2 := by decide +kernel

theorem utf8ByteSize_append_pos {front : String} (pos : 0 < front.utf8ByteSize) (rest : String) :
    0 < (front ++ rest).utf8ByteSize := by
  rw [String.utf8ByteSize_append]
  omega

theorem marker_pos (path : ModulePath) : 0 < path.marker.utf8ByteSize := by
  have front : 0 < "// --- file: ".utf8ByteSize := by decide +kernel
  exact utf8ByteSize_append_pos (utf8ByteSize_append_pos front path.text) " ---\n"

theorem segmentsFrom_within (offset : Nat) (texts : List (ModulePath × String)) :
    ∀ segment ∈ segmentsFrom offset texts, offset < segment.start ∧
      segment.start ≤ segment.stop ∧
      segment.stop < offset + (String.join (texts.map block)).utf8ByteSize := by
  induction texts generalizing offset with
  | nil => simp [segmentsFrom]
  | cons text texts ih =>
      obtain ⟨path, body⟩ := text
      have marked := marker_pos path
      have size : (block (path, body)).utf8ByteSize =
          path.marker.utf8ByteSize + body.utf8ByteSize + 2 := by
        simp only [block, String.utf8ByteSize_append, utf8ByteSize_separator]
      intro segment member
      rw [List.map_cons, String.join_cons, String.utf8ByteSize_append, size]
      rw [segmentsFrom, size] at member
      rcases List.mem_cons.mp member with rfl | later
      · dsimp only
        omega
      · have inside := ih _ segment later
        omega

theorem segmentsFrom_pairwise (offset : Nat) (texts : List (ModulePath × String)) :
    (segmentsFrom offset texts).Pairwise fun earlier later => earlier.stop < later.start := by
  induction texts generalizing offset with
  | nil => exact .nil
  | cons text texts ih =>
      obtain ⟨path, body⟩ := text
      refine .cons ?_ (ih _)
      intro later member
      have inside := segmentsFrom_within _ texts later member
      simp only [block, String.utf8ByteSize_append, utf8ByteSize_separator] at inside
      dsimp only
      omega

theorem segmentsFrom_select (before : String) (texts : List (ModulePath × String)) :
    List.Forall₂
      (fun segment text =>
        Text.sliceBack? (before ++ String.join (texts.map block)) segment.start segment.stop =
          some text.2.toList.reverse ∧
        segment.stop = segment.start + text.2.utf8ByteSize)
      (segmentsFrom before.utf8ByteSize texts) texts := by
  induction texts generalizing before with
  | nil => exact .nil
  | cons text texts ih =>
      obtain ⟨path, body⟩ := text
      refine .cons ⟨?_, rfl⟩ ?_
      · have slice := Text.sliceBack?_append (before ++ path.marker) body
          (separator ++ String.join (texts.map block))
        simpa [block, String.append_assoc, String.utf8ByteSize_append] using slice
      · have rest := ih (before ++ block (path, body))
        simpa [String.append_assoc, String.utf8ByteSize_append] using rest

theorem textOf_ofTexts (texts : List (ModulePath × String)) :
    List.Forall₂
      (fun segment text => (ofTexts texts).textOf segment = text ∧
        segment.stop = segment.start + text.utf8ByteSize)
      (ofTexts texts).segments (texts.map (·.2)) := by
  rw [segments_ofTexts, List.forall₂_map_right_iff]
  refine (segmentsFrom_select "" texts).imp ?_
  intro segment text ⟨slice, size⟩
  rw [String.empty_append] at slice
  refine ⟨?_, size⟩
  rw [textOf, text_ofTexts, slice]
  simp

end CompilationUnit

end Bundler.Source
