import Bundler.Text.Blank
import Mathlib.Data.List.Basic

/-!
The words of a text, told by what is written: blanks, then a word up to the next blank, and so on.
-/

namespace Bundler.Text

variable {text : String} {chars gap word rest : List Char} {found : List (List Char)}

/-- Words in order, with blanks between them and at either end. -/
inductive Spaced : List Char → List (List Char) → Prop
  | nil {gap : List Char} (blank : gap.all isBlank) : Spaced gap []
  | cons {gap word rest : List Char} {later : List (List Char)} (blank : gap.all isBlank)
      (nonempty : word ≠ []) (solid : ∀ c ∈ word, isBlank c = false)
      (ended : ∀ c ∈ rest.head?, isBlank c = true) (spaced : Spaced rest later) :
      Spaced (gap ++ (word ++ rest)) (word :: later)

variable {c : Char}

theorem Spaced.cons_blank (blank : isBlank c = true) (spaced : Spaced chars found) :
    Spaced (c :: chars) found := by
  cases spaced with
  | nil gap => exact .nil (by simpa [blank] using gap)
  | @cons gap word rest later all nonempty solid ended spaced =>
      have all' : (c :: gap).all isBlank := by simpa [blank] using all
      exact @cons (c :: gap) word rest later all' nonempty solid ended spaced

theorem Spaced.cons_alone (solid : isBlank c = false) (ended : ∀ b ∈ chars.head?, isBlank b = true)
    (spaced : Spaced chars found) : Spaced (c :: chars) ([c] :: found) :=
  @cons [] [c] chars found rfl (List.cons_ne_nil c []) (by simpa using solid) ended spaced

theorem exists_spaced (chars : List Char) : ∃ found, Spaced chars found := by
  induction chars with
  | nil => exact ⟨[], .nil rfl⟩
  | cons c chars ih =>
      obtain ⟨found, spaced⟩ := ih
      cases kind : isBlank c with
      | true => exact ⟨found, spaced.cons_blank kind⟩
      | false =>
          cases chars with
          | nil => exact ⟨_, spaced.cons_alone kind (by simp)⟩
          | cons b chars =>
              cases next : isBlank b with
              | true => exact ⟨_, spaced.cons_alone kind (by simpa using next)⟩
              | false =>
                  -- The word that begins behind the character is longer by it.
                  generalize whole : b :: chars = behind at spaced
                  cases spaced with
                  | nil blank => simp [← whole, next] at blank
                  | @cons gap word rest later blank nonempty solid ended spaced =>
                      cases gap with
                      | nil =>
                          exact ⟨_, @Spaced.cons [] (c :: word) rest later rfl
                            (List.cons_ne_nil c word) (List.forall_mem_cons.mpr ⟨kind, solid⟩)
                            ended spaced⟩
                      | cons first gap =>
                          rw [← (List.cons.inj whole).1] at blank
                          simp [next] at blank

/-! Runs of characters that are not blank. -/

def runs (chars : List Char) : List (List Char) :=
  (chars.splitOnP isBlank).filter (!·.isEmpty)

theorem runs_cons_blank (blank : isBlank c = true) : runs (c :: chars) = runs chars := by
  simp [runs, List.splitOnP_cons_eq_if_modifyHead, blank]

theorem runs_append_blank (blank : gap.all isBlank) : runs (gap ++ chars) = runs chars := by
  induction gap with
  | nil => rfl
  | cons c gap ih =>
      obtain ⟨first, later⟩ : isBlank c = true ∧ gap.all isBlank := by simpa using blank
      rw [List.cons_append, runs_cons_blank first, ih later]

theorem runs_append_word (nonempty : word ≠ []) (solid : ∀ c ∈ word, isBlank c = false)
    (ended : ∀ c ∈ rest.head?, isBlank c = true) : runs (word ++ rest) = word :: runs rest := by
  cases rest with
  | nil => simp [runs, List.splitOnP_eq_singleton solid, nonempty]
  | cons c rest =>
      have blank := ended c rfl
      rw [runs_cons_blank blank, runs, List.splitOnP_append_cons_of_forall_mem solid c blank]
      simp [runs, nonempty]

theorem Spaced.runs_eq (spaced : Spaced chars found) : runs chars = found := by
  induction spaced with
  | @nil gap blank =>
      rw [← List.append_nil gap, runs_append_blank blank]
      rfl
  | cons blank nonempty solid ended _ ih =>
      rw [runs_append_blank blank, runs_append_word nonempty solid ended, ih]

/-- The words of a text are the only ones that it is made of, apart from blanks. -/
theorem words_eq_iff : words text = found.map String.ofList ↔ Spaced text.toList found := by
  have runs_eq : words text = (runs text.toList).map String.ofList := rfl
  have injective : Function.Injective String.ofList := fun _ _ => String.ofList_injective
  rw [runs_eq, (List.map_injective_iff.mpr injective).eq_iff]
  constructor
  · intro same
    obtain ⟨_, spaced⟩ := exists_spaced text.toList
    rwa [← same, spaced.runs_eq]
  · exact Spaced.runs_eq

theorem words_eq_nil_iff : words text = [] ↔ allBlank text := by
  have none := @words_eq_iff text []
  rw [List.map_nil] at none
  rw [none, allBlank]
  generalize text.toList = chars
  constructor
  · rintro (blank | _)
    exact blank
  · exact .nil

end Bundler.Text
