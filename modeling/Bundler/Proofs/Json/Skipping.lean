import Bundler.Proofs.Json.Grammar

/-! Values that nobody asks for are passed over, whatever they hold and however deep they are. -/

namespace Bundler.Json

theorem skipNumber_append {magnitude : List Char} (known : IsMagnitude magnitude)
    (ends : EndsNumber rest) : skipNumber (magnitude ++ rest) = .ok rest := by
  obtain ⟨first, more, written, -⟩ := known.head
  have opened : magnitude ++ rest = first :: (more ++ rest) := by rw [written, List.cons_append]
  cases known with
  | @parts whole fraction power isWhole isFraction isExponent =>
    have powerHead := isExponent.head ends
    have wholeRead := integerDigits_append isWhole (isFraction.head powerHead)
    obtain ⟨fraction?, fractionRead⟩ := fractionDigits_append .badNumber isFraction powerHead
    obtain ⟨power?, powerRead⟩ := exponent_append .badNumber isExponent ends
    rw [← List.append_assoc, ← List.append_assoc] at wholeRead
    rw [List.append_assoc whole, opened] at wholeRead
    simp only [opened, skipNumber, wholeRead, fractionRead, powerRead, bind, Except.bind, pure,
      Except.pure]

theorem skipText_append {body : List Char} (known : IsStringBody body) (rest : List Char) :
    skipText (body ++ '"' :: rest) = .ok rest := by
  induction known with
  | nil => simp [skipText]
  | plain unquoted unescaped printed _ induction =>
    simp [skipText, unquoted, unescaped, printed, induction]
  | @escape c _ known _ induction =>
    have unhex : c ≠ 'u' := by
      rintro rfl
      cases known
    simp [skipText, unhex, known, induction]
  | hex known _ induction =>
    simp [skipText, known, induction]

/-- A text that is passed over as a value, blanks in front of it included. -/
def Passes (value : List Char) : Prop :=
  ∀ fuel gap rest, value.length < fuel → IsBlank gap → EndsNumber rest →
    skipValue fuel (gap ++ (value ++ rest)) = .ok rest

theorem Passes.of_succ {value : List Char}
    (read : ∀ fuel gap rest, value.length ≤ fuel → IsBlank gap → EndsNumber rest →
      skipValue (fuel + 1) (gap ++ (value ++ rest)) = .ok rest) : Passes value := by
  intro fuel gap rest enough blank ends
  cases fuel with
  | zero => exact absurd enough (Nat.not_lt_zero _)
  | succ fuel => exact read fuel gap rest (Nat.le_of_lt_succ enough) blank ends

section Lists

variable {text : α → List Char → Prop} {values : List α} {chars : List Char}

theorem skipItems_append (list : ItemsText text values chars)
    (passed : ∀ item ∈ values, ∀ value, text item value → Passes value) :
    ∀ fuel gap rest, chars.length < fuel → IsBlank gap →
      skipItems fuel (gap ++ (chars ++ rest)) = .ok rest := by
  induction list with
  | @last item value gap written blank =>
    rintro (_ | fuel) front rest enough blankFront
    · exact absurd enough (Nat.not_lt_zero _)
    simp only [List.length_append, List.length_cons] at enough
    have read := passed item List.mem_cons_self value written fuel front (gap ++ ']' :: rest)
      (by omega) blankFront (.blank blank .bracket)
    simp [skipItems, read, skipSpace_blank_cons blank, isSpace, bind, Except.bind, pure,
      Except.pure]
  | @more item items value before after more written blankBefore blankAfter _ induction =>
    rintro (_ | fuel) front rest enough blankFront
    · exact absurd enough (Nat.not_lt_zero _)
    simp only [List.length_append, List.length_cons] at enough
    have read := passed item List.mem_cons_self value written fuel front
      (before ++ ',' :: (after ++ (more ++ rest))) (by omega) blankFront
      (.blank blankBefore .comma)
    have others := induction (fun item member => passed item (List.mem_cons_of_mem _ member))
      fuel after rest (by omega) blankAfter
    simp [skipItems, read, skipSpace_blank_cons blankBefore, isSpace, others, bind, Except.bind]

theorem ListText.passes (list : ListText text values chars)
    (opens : ∀ item ∈ values, ∀ value, text item value → Opens ']' value)
    (passed : ∀ item ∈ values, ∀ value, text item value → Passes value) : Passes chars := by
  refine .of_succ fun fuel front rest enough blankFront _ => ?_
  cases list with
  | @empty gap blank =>
    simp [skipValue, skipSpace_blank_cons blankFront, skipSpace_blank_cons blank, isSpace]
  | @items gap chars _ blank list =>
    simp only [List.length_append, List.length_cons] at enough
    obtain ⟨first, more, written, visible, unclosed⟩ := list.opens opens
    have others := skipItems_append list passed fuel [] rest (by omega) .nil
    rw [written, List.nil_append, List.cons_append] at others
    have found : skipSpace (gap ++ (first :: (more ++ rest))) = first :: (more ++ rest) :=
      skipSpace_blank_cons blank visible
    simp [skipValue, skipSpace_blank_cons blankFront, isSpace, written, found, unclosed, others]

end Lists

section Objects

variable {spells : κ → List Char → Prop} {entries : List (κ × List Char)} {chars : List Char}

theorem skipMembers_append (object : MembersText spells entries chars)
    (keys : ∀ entry ∈ entries, ∀ key, spells entry.1 key → IsStringBody key)
    (passed : ∀ entry ∈ entries, Passes entry.2) :
    ∀ fuel gap rest, chars.length < fuel → IsBlank gap →
      skipMembers fuel (gap ++ (chars ++ rest)) = .ok rest := by
  induction object with
  | @last name key value before after gap spelled blankBefore blankAfter blank =>
    rintro (_ | fuel) front rest enough blankFront
    · exact absurd enough (Nat.not_lt_zero _)
    simp only [List.length_append, List.length_cons] at enough
    have passing : Passes value := passed _ List.mem_cons_self
    have read := passing fuel after (gap ++ '\x7d' :: rest) (by omega) blankAfter
      (.blank blank .brace)
    have named := skipText_append (keys _ List.mem_cons_self key spelled)
      (before ++ ':' :: (after ++ (value ++ (gap ++ '\x7d' :: rest))))
    simp [skipMembers, skipSpace_blank_cons blankFront, skipSpace_blank_cons blankBefore,
      skipSpace_blank_cons blank, isSpace, named, read, bind, Except.bind, pure, Except.pure]
  | @more name key value before after gap next more entries spelled blankBefore blankAfter blank
      blankNext _ induction =>
    rintro (_ | fuel) front rest enough blankFront
    · exact absurd enough (Nat.not_lt_zero _)
    simp only [List.length_append, List.length_cons] at enough
    have passing : Passes value := passed _ List.mem_cons_self
    have read := passing fuel after (gap ++ ',' :: (next ++ (more ++ rest))) (by omega) blankAfter
      (.blank blank .comma)
    have named := skipText_append (keys _ List.mem_cons_self key spelled)
      (before ++ ':' :: (after ++ (value ++ (gap ++ ',' :: (next ++ (more ++ rest))))))
    have others := induction (fun entry found => keys entry (List.mem_cons_of_mem _ found))
      (fun entry found => passed entry (List.mem_cons_of_mem _ found)) fuel next rest (by omega)
      blankNext
    simp [skipMembers, skipSpace_blank_cons blankFront, skipSpace_blank_cons blankBefore,
      skipSpace_blank_cons blank, isSpace, named, read, others, bind, Except.bind]

theorem ObjectText.passes (object : ObjectText spells entries chars)
    (keys : ∀ entry ∈ entries, ∀ key, spells entry.1 key → IsStringBody key)
    (passed : ∀ entry ∈ entries, Passes entry.2) : Passes chars := by
  refine .of_succ fun fuel front rest enough blankFront _ => ?_
  cases object with
  | @empty gap blank =>
    simp [skipValue, skipSpace_blank_cons blankFront, skipSpace_blank_cons blank, isSpace]
  | @members gap chars _ blank object =>
    simp only [List.length_append, List.length_cons] at enough
    obtain ⟨more, written⟩ := object.head
    have others := skipMembers_append object keys passed fuel [] rest (by omega) .nil
    rw [written, List.nil_append, List.cons_append] at others
    have found : skipSpace (gap ++ ('"' :: (more ++ rest))) = '"' :: (more ++ rest) :=
      skipSpace_blank_cons blank rfl
    simp [skipValue, skipSpace_blank_cons blankFront, isSpace, written, found, others]

end Objects

theorem IsJson.opens {value : List Char} (json : IsJson value) : Opens ']' value := by
  cases json with
  | null => exact ⟨'n', _, rfl, rfl, by decide⟩
  | true => exact ⟨'t', _, rfl, rfl, by decide⟩
  | false => exact ⟨'f', _, rfl, rfl, by decide⟩
  | positive known =>
    obtain ⟨first, more, rfl, digit⟩ := known.head
    refine ⟨first, more, rfl, not_isSpace_of_isDigit digit, ?_⟩
    rintro rfl
    cases digit
  | negative => exact ⟨'-', _, rfl, rfl, by decide⟩
  | string => exact ⟨'"', _, rfl, rfl, by decide⟩
  | list text =>
    cases text with
    | empty => exact ⟨'[', _, rfl, rfl, by decide⟩
    | items => exact ⟨'[', _, rfl, rfl, by decide⟩
  | object text =>
    cases text with
    | empty => exact ⟨'\x7b', _, rfl, rfl, by decide⟩
    | members => exact ⟨'\x7b', _, rfl, rfl, by decide⟩

theorem IsMagnitude.passes {magnitude : List Char} (known : IsMagnitude magnitude) :
    Passes magnitude := by
  refine .of_succ fun fuel front rest enough blankFront ends => ?_
  have read := skipNumber_append known ends
  obtain ⟨first, more, rfl, digit⟩ := known.head
  rw [List.cons_append] at read
  have found : skipSpace (front ++ first :: (more ++ rest)) = first :: (more ++ rest) :=
    skipSpace_blank_cons blankFront (not_isSpace_of_isDigit digit)
  have others : ∀ c, isDigit c = false → first ≠ c := by
    rintro c other rfl
    rw [digit] at other
    cases other
  simp [skipValue, found, others 'n' rfl, others 't' rfl, others 'f' rfl, others '-' rfl,
    others '"' rfl, others '[' rfl, others '\x7b' rfl, digit, read]

theorem IsJson.passes {value : List Char} (json : IsJson value) : Passes value := by
  -- A part of a value is shorter than the value, so that there is fuel left for it.
  induction json with
  | null =>
    refine .of_succ fun fuel front rest enough blankFront _ => ?_
    simp [skipValue, skipSpace_blank_cons blankFront, isSpace, word]
  | true =>
    refine .of_succ fun fuel front rest enough blankFront _ => ?_
    simp [skipValue, skipSpace_blank_cons blankFront, isSpace, word]
  | false =>
    refine .of_succ fun fuel front rest enough blankFront _ => ?_
    simp [skipValue, skipSpace_blank_cons blankFront, isSpace, word]
  | positive known => exact known.passes
  | negative known =>
    refine .of_succ fun fuel front rest enough blankFront ends => ?_
    simp [skipValue, skipSpace_blank_cons blankFront, isSpace, skipNumber_append known ends]
  | string known =>
    refine .of_succ fun fuel front rest enough blankFront _ => ?_
    simp [skipValue, skipSpace_blank_cons blankFront, isSpace, skipText_append known]
  | list text values induction =>
    refine text.passes ?_ ?_
    · rintro value member _ rfl
      exact (values value member).opens
    · rintro value member _ rfl
      exact induction value member
  | object text keys _ induction =>
    refine text.passes ?_ induction
    rintro entry member _ rfl
    exact keys entry member

end Bundler.Json
