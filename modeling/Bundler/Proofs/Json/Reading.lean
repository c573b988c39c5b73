import Bundler.Json.Record
import Bundler.Proofs.Json.Grammar
import Bundler.Proofs.Text.Numerals

/-!
The texts of values of known types, and that the readers of those types read them as meant,
whatever stands behind them.
-/

namespace Bundler.Json

inductive Spells : List Char → List Char → Prop
  | nil : Spells [] []
  | plain {c : Char} {string rest : List Char} (unquoted : c ≠ '"') (unescaped : c ≠ '\\')
      (printed : ¬ c < ' ') : Spells string rest → Spells (c :: string) (c :: rest)
  | escape {c meant : Char} {string rest : List Char} (known : unescape? c = some meant) :
      Spells string rest → Spells (meant :: string) ('\\' :: c :: rest)
  | hex {a b c d : Char} {n : Nat} {string rest : List Char} (known : hex? a b c d = some n)
      (noLead : isLeadSurrogate n = false) (noTrail : isTrailSurrogate n = false) :
      Spells string rest →
        Spells (Char.ofNat n :: string) ('\\' :: 'u' :: a :: b :: c :: d :: rest)
  | pair {a b c d a' b' c' d' : Char} {lead trail : Nat} {string rest : List Char}
      (leadKnown : hex? a b c d = some lead) (isLead : isLeadSurrogate lead)
      (trailKnown : hex? a' b' c' d' = some trail) (isTrail : isTrailSurrogate trail) :
      Spells string rest →
        Spells (ofSurrogates lead trail :: string)
          ('\\' :: 'u' :: a :: b :: c :: d :: '\\' :: 'u' :: a' :: b' :: c' :: d' :: rest)

inductive StringText : String → List Char → Prop
  | quoted {s : String} {body : List Char} :
      Spells s.toList body → StringText s ('"' :: (body ++ ['"']))

inductive NaturalText : UInt64 → List Char → Prop
  | digits {n : UInt64} : NaturalText n (toString n.toNat).toList

inductive OptionalText (text : α → List Char → Prop) : Option α → List Char → Prop
  | null : OptionalText text none "null".toList
  | value {a : α} {chars : List Char} : text a chars → OptionalText text (some a) chars

/-- A text that is read as a value, with blanks in front of it and anything behind it that a number
does not go on with. -/
def Yields (read : List Char → Reading α) (chars : List Char) (value : α) : Prop :=
  ∀ gap rest, IsBlank gap → EndsNumber rest → read (gap ++ (chars ++ rest)) = .ok (value, rest)

theorem whole_eq_ok {read : List Char → Reading α} {chars before after : List Char} {value : α}
    {source : String} (reads : Yields read chars value) (blankBefore : IsBlank before)
    (blankAfter : IsBlank after) (parts : source.toList = before ++ (chars ++ after)) :
    whole read source = .ok value := by
  have ends : EndsNumber (after ++ []) := .blank blankAfter (by simp [EndsNumber])
  rw [List.append_nil] at ends
  have nothing : skipSpace after = [] := by
    have skipped := skipSpace_blank blankAfter []
    rwa [List.append_nil] at skipped
  simp [whole, parts, reads before after blankBefore ends, nothing, bind, Except.bind, pure,
    Except.pure, Except.mapError]

section Strings

theorem not_isTrailSurrogate_of_isLeadSurrogate {n : Nat} (lead : isLeadSurrogate n) :
    isTrailSurrogate n = false := by
  simp only [isLeadSurrogate, isTrailSurrogate, Bool.and_eq_true, Bool.and_eq_false_iff,
    decide_eq_true_eq, decide_eq_false_iff_not] at lead ⊢
  omega

theorem text_append {string body : List Char} (spelled : Spells string body) (rest : List Char) :
    ∀ back, text back none (body ++ '"' :: rest) =
      .ok (String.ofList (back.reverse ++ string), rest) := by
  induction spelled with
  | nil =>
    intro back
    simp [text]
  | plain unquoted unescaped printed _ induction =>
    intro back
    simp [text, unquoted, unescaped, printed, induction]
  | @escape c meant _ _ known _ induction =>
    intro back
    have unhex : c ≠ 'u' := by
      rintro rfl
      cases known
    simp [text, unhex, known, induction]
  | hex known noLead noTrail _ induction =>
    intro back
    simp [text, known, noLead, noTrail, induction]
  | pair leadKnown isLead trailKnown isTrail _ induction =>
    intro back
    have noTrail := not_isTrailSurrogate_of_isLeadSurrogate isLead
    simp [text, leadKnown, isLead, noTrail, trailKnown, isTrail, induction]

theorem string_yields {s : String} {chars : List Char} (written : StringText s chars) :
    Yields string chars s := by
  intro gap rest blank _
  cases written with
  | quoted spelled =>
    simp [string, skipSpace_blank_cons blank, isSpace, text_append spelled]

end Strings

section Numbers

theorem isDigits_toString (n : Nat) : IsDigits (toString n).toList := by
  intro c member
  have digit := Text.isDigit_of_mem_toString member
  simpa [Char.isDigit, isDigit, Char.le_def] using digit

theorem isWhole_toString (n : Nat) : IsWhole (toString n).toList := by
  have known := isDigits_toString n
  rw [Nat.toString_eq_repr, Nat.toList_repr] at known ⊢
  rcases Nat.eq_zero_or_pos n with rfl | given
  · exact .zero
  · obtain ⟨first, more, written, leading⟩ := Text.head_toDigits given
    rw [written] at known ⊢
    exact .digits (known first List.mem_cons_self) leading
      fun c member => known c (List.mem_cons_of_mem _ member)

theorem number_append {digits rest : List Char} (whole : IsWhole digits)
    (fits : value digits ≤ maxNatural) (ends : EndsNumber rest) :
    number false (digits ++ rest) = .ok (.natural (.ofNat (value digits)), rest) := by
  have read := integerDigits_append whole fun c head => (ends c head).1
  have noFraction := fractionDigits_none .endInValue fun c head => (ends c head).2.1
  have noPower := exponent_none .endInValue ends
  simp [number, read, noFraction, noPower, fits, bind, Except.bind, pure, Except.pure]

theorem natural_yields {n : UInt64} {chars : List Char} (written : NaturalText n chars) :
    Yields natural chars n := by
  intro gap rest blank ends
  cases written with
  | digits =>
    have whole := isWhole_toString n.toNat
    have meant : value (toString n.toNat).toList = n.toNat := Text.foldl_toString n.toNat
    have fits : value (toString n.toNat).toList ≤ maxNatural := by
      rw [meant]
      exact Nat.le_of_lt_succ n.toNat_lt
    have read := number_append whole fits ends
    rw [meant, UInt64.ofNat_toNat] at read
    obtain ⟨first, more, opened, digit⟩ := whole.head
    rw [opened, List.cons_append] at read ⊢
    have unsigned : first ≠ '-' := by
      rintro rfl
      cases digit
    simp [natural, skipSpace_blank_cons blank (not_isSpace_of_isDigit digit), digit, read, bind,
      Except.bind, pure, Except.pure]

end Numbers

theorem StringText.opens {s : String} {chars : List Char} {barred : Char} (other : '"' ≠ barred)
    (written : StringText s chars) : Opens barred chars := by
  cases written with
  | quoted => exact ⟨'"', _, rfl, rfl, other⟩

theorem NaturalText.opens {n : UInt64} {chars : List Char} (written : NaturalText n chars) :
    Opens 'n' chars := by
  cases written with
  | digits =>
    obtain ⟨first, more, opened, digit⟩ := (isWhole_toString n.toNat).head
    refine ⟨first, more, opened, not_isSpace_of_isDigit digit, ?_⟩
    rintro rfl
    cases digit

theorem optional_yields {read : List Char → Reading α} {text : α → List Char → Prop}
    (opens : ∀ {value chars}, text value chars → Opens 'n' chars)
    (reads : ∀ {value chars}, text value chars → Yields read chars value)
    {value? : Option α} {chars : List Char} (written : OptionalText text value? chars) :
    Yields (optional read) chars value? := by
  intro gap rest blank ends
  cases written with
  | null => simp [optional, skipSpace_blank_cons blank, isSpace, word, bind, Except.bind, pure,
      Except.pure]
  | value written =>
    have found := reads written [] rest .nil ends
    obtain ⟨first, more, rfl, visible, unlike⟩ := opens written
    rw [List.nil_append, List.cons_append] at found
    simp [optional, skipSpace_blank_cons blank visible, unlike, found, bind, Except.bind, pure,
      Except.pure]

section Lists

variable {read : List Char → Reading α} {text : α → List Char → Prop} {values : List α}
  {chars : List Char}

def LeadsItem (isFirst : Bool) (front : List Char) : Prop :=
  ∀ rest, Opens ']' rest → nextItem isFirst (front ++ rest) = .ok (some rest)

theorem leadsItem_blank {gap : List Char} (blank : IsBlank gap) : LeadsItem true gap := by
  rintro _ ⟨first, more, rfl, visible, unclosed⟩
  simp [nextItem, skipSpace_blank_cons blank visible]

theorem leadsItem_comma {before after : List Char} (blankBefore : IsBlank before)
    (blankAfter : IsBlank after) : LeadsItem false (before ++ ',' :: after) := by
  rintro _ ⟨first, more, rfl, visible, unclosed⟩
  simp [nextItem, skipSpace_blank_cons blankBefore, isSpace,
    skipSpace_blank_cons blankAfter visible, unclosed]

theorem nextItem_end {gap rest : List Char} {isFirst : Bool} (blank : IsBlank gap) :
    nextItem isFirst (gap ++ ']' :: rest) = .ok none := by
  simp [nextItem, skipSpace_blank_cons blank, isSpace]

theorem listEnd_append {gap rest : List Char} (blank : IsBlank gap) :
    listEnd (gap ++ ']' :: rest) = .ok rest := by
  simp [listEnd, skipSpace_blank_cons blank, isSpace]

theorem items_append (opens : ∀ {value chars}, text value chars → Opens ']' chars)
    (reads : ∀ {value chars}, text value chars → Yields read chars value)
    (list : ItemsText text values chars) :
    ∀ fuel isFirst front rest, chars.length < fuel → LeadsItem isFirst front →
      items read fuel isFirst (front ++ (chars ++ rest)) = .ok (values, rest) := by
  induction list with
  | @last item value gap written blank =>
    rintro (_ | _ | fuel) isFirst front rest enough leads
    · exact absurd enough (Nat.not_lt_zero _)
    · simp at enough
    have next := leads (value ++ (gap ++ ']' :: rest)) ((opens written).append _)
    have found := reads written [] (gap ++ ']' :: rest) .nil (.blank blank .bracket)
    rw [List.nil_append] at found
    simp [items, next, found, nextItem_end blank, listEnd_append blank, bind, Except.bind, pure,
      Except.pure]
  | @more item values value before after more written blankBefore blankAfter _ induction =>
    rintro (_ | fuel) isFirst front rest enough leads
    · exact absurd enough (Nat.not_lt_zero _)
    simp only [List.length_append, List.length_cons] at enough
    have next := leads (value ++ (before ++ ',' :: (after ++ (more ++ rest))))
      ((opens written).append _)
    have found := reads written [] (before ++ ',' :: (after ++ (more ++ rest))) .nil
      (.blank blankBefore .comma)
    have others := induction fuel false (before ++ ',' :: after) rest (by omega)
      (leadsItem_comma blankBefore blankAfter)
    rw [List.nil_append] at found
    rw [List.append_assoc, List.cons_append] at others
    simp [items, next, found, others, bind, Except.bind, pure, Except.pure]

theorem list_yields (opens : ∀ {value chars}, text value chars → Opens ']' chars)
    (reads : ∀ {value chars}, text value chars → Yields read chars value)
    (written : ListText text values chars) : Yields (list read) chars values := by
  intro gap rest blank _
  cases written with
  | @empty inner blankInner =>
    simp [list, skipSpace_blank_cons blank, isSpace, items, nextItem_end blankInner,
      listEnd_append blankInner, bind, Except.bind, pure, Except.pure]
  | @items inner chars _ blankInner written =>
    have found := items_append opens reads written
      ((inner ++ (chars ++ rest)).length + 1) true inner rest
      (by simp only [List.length_append]; omega) (leadsItem_blank blankInner)
    rw [List.cons_append, List.append_assoc, list, skipSpace_blank_cons blank rfl]
    exact found

end Lists

end Bundler.Json
