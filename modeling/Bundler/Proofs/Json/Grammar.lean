import Bundler.Json.Skip
import Mathlib.Data.List.Basic

/-!
The texts of JSON, told apart from the ways to read them, and how the readers of blanks and of
digits find the ends of theirs.
-/

namespace Bundler.Json

def IsBlank (gap : List Char) : Prop :=
  ∀ c ∈ gap, isSpace c

/-- What stands between the quotes of a string. Halves of surrogate pairs may stand alone. -/
inductive IsStringBody : List Char → Prop
  | nil : IsStringBody []
  | plain {c : Char} {rest : List Char} (unquoted : c ≠ '"') (unescaped : c ≠ '\\')
      (printed : ¬ c < ' ') : IsStringBody rest → IsStringBody (c :: rest)
  | escape {c : Char} {rest : List Char} (known : (unescape? c).isSome) :
      IsStringBody rest → IsStringBody ('\\' :: c :: rest)
  | hex {a b c d : Char} {rest : List Char} (known : (hex? a b c d).isSome) :
      IsStringBody rest → IsStringBody ('\\' :: 'u' :: a :: b :: c :: d :: rest)

def IsDigits (digits : List Char) : Prop :=
  ∀ c ∈ digits, isDigit c

inductive IsWhole : List Char → Prop
  | zero : IsWhole ['0']
  | digits {first : Char} {more : List Char} (digit : isDigit first) (leading : first ≠ '0') :
      IsDigits more → IsWhole (first :: more)

inductive IsFraction : List Char → Prop
  | none : IsFraction []
  | point {digits : List Char} (given : digits ≠ []) :
      IsDigits digits → IsFraction ('.' :: digits)

inductive IsSign : List Char → Prop
  | none : IsSign []
  | plus : IsSign ['+']
  | minus : IsSign ['-']

inductive IsExponent : List Char → Prop
  | none : IsExponent []
  | power {mark : Char} {sign digits : List Char} (marked : mark = 'e' ∨ mark = 'E')
      (signed : IsSign sign) (given : digits ≠ []) :
      IsDigits digits → IsExponent (mark :: (sign ++ digits))

inductive IsMagnitude : List Char → Prop
  | parts {whole fraction exponent : List Char} :
      IsWhole whole → IsFraction fraction → IsExponent exponent →
        IsMagnitude (whole ++ (fraction ++ exponent))

inductive ItemsText (text : α → List Char → Prop) : List α → List Char → Prop
  | last {item : α} {value gap : List Char} (written : text item value) (blank : IsBlank gap) :
      ItemsText text [item] (value ++ (gap ++ [']']))
  | more {item : α} {items : List α} {value before after rest : List Char}
      (written : text item value) (blankBefore : IsBlank before) (blankAfter : IsBlank after) :
      ItemsText text items rest →
        ItemsText text (item :: items) (value ++ (before ++ ',' :: (after ++ rest)))

inductive ListText (text : α → List Char → Prop) : List α → List Char → Prop
  | empty {gap : List Char} (blank : IsBlank gap) : ListText text [] ('[' :: (gap ++ [']']))
  | items {gap rest : List Char} {items : List α} (blank : IsBlank gap) :
      ItemsText text items rest → ListText text items ('[' :: (gap ++ rest))

inductive MembersText (spells : κ → List Char → Prop) : List (κ × List Char) → List Char → Prop
  | last {name : κ} {key value before after gap : List Char} (spelled : spells name key)
      (blankBefore : IsBlank before) (blankAfter : IsBlank after) (blank : IsBlank gap) :
      MembersText spells [(name, value)]
        ('"' :: (key ++ '"' :: (before ++ ':' :: (after ++ (value ++ (gap ++ ['\x7d']))))))
  | more {name : κ} {key value before after gap next rest : List Char}
      {members : List (κ × List Char)} (spelled : spells name key)
      (blankBefore : IsBlank before) (blankAfter : IsBlank after) (blank : IsBlank gap)
      (blankNext : IsBlank next) :
      MembersText spells members rest →
        MembersText spells ((name, value) :: members)
          ('"' :: (key ++ '"' :: (before ++ ':' :: (after ++ (value ++
            (gap ++ ',' :: (next ++ rest)))))))

/-- An object of members with the names and the texts of values given. `spells` tells what may
stand between the quotes of a key. -/
inductive ObjectText (spells : κ → List Char → Prop) : List (κ × List Char) → List Char → Prop
  | empty {gap : List Char} (blank : IsBlank gap) :
      ObjectText spells [] ('\x7b' :: (gap ++ ['\x7d']))
  | members {gap rest : List Char} {members : List (κ × List Char)} (blank : IsBlank gap) :
      MembersText spells members rest → ObjectText spells members ('\x7b' :: (gap ++ rest))

inductive IsJson : List Char → Prop
  | null : IsJson "null".toList
  | true : IsJson "true".toList
  | false : IsJson "false".toList
  | positive {magnitude : List Char} : IsMagnitude magnitude → IsJson magnitude
  | negative {magnitude : List Char} : IsMagnitude magnitude → IsJson ('-' :: magnitude)
  | string {body : List Char} : IsStringBody body → IsJson ('"' :: (body ++ ['"']))
  | list {values : List (List Char)} {chars : List Char} : ListText Eq values chars →
      (∀ value ∈ values, IsJson value) → IsJson chars
  | object {members : List (List Char × List Char)} {chars : List Char} :
      ObjectText Eq members chars → (∀ member ∈ members, IsStringBody member.1) →
      (∀ member ∈ members, IsJson member.2) → IsJson chars

section Blanks

variable {gap rest : List Char} {c : Char}

theorem IsBlank.nil : IsBlank [] := by
  simp [IsBlank]

theorem skipSpace_blank (blank : IsBlank gap) (rest : List Char) :
    skipSpace (gap ++ rest) = skipSpace rest :=
  List.dropWhile_append_of_pos blank

theorem skipSpace_cons (visible : isSpace c = false) : skipSpace (c :: rest) = c :: rest := by
  simp [skipSpace, visible]

theorem skipSpace_blank_cons (blank : IsBlank gap) (visible : isSpace c = false) :
    skipSpace (gap ++ c :: rest) = c :: rest := by
  rw [skipSpace_blank blank, skipSpace_cons visible]

end Blanks

/-- A text that starts neither with a blank nor with one other character. -/
def Opens (barred : Char) (value : List Char) : Prop :=
  ∃ first more, value = first :: more ∧ isSpace first = false ∧ first ≠ barred

theorem Opens.append {barred : Char} {value : List Char} (opens : Opens barred value)
    (rest : List Char) : Opens barred (value ++ rest) := by
  obtain ⟨first, more, rfl, visible, allowed⟩ := opens
  exact ⟨first, more ++ rest, rfl, visible, allowed⟩

section Heads

variable {text : α → List Char → Prop} {items : List α} {chars : List Char}

theorem ItemsText.opens (list : ItemsText text items chars)
    {barred : Char} (opens : ∀ item ∈ items, ∀ value, text item value → Opens barred value) :
    Opens barred chars := by
  cases list with
  | last written => exact (opens _ List.mem_cons_self _ written).append _
  | more written => exact (opens _ List.mem_cons_self _ written).append _

theorem MembersText.head {spells : κ → List Char → Prop} {members : List (κ × List Char)}
    (object : MembersText spells members chars) : ∃ more, chars = '"' :: more := by
  cases object with
  | last => exact ⟨_, rfl⟩
  | more => exact ⟨_, rfl⟩

end Heads

/-- A text that a number in front of it does not go on with. -/
def EndsNumber (rest : List Char) : Prop :=
  ∀ c ∈ rest.head?, isDigit c = false ∧ c ≠ '.' ∧ c ≠ 'e' ∧ c ≠ 'E'

section Ends

variable {gap rest : List Char} {c : Char}

theorem EndsNumber.comma : EndsNumber (',' :: rest) := by
  intro c head
  cases head
  decide

theorem EndsNumber.bracket : EndsNumber (']' :: rest) := by
  intro c head
  cases head
  decide

theorem EndsNumber.brace : EndsNumber ('\x7d' :: rest) := by
  intro c head
  cases head
  decide

theorem EndsNumber.blank (blank : IsBlank gap) (ends : EndsNumber rest) :
    EndsNumber (gap ++ rest) := by
  cases gap with
  | nil => exact ends
  | cons space gap =>
    intro c head
    cases head
    have known : isSpace space := blank space List.mem_cons_self
    simp only [isSpace, Bool.or_eq_true, beq_iff_eq] at known
    rcases known with ((rfl | rfl) | rfl) | rfl <;> decide

end Ends

section Numbers

variable {rest : List Char}

theorem digits_append {read : List Char} (known : IsDigits read)
    (ends : ∀ c ∈ rest.head?, isDigit c = false) : digits (read ++ rest) = (read, rest) := by
  have stops : rest.takeWhile isDigit = [] ∧ rest.dropWhile isDigit = rest := by
    cases rest with
    | nil => exact ⟨rfl, rfl⟩
    | cons c rest =>
      have other := ends c rfl
      simp [other]
  rw [digits, List.takeWhile_append_of_pos known, List.dropWhile_append_of_pos known,
    stops.1, stops.2, List.append_nil]

theorem integerDigits_append {whole : List Char} (known : IsWhole whole)
    (ends : ∀ c ∈ rest.head?, isDigit c = false) :
    integerDigits (whole ++ rest) = .ok (whole, rest) := by
  cases known with
  | zero =>
    cases rest with
    | nil => rfl
    | cons c rest =>
      have other := ends c rfl
      simp [integerDigits, other]
  | digits digit leading more =>
    simp [integerDigits, digit, digits_append more ends]

theorem fractionDigits_none (atEnd : Defect) (ends : ∀ c ∈ rest.head?, c ≠ '.') :
    fractionDigits atEnd rest = .ok (none, rest) := by
  unfold fractionDigits
  split
  · exact absurd rfl (ends '.' rfl)
  · rfl

theorem fractionDigits_append (atEnd : Defect) {fraction : List Char} (known : IsFraction fraction)
    (ends : ∀ c ∈ rest.head?, isDigit c = false ∧ c ≠ '.') :
    ∃ read, fractionDigits atEnd (fraction ++ rest) = .ok (read, rest) := by
  cases known with
  | none => exact ⟨none, fractionDigits_none atEnd fun c head => (ends c head).2⟩
  | @point digits given known =>
    have read := digits_append known fun c head => (ends c head).1
    obtain ⟨first, more, rfl⟩ := List.exists_cons_of_ne_nil given
    rw [List.cons_append] at read
    exact ⟨some (first :: more), by simp [fractionDigits, read]⟩

theorem exponent_none (atEnd : Defect) (ends : EndsNumber rest) :
    exponent atEnd rest = .ok (none, rest) := by
  cases rest with
  | nil => rfl
  | cons c rest =>
    obtain ⟨-, -, lower, upper⟩ := ends c rfl
    simp [exponent, lower, upper]

theorem exponent_append (atEnd : Defect) {power : List Char} (known : IsExponent power)
    (ends : EndsNumber rest) : ∃ read, exponent atEnd (power ++ rest) = .ok (read, rest) := by
  cases known with
  | none => exact ⟨none, exponent_none atEnd ends⟩
  | @power mark sign digits marked signed given known =>
    have read := digits_append known fun c head => (ends c head).1
    obtain ⟨first, more, rfl⟩ := List.exists_cons_of_ne_nil given
    have digit : isDigit first := known first List.mem_cons_self
    rw [List.cons_append] at read
    cases signed with
    | none =>
      have plus : first ≠ '+' := by
        rintro rfl
        cases digit
      have minus : first ≠ '-' := by
        rintro rfl
        cases digit
      exact ⟨some (1 * value (first :: more)), by simp [exponent, marked, plus, minus, read]⟩
    | plus => exact ⟨some (1 * value (first :: more)), by simp [exponent, marked, read]⟩
    | minus => exact ⟨some (-1 * value (first :: more)), by simp [exponent, marked, read]⟩

theorem IsExponent.head {power : List Char} (known : IsExponent power) (ends : EndsNumber rest) :
    ∀ c ∈ (power ++ rest).head?, isDigit c = false ∧ c ≠ '.' := by
  intro c head
  cases known with
  | none => exact ⟨(ends c head).1, (ends c head).2.1⟩
  | power marked =>
    cases head
    rcases marked with rfl | rfl <;> decide

theorem IsFraction.head {fraction : List Char} (known : IsFraction fraction)
    (ends : ∀ c ∈ rest.head?, isDigit c = false ∧ c ≠ '.') :
    ∀ c ∈ (fraction ++ rest).head?, isDigit c = false := by
  intro c head
  cases known with
  | none => exact (ends c head).1
  | point =>
    cases head
    rfl

theorem not_isSpace_of_isDigit {c : Char} (digit : isDigit c) : isSpace c = false := by
  rw [Bool.eq_false_iff]
  intro space
  simp only [isSpace, Bool.or_eq_true, beq_iff_eq] at space
  rcases space with ((rfl | rfl) | rfl) | rfl <;> cases digit

theorem IsWhole.head {whole : List Char} (known : IsWhole whole) :
    ∃ first more, whole = first :: more ∧ isDigit first := by
  cases known with
  | zero => exact ⟨'0', [], rfl, rfl⟩
  | digits digit => exact ⟨_, _, rfl, digit⟩

theorem IsMagnitude.head {magnitude : List Char} (known : IsMagnitude magnitude) :
    ∃ first more, magnitude = first :: more ∧ isDigit first := by
  cases known with
  | parts whole =>
    obtain ⟨first, more, rfl, digit⟩ := whole.head
    exact ⟨first, _, rfl, digit⟩

end Numbers

end Bundler.Json
