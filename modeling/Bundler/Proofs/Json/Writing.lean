import Bundler.Json.Writer
import Bundler.Proofs.Json.Layout

/-! What is written from a value is one of the texts of the value. -/

namespace Bundler.Json.Value

theorem hex?_hexDigit {n : Nat} (small : n < 32) :
    hex? '0' '0' (hexDigit (n / 16)) (hexDigit (n % 16)) = some n := by
  have all : ∀ n < 32, hex? '0' '0' (hexDigit (n / 16)) (hexDigit (n % 16)) = some n := by decide
  exact all n small

theorem escape_cases (c : Char) :
    (∃ letter, unescape? letter = some c ∧ escape c = ['\\', letter]) ∨
    (∃ high low, hex? '0' '0' high low = some c.toNat ∧ c.toNat < 32 ∧
      escape c = ['\\', 'u', '0', '0', high, low]) ∨
    (c ≠ '"' ∧ c ≠ '\\' ∧ ¬ c < ' ' ∧ escape c = [c]) := by
  by_cases lettered : c ∈ ['"', '\\', '\x08', '\x0C', '\n', '\r', '\t']
  · simp only [List.mem_cons, List.not_mem_nil, or_false] at lettered
    rcases lettered with rfl | rfl | rfl | rfl | rfl | rfl | rfl
    · exact .inl ⟨'"', rfl, rfl⟩
    · exact .inl ⟨'\\', rfl, rfl⟩
    · exact .inl ⟨'b', rfl, rfl⟩
    · exact .inl ⟨'f', rfl, rfl⟩
    · exact .inl ⟨'n', rfl, rfl⟩
    · exact .inl ⟨'r', rfl, rfl⟩
    · exact .inl ⟨'t', rfl, rfl⟩
  · simp only [List.mem_cons, List.not_mem_nil, or_false, not_or] at lettered
    obtain ⟨quote, slash, back, feed, line, carriage, tab⟩ := lettered
    by_cases control : c < ' '
    · have small : c.toNat < 32 := control
      exact .inr (.inl ⟨_, _, hex?_hexDigit small, small, by
        simp [escape, quote, slash, back, feed, line, carriage, tab, control]⟩)
    · exact .inr (.inr ⟨quote, slash, control, by
        simp [escape, quote, slash, back, feed, line, carriage, tab, control]⟩)

theorem spells_escape (string : List Char) : Spells string (string.flatMap escape) := by
  induction string with
  | nil => exact .nil
  | cons c string induction =>
    rw [List.flatMap_cons]
    rcases escape_cases c with ⟨letter, known, written⟩ | ⟨high, low, known, small, written⟩ |
      ⟨quote, slash, printed, written⟩
    · rw [written]
      exact .escape known induction
    · have noLead : isLeadSurrogate c.toNat = false := by
        simp only [isLeadSurrogate, Bool.and_eq_false_iff, decide_eq_false_iff_not]
        omega
      have noTrail : isTrailSurrogate c.toNat = false := by
        simp only [isTrailSurrogate, Bool.and_eq_false_iff, decide_eq_false_iff_not]
        omega
      have spelled := Spells.hex known noLead noTrail induction
      rw [Char.ofNat_toNat] at spelled
      rw [written]
      exact spelled
    · rw [written]
      exact .plain quote slash printed induction

theorem stringText_compact (s : String) : StringText s (compact (.text s)).toList := by
  have text := StringText.quoted (spells_escape s.toList)
  simpa [compact, quote] using text

theorem naturalText_compact (n : UInt64) : NaturalText n (compact (.natural n.toNat)).toList := by
  rw [compact]
  exact .digits

theorem compactItems_eq (items : List Value) : compactItems items = items.map compact := by
  induction items with
  | nil => rfl
  | cons item items induction => rw [compactItems, induction, List.map_cons]

theorem compactMembers_eq (members : List (String × Value)) :
    compactMembers members = members.map fun (key, value) => quote key ++ ":" ++ compact value := by
  induction members with
  | nil => rfl
  | cons member members induction => rw [compactMembers, induction, List.map_cons]

theorem itemsText_intercalate {text : α → List Char → Prop} {write : α → Value}
    (writes : ∀ a, text a (write a).compact.toList) (a : α) (values : List α) :
    ItemsText text (a :: values)
      ((String.intercalate "," ((a :: values).map (compact ∘ write))).toList ++ [']']) := by
  induction values generalizing a with
  | nil =>
    have last := ItemsText.last (writes a) .nil
    simpa using last
  | cons b values induction =>
    have more := ItemsText.more (writes a) .nil .nil (induction b)
    simpa [String.intercalate_cons_cons] using more

theorem listText_compact {text : α → List Char → Prop} {write : α → Value}
    (writes : ∀ a, text a (write a).compact.toList) (values : List α) :
    ListText text values (compact (.list (values.map write))).toList := by
  rw [compact, compactItems_eq, List.map_map]
  cases values with
  | nil =>
    have list : ListText text [] ('[' :: ([] ++ [']'])) := .empty .nil
    simpa using list
  | cons a values =>
    have list := ListText.items .nil (itemsText_intercalate writes a values)
    simpa using list

theorem membersText_intercalate (member : String × Value) (members : List (String × Value)) :
    MembersText (fun name => Spells name.toList)
      ((member :: members).map fun (key, value) => (key, value.compact.toList))
      ((String.intercalate "," ((member :: members).map fun (key, value) =>
        quote key ++ ":" ++ compact value)).toList ++ ['\x7d']) := by
  induction members generalizing member with
  | nil =>
    obtain ⟨key, value⟩ := member
    have last : MembersText (fun name : String => Spells name.toList) [(key, value.compact.toList)]
        _ := .last (spells_escape key.toList) .nil .nil .nil
    simpa [quote] using last
  | cons next members induction =>
    obtain ⟨key, value⟩ := member
    have more : MembersText (fun name : String => Spells name.toList)
        ((key, value.compact.toList) :: _) _ :=
      .more (spells_escape key.toList) .nil .nil .nil .nil (induction next)
    simpa [quote, String.intercalate_cons_cons] using more

theorem objectText_compact (members : List (String × Value)) :
    ObjectText (fun name => Spells name.toList)
      (members.map fun (key, value) => (key, value.compact.toList))
      (compact (.object members)).toList := by
  rw [compact, compactMembers_eq]
  cases members with
  | nil =>
    have object : ObjectText (fun name : String => Spells name.toList) []
        ('\x7b' :: ([] ++ ['\x7d'])) := .empty .nil
    simpa using object
  | cons member members =>
    have object := ObjectText.members .nil (membersText_intercalate member members)
    simpa using object

/-- A field is written with a text of its value, and is left out only if it may be. -/
def Writes (field : FieldText) (value? : Option Value) : Prop :=
  match value? with
  | none => field.isRequired = false
  | some value => field.text value.compact.toList

theorem Writes.optional {name : String} {text : α → List Char → Prop} {write : α → Value}
    (writes : ∀ a, text a (write a).compact.toList) (a? : Option α) :
    Writes ⟨name, a?.isSome, OptionalText text a?⟩ (a?.map write) := by
  cases a? with
  | none => exact rfl
  | some a => exact OptionalText.value (writes a)

def writtenMembers (fields : List FieldText) (values : List (Option Value)) :
    List (String × Value) :=
  (List.zipWith (fun field value? => (value?.map (field.name, ·)).toList) fields values).flatten

theorem ownMembers_writtenMembers {fields : List FieldText} {values : List (Option Value)}
    (writes : List.Forall₂ Writes fields values) :
    OwnMembers fields
      ((writtenMembers fields values).map fun (key, value) => (key, value.compact.toList)) := by
  induction writes with
  | nil => exact .none
  | @cons field value? fields values first _ induction =>
    cases value? with
    | none => exact .omitted first induction
    | some value => exact .written first induction

theorem recordText_compact {fields : List FieldText} {values : List (Option Value)}
    (writes : List.Forall₂ Writes fields values) :
    RecordText fields (compact (.object (writtenMembers fields values))).toList :=
  .object (ownMembers_writtenMembers writes) (List.forall_mem_nil _) (List.forall_mem_nil _)
    (List.append_nil _ ▸ .refl _) (objectText_compact _)

end Bundler.Json.Value
