import Bundler.Proofs.Json.Reading
import Bundler.Proofs.Json.Skipping
import Mathlib.Data.List.Nodup

/-!
The objects that a record may be written as. Its members stand in any order, and among members of
other names.
-/

namespace Bundler.Json

/-- A field with a value: its name, whether it has to be written, and the texts of its value. -/
structure FieldText where
  name : String
  isRequired : Bool
  text : List Char → Prop

def isField (fields : List FieldText) (name : String) : Bool :=
  (fields.map (·.name)).contains name

theorem isField_iff {fields : List FieldText} {name : String} :
    isField fields name ↔ name ∈ fields.map (·.name) :=
  List.contains_iff_mem

inductive OwnMembers : List FieldText → List (String × List Char) → Prop
  | none : OwnMembers [] []
  | written {field : FieldText} {fields : List FieldText} {value : List Char}
      {own : List (String × List Char)} : field.text value → OwnMembers fields own →
        OwnMembers (field :: fields) ((field.name, value) :: own)
  | omitted {field : FieldText} {fields : List FieldText} {own : List (String × List Char)} :
      field.isRequired = false → OwnMembers fields own → OwnMembers (field :: fields) own

/-- An object that holds a record: members for its fields and members of other names, in any
order. -/
inductive RecordText (fields : List FieldText) : List Char → Prop
  | object {own others members : List (String × List Char)} {chars : List Char} :
      OwnMembers fields own → (∀ other ∈ others, isField fields other.1 = false) →
      (∀ other ∈ others, IsJson other.2) → members.Perm (own ++ others) →
      ObjectText (fun name => Spells name.toList) members chars → RecordText fields chars

theorem RecordText.opens {fields : List FieldText} {chars : List Char}
    (written : RecordText fields chars) : Opens 'n' chars := by
  cases written with
  | object _ _ _ _ object =>
    cases object with
    | empty => exact ⟨'\x7b', _, rfl, rfl, by decide⟩
    | members => exact ⟨'\x7b', _, rfl, rfl, by decide⟩

section Own

variable {fields : List FieldText} {own : List (String × List Char)}

theorem OwnMembers.sublist (written : OwnMembers fields own) :
    (own.map (·.1)).Sublist (fields.map (·.name)) := by
  induction written with
  | none => exact .slnil
  | written _ _ induction => exact induction.cons_cons _
  | omitted _ _ induction => exact induction.cons _

theorem OwnMembers.complete (written : OwnMembers fields own) :
    ∀ field ∈ fields, field.isRequired → field.name ∈ own.map (·.1) := by
  induction written with
  | none => simp
  | written _ _ induction =>
    intro field member required
    rcases List.mem_cons.mp member with rfl | member
    · exact List.mem_cons_self
    · exact List.mem_cons_of_mem _ (induction field member required)
  | omitted optional _ induction =>
    intro field member required
    rcases List.mem_cons.mp member with rfl | member
    · rw [optional] at required
      cases required
    · exact induction field member required

theorem OwnMembers.exists_field (written : OwnMembers fields own) :
    ∀ entry ∈ own, ∃ field ∈ fields, field.name = entry.1 ∧ field.text entry.2 := by
  induction written with
  | none => simp
  | written text _ induction =>
    intro entry found
    rcases List.mem_cons.mp found with rfl | found
    · exact ⟨_, List.mem_cons_self, rfl, text⟩
    · obtain ⟨field, member, suits⟩ := induction entry found
      exact ⟨field, List.mem_cons_of_mem _ member, suits⟩
  | omitted _ _ induction =>
    intro entry found
    obtain ⟨field, member, suits⟩ := induction entry found
    exact ⟨field, List.mem_cons_of_mem _ member, suits⟩

theorem OwnMembers.text (written : OwnMembers fields own)
    (distinct : (fields.map (·.name)).Nodup) {field : FieldText} (member : field ∈ fields)
    {value : List Char} (found : (field.name, value) ∈ own) : field.text value := by
  obtain ⟨other, otherMember, named, text⟩ := written.exists_field _ found
  cases List.inj_on_of_nodup_map distinct otherMember member named
  exact text

theorem OwnMembers.isField (written : OwnMembers fields own) {entry : String × List Char}
    (found : entry ∈ own) : isField fields entry.1 := by
  obtain ⟨field, member, named, -⟩ := written.exists_field entry found
  exact isField_iff.mpr (named ▸ List.mem_map_of_mem member)

end Own

/-- What a reader of a record goes by: each field is there once at most, and those that have to be
are, with texts of theirs. -/
structure Fills (fields : List FieldText) (members : List (String × List Char)) : Prop where
  once : ((members.map (·.1)).filter (isField fields)).Nodup
  complete : ∀ field ∈ fields, field.isRequired → field.name ∈ members.map (·.1)
  own : ∀ field ∈ fields, ∀ value, (field.name, value) ∈ members → field.text value
  other : ∀ member ∈ members, isField fields member.1 = false → IsJson member.2

theorem RecordText.fills {fields : List FieldText} {chars : List Char}
    (written : RecordText fields chars) (distinct : (fields.map (·.name)).Nodup) :
    ∃ members, ObjectText (fun name => Spells name.toList) members chars ∧
      Fills fields members := by
  cases written with
  | @object own others members _ ofFields unknown json shuffled object =>
    refine ⟨members, object, ?once, ?complete, ?own, ?other⟩
    case once =>
      have foreign : (others.map (·.1)).filter (isField fields) = [] := by
        simpa [List.filter_eq_nil_iff] using unknown
      have known := (shuffled.map (·.1)).filter (isField fields)
      rw [List.map_append, List.filter_append, foreign, List.append_nil] at known
      exact known.nodup_iff.mpr ((ofFields.sublist.nodup distinct).filter _)
    case complete =>
      intro field member required
      have found := ofFields.complete field member required
      rw [(shuffled.map (·.1)).mem_iff, List.map_append]
      exact List.mem_append_left _ found
    case own =>
      intro field member value found
      rcases List.mem_append.mp (shuffled.mem_iff.mp found) with found | found
      · exact ofFields.text distinct member found
      · have known : isField fields field.name := isField_iff.mpr (List.mem_map_of_mem member)
        exact absurd known (by simp [unknown _ found])
    case other =>
      intro entry found foreign
      rcases List.mem_append.mp (shuffled.mem_iff.mp found) with found | found
      · rw [ofFields.isField found] at foreign
        cases foreign
      · exact json entry found

/-- A reader that takes the texts of a field, where `only` is the record with nothing but the
fields of some names. -/
def Takes (only : List String → σ) (reader : FieldReader σ) (field : FieldText) : Prop :=
  reader.name = field.name ∧ ∀ met value, field.text value →
    Yields (reader.read (only met)) value (only (field.name :: met))

theorem Takes.of {only : List String → σ} {name : String} {isRequired : Bool}
    {text : List Char → Prop} {read : List Char → Reading α} {put : σ → α → σ} {a : α}
    (reads : ∀ {value}, text value → Yields read value a)
    (puts : ∀ met, put (only met) a = only (name :: met)) :
    Takes only (.of name read put) ⟨name, isRequired, text⟩ := by
  refine ⟨rfl, fun met value written gap rest blank ends => ?_⟩
  simp [FieldReader.of, reads written gap rest blank ends, puts, bind, Except.bind, pure,
    Except.pure]

section Finding

variable {only : List String → σ} {readers : List (FieldReader σ)} {fields : List FieldText}
  {name : String}

theorem find?_of_isField (takes : List.Forall₂ (Takes only) readers fields)
    (known : isField fields name) :
    ∃ reader field, readers.find? (·.name == name) = some reader ∧ field ∈ fields ∧
      field.name = name ∧ Takes only reader field := by
  induction takes with
  | nil => cases known
  | @cons reader field readers fields fits _ induction =>
    by_cases first : field.name = name
    · exact ⟨reader, field, by simp [fits.1, first], List.mem_cons_self, first, fits⟩
    · have later : isField fields name := by
        simpa [isField, Ne.symm first] using known
      obtain ⟨reader', field', found, member, named, fits'⟩ := induction later
      exact ⟨reader', field', by simp [fits.1, first, found], List.mem_cons_of_mem _ member, named,
        fits'⟩

theorem find?_of_not_isField (takes : List.Forall₂ (Takes only) readers fields)
    (unknown : isField fields name = false) : readers.find? (·.name == name) = none := by
  induction takes with
  | nil => rfl
  | @cons reader field readers fields fits _ induction =>
    simp only [isField, List.map_cons, List.contains_cons, Bool.or_eq_false_iff,
      beq_eq_false_iff_ne] at unknown
    simp [fits.1, Ne.symm unknown.1, induction unknown.2]

end Finding

section Members

variable {only : List String → σ} {readers : List (FieldReader σ)} {fields : List FieldText}

/-- What stands in front of the key of a member: blanks in front of the first, and a comma in front
of the others. -/
def LeadsKey (isFirst : Bool) (front : List Char) : Prop :=
  ∀ rest, nextKey isFirst (front ++ '"' :: rest) = .ok (some rest)

theorem leadsKey_blank {gap : List Char} (blank : IsBlank gap) : LeadsKey true gap := by
  intro rest
  simp [nextKey, skipSpace_blank_cons blank, isSpace]

theorem leadsKey_comma {before after : List Char} (blankBefore : IsBlank before)
    (blankAfter : IsBlank after) : LeadsKey false (before ++ ',' :: after) := by
  intro rest
  simp [nextKey, skipSpace_blank_cons blankBefore, isSpace, skipSpace_blank_cons blankAfter]

theorem members_end {gap rest : List Char} {fuel : Nat} {met : List String} {isFirst : Bool}
    {record : σ} (blank : IsBlank gap) :
    members readers (fuel + 1) met isFirst record (gap ++ '\x7d' :: rest) = .ok (record, rest) := by
  simp [members, nextKey, skipSpace_blank_cons blank, isSpace, bind, Except.bind, pure, Except.pure]

theorem colon_append {gap rest : List Char} (blank : IsBlank gap) :
    colon (gap ++ ':' :: rest) = .ok rest := by
  simp [colon, skipSpace_blank_cons blank, isSpace]

theorem members_next (takes : List.Forall₂ (Takes only) readers fields) {name : String}
    {key value front before after rest : List Char} {met : List String} {isFirst : Bool}
    (fuel : Nat) (leads : LeadsKey isFirst front) (spelled : Spells name.toList key)
    (blankBefore : IsBlank before) (blankAfter : IsBlank after) (ends : EndsNumber rest)
    (unmet : isField fields name → name ∉ met)
    (own : ∀ field ∈ fields, field.name = name → field.text value)
    (other : isField fields name = false → IsJson value) :
    members readers (fuel + 1) met isFirst (only met)
        (front ++ '"' :: (key ++ '"' :: (before ++ ':' :: (after ++ (value ++ rest))))) =
      members readers fuel ([name].filter (isField fields) ++ met) false
        (only ([name].filter (isField fields) ++ met)) rest := by
  have next := leads (key ++ '"' :: (before ++ ':' :: (after ++ (value ++ rest))))
  have named := text_append spelled (before ++ ':' :: (after ++ (value ++ rest))) []
  rw [List.reverse_nil, List.nil_append, String.ofList_toList] at named
  have parted : colon (before ++ ':' :: (after ++ (value ++ rest))) =
      .ok (after ++ (value ++ rest)) := colon_append blankBefore
  cases known : isField fields name with
  | false =>
    have passed := (other known).passes ((after ++ (value ++ rest)).length + 1) after rest
      (by simp only [List.length_append]; omega) blankAfter ends
    simp only [List.length_append] at passed
    simp [members, next, named, find?_of_not_isField takes known, parted, passed, known, bind,
      Except.bind]
  | true =>
    obtain ⟨reader, field, found, member, rfl, same, reads⟩ := find?_of_isField takes known
    have read := reads met value (own field member rfl) after rest blankAfter ends
    simp [members, next, named, found, parted, read, known, unmet known, bind, Except.bind]

theorem filter_cons_reverse_append (p : String → Bool) (name : String) (names met : List String) :
    ((name :: names).filter p).reverse ++ met =
      (names.filter p).reverse ++ ([name].filter p ++ met) := by
  cases known : p name <;> simp [known]

theorem not_mem_of_once {p : String → Bool} {name : String} {names met : List String}
    (once : ((names.filter p).reverse ++ ([name].filter p ++ met)).Nodup) (known : p name) :
    name ∉ met := by
  have last : ([name].filter p ++ met).Nodup := (List.nodup_append.mp once).2.1
  rw [List.filter_cons_of_pos known, List.filter_nil, List.singleton_append] at last
  exact (List.nodup_cons.mp last).1

theorem members_append (takes : List.Forall₂ (Takes only) readers fields)
    {entries : List (String × List Char)} {chars : List Char}
    (object : MembersText (fun name => Spells name.toList) entries chars) :
    ∀ fuel met isFirst front rest, chars.length < fuel → LeadsKey isFirst front →
      (((entries.map (·.1)).filter (isField fields)).reverse ++ met).Nodup →
      (∀ field ∈ fields, ∀ value, (field.name, value) ∈ entries → field.text value) →
      (∀ entry ∈ entries, isField fields entry.1 = false → IsJson entry.2) →
      members readers fuel met isFirst (only met) (front ++ (chars ++ rest)) =
        .ok (only (((entries.map (·.1)).filter (isField fields)).reverse ++ met), rest) := by
  -- The record so far is `only met`, and no field that is still to come is in `met`.
  induction object with
  | @last name key value before after gap spelled blankBefore blankAfter blank =>
    rintro (_ | _ | fuel) met isFirst front rest enough leads once own other
    · exact absurd enough (Nat.not_lt_zero _)
    · simp at enough
    have ends : EndsNumber (gap ++ '\x7d' :: rest) := .blank blank .brace
    rw [List.map_cons, filter_cons_reverse_append] at once ⊢
    have read := members_next takes (fuel + 1) leads spelled blankBefore blankAfter ends
      (fun known => not_mem_of_once once known)
      (fun field member named => own field member value (by simp [named]))
      (fun unknown => other (name, value) List.mem_cons_self unknown)
    rw [members_end blank] at read
    simpa using read
  | @more name key value before after gap next more entries spelled blankBefore blankAfter blank
      blankNext _ induction =>
    rintro (_ | fuel) met isFirst front rest enough leads once own other
    · exact absurd enough (Nat.not_lt_zero _)
    simp only [List.length_append, List.length_cons] at enough
    have ends : EndsNumber (gap ++ ',' :: (next ++ (more ++ rest))) := .blank blank .comma
    rw [List.map_cons, filter_cons_reverse_append] at once ⊢
    have read := members_next takes fuel leads spelled blankBefore blankAfter ends
      (fun known => not_mem_of_once once known)
      (fun field member named => own field member value (by simp [named]))
      (fun unknown => other (name, value) List.mem_cons_self unknown)
    have others := induction fuel ([name].filter (isField fields) ++ met) false
      (gap ++ ',' :: next) rest (by omega) (leadsKey_comma blank blankNext) once
      (fun field member value found => own field member value (List.mem_cons_of_mem _ found))
      (fun entry found => other entry (List.mem_cons_of_mem _ found))
    rw [List.append_assoc, List.cons_append] at others
    rw [others] at read
    simpa using read

theorem record_yields {expected : String} {chars : List Char} {value : σ}
    (takes : List.Forall₂ (Takes only) readers fields) (distinct : (fields.map (·.name)).Nodup)
    (complete : ∀ met, (∀ field ∈ fields, field.isRequired → field.name ∈ met) → only met = value)
    (written : RecordText fields chars) :
    Yields (record expected readers (only [])) chars value := by
  intro gap rest blank _
  obtain ⟨entries, object, fills⟩ := written.fills distinct
  cases object with
  | @empty inner blankInner =>
    have whole := complete [] fun field member required =>
      absurd (fills.complete field member required) List.not_mem_nil
    simp [record, skipSpace_blank_cons blank, isSpace, members_end blankInner, whole]
  | @members inner chars _ blankInner object =>
    have once : (((entries.map Prod.fst).filter (isField fields)).reverse ++ []).Nodup := by
      rw [List.append_nil, List.nodup_reverse]
      exact fills.once
    have read := members_append takes object ((inner ++ (chars ++ rest)).length + 1) [] true inner
      rest (by simp only [List.length_append]; omega) (leadsKey_blank blankInner) once fills.own
      fills.other
    have whole := complete (((entries.map Prod.fst).filter (isField fields)).reverse ++ [])
      fun field member required => by
        have known := isField_iff.mpr (List.mem_map_of_mem member)
        rw [List.append_nil, List.mem_reverse]
        exact List.mem_filter.mpr ⟨fills.complete field member required, known⟩
    rw [whole] at read
    rw [List.cons_append, List.append_assoc, record, skipSpace_blank_cons blank rfl]
    exact read

end Members

end Bundler.Json
