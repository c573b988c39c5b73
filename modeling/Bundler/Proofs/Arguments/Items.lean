import Bundler.Arguments.Level
import Mathlib.Data.List.Forall2
import Mathlib.Data.List.TakeWhile

/-!
Command lines as sequences of items: operands, and options that are written with their values
attached or have none. An item means the same wherever it stands, so that a line of items is read as
their meanings in the order in which they are given.
-/

namespace Bundler.Arguments

/-- A word of a command line that says by itself what it is. -/
inductive Item
  | operand (value : String)
  /-- A long option with its value behind an equals sign. -/
  | attached (name value : String)
  | long (name : String)
  | short (c : Char)
  deriving DecidableEq, Repr

def Item.word : Item → String
  | operand value => value
  | attached name value => "--" ++ name ++ "=" ++ value
  | long name => "--" ++ name
  | short c => String.ofList ['-', c]

/-- The values can be given to the argument in one occurrence. -/
structure Argument.Admits (argument : Argument) (values : List String) : Prop where
  notHelp : argument.kind ≠ .help
  notVersion : argument.kind ≠ .version
  valued : argument.kind.takesValue → values ≠ []
  checked : ∀ value ∈ values, argument.kind.check value = .ok ()

namespace Argument

variable {argument : Argument} {value : String}

theorem admits_value (takes : argument.kind.takesValue)
    (checked : argument.kind.check value = .ok ()) : argument.Admits [value] := by
  refine ⟨?_, ?_, fun _ => List.cons_ne_nil _ _, by simpa using checked⟩
  · intro help
    rw [help] at takes
    cases takes
  · intro version
    rw [version] at takes
    cases takes

theorem admits_nothing (flag : argument.kind = .flag) : argument.Admits [] := by
  refine ⟨?_, ?_, ?_, by simp⟩ <;> rw [flag] <;> simp [Kind.takesValue]

end Argument

/-- What an item gives to which argument of a level that has at most one operand. -/
inductive Item.Gives (level : Level) : Item → Argument × List String → Prop
  | operand {argument : Argument} {value : String} (known : level.operands = [argument])
      (single : ¬argument.many) (undashed : value.toList.head? ≠ some '-') :
      Gives level (.operand value) (argument, [value])
  | attached {argument : Argument} {name value : String} (known : level.long? name = some argument)
      (takes : argument.kind.takesValue) (whole : '=' ∉ name.toList) :
      Gives level (.attached name value) (argument, [value])
  | long {argument : Argument} {name : String} (known : level.long? name = some argument)
      (bare : ¬argument.kind.takesValue) (whole : '=' ∉ name.toList) (named : name ≠ "") :
      Gives level (.long name) (argument, [])
  | short {argument : Argument} {c : Char} (known : level.short? c = some argument)
      (bare : ¬argument.kind.takesValue) (single : c ≠ '-') :
      Gives level (.short c) (argument, [])

/-- Two occurrences are not one too many. -/
def Compatible (occurrence other : Argument × List String) : Prop :=
  occurrence.1.name = other.1.name → occurrence.1.many ∧ other.1.many

theorem Compatible.symm {occurrence other : Argument × List String}
    (compatible : Compatible occurrence other) : Compatible other occurrence :=
  fun same => (compatible same.symm).symm

def Matches.ofOccurrences (occurrences : List (Argument × List String)) : Matches :=
  occurrences.map fun (argument, values) => (argument.name, values)

/-! Names and values. -/

theorem splitValue_attached {name value : List Char} (whole : '=' ∉ name) :
    Parse.splitValue (name ++ '=' :: value) = (String.ofList name, some (String.ofList value)) := by
  have noSign : ∀ c ∈ name, decide (c ≠ '=') = true := by
    intro c member
    rw [decide_eq_true_eq]
    rintro rfl
    exact whole member
  rw [Parse.splitValue, List.dropWhile_append_of_pos noSign, List.takeWhile_append_of_pos noSign]
  simp

theorem splitValue_bare {name : List Char} (whole : '=' ∉ name) :
    Parse.splitValue name = (String.ofList name, none) := by
  have noSign : name.dropWhile (· ≠ '=') = [] := by
    rw [List.dropWhile_eq_nil_iff]
    intro c member
    rw [decide_eq_true_eq]
    rintro rfl
    exact whole member
  rw [Parse.splitValue, noSign]

namespace Parse

variable {level : Level} {parse : Parse} {argument : Argument} {values : List String}
  {value : String} {item : Item} {items : List Item}
  {given : Argument × List String} {met occurrences : List (Argument × List String)}

theorem accept_eq_ok (admits : argument.Admits values)
    (fresh : argument.many ∨ ¬parse.found.has argument.name) :
    parse.accept argument values =
      .ok { parse with found := parse.found ++ [(argument.name, values)] } := by
  have checked : values.forM argument.kind.check = .ok () := by
    have all := admits.checked
    clear admits
    induction values with
    | nil => rfl
    | cons value values ih =>
        obtain ⟨head, tail⟩ := List.forall_mem_cons.mp all
        rw [List.forM, head]
        exact ih tail
  have given : (argument.kind.takesValue && values.isEmpty) = false := by
    rw [Bool.and_eq_false_imp, List.isEmpty_eq_false_iff]
    exact admits.valued
  have once : (!argument.many && parse.found.has argument.name) = false := by
    rcases fresh with many | new
    · simp [many]
    · simp [new]
  unfold accept
  split
  · rename_i help
    exact absurd help admits.notHelp
  · rename_i version
    exact absurd version admits.notVersion
  · rw [given, once, checked]
    rfl

theorem settle_pending (pending : parse.pending = some (argument, values))
    (admits : argument.Admits values) (fresh : argument.many ∨ ¬parse.found.has argument.name) :
    parse.settle = .ok { parse with
      pending := none, awaiting := false, found := parse.found ++ [(argument.name, values)] } := by
  unfold settle
  rw [pending]
  exact accept_eq_ok admits fresh

theorem has_ofOccurrences_iff {name : String} :
    (Matches.ofOccurrences met).has name ↔ ∃ occurrence ∈ met, occurrence.1.name = name := by
  simp [Matches.ofOccurrences, Matches.has]

theorem fresh_of_compatible (admissible : ∀ earlier ∈ met, Compatible earlier (argument, values)) :
    argument.many ∨ ¬(Matches.ofOccurrences met).has argument.name := by
  by_cases again : (Matches.ofOccurrences met).has argument.name
  · obtain ⟨earlier, member, same⟩ := has_ofOccurrences_iff.mp again
    exact .inl (admissible earlier member same).2
  · exact .inr again

theorem words_cons_of_pastDashes {next : Parse} {first : String} {more : List String}
    (past : parse.pastDashes) (read : parse.operand level first = .ok next) :
    parse.words level (first :: more) = next.words level more := by
  rw [words, if_pos past, read]
  rfl

theorem words_pastDashes (trailing : level.trailing = some argument) {found : Matches}
    {operands : Nat} (arguments more : List String) :
    Parse.words level
        { found, pending := some (argument, arguments), pastDashes := true, operands } more =
      .ok ({ found, pending := some (argument, arguments ++ more), pastDashes := true,
             operands }, none) := by
  induction more generalizing arguments with
  | nil => simp [words]
  | cons word more ih =>
      have next := ih (arguments ++ [word])
      rw [List.append_assoc, List.singleton_append] at next
      rw [← next]
      apply words_cons_of_pastDashes rfl
      simp [operand, trailing]

/-- Between two items all occurrences met are on record, except that an operand may be pending. -/
inductive Ready (level : Level) : List (Argument × List String) → Parse → Prop
  | recorded {met : List (Argument × List String)} {operands : Nat}
      (unread : ∀ argument ∈ level.operands, argument ∉ met.map Prod.fst → operands = 0) :
      Ready level met { found := .ofOccurrences met, operands }
  | pending {met : List (Argument × List String)} {argument : Argument} {value : String}
      (known : level.operands = [argument]) (admits : argument.Admits [value])
      (admissible : ∀ earlier ∈ met, Compatible earlier (argument, [value])) :
      Ready level (met ++ [(argument, [value])])
        { found := .ofOccurrences met, pending := some (argument, [value]), operands := 1 }

theorem ready_empty (level : Level) : Ready level [] {} :=
  .recorded fun _ _ _ => rfl

namespace Ready

theorem settle_eq (ready : parse.Ready level met) (pastDashes : Bool) :
    settle { parse with pastDashes } =
      .ok { found := .ofOccurrences met, operands := parse.operands, pastDashes } := by
  cases ready with
  | recorded _ => rfl
  | pending _ admits admissible =>
      refine (settle_pending rfl admits (fresh_of_compatible admissible)).trans ?_
      simp [Matches.ofOccurrences]

theorem awaiting_eq (ready : parse.Ready level met) : parse.awaiting = false := by
  cases ready <;> rfl

theorem pastDashes_eq (ready : parse.Ready level met) : parse.pastDashes = false := by
  cases ready <;> rfl

theorem settle_self (ready : parse.Ready level met) :
    parse.settle = .ok { found := .ofOccurrences met, operands := parse.operands } := by
  exact (ready.settle_eq parse.pastDashes).trans (by rw [ready.pastDashes_eq])

theorem operands_eq_zero (ready : parse.Ready level met) (known : argument ∈ level.operands)
    (new : argument ∉ met.map Prod.fst) : parse.operands = 0 := by
  cases ready with
  | recorded unread => exact unread argument known new
  | pending only _ _ =>
      rw [only, List.mem_singleton] at known
      simp [known] at new

theorem occurrence_eq (ready : parse.Ready level met) (admits : argument.Admits values)
    (admissible : ∀ earlier ∈ met, Compatible earlier (argument, values)) :
    parse.occurrence argument values = .ok
      { found := .ofOccurrences (met ++ [(argument, values)]), operands := parse.operands } := by
  unfold occurrence
  rw [ready.settle_self]
  refine (accept_eq_ok admits (fresh_of_compatible admissible)).trans ?_
  simp [Matches.ofOccurrences]

theorem snoc (ready : parse.Ready level met) (given : Argument × List String) :
    Ready level (met ++ [given])
      { found := .ofOccurrences (met ++ [given]), operands := parse.operands } := by
  refine .recorded fun operand known new => ready.operands_eq_zero known ?_
  rw [List.map_append, List.mem_append, not_or] at new
  exact new.1

theorem operand_eq (ready : parse.Ready level met) (known : level.operands = [argument])
    (single : ¬argument.many)
    (admissible : ∀ earlier ∈ met, Compatible earlier (argument, [value])) :
    parse.operand level value = .ok
      { found := .ofOccurrences met, pending := some (argument, [value]), operands := 1 } := by
  have new : argument ∉ met.map Prod.fst := by
    rw [List.mem_map]
    rintro ⟨earlier, member, rfl⟩
    exact single (admissible earlier member rfl).2
  have first := ready.operands_eq_zero (by simp [known]) new
  unfold operand
  rw [ready.pastDashes_eq]
  simp only [first, known, List.getElem?_cons_zero, ready.settle_self]
  rfl

theorem wantsDashes_eq (ready : parse.Ready level met) : parse.wantsDashes = false := by
  rw [wantsDashes, ready.awaiting_eq, Bool.false_and]

theorem word_operand (ready : parse.Ready level met) (undashed : value.toList.head? ≠ some '-') :
    parse.word level value = parse.operand level value := by
  unfold word
  rw [ready.wantsDashes_eq, ready.awaiting_eq]
  split
  · contradiction
  · split
    · rename_i chars
      simp [chars] at undashed
    · rename_i chars
      simp [chars] at undashed
    · rename_i chars
      simp [chars] at undashed
    · rfl

theorem word_long (ready : parse.Ready level met) {name : List Char} (named : name ≠ []) :
    parse.word level (String.ofList ('-' :: '-' :: name)) = parse.long level name := by
  unfold word
  rw [ready.wantsDashes_eq, String.toList_ofList]
  cases name with
  | nil => contradiction
  | cons c name => rfl

theorem word_short (ready : parse.Ready level met) {c : Char} (single : c ≠ '-') :
    parse.word level (String.ofList ['-', c]) = parse.short level [c] := by
  unfold word
  rw [ready.wantsDashes_eq, String.toList_ofList]
  simp [single]

theorem word_eq (ready : parse.Ready level met) (gives : item.Gives level given)
    (admits : given.1.Admits given.2) (admissible : ∀ earlier ∈ met, Compatible earlier given) :
    ∃ next : Parse, parse.word level item.word = .ok next ∧ next.Ready level (met ++ [given]) := by
  cases gives with
  | operand known single undashed =>
      refine ⟨_, ?_, .pending known admits admissible⟩
      rw [Item.word, ready.word_operand undashed, ready.operand_eq known single admissible]
  | @attached argument name value known takes whole =>
      have spelled : (Item.attached name value).word =
          String.ofList ('-' :: '-' :: (name.toList ++ '=' :: value.toList)) := by
        rw [← String.toList_inj, Item.word]
        simp [String.toList_append]
      refine ⟨_, ?_, ready.snoc (argument, [value])⟩
      rw [spelled, ready.word_long (by simp), long, splitValue_attached whole]
      simp only [String.ofList_toList, known, takes, ↓reduceIte, valued,
        ready.occurrence_eq admits admissible]
  | @long argument name known bare whole named =>
      have spelled : (Item.long name).word = String.ofList ('-' :: '-' :: name.toList) := by
        rw [← String.toList_inj, Item.word]
        simp [String.toList_append]
      refine ⟨_, ?_, ready.snoc (argument, [])⟩
      rw [spelled, ready.word_long (by simpa using named), Parse.long, splitValue_bare whole]
      simp only [String.ofList_toList, known, bare, Bool.false_eq_true, ↓reduceIte,
        Option.isSome_none, ready.occurrence_eq admits admissible]
  | @short argument c known bare single =>
      refine ⟨_, ?_, ready.snoc (argument, [])⟩
      rw [Item.word, ready.word_short single, Parse.short, known]
      simp only [bare, Bool.false_eq_true, ↓reduceIte, ready.occurrence_eq admits admissible]
      rfl

theorem words_eq (noCommands : level.commands = [])
    (gives : List.Forall₂ (Item.Gives level) items occurrences)
    (admits : ∀ given ∈ occurrences, given.1.Admits given.2)
    (compatible : occurrences.Pairwise Compatible)
    (ready : parse.Ready level met)
    (admissible : ∀ earlier ∈ met, ∀ given ∈ occurrences, Compatible earlier given)
    (rest : List String) :
    ∃ next : Parse, next.Ready level (met ++ occurrences) ∧
      parse.words level (items.map Item.word ++ rest) = next.words level rest := by
  induction gives generalizing parse met with
  | nil => exact ⟨parse, by simpa using ready, rfl⟩
  | @cons item given items occurrences first _ ih =>
      obtain ⟨firstAdmits, restAdmit⟩ := List.forall_mem_cons.mp admits
      obtain ⟨ahead, later⟩ := List.pairwise_cons.mp compatible
      obtain ⟨inner, read, readied⟩ := ready.word_eq first firstAdmits fun earlier member =>
        admissible earlier member given List.mem_cons_self
      have inOrder : ∀ earlier ∈ met ++ [given], ∀ other ∈ occurrences,
          Compatible earlier other := by
        intro earlier member other otherMember
        rcases List.mem_append.mp member with before | last
        · exact admissible earlier before other (List.mem_cons_of_mem _ otherMember)
        · rw [List.mem_singleton.mp last]
          exact ahead other otherMember
      obtain ⟨next, nextReady, run⟩ := ih restAdmit later readied inOrder
      refine ⟨next, by simpa using nextReady, ?_⟩
      rw [← run, List.map_cons, List.cons_append, words, ready.pastDashes_eq, ready.awaiting_eq,
        noCommands, read]
      rfl

theorem words_trailing (ready : parse.Ready level met) (noCommands : level.commands = [])
    (trailing : level.trailing = some argument) (other : argument ∉ level.operands)
    (first : String) (more : List String) :
    parse.words level ("--" :: first :: more) = .ok
      ({ found := .ofOccurrences met, pending := some (argument, first :: more),
         pastDashes := true, operands := parse.operands }, none) := by
  have dashes : parse.word level "--" = .ok { parse with pastDashes := true } := by
    unfold word
    rw [ready.wantsDashes_eq]
    rfl
  have opened : operand level { parse with pastDashes := true } first = .ok
      { found := .ofOccurrences met, pending := some (argument, [first]), pastDashes := true,
        operands := parse.operands } := by
    have settled := ready.settle_eq true
    cases ready with
    | recorded _ =>
        rw [operand, trailing]
    | @pending met operandArgument value known _ _ =>
        have apart : operandArgument ≠ argument := by
          rintro rfl
          exact other (by simp [known])
        rw [operand, trailing]
        simp only [apart, ↓reduceIte]
        rw [settled]
        rfl
  rw [words, ready.pastDashes_eq, ready.awaiting_eq, noCommands, dashes]
  simp only [Bool.false_eq_true, ↓reduceIte, List.contains_nil, Bool.and_false]
  exact (words_cons_of_pastDashes rfl opened).trans (words_pastDashes trailing [first] more)

end Ready

end Parse

end Bundler.Arguments
