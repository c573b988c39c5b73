import Bundler.Proofs.Lexing.Pieces

/-!
The lexer parts each text into pieces and gaps, and there is no other such partition of it: at each
place the characters that follow decide what begins there and how far it goes.
-/

namespace Bundler.Source

open Text (byteLength)

variable {place : Nat} {chars rest : List Char} {lexemes : List Lexeme}

/-- Pieces, each behind a gap, with a gap behind the last one. The first gap begins at a place of
the whole text. -/
inductive Parts : Nat → List Char → List Lexeme → Prop
  | nil {place : Nat} {gap : List Char} (isGap : Gap [] gap) : Parts place gap []
  | cons {place : Nat} {gap piece rest : List Char} {token : Token} {lexemes : List Lexeme}
      (isGap : Gap (piece ++ rest) gap) (isPiece : Piece rest token piece)
      (more : Parts (place + byteLength gap + byteLength piece) rest lexemes) :
      Parts place (gap ++ (piece ++ rest))
        (⟨token, place + byteLength gap, place + byteLength gap + byteLength piece⟩ :: lexemes)

theorem Parts.eq_lexFrom (parts : Parts place chars lexemes) : lexemes = lexFrom place chars := by
  induction parts with
  | @nil place gap isGap =>
      have read : lexFrom place (gap ++ []) = lexFrom (place + byteLength gap) [] :=
        isGap.lexFrom_append
      rw [List.append_nil] at read
      rw [read, lexFrom_nil]
  | cons isGap isPiece _ ih => rw [isGap.lexFrom_append, isPiece.lexFrom_append, ← ih]

/-! Every text has parts. -/

theorem Gap.append {gap more : List Char} (isGap : Gap (more ++ rest) gap)
    (behind : Gap rest more) : Gap rest (gap ++ more) := by
  induction isGap with
  | nil => exact behind
  | blank space _ ih => exact .blank space ih
  | comment oneLine ended _ ih =>
      rw [List.append_assoc]
      exact .comment oneLine (by rwa [List.append_assoc]) ih

theorem Parts.behind_gap {gap : List Char} (isGap : Gap chars gap)
    (parts : Parts (place + byteLength gap) chars lexemes) :
    Parts place (gap ++ chars) lexemes := by
  cases parts with
  | nil isNext => exact .nil (.append (by rwa [List.append_nil]) isNext)
  | @cons _ next piece rest token lexemes isNext isPiece more =>
      have length :
          place + byteLength (gap ++ next) = place + byteLength gap + byteLength next := by
        rw [Text.byteLength_append, Nat.add_assoc]
      rw [← length] at more
      rw [← List.append_assoc, ← length]
      exact .cons (isGap.append isNext) isPiece more

theorem exists_longest (test : Char → Bool) (chars : List Char) :
    ∃ first rest, chars = first ++ rest ∧ (∀ c ∈ first, test c) ∧ ∀ c ∈ rest.head?, ¬test c := by
  refine ⟨chars.takeWhile test, chars.dropWhile test, List.takeWhile_append_dropWhile.symm, ?_, ?_⟩
  · exact List.all_eq_true.mp List.all_takeWhile
  · intro c member
    have failed := List.head?_dropWhile_not test chars
    rw [Option.mem_def.mp member] at failed
    simpa using failed

theorem exists_piece {c : Char} (space : ¬isSpace c)
    (comment : ¬(c = '/' ∧ rest.head? = some '/')) :
    ∃ token piece after, c :: rest = piece ++ after ∧ Piece after token piece := by
  by_cases start : isWordStart c
  · obtain ⟨more, after, rfl, inside, ended⟩ := exists_longest isWordChar rest
    by_cases keyword : c :: more = "import".toList
    · exact ⟨.keyword, _, after, by rw [← keyword]; rfl, .keyword ended⟩
    · exact ⟨.word, c :: more, after, rfl, .word start inside ended keyword⟩
  by_cases quote : c = '"'
  · subst quote
    obtain ⟨body, after, rfl, inside, ended⟩ := exists_longest (· ≠ '"') rest
    have clean : '"' ∉ body := fun member => by simpa using inside _ member
    cases after with
    | nil => exact ⟨.unrecognized, '"' :: body, [], by simp, .unclosed clean rfl⟩
    | cons last after =>
        obtain rfl : last = '"' := by simpa using ended last rfl
        exact ⟨_, _, after, by simp, .quoted clean⟩
  by_cases sign : isSign c
  · rcases sign with rfl | ⟨bracket, rfl | rfl⟩
    · exact ⟨_, _, rest, rfl, .semicolon⟩
    · exact ⟨_, _, rest, rfl, .opening bracket⟩
    · exact ⟨_, _, rest, rfl, .closing bracket⟩
  · exact ⟨_, _, rest, rfl, .stray space start quote sign comment⟩

theorem exists_parts (place : Nat) (chars : List Char) :
    ∃ lexemes, Parts place chars lexemes := by
  -- What is left behind a comment or a piece is shorter, but not by one character.
  induction size : chars.length using Nat.strongRecOn generalizing place chars with
  | ind size ih =>
      subst size
      cases chars with
      | nil => exact ⟨[], .nil .nil⟩
      | cons c rest =>
          by_cases space : isSpace c
          · obtain ⟨lexemes, parts⟩ := ih rest.length (by simp) _ rest rfl
            exact ⟨lexemes, .behind_gap (.blank space .nil) parts⟩
          by_cases comment : c = '/' ∧ rest.head? = some '/'
          · obtain ⟨rfl, second⟩ := comment
            obtain ⟨tail, rfl⟩ := List.head?_eq_some_iff.mp second
            obtain ⟨note, after, rfl, inside, ended⟩ := exists_longest (· ≠ '\n') tail
            have oneLine : '\n' ∉ note := fun member => by simpa using inside _ member
            obtain ⟨lexemes, parts⟩ := ih after.length (by simp; omega) _ after rfl
            have isGap : Gap after ('/' :: '/' :: note ++ []) :=
              .comment oneLine (by simpa using ended) .nil
            rw [List.append_nil] at isGap
            exact ⟨lexemes, .behind_gap isGap parts⟩
          · obtain ⟨token, piece, after, split, isPiece⟩ := exists_piece space comment
            have shorter := congrArg List.length split
            have nonempty := List.length_pos_iff.mpr isPiece.ne_nil
            rw [List.length_append] at shorter
            obtain ⟨lexemes, parts⟩ := ih after.length (by omega) _ after rfl
            rw [split]
            exact ⟨_, .cons .nil isPiece parts⟩

theorem parts_lexFrom (place : Nat) (chars : List Char) :
    Parts place chars (lexFrom place chars) := by
  obtain ⟨lexemes, parts⟩ := exists_parts place chars
  rwa [← parts.eq_lexFrom]

/-! Partitions told by the places of their pieces. -/

/-- The bytes from `start` up to `stop` are some characters of a text, which are in a relation to
what follows them. -/
def Spans (source : String) (related : List Char → List Char → Prop) (start stop : Nat) : Prop :=
  ∃ before inside after, source.toList = before ++ inside ++ after ∧
    start = byteLength before ∧ stop = byteLength (before ++ inside) ∧ related after inside

/-- Places that pieces end at, from a place on, each with the place that the next one begins at. -/
def gapsFrom (place : Nat) (lexemes : List Lexeme) (length : Nat) : List (Nat × Nat) :=
  (place :: lexemes.map (·.stop)).zip (lexemes.map (·.start) ++ [length])

/-- Lexemes that leave nothing of a text but gaps. -/
structure Partition (source : String) (lexemes : List Lexeme) : Prop where
  nonempty : ∀ lexeme ∈ lexemes, lexeme.start < lexeme.stop
  ordered : lexemes.Pairwise fun earlier later => earlier.stop ≤ later.start
  pieces : ∀ lexeme ∈ lexemes, Spans source (Piece · lexeme.token) lexeme.start lexeme.stop
  gaps : ∀ gap ∈ gapsFrom 0 lexemes source.utf8ByteSize, Spans source Gap gap.1 gap.2

theorem append_inj_byteLength {before before' rest rest' : List Char}
    (same : before ++ rest = before' ++ rest') (length : byteLength before = byteLength before') :
    before = before' ∧ rest = rest' := by
  have cut := Text.cut?_append [] before rest
  rw [same, length, Text.cut?_append] at cut
  simpa [eq_comm] using cut

theorem gapsFrom_cons {lexeme : Lexeme} {length : Nat} :
    gapsFrom place (lexeme :: lexemes) length =
      (place, lexeme.start) :: gapsFrom lexeme.stop lexemes length := rfl

section

variable {source : String} {related : List Char → List Char → Prop} {before : List Char}

theorem Spans.behind {stop : Nat} (spans : Spans source related (byteLength before) stop)
    (split : source.toList = before ++ rest) :
    ∃ inside after, rest = inside ++ after ∧ stop = byteLength (before ++ inside) ∧
      related after inside := by
  obtain ⟨before', inside, after, split', start, stop, holds⟩ := spans
  rw [split, List.append_assoc] at split'
  obtain ⟨rfl, rfl⟩ := append_inj_byteLength split' start
  exact ⟨inside, after, rfl, stop, holds⟩

theorem parts_of_spans (split : source.toList = before ++ rest)
    (pieces : ∀ lexeme ∈ lexemes, Spans source (Piece · lexeme.token) lexeme.start lexeme.stop)
    (gaps : ∀ gap ∈ gapsFrom (byteLength before) lexemes source.utf8ByteSize,
      Spans source Gap gap.1 gap.2) : Parts (byteLength before) rest lexemes := by
  induction lexemes generalizing before rest with
  | nil =>
      obtain ⟨gap, after, rfl, stop, isGap⟩ :=
        (gaps (byteLength before, source.utf8ByteSize) (by simp [gapsFrom])).behind split
      have whole : before ++ gap ++ after = source.toList ++ [] := by
        rw [split, List.append_nil, List.append_assoc]
      obtain ⟨_, rfl⟩ := append_inj_byteLength whole (by rw [← stop, Text.byteLength_toList])
      rw [List.append_nil]
      exact .nil isGap
  | cons lexeme lexemes ih =>
      obtain ⟨token, start, stop⟩ := lexeme
      rw [gapsFrom_cons] at gaps
      obtain ⟨firstGap, laterGaps⟩ := List.forall_mem_cons.mp gaps
      obtain ⟨firstPiece, laterPieces⟩ := List.forall_mem_cons.mp pieces
      obtain ⟨gap, chars, rfl, rfl, isGap⟩ := firstGap.behind split
      rw [← List.append_assoc] at split
      obtain ⟨piece, after, rfl, rfl, isPiece⟩ := firstPiece.behind split
      rw [← List.append_assoc] at split
      have more := ih split laterPieces laterGaps
      simp only [Text.byteLength_append] at more ⊢
      exact .cons isGap isPiece more

theorem partition_of_parts (parts : Parts place rest lexemes)
    (split : source.toList = before ++ rest) (placed : place = byteLength before) :
    (∀ lexeme ∈ lexemes, place ≤ lexeme.start ∧ lexeme.start < lexeme.stop ∧
      Spans source (Piece · lexeme.token) lexeme.start lexeme.stop) ∧
    (lexemes.Pairwise fun earlier later => earlier.stop ≤ later.start) ∧
    ∀ gap ∈ gapsFrom place lexemes source.utf8ByteSize, Spans source Gap gap.1 gap.2 := by
  induction parts generalizing before with
  | @nil place gap isGap =>
      refine ⟨by simp, .nil, ?_⟩
      intro pair member
      obtain rfl : pair = (place, source.utf8ByteSize) := by simpa [gapsFrom] using member
      exact ⟨before, gap, [], by rw [split, List.append_nil], placed,
        by rw [← Text.byteLength_toList, split], isGap⟩
  | @cons place gap piece rest token lexemes isGap isPiece more ih =>
      have length := Text.byteLength_pos isPiece.ne_nil
      have behind :
          place + byteLength gap + byteLength piece = byteLength (before ++ gap ++ piece) := by
        simp [placed, Nat.add_assoc]
      obtain ⟨pieces, ordered, gaps⟩ := ih (by simp [split]) behind
      refine ⟨?_, ?_, ?_⟩
      · rw [List.forall_mem_cons]
        refine ⟨⟨by simp, by simpa using length, before ++ gap, piece, rest, by simp [split],
          by simp [placed], by simp [placed, Nat.add_assoc], isPiece⟩, ?_⟩
        intro lexeme member
        obtain ⟨later, holds⟩ := pieces lexeme member
        exact ⟨by omega, holds⟩
      · rw [List.pairwise_cons]
        exact ⟨fun lexeme member => (pieces lexeme member).1, ordered⟩
      · rw [gapsFrom_cons, List.forall_mem_cons]
        exact ⟨⟨before, gap, piece ++ rest, by simp [split], placed, by simp [placed], isGap⟩, gaps⟩

end

theorem partition_iff_parts {source : String} :
    Partition source lexemes ↔ Parts 0 source.toList lexemes := by
  have split : source.toList = [] ++ source.toList := rfl
  constructor
  · intro partition
    exact parts_of_spans split partition.pieces partition.gaps
  · intro parts
    obtain ⟨pieces, ordered, gaps⟩ := partition_of_parts parts split rfl
    exact ⟨fun lexeme member => (pieces lexeme member).2.1, ordered,
      fun lexeme member => (pieces lexeme member).2.2, gaps⟩

/-- The lexemes of a text are its pieces, with nothing but gaps before, between and behind them,
and no other lexemes are. -/
theorem lex_partition (source : String) (lexemes : List Lexeme) :
    Partition source lexemes ↔ lexemes = lex source := by
  rw [partition_iff_parts, ← lexFrom_zero]
  constructor
  · intro parts
    exact parts.eq_lexFrom
  · rintro rfl
    exact parts_lexFrom 0 source.toList

/-- A slash in a quotation begins no comment, and a quote in a comment no quotation. A digit is no
word's first character, and a slash alone is no comment. -/
example : lex "é \"//\" // \"\n9a/" =
    [⟨.unrecognized, 0, 2⟩, ⟨.quoted "//", 3, 7⟩, ⟨.unrecognized, 13, 14⟩, ⟨.word, 14, 15⟩,
      ⟨.unrecognized, 15, 16⟩] := by
  decide +kernel

end Bundler.Source
