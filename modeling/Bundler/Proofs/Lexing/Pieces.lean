import Bundler.Proofs.Lexing.Seams

/-!
The pieces of a text and the gaps between them, told by their characters and by what follows them,
and how the lexer reads each in front of the rest of a text.
-/

namespace Bundler.Source

open Text (byteLength)

/-- Blanks and comments in front of the rest of a text. A comment goes up to the end of its line,
which is not a part of it. -/
inductive Gap (rest : List Char) : List Char → Prop
  | nil : Gap rest []
  | blank {c : Char} {chars : List Char} (space : isSpace c) (more : Gap rest chars) :
      Gap rest (c :: chars)
  | comment {note chars : List Char} (oneLine : '\n' ∉ note)
      (ended : ∀ c ∈ (chars ++ rest).head?, c = '\n') (more : Gap rest chars) :
      Gap rest ('/' :: '/' :: note ++ chars)

def Bracket.openingChar : Bracket → Char
  | brace => '{'
  | paren => '('
  | square => '['

def Bracket.closingChar : Bracket → Char
  | brace => '}'
  | paren => ')'
  | square => ']'

def isSign (c : Char) : Prop :=
  c = ';' ∨ ∃ bracket : Bracket, c = bracket.openingChar ∨ c = bracket.closingChar

def EndsWord (rest : List Char) : Prop :=
  ∀ c ∈ rest.head?, ¬isWordChar c

theorem not_isWordChar_of_isSpace {c : Char} (space : isSpace c) : ¬isWordChar c := by
  simp only [isSpace, Bool.or_eq_true, beq_iff_eq] at space
  rcases space with (((rfl | rfl) | rfl) | rfl) | rfl <;> decide

theorem Gap.endsWord {gap rest : List Char} (isGap : Gap rest gap) (ended : EndsWord rest) :
    EndsWord (gap ++ rest) := by
  intro c first
  cases isGap with
  | nil => exact ended c first
  | blank space _ =>
      obtain rfl := Option.some.inj first
      exact not_isWordChar_of_isSpace space
  | comment _ _ _ =>
      obtain rfl := Option.some.inj first
      decide

/-- The characters of a token, or of what is none, in front of the rest of a text. -/
inductive Piece (rest : List Char) : Token → List Char → Prop
  | keyword (ended : EndsWord rest) : Piece rest .keyword "import".toList
  | word {first : Char} {more : List Char} (start : isWordStart first)
      (inside : ∀ c ∈ more, isWordChar c) (ended : EndsWord rest)
      (other : first :: more ≠ "import".toList) : Piece rest .word (first :: more)
  | quoted {body : List Char} (clean : '"' ∉ body) :
      Piece rest (.quoted (String.ofList body)) ('"' :: body ++ ['"'])
  | opening (bracket : Bracket) : Piece rest (.opening bracket) [bracket.openingChar]
  | closing (bracket : Bracket) : Piece rest (.closing bracket) [bracket.closingChar]
  | semicolon : Piece rest .semicolon [';']
  | stray {c : Char} (space : ¬isSpace c) (start : ¬isWordStart c) (quote : c ≠ '"')
      (sign : ¬isSign c) (comment : ¬(c = '/' ∧ rest.head? = some '/')) :
      Piece rest .unrecognized [c]
  | unclosed {body : List Char} (clean : '"' ∉ body) (last : rest = []) :
      Piece rest .unrecognized ('"' :: body)

theorem Piece.ne_nil {rest chars : List Char} {token : Token} (piece : Piece rest token chars) :
    chars ≠ [] := by
  cases piece <;> simp

theorem ofChar?_eq_none {c : Char} (other : ¬isSign c) : Token.ofChar? c = none := by
  unfold Token.ofChar?
  split
  · exact absurd (.inr ⟨.brace, .inl rfl⟩) other
  · exact absurd (.inr ⟨.brace, .inr rfl⟩) other
  · exact absurd (.inr ⟨.paren, .inl rfl⟩) other
  · exact absurd (.inr ⟨.paren, .inr rfl⟩) other
  · exact absurd (.inr ⟨.square, .inl rfl⟩) other
  · exact absurd (.inr ⟨.square, .inr rfl⟩) other
  · exact absurd (.inl rfl) other
  · rfl

/-! The lexer in front of the rest of a text. -/

def lexFrom (place : Nat) (chars : List Char) : List Lexeme :=
  (Lexer.run { position := place } chars).finish

theorem lexFrom_zero (source : String) : lexFrom 0 source.toList = lex source := rfl

theorem lexFrom_eq (place : Nat) (chars : List Char) :
    lexFrom place chars = (Lexer.run {} chars).finish.map (·.shift place) := by
  rw [lexFrom, Lexer.finish_run_between _ rfl]
  rfl

namespace Lexer

variable {lexer : Lexer} {chars rest : List Char}

theorem finish_run_fresh (fresh : lexer.mode = .between) :
    (lexer.run chars).finish = lexer.yielded.reverse ++ lexFrom lexer.position chars := by
  rw [lexFrom_eq, finish_run_between lexer fresh]

theorem finish_run_ended (opened : lexer.mode = .comment)
    (ended : ∀ c ∈ chars.head?, c = '\n') :
    (lexer.run chars).finish = lexer.yielded.reverse ++ lexFrom lexer.position chars := by
  rw [lexFrom_eq, finish_run_comment lexer opened ended]

theorem mode_settle (outside : lexer.mode.isOutside) : lexer.settle.mode = .between := by
  unfold settle
  cases mode : lexer.mode with
  | between => exact mode
  | word start chars => rfl
  | quoted start body => rfl
  | slash start => rfl
  | comment => simp [mode, Mode.isOutside] at outside

theorem finish_run_settle (outside : lexer.mode.isOutside) (ended : EndsWord rest)
    (last : ∀ start, lexer.mode = .slash start → rest.head? ≠ some '/') :
    (lexer.run rest).finish = lexer.settle.yielded.reverse ++ lexFrom lexer.position rest := by
  have fresh := mode_settle outside
  cases rest with
  | nil => rw [run_nil, finish_eq, lexFrom, run_nil, finish, List.reverse_nil, List.append_nil]
  | cons c rest =>
      have fed : lexer.feed c = lexer.settle.feed c := by
        rw [feed_settle lexer c outside (ended c rfl) fun start slash same =>
          last start slash (congrArg some same), feed, fresh]
      rw [run_cons, fed, ← run_cons, finish_run_fresh fresh, position_settle]

theorem run_word {start : Nat} {begun : List Char} (opened : lexer.mode = .word start begun)
    (inside : ∀ c ∈ chars, isWordChar c) :
    ∃ position, lexer.run chars =
      { lexer with mode := .word start (chars.reverse ++ begun), position } := by
  induction chars generalizing lexer begun with
  | nil => exact ⟨lexer.position, by simp [← opened]⟩
  | cons c chars ih =>
      obtain ⟨first, later⟩ := List.forall_mem_cons.mp inside
      have fed : lexer.feed c = { lexer.advance c with mode := .word start (c :: begun) } := by
        rw [feed, opened]
        exact if_pos first
      have opened : (lexer.feed c).mode = .word start (c :: begun) := by rw [fed]
      obtain ⟨position, ran⟩ := ih opened later
      refine ⟨position, ?_⟩
      rw [run_cons, ran, fed]
      simp [advance]

end Lexer

variable {place : Nat} {c : Char} {token : Token} {chars rest : List Char}

theorem lexFrom_nil : lexFrom place [] = [] := rfl

theorem lexFrom_blank (space : isSpace c) :
    lexFrom place (c :: chars) = lexFrom (place + c.utf8Size) chars := by
  have fed : Lexer.feed { position := place } c = { position := place + c.utf8Size } := by
    simp [Lexer.feed, Lexer.begin, Lexer.advance, space]
  rw [lexFrom, Lexer.run_cons, fed]
  rfl

theorem lexFrom_comment {note : List Char} (oneLine : '\n' ∉ note)
    (ended : ∀ c ∈ chars.head?, c = '\n') :
    lexFrom place ('/' :: '/' :: note ++ chars) =
      lexFrom (place + byteLength ('/' :: '/' :: note)) chars := by
  obtain ⟨position, read⟩ := Lexer.run_open_comment { position := place } rfl (by simp) oneLine
  have stop := Lexer.position_run { position := place } ('/' :: '/' :: note)
  rw [read] at stop
  rw [lexFrom, Lexer.run_append, read, Lexer.finish_run_ended rfl ended, ← stop]
  rfl

theorem Gap.lexFrom_append {gap : List Char} (isGap : Gap rest gap) :
    lexFrom place (gap ++ rest) = lexFrom (place + byteLength gap) rest := by
  induction isGap generalizing place with
  | nil => rfl
  | blank space _ ih =>
      rw [List.cons_append, lexFrom_blank space, ih, Text.byteLength_cons, Nat.add_assoc]
  | comment oneLine ended _ ih =>
      rw [List.append_assoc, lexFrom_comment oneLine ended, ih, Text.byteLength_append,
        Nat.add_assoc]

theorem lexFrom_single (space : ¬isSpace c) (start : ¬isWordStart c) (quote : c ≠ '"')
    (slash : c ≠ '/') (read : (Token.ofChar? c).getD .unrecognized = token) :
    lexFrom place ([c] ++ rest) =
      ⟨token, place, place + byteLength [c]⟩ :: lexFrom (place + byteLength [c]) rest := by
  have fed : Lexer.feed { position := place } c =
      ⟨.between, place + byteLength [c], [⟨token, place, place + byteLength [c]⟩]⟩ := by
    simp [Lexer.feed, Lexer.begin, Lexer.advance, Lexer.yield, space, start, quote, slash, read]
  rw [lexFrom, List.cons_append, Lexer.run_cons, fed, Lexer.finish_run_fresh rfl]
  rfl

theorem lexFrom_slash (comment : rest.head? ≠ some '/') :
    lexFrom place ('/' :: rest) =
      ⟨.unrecognized, place, place + '/'.utf8Size⟩ :: lexFrom (place + '/'.utf8Size) rest := by
  have fed : Lexer.feed { position := place } '/' = ⟨.slash place, place + '/'.utf8Size, []⟩ := rfl
  rw [lexFrom, Lexer.run_cons, fed]
  cases rest with
  | nil => rfl
  | cons c rest =>
      have other : c ≠ '/' := fun same => comment (congrArg some same)
      have ended : Lexer.feed ⟨.slash place, place + '/'.utf8Size, []⟩ c =
          Lexer.feed ⟨.between, place + '/'.utf8Size,
            [⟨.unrecognized, place, place + '/'.utf8Size⟩]⟩ c := if_neg other
      rw [Lexer.run_cons, ended, ← Lexer.run_cons, Lexer.finish_run_fresh rfl]
      rfl

theorem lexFrom_word {first : Char} {more : List Char} (start : isWordStart first)
    (inside : ∀ c ∈ more, isWordChar c) (ended : EndsWord rest) :
    lexFrom place (first :: more ++ rest) =
      ⟨.ofWord (first :: more), place, place + byteLength (first :: more)⟩ ::
        lexFrom (place + byteLength (first :: more)) rest := by
  have space : ¬isSpace first := fun space =>
    not_isWordChar_of_isSpace space (by simp [isWordChar, start])
  have fed : Lexer.feed { position := place } first =
      ⟨.word place [first], place + first.utf8Size, []⟩ := by
    simp [Lexer.feed, Lexer.begin, Lexer.advance, space, start]
  have opened : (Lexer.feed { position := place } first).mode = .word place [first] := by rw [fed]
  obtain ⟨position, read⟩ := Lexer.run_word opened inside
  have stop := Lexer.position_run { position := place } (first :: more)
  rw [Lexer.run_cons, read] at stop
  rw [lexFrom, Lexer.run_append, Lexer.run_cons, read,
    Lexer.finish_run_settle rfl ended (by simp), ← stop, fed]
  simp [Lexer.settle, Lexer.yield]

theorem lexFrom_quoted {body : List Char} (clean : '"' ∉ body) :
    lexFrom place ('"' :: body ++ ['"'] ++ rest) =
      ⟨.quoted (String.ofList body), place, place + byteLength ('"' :: body ++ ['"'])⟩ ::
        lexFrom (place + byteLength ('"' :: body ++ ['"'])) rest := by
  obtain ⟨stop, read⟩ := Lexer.run_quotation { position := place } rfl clean
  have position := Lexer.position_run { position := place } ('"' :: body ++ ['"'])
  rw [read] at position
  rw [lexFrom, Lexer.run_append, read, Lexer.finish_run_fresh rfl, ← position]
  rfl

theorem lexFrom_unclosed {body : List Char} (clean : '"' ∉ body) :
    lexFrom place ('"' :: body) =
      [⟨.unrecognized, place, place + byteLength ('"' :: body)⟩] := by
  have opened : (Lexer.feed { position := place } '"').mode = .quoted place [] := rfl
  obtain ⟨position, read⟩ := Lexer.run_quoted _ opened clean
  have stop := Lexer.position_run { position := place } ('"' :: body)
  rw [Lexer.run_cons, read] at stop
  rw [lexFrom, Lexer.run_cons, read, ← stop]
  rfl

theorem Piece.lexFrom_append {piece : List Char} (isPiece : Piece rest token piece) :
    lexFrom place (piece ++ rest) =
      ⟨token, place, place + byteLength piece⟩ :: lexFrom (place + byteLength piece) rest := by
  cases isPiece with
  | keyword ended => exact lexFrom_word (by decide) (List.all_eq_true.mp (by decide)) ended
  | word start inside ended other =>
      rw [lexFrom_word start inside ended, Token.ofWord, if_neg other]
  | quoted clean => exact lexFrom_quoted clean
  | opening bracket =>
      cases bracket <;> exact lexFrom_single (by decide) (by decide) (by decide) (by decide) rfl
  | closing bracket =>
      cases bracket <;> exact lexFrom_single (by decide) (by decide) (by decide) (by decide) rfl
  | semicolon => exact lexFrom_single (by decide) (by decide) (by decide) (by decide) rfl
  | @stray c space start quote sign comment =>
      by_cases slash : c = '/'
      · subst slash
        exact lexFrom_slash fun second => comment ⟨rfl, second⟩
      · have token : (Token.ofChar? c).getD .unrecognized = .unrecognized := by
          rw [ofChar?_eq_none sign, Option.getD_none]
        exact lexFrom_single space start quote slash token
  | unclosed clean last =>
      subst last
      rw [List.append_nil, lexFrom_unclosed clean, lexFrom_nil]

end Bundler.Source
