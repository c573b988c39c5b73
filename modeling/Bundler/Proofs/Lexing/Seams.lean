import Bundler.Proofs.Text.Bytes
import Bundler.Source.Lexer

/-!
What the lexer yields for a text that follows another one. Where a token has just ended, what was
read before only moves the places of what comes next; a quoted text and a comment each end so,
whatever is in them.
-/

namespace Bundler.Source

def Lexeme.shift (offset : Nat) (lexeme : Lexeme) : Lexeme :=
  ⟨lexeme.token, offset + lexeme.start, offset + lexeme.stop⟩

def Mode.shift (offset : Nat) : Mode → Mode
  | between => between
  | word start chars => word (offset + start) chars
  | quoted start body => quoted (offset + start) body
  | slash start => slash (offset + start)
  | comment => comment

/-- Neither a quoted text nor a comment has begun. -/
def Mode.isOutside : Mode → Bool
  | between => true
  | word _ _ => true
  | quoted _ _ => false
  | slash _ => true
  | comment => false

def Mode.isQuoted : Mode → Bool
  | between => false
  | word _ _ => false
  | quoted _ _ => true
  | slash _ => false
  | comment => false

namespace Lexer

variable (lexer : Lexer) (offset : Nat) (earlier : List Lexeme) (c : Char)

def behind : Lexer :=
  ⟨lexer.mode.shift offset, offset + lexer.position,
    lexer.yielded.map (·.shift offset) ++ earlier⟩

theorem advance_behind : (lexer.behind offset earlier).advance c =
    (lexer.advance c).behind offset earlier := by
  simp [behind, advance, Nat.add_assoc]

theorem yield_behind (token : Token) (start stop : Nat) :
    (lexer.behind offset earlier).yield token (offset + start) (offset + stop) =
      (lexer.yield token start stop).behind offset earlier := by
  simp [behind, yield, Mode.shift, Lexeme.shift]

theorem mode_behind (mode : Mode) :
    { lexer.behind offset earlier with mode := mode.shift offset } =
      { lexer with mode }.behind offset earlier := rfl

theorem begin_behind :
    (lexer.behind offset earlier).begin c = (lexer.begin c).behind offset earlier := by
  have position : (lexer.behind offset earlier).position = offset + lexer.position := rfl
  simp only [begin, advance_behind, position, Nat.add_assoc]
  split
  · rfl
  split
  · exact mode_behind _ offset earlier (.word lexer.position [c])
  split
  · exact mode_behind _ offset earlier (.quoted lexer.position [])
  split
  · exact mode_behind _ offset earlier (.slash lexer.position)
  · exact yield_behind _ offset earlier _ lexer.position (lexer.position + c.utf8Size)

theorem feed_behind :
    (lexer.behind offset earlier).feed c = (lexer.feed c).behind offset earlier := by
  have mode : (lexer.behind offset earlier).mode = lexer.mode.shift offset := rfl
  have position : (lexer.behind offset earlier).position = offset + lexer.position := rfl
  simp only [feed, mode, position]
  cases lexer.mode with
  | between => exact begin_behind lexer offset earlier c
  | word start chars =>
      simp only [Mode.shift, advance_behind, yield_behind, begin_behind]
      split
      · exact mode_behind _ offset earlier (.word start (c :: chars))
      · rfl
  | quoted start body =>
      simp only [Mode.shift, advance_behind, Nat.add_assoc]
      split
      · exact yield_behind _ offset earlier _ start (lexer.position + c.utf8Size)
      · exact mode_behind _ offset earlier (.quoted start (c :: body))
  | slash start =>
      simp only [Mode.shift, advance_behind, yield_behind, begin_behind]
      split
      · exact mode_behind _ offset earlier .comment
      · rfl
  | comment =>
      simp only [Mode.shift, advance_behind]
      split
      · exact mode_behind _ offset earlier .between
      · exact mode_behind _ offset earlier .comment

theorem run_behind (chars : List Char) :
    (lexer.behind offset earlier).run chars = (lexer.run chars).behind offset earlier := by
  induction chars generalizing lexer with
  | nil => rfl
  | cons c chars ih => rw [run_cons, run_cons, feed_behind, ih]

def settle : Lexer :=
  match lexer.mode with
  | .word start chars => lexer.yield (.ofWord chars.reverse) start lexer.position
  | .quoted start _ => lexer.yield .unrecognized start lexer.position
  | .slash start => lexer.yield .unrecognized start lexer.position
  | .between => lexer
  | .comment => lexer

theorem finish_eq : lexer.finish = lexer.settle.yielded.reverse := by
  unfold finish settle
  cases lexer.mode <;> rfl

theorem settle_behind :
    (lexer.behind offset earlier).settle = lexer.settle.behind offset earlier := by
  have mode : (lexer.behind offset earlier).mode = lexer.mode.shift offset := rfl
  have position : (lexer.behind offset earlier).position = offset + lexer.position := rfl
  simp only [settle, mode, position]
  cases lexer.mode with
  | between => rfl
  | word start chars => exact yield_behind lexer offset earlier _ start lexer.position
  | quoted start body => exact yield_behind lexer offset earlier _ start lexer.position
  | slash start => exact yield_behind lexer offset earlier _ start lexer.position
  | comment => rfl

theorem finish_run_between (fresh : lexer.mode = .between) (chars : List Char) :
    (lexer.run chars).finish =
      lexer.yielded.reverse ++ (run {} chars).finish.map (·.shift lexer.position) := by
  have start : lexer = ({} : Lexer).behind lexer.position lexer.yielded := by
    obtain ⟨mode, position, yielded⟩ := lexer
    simp only at fresh
    simp [fresh, behind, Mode.shift]
  have ran := run_behind {} lexer.position lexer.yielded chars
  rw [← start] at ran
  rw [ran, finish_eq, settle_behind, finish_eq]
  simp [behind]

/-! Quoted texts and comments behind a text. -/

/-- What was begun ends before a character that neither goes on with a word nor, behind a slash,
begins a comment. -/
theorem feed_settle (outside : lexer.mode.isOutside) (ends : ¬isWordChar c)
    (last : ∀ start, lexer.mode = .slash start → c ≠ '/') :
    lexer.feed c = lexer.settle.begin c := by
  rw [feed, settle]
  cases mode : lexer.mode with
  | between => rfl
  | word start chars => exact if_neg ends
  | quoted start body => simp [mode, Mode.isOutside] at outside
  | slash start => exact if_neg (last start mode)
  | comment => simp [mode, Mode.isOutside] at outside

theorem run_quoted {start : Nat} {body : List Char} (opened : lexer.mode = .quoted start body)
    {chars : List Char} (clean : '"' ∉ chars) :
    ∃ position, lexer.run chars =
      { lexer with mode := .quoted start (chars.reverse ++ body), position } := by
  induction chars generalizing lexer body with
  | nil => exact ⟨lexer.position, by simp [← opened]⟩
  | cons c chars ih =>
      simp only [List.mem_cons, not_or] at clean
      have fed : lexer.feed c = { lexer.advance c with mode := .quoted start (c :: body) } := by
        rw [feed, opened]
        exact if_neg (Ne.symm clean.1)
      obtain ⟨position, ran⟩ := ih (lexer.feed c) (by rw [fed]) clean.2
      refine ⟨position, ?_⟩
      rw [run_cons, ran, fed]
      simp [advance]

theorem run_comment (opened : lexer.mode = .comment) {chars : List Char} (clean : '\n' ∉ chars) :
    ∃ position, lexer.run chars = { lexer with position } := by
  induction chars generalizing lexer with
  | nil => exact ⟨lexer.position, rfl⟩
  | cons c chars ih =>
      simp only [List.mem_cons, not_or] at clean
      have fed : lexer.feed c = lexer.advance c := by
        rw [feed, opened]
        simp [advance, opened, Ne.symm clean.1]
      obtain ⟨position, ran⟩ := ih (lexer.feed c) (by rw [fed, advance, opened]) clean.2
      refine ⟨position, ?_⟩
      rw [run_cons, ran, fed]
      rfl

theorem position_settle : lexer.settle.position = lexer.position := by
  unfold settle
  cases lexer.mode <;> rfl

theorem run_quotation (outside : lexer.mode.isOutside) {body : List Char} (clean : '"' ∉ body) :
    ∃ stop, lexer.run ('"' :: body ++ ['"']) =
      ⟨.between, stop,
        ⟨.quoted (String.ofList body), lexer.position, stop⟩ :: lexer.settle.yielded⟩ := by
  have opened : (lexer.settle.begin '"').mode = .quoted lexer.settle.position [] := rfl
  rw [position_settle] at opened
  obtain ⟨position, read⟩ := run_quoted _ opened clean
  refine ⟨position + '"'.utf8Size, ?_⟩
  rw [List.cons_append, run_cons, feed_settle lexer '"' outside (by decide) (by simp), run_append,
    read, run_cons, run_nil, List.append_nil]
  simp only [feed, ↓reduceIte, yield, advance, List.reverse_reverse]
  rfl

theorem run_open_comment (outside : lexer.mode.isOutside)
    (last : ∀ start, lexer.mode ≠ .slash start) {note : List Char} (clean : '\n' ∉ note) :
    ∃ position, lexer.run ('/' :: '/' :: note) =
      ⟨.comment, position, lexer.settle.yielded⟩ := by
  have opened : ((lexer.settle.begin '/').feed '/').mode = .comment := rfl
  obtain ⟨position, read⟩ := run_comment _ opened clean
  refine ⟨position, ?_⟩
  rw [run_cons, run_cons, feed_settle lexer '/' outside (by decide) fun start slash _ =>
    last start slash, read]
  rfl

theorem finish_run_comment (opened : lexer.mode = .comment) {chars : List Char}
    (ended : ∀ c ∈ chars.head?, c = '\n') :
    (lexer.run chars).finish =
      lexer.yielded.reverse ++ (run {} chars).finish.map (·.shift lexer.position) := by
  obtain ⟨mode, position, yielded⟩ := lexer
  simp only at opened
  subst opened
  cases chars with
  | nil => simp [finish]
  | cons c chars =>
      -- The line feed does in a comment what it does between two tokens.
      obtain rfl : c = '\n' := ended c (by simp)
      exact finish_run_between ⟨.between, position, yielded⟩ rfl ('\n' :: chars)

theorem mode_begin_eq_slash {start : Nat} (slash : (lexer.begin c).mode = .slash start)
    (fresh : lexer.mode = .between) : c = '/' := by
  rw [begin] at slash
  split at slash
  · simp [advance, fresh] at slash
  split at slash
  · cases slash
  split at slash
  · cases slash
  split at slash
  · assumption
  · cases slash

theorem mode_feed_eq_slash {start : Nat} (slash : (lexer.feed c).mode = .slash start) :
    c = '/' := by
  rw [feed] at slash
  cases mode : lexer.mode with
  | between =>
      simp only [mode] at slash
      exact mode_begin_eq_slash lexer c slash mode
  | word begun chars =>
      simp only [mode] at slash
      split at slash
      · cases slash
      · exact mode_begin_eq_slash _ c slash rfl
  | quoted begun body =>
      simp only [mode] at slash
      split at slash <;> cases slash
  | slash begun =>
      simp only [mode] at slash
      split at slash
      · cases slash
      · exact mode_begin_eq_slash _ c slash rfl
  | comment =>
      simp only [mode] at slash
      split at slash <;> cases slash

def after (source : String) : Lexer :=
  run {} source.toList

theorem mode_after_ne_slash {source : String} (last : source.toList.getLast? ≠ some '/')
    (start : Nat) : (after source).mode ≠ .slash start := by
  intro slash
  rw [after] at slash
  rcases List.eq_nil_or_concat source.toList with nil | ⟨chars, c, snoc⟩
  · rw [nil] at slash
    cases slash
  · rw [snoc, List.concat_eq_append, run_append] at slash
    apply last
    rw [snoc, List.concat_eq_append, List.getLast?_concat,
      mode_feed_eq_slash _ c slash]

end Lexer

def tokens (source : String) : List Token :=
  (lex source).map (·.token)

theorem tokens_eq (source : String) :
    tokens source = (Lexer.after source).settle.yielded.reverse.map (·.token) := by
  rw [tokens, lex, Lexer.finish_eq, Lexer.after]

theorem map_token_finish_run {lexer : Lexer} (fresh : lexer.mode = .between) (rest : String) :
    (lexer.run rest.toList).finish.map (·.token) =
      lexer.yielded.reverse.map (·.token) ++ tokens rest := by
  rw [lexer.finish_run_between fresh, List.map_append, List.map_map]
  rfl

theorem tokens_quoted {left body right : String} (outside : (Lexer.after left).mode.isOutside)
    (clean : '"' ∉ body.toList) :
    tokens (left ++ "\"" ++ body ++ "\"" ++ right) =
      tokens left ++ .quoted body :: tokens right := by
  obtain ⟨stop, read⟩ := (Lexer.after left).run_quotation outside clean
  have chars : (left ++ "\"" ++ body ++ "\"" ++ right).toList =
      left.toList ++ (('"' :: body.toList ++ ['"']) ++ right.toList) := by
    simp [String.toList_append]
  rw [tokens, lex, chars, Lexer.run_append, ← Lexer.after, Lexer.run_append, read,
    map_token_finish_run rfl, tokens_eq left]
  simp

theorem tokens_comment {left note right : String} (outside : (Lexer.after left).mode.isOutside)
    (last : left.toList.getLast? ≠ some '/') (clean : '\n' ∉ note.toList)
    (ended : ∀ c ∈ right.toList.head?, c = '\n') :
    tokens (left ++ "//" ++ note ++ right) = tokens left ++ tokens right := by
  obtain ⟨position, read⟩ := (Lexer.after left).run_open_comment outside
    (Lexer.mode_after_ne_slash last) clean
  have chars : (left ++ "//" ++ note ++ right).toList =
      left.toList ++ (('/' :: '/' :: note.toList) ++ right.toList) := by
    simp [String.toList_append]
  rw [tokens, lex, chars, Lexer.run_append, ← Lexer.after, Lexer.run_append, read,
    Lexer.finish_run_comment _ rfl ended, List.map_append, List.map_map, tokens_eq left]
  rfl

/-! A line feed between two texts. It ends whatever was begun in the first, unless that is a
quotation. -/

/-- No quotation is open at the end of the text. -/
def ClosesQuotes (text : String) : Prop :=
  ¬(Lexer.after text).mode.isQuoted

instance (text : String) : Decidable (ClosesQuotes text) :=
  inferInstanceAs (Decidable ¬_)

namespace Lexer

variable {lexer : Lexer}

theorem position_begin (lexer : Lexer) (c : Char) :
    (lexer.begin c).position = lexer.position + c.utf8Size := by
  rw [begin]
  split
  · rfl
  split
  · rfl
  split
  · rfl
  split <;> rfl

theorem position_feed (lexer : Lexer) (c : Char) :
    (lexer.feed c).position = lexer.position + c.utf8Size := by
  unfold feed
  cases lexer.mode with
  | between => exact lexer.position_begin c
  | word start chars =>
      dsimp only
      split
      · rfl
      · exact position_begin _ c
  | quoted start body =>
      dsimp only
      split <;> rfl
  | slash start =>
      dsimp only
      split
      · rfl
      · exact position_begin _ c
  | comment => rfl

theorem position_run (lexer : Lexer) (chars : List Char) :
    (lexer.run chars).position = lexer.position + Text.byteLength chars := by
  induction chars generalizing lexer with
  | nil => rfl
  | cons c chars ih => rw [run_cons, ih, position_feed, Text.byteLength_cons, Nat.add_assoc]

theorem feed_newline (closed : ¬lexer.mode.isQuoted) :
    lexer.feed '\n' = ⟨.between, lexer.position + 1, lexer.settle.yielded⟩ := by
  obtain ⟨mode, position, yielded⟩ := lexer
  cases mode with
  | quoted start body => exact absurd rfl closed
  | between => rfl
  | word start chars => rfl
  | slash start => rfl
  | comment => rfl

end Lexer

/-- What stands in front of a line feed only moves the places of what comes behind it. -/
theorem lex_append_newline {left : String} (closed : ClosesQuotes left) (right : String) :
    lex (left ++ "\n" ++ right) =
      lex left ++ (lex right).map (·.shift (left.utf8ByteSize + 1)) := by
  have chars : (left ++ "\n" ++ right).toList = left.toList ++ '\n' :: right.toList := by
    simp [String.toList_append]
  have position : (Lexer.after left).position = left.utf8ByteSize := by
    rw [Lexer.after, Lexer.position_run, Text.byteLength_toList, Nat.zero_add]
  rw [lex, chars, Lexer.run_append, ← Lexer.after, Lexer.run_cons, Lexer.feed_newline closed,
    Lexer.finish_run_between _ rfl, position, lex, ← Lexer.after, Lexer.finish_eq]
  rfl

end Bundler.Source
