import Bundler.Source.Token

/-!
The lexer reads one character at a time, so what it yields for a text followed by another is
decided by its state between the two.
-/

namespace Bundler.Source

def isSpace (c : Char) : Bool :=
  c == ' ' || c == '\t' || c == '\r' || c == '\n' || c == '\x0C'

def isWordStart (c : Char) : Bool :=
  ('a' ≤ c && c ≤ 'z') || ('A' ≤ c && c ≤ 'Z') || c == '_'

def isWordChar (c : Char) : Bool :=
  isWordStart c || ('0' ≤ c && c ≤ '9')

/-- What the characters read last began. Their text is kept last one first. -/
inductive Mode
  | between
  | word (start : Nat) (chars : List Char)
  | quoted (start : Nat) (body : List Char)
  | slash (start : Nat)
  | comment
  deriving DecidableEq, Repr

structure Lexer where
  mode : Mode := .between
  position : Nat := 0
  yielded : List Lexeme := []
  deriving DecidableEq, Repr

namespace Lexer

def yield (lexer : Lexer) (token : Token) (start stop : Nat) : Lexer :=
  { lexer with mode := .between, yielded := ⟨token, start, stop⟩ :: lexer.yielded }

def advance (lexer : Lexer) (c : Char) : Lexer :=
  { lexer with position := lexer.position + c.utf8Size }

def begin (lexer : Lexer) (c : Char) : Lexer :=
  let start := lexer.position
  if isSpace c then lexer.advance c
  else if isWordStart c then { lexer.advance c with mode := .word start [c] }
  else if c = '"' then { lexer.advance c with mode := .quoted start [] }
  else if c = '/' then { lexer.advance c with mode := .slash start }
  else (lexer.advance c).yield ((Token.ofChar? c).getD .unrecognized) start (start + c.utf8Size)

/-- A word ends before the first character that cannot continue it, and a slash is a piece of its
own unless another slash follows. -/
def feed (lexer : Lexer) (c : Char) : Lexer :=
  match lexer.mode with
  | .between => lexer.begin c
  | .word start chars =>
      if isWordChar c then { lexer.advance c with mode := .word start (c :: chars) }
      else (lexer.yield (.ofWord chars.reverse) start lexer.position).begin c
  | .quoted start body =>
      if c = '"' then
        (lexer.advance c).yield (.quoted (String.ofList body.reverse)) start
          (lexer.position + c.utf8Size)
      else { lexer.advance c with mode := .quoted start (c :: body) }
  | .slash start =>
      if c = '/' then { lexer.advance c with mode := .comment }
      else (lexer.yield .unrecognized start lexer.position).begin c
  | .comment => { lexer.advance c with mode := if c = '\n' then .between else .comment }

/-- The end of the text ends a word, and leaves a quote without its partner unrecognized. -/
def finish (lexer : Lexer) : List Lexeme :=
  let last := match lexer.mode with
    | .word start chars => lexer.yield (.ofWord chars.reverse) start lexer.position
    | .quoted start _ => lexer.yield .unrecognized start lexer.position
    | .slash start => lexer.yield .unrecognized start lexer.position
    | .between => lexer
    | .comment => lexer
  last.yielded.reverse

def run (lexer : Lexer) (chars : List Char) : Lexer :=
  chars.foldl feed lexer

@[simp] theorem run_nil (lexer : Lexer) : lexer.run [] = lexer :=
  rfl

@[simp] theorem run_cons (lexer : Lexer) (c : Char) (chars : List Char) :
    lexer.run (c :: chars) = (lexer.feed c).run chars :=
  rfl

theorem run_append (lexer : Lexer) (left right : List Char) :
    lexer.run (left ++ right) = (lexer.run left).run right :=
  List.foldl_append

end Lexer

def lex (source : String) : List Lexeme :=
  (Lexer.run {} source.toList).finish

end Bundler.Source
