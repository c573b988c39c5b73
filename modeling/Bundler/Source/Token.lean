/-!
Tokens of module source, as far as import directives need them. Text that is no such token comes
out as an unrecognized piece, so that the stream still covers it.
-/

namespace Bundler.Source

inductive Bracket
  | brace
  | paren
  | square
  deriving DecidableEq, Repr

inductive Token
  | keyword
  | word
  /-- A quoted text, read verbatim up to the next quote. -/
  | quoted (body : String)
  | opening (bracket : Bracket)
  | closing (bracket : Bracket)
  | semicolon
  | unrecognized
  deriving DecidableEq, Repr

/-- A token and the bytes it takes: from `start` up to, but without, `stop`. -/
structure Lexeme where
  token : Token
  start : Nat
  stop : Nat
  deriving DecidableEq, Repr

namespace Token

def ofWord (chars : List Char) : Token :=
  if chars = "import".toList then .keyword else .word

def ofChar? : Char → Option Token
  | '{' => some (.opening .brace)
  | '}' => some (.closing .brace)
  | '(' => some (.opening .paren)
  | ')' => some (.closing .paren)
  | '[' => some (.opening .square)
  | ']' => some (.closing .square)
  | ';' => some .semicolon
  | _ => none

end Token

namespace Lexeme

def complaint (lexeme : Lexeme) : String :=
  "Unrecognized input at " ++ toString lexeme.start ++ ".." ++ toString lexeme.stop

end Lexeme

end Bundler.Source
