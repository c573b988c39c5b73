/-! The commands of the shell's language, with the words they are made of. -/

namespace Bundler.Machine.Shell

inductive Treatment
  | plain
  | ifUnset
  | ifSet
  | complain
  | assign
  | trimEnd (longest : Bool)
  | trimStart (longest : Bool)
  | length
  | unknown
  deriving DecidableEq, Repr

inductive FileMode
  | input
  | output
  | clobber
  | append
  | inputOutput
  deriving DecidableEq, Repr

mutual

inductive Piece
  | plain (c : Char)
  | escaped (c : Char)
  | quote
  | parameter (name : String) (treatment : Treatment) (orEmpty : Bool) (word : List Piece)
  | substitution (command : Option Command)
  | arithmetic (expression : List Piece)

inductive Redirection
  | file (descriptor : Nat) (mode : FileMode) (name : List Piece)
  | copy (descriptor : Nat) (of? : Option Nat)
  | copyNamed (descriptor : Nat) (name : List Piece)
  | document (descriptor number : Nat) (expanded : Bool)

inductive Command
  | simple (line : Nat) (assignments words : List (List Piece))
      (redirections : List Redirection)
  | pipeline (commands : List Command) (background : Bool)
  | redirected (line : Nat) (body : Command) (redirections : List Redirection)
  | background (line : Nat) (body : Command) (redirections : List Redirection)
  | subshell (line : Nat) (body : Command) (redirections : List Redirection)
  | both (first second : Command)
  | either (first second : Command)
  | sequence (first second : Command)
  | condition (test yes : Command) (no : Option Command)
  | loop (untilTrue : Bool) (test body : Command)
  | each (line : Nat) (name : String) (words : List (List Piece)) (body : Command)
  | choice (line : Nat) (word : List Piece) (cases : List (List (List Piece) × Option Command))
  | define (line : Nat) (name : String) (body : Command)
  | negated (body : Command)

end

abbrev Word := List Piece

def plainText? (word : Word) : Option String :=
  (word.mapM fun (piece : Piece) =>
    match piece with
    | .plain c => some c
    | _ => none).map String.ofList

def isNameStart (c : Char) : Bool :=
  c == '_' || ('a' ≤ c && c ≤ 'z') || ('A' ≤ c && c ≤ 'Z')

def isDigit (c : Char) : Bool :=
  '0' ≤ c && c ≤ '9'

def isNamePart (c : Char) : Bool :=
  isNameStart c || isDigit c

def isName (text : String) : Bool :=
  match text.toList with
  | [] => false
  | c :: rest => isNameStart c && rest.all isNamePart

def isAssignment (word : Word) : Bool :=
  let isPart : Piece → Bool
    | .plain c => isNamePart c
    | _ => false
  match word with
  | .plain c :: _ =>
      isNameStart c &&
        match word.dropWhile isPart with
        | .plain '=' :: _ => true
        | _ => false
  | _ => false

def isSpecialParameter (c : Char) : Bool :=
  ['!', '#', '$', '*', '-', '?', '@'].contains c || isDigit c

def allParameters : Word :=
  [.quote, .parameter "@" .plain false [], .quote]

def specialBuiltins : List String :=
  [".", ":", "break", "continue", "eval", "exec", "exit", "export", "local", "readonly", "return",
    "set", "shift", "times", "trap", "unset"]

end Bundler.Machine.Shell
