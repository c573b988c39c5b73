import Bundler.Machine.Shell.Command

/-!
Reading the shell's language character by character. The characters that are at hand may not be all
there are: a reader that needs more of them is unfinished, and starts over when it has them.
-/

namespace Bundler.Machine.Shell

inductive Token
  | endOfFile
  | newline
  | semicolon
  | background
  | and
  | or
  | pipe
  | leftParen
  | rightParen
  | endCase
  | redirection
  | word
  | keyword (text : String)
  deriving DecidableEq, Repr

namespace Token

def name : Token → String
  | endOfFile => "end of file"
  | newline => "newline"
  | redirection => "redirection"
  | word => "word"
  | semicolon => "\";\""
  | background => "\"&\""
  | and => "\"&&\""
  | or => "\"||\""
  | pipe => "\"|\""
  | leftParen => "\"(\""
  | rightParen => "\")\""
  | endCase => "\";;\""
  | keyword text => "\"" ++ text ++ "\""

def keywords : List String :=
  ["!", "case", "do", "done", "elif", "else", "esac", "fi", "for", "if", "in", "then", "until",
    "while", "\x7b", "\x7d"]

def endsList : Token → Bool
  | endOfFile | rightParen | endCase => true
  | keyword text => ["do", "done", "elif", "else", "esac", "fi", "then", "\x7d"].contains text
  | _ => false

end Token

inductive Misreading
  | unfinished
  | fault (text : String) (line : Nat)
  deriving DecidableEq, Repr

structure Wanted where
  keyword : Bool := false
  expands : Bool := false
  anyLine : Bool := false
  mark : Bool := false

structure Awaited where
  number : Nat
  mark : List Char
  strip : Bool
  expanded : Bool

structure Reader where
  rest : List Char
  complete : Bool := true
  line : Nat := 1
  aliases : List (String × String) := []
  inUse : List String := []
  wanted : Wanted := {}
  heldBack : Bool := false
  token : Token := .newline
  word : Word := []
  quoted : Bool := false
  redirection : Redirection := .copy 0 none
  documentStrip? : Option Bool := none
  awaited : List Awaited := []
  documents : List (Nat × Word) := []
  nextDocument : Nat := 0

abbrev ReadM := StateT Reader (Except Misreading)

namespace Reader

def aliasEndBlank : Char := '\uE001'
def aliasEnd : Char := '\uE002'

def aliasEnded : Char := '\uE003'

def aliasOver : Char := '\uE004'

def fault (text : String) : ReadM α := do
  throw (.fault ("Syntax error: " ++ text) (← get).line)

def takeFrom (reader : Reader) : List Char → Except Misreading (Option Char × Reader)
  | [] => if reader.complete then .ok (none, { reader with rest := [] }) else .error .unfinished
  | c :: rest =>
      if c == aliasEndBlank then
        takeFrom { reader with
          inUse := reader.inUse.tail
          wanted := { reader.wanted with expands := true } } rest
      else if c == aliasEnd then
        .ok (some aliasEnded, { reader with rest := aliasOver :: rest })
      else if c == aliasOver then takeFrom { reader with inUse := reader.inUse.tail } rest
      else .ok (some c, { reader with rest })

def take : ReadM (Option Char) :=
  fun reader => takeFrom reader reader.rest

def putBack : Option Char → ReadM Unit
  | none => pure ()
  | some c => modify fun reader => { reader with rest := c :: reader.rest }

def nextLine : ReadM Unit :=
  modify fun reader => { reader with line := reader.line + 1 }

def takePastFrom (reader : Reader) (fuel : Nat) : Except Misreading (Option Char × Reader) := do
  let (c?, after) ← takeFrom reader reader.rest
  match fuel with
  | 0 => return (c?, after)
  | fuel + 1 => if c? = some aliasEnded then takePastFrom after fuel else return (c?, after)

def takePast : ReadM (Option Char) :=
  fun reader => takePastFrom reader reader.rest.length

def takeJoined : ReadM (Option Char) := fun reader =>
  go (reader.rest.length + 1) reader
where
  go : Nat → Reader → Except Misreading (Option Char × Reader)
    | 0, reader => .ok (none, reader)
    | fuel + 1, reader => do
        let (c?, reader) ← takeFrom reader reader.rest
        if c? ≠ some '\\' then return (c?, reader)
        let (d?, after) ← takePastFrom reader reader.rest.length
        if d? = some '\n' then go fuel { after with line := after.line + 1 }
        else return (c?, reader)

def skipComment : ReadM Unit := fun reader =>
  let rest := reader.rest.dropWhile (· ≠ '\n')
  if rest.isEmpty && !reader.complete then .error .unfinished
  else
    let passed := reader.rest.take (reader.rest.length - rest.length)
    let ended := (passed.filter fun c =>
      [aliasEnd, aliasEndBlank, aliasOver].contains c).length
    .ok ((), { reader with rest, inUse := reader.inUse.drop ended })

def aliasText (text : String) : List Char :=
  let chars := text.toList
  match chars.getLast? with
  | some ' ' | some '\t' => chars ++ [aliasEndBlank]
  | _ => chars ++ [aliasEnd]

end Reader

inductive Quoting
  | base
  | double
  | single
  | arithmetic
  deriving DecidableEq, Repr

inductive CharClass
  | newline
  | ordinary
  | control
  | backslash
  | singleQuote
  | doubleQuote
  | endQuote
  | backquote
  | dollar
  | closeBrace
  | openParen
  | closeParen
  | separator
  deriving DecidableEq, Repr

def isPatternChar (c : Char) : Bool :=
  ['!', '*', '?', '[', '=', '~', ':', '/', '-', ']'].contains c

def CharClass.of (quoting : Quoting) (c : Char) : CharClass :=
  if c == '\n' then .newline
  else
    match quoting with
    | .base =>
        match c with
        | '\\' => .backslash
        | '\'' => .singleQuote
        | '"' => .doubleQuote
        | '`' => .backquote
        | '$' => .dollar
        | '}' => .closeBrace
        | '<' | '>' | '(' | ')' | ';' | '&' | '|' | ' ' | '\t' => .separator
        | c => if c == Reader.aliasEnded then .separator else .ordinary
    | .double =>
        match c with
        | '\\' => .backslash
        | '"' => .endQuote
        | '`' => .backquote
        | '$' => .dollar
        | '}' => .closeBrace
        | c => if isPatternChar c then .control else .ordinary
    | .single =>
        match c with
        | '\'' => .endQuote
        | c => if isPatternChar c || c == '\\' then .control else .ordinary
    | .arithmetic =>
        match c with
        | '\\' => .backslash
        | '`' => .backquote
        | '$' => .dollar
        | '}' => .closeBrace
        | '(' => .openParen
        | ')' => .closeParen
        | _ => .ordinary

end Bundler.Machine.Shell
