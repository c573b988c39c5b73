import Bundler.Machine.Shell.Arithmetic
import Bundler.Machine.Status

/-! The conditions of `test`. -/

namespace Bundler.Machine.Shell

namespace Condition

inductive Form
  | unary
  | binary
  | not
  | and
  | or
  | openParen
  | closeParen
  deriving DecidableEq, Repr

def form? (word : String) : Option Form :=
  if ["-r", "-w", "-x", "-e", "-f", "-d", "-c", "-b", "-p", "-u", "-g", "-k", "-s", "-t", "-z",
      "-n", "-h", "-O", "-G", "-L", "-S"].contains word then some .unary
  else if ["=", "!=", "<", ">", "-eq", "-ne", "-ge", "-gt", "-le", "-lt", "-nt", "-ot",
      "-ef"].contains word then some .binary
  else
    match word with
    | "!" => some .not
    | "-a" => some .and
    | "-o" => some .or
    | "(" => some .openParen
    | ")" => some .closeParen
    | _ => none

inductive Lexeme
  | finish
  | operand
  | operator (form : Form)
  deriving DecidableEq, Repr

def lex (words : List String) : Lexeme :=
  match words with
  | [] => .finish
  | word :: rest =>
      let isOperand : Bool := match rest with
        | [] => true
        | [_] => false
        | next :: _ => form? next = some .binary
      match form? word with
      | none => .operand
      | some .unary => if isOperand then .operand else .operator .unary
      | some .openParen => if rest.isEmpty then .operand else .operator .openParen
      | some form => .operator form

abbrev TestM := StateT (List String) (Except String)

def behind : TestM (List String) := do
  return (← get).tail

def integer (text : String) : TestM Int :=
  match integer? 10 text with
  | some n => return n
  | none => throw ("Illegal number: " ++ text)

def later (view : View) (a b : String) : Bool :=
  match view.status a, view.status b with
  | .ok a, .ok b => b.modified < a.modified
  | _, _ => false

def unary (view : View) (operator operand : String) : TestM Bool := do
  let has (test : FileStatus → Bool) : Bool := view.has operand test
  match operator with
  | "-z" => return operand.isEmpty
  | "-n" => return !operand.isEmpty
  | "-t" =>
      let n ← integer operand
      return 0 ≤ n && view.descriptors.lookup n.toNat = some (.device .terminal)
  | "-x" => return has fun status => status.kind = .directory || status.mode &&& 0o111 ≠ 0
  | "-f" => return has (·.kind = .file)
  | "-d" => return has (·.kind = .directory)
  | "-c" => return has (·.kind = .device)
  | "-p" => return has (·.kind = .fifo)
  | "-s" => return has (0 < ·.size)
  | "-u" => return has (·.mode &&& 0o4000 ≠ 0)
  | "-g" => return has (·.mode &&& 0o2000 ≠ 0)
  | "-k" => return has (·.mode &&& 0o1000 ≠ 0)
  | "-h" | "-L" =>
      return match view.status operand false with
        | .ok status => status.kind = .link
        | .error _ => false
  | "-b" | "-S" => return false
  | _ => return has fun _ => true

def binary (view : View) (a operator b : String) : TestM Bool := do
  let compare (test : Int → Int → Bool) : TestM Bool := do
    let n ← integer a
    return test n (← integer b)
  match operator with
  | "!=" => return a ≠ b
  | "<" => return a < b
  | ">" => return b < a
  | "-eq" => compare fun n m => n = m
  | "-ne" => compare fun n m => n ≠ m
  | "-ge" => compare fun n m => m ≤ n
  | "-gt" => compare fun n m => m < n
  | "-le" => compare fun n m => n ≤ m
  | "-lt" => compare fun n m => n < m
  | "-nt" => return later view a b
  | "-ot" => return later view b a
  | "-ef" =>
      return match view.status a, view.status b with
        | .ok a, .ok b => a.identity = b.identity
        | _, _ => false
  | _ => return a = b

/-! Every function below goes on from the current word, of which it is told what it is, and leaves
its last word as the current one. -/

mutual

def disjunction (view : View) (fuel : Nat) (lexeme : Lexeme) : TestM Bool :=
  match fuel with
  | 0 => return false
  | fuel + 1 => do
      let value ← conjunction view fuel lexeme
      if lex (← behind) = .operator .or then
        modify (·.drop 2)
        let more ← disjunction view fuel (lex (← get))
        return value || more
      else return value

def conjunction (view : View) (fuel : Nat) (lexeme : Lexeme) : TestM Bool :=
  match fuel with
  | 0 => return false
  | fuel + 1 => do
      let value ← negation view fuel lexeme
      if lex (← behind) = .operator .and then
        modify (·.drop 2)
        let more ← conjunction view fuel (lex (← get))
        return value && more
      else return value

def negation (view : View) (fuel : Nat) (lexeme : Lexeme) : TestM Bool :=
  match fuel with
  | 0 => return false
  | fuel + 1 => do
      if lexeme ≠ .operator .not then primary view fuel lexeme
      else
        let next := lex (← behind)
        if next ≠ .finish then modify (·.tail)
        return !(← negation view fuel next)

def primary (view : View) (fuel : Nat) (lexeme : Lexeme) : TestM Bool :=
  match fuel with
  | 0 => return false
  | fuel + 1 => do
      match lexeme with
      | .finish => return false
      | .operator .openParen => do
          modify (·.tail)
          let next := lex (← get)
          if next = .operator .closeParen then return false
          let value ← disjunction view fuel next
          modify (·.tail)
          if lex (← get) ≠ .operator .closeParen then throw "closing paren expected"
          return value
      | .operator .unary => do
          let operator := (← get).headD ""
          modify (·.tail)
          match (← get).head? with
          | none => throw (operator ++ ": argument expected")
          | some operand => unary view operator operand
      | _ => do
          let word := (← get).headD ""
          let next ← behind
          if lex next = .operator .binary then
            modify (·.tail.tail)
            let operator := next.headD ""
            match (← get).head? with
            | none => throw (operator ++ ": argument expected")
            | some operand => binary view word operator operand
          else return !word.isEmpty

end

/-- Whether an expression holds, from a word of a known kind on. Nothing may be left of it but the
last word. -/
def whole (view : View) (lexeme : Lexeme) (words : List String) : Except String Bool := do
  let (value, rest) ← (disjunction view (10 * words.length + 10) lexeme).run words
  match rest with
  | word :: _ :: _ =>
      throw (if word.isEmpty then "unexpected operator" else word ++ ": unexpected operator")
  | _ => return value

/-- Whether the condition that words make holds, or what is wrong with it. Three or four words are
read by the place of their operators. -/
def holds (view : View) : (fuel : Nat) → (negated : Bool) → List String → Except String Bool
  | 0, _, _ => .ok false
  | fuel + 1, negated, words => do
      let isBinary : Bool := match words with
        | [_, operator, _] => form? operator = some .binary
        | _ => false
      if words.isEmpty then return negated
      else if isBinary then return (← whole view .operand words) != negated
      else if words.length = 3 || words.length = 4 then
        if words.head? = some "(" && words.getLast? = some ")" then
          let inner := words.tail.dropLast
          return (← whole view (lex inner) inner) != negated
        else if words.head? = some "!" then holds view fuel true words.tail
        else return (← whole view (lex words) words) != negated
      else return (← whole view (lex words) words) != negated

end Condition

def testHolds (view : View) (name : String) (args : List String) : Except String Bool := do
  if name.toList.head? = some '[' then
    match args.getLast? with
    | some last =>
        if last.toList.head? ≠ some ']' then throw "missing ]"
        Condition.holds view (args.length + 1) false args.dropLast
    | none => throw "missing ]"
  else Condition.holds view (args.length + 1) false args

end Bundler.Machine.Shell
