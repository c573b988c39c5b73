import Bundler.Machine.Shell.Command

/-!
Arithmetic of the shell: integers of 64 bits that wrap around, with the variables that an expression
reads and assigns.
-/

namespace Bundler.Machine.Shell

def wrap (n : Int) : Int :=
  Int.bmod n (Nat.pow 2 64)

def maxInteger : Int :=
  Nat.pow 2 63 - 1

def isSpace (c : Char) : Bool :=
  c == ' ' || ('\t' ≤ c && c ≤ '\r')

def digitValue? (base : Nat) (c : Char) : Option Nat :=
  let value :=
    if isDigit c then c.toNat - '0'.toNat
    else if 'a' ≤ c && c ≤ 'z' then c.toNat - 'a'.toNat + 10
    else if 'A' ≤ c && c ≤ 'Z' then c.toNat - 'A'.toNat + 10
    else base
  if value < base then some value else none

/-- The number that starts a text, whether it is out of range, and the text after it. In base 0 the
text tells its base. Blanks in front do not count, and without digits nothing is read. -/
def readInteger (base : Nat) (text : List Char) : Int × Bool × List Char :=
  let start := text.dropWhile isSpace
  let (negative, rest) := match start with
    | '-' :: rest => (true, rest)
    | '+' :: rest => (false, rest)
    | rest => (false, rest)
  let isHex (c : Char) : Bool := (digitValue? 16 c).isSome
  let (base, rest) := match base, rest with
    | 0, '0' :: x :: d :: after =>
        if (x == 'x' || x == 'X') && isHex d then (16, d :: after) else (8, rest)
    | 16, '0' :: x :: d :: after =>
        if (x == 'x' || x == 'X') && isHex d then (16, d :: after) else (16, rest)
    | 0, '0' :: _ => (8, rest)
    | 0, _ => (10, rest)
    | base, _ => (base, rest)
  let digits := rest.takeWhile fun c => (digitValue? base c).isSome
  if digits.isEmpty then (0, false, text)
  else
    let n : Nat := digits.foldl (fun n c => n * base + (digitValue? base c).getD 0) 0
    let n : Int := if negative then -(n : Int) else n
    let after := rest.drop digits.length
    if maxInteger < n then (maxInteger, true, after)
    else if n < -maxInteger - 1 then (-maxInteger - 1, true, after)
    else (n, false, after)

/-- The number that a whole text is. An empty text counts as zero in base 0. -/
def integer? (base : Nat) (text : String) : Option Int :=
  let chars := text.toList
  let (n, outOfRange, rest) := readInteger base chars
  if outOfRange || (base ≠ 0 && rest.length = chars.length) then none
  else if (rest.dropWhile isSpace).isEmpty then some n
  else none

namespace Arithmetic

inductive Operator
  | multiply | divide | remainder | add | subtract | shiftLeft | shiftRight
  | less | lessEqual | greater | greaterEqual | equal | unequal | and | xor | or
  deriving DecidableEq, Repr

namespace Operator

def rank : Operator → Nat
  | multiply | divide | remainder => 0
  | add | subtract => 1
  | shiftLeft | shiftRight => 2
  | less | lessEqual | greater | greaterEqual => 3
  | equal | unequal => 4
  | and => 5
  | xor => 6
  | or => 7

def maxRank : Nat :=
  8

def ofBool (b : Bool) : Int :=
  if b then 1 else 0

def word (n : Int) : Nat :=
  (n % Nat.pow 2 64).toNat

def result? (op : Operator) (a b : Int) : Option Int :=
  match op with
  | multiply => some (wrap (a * b))
  | divide => if b = 0 then none else some (wrap (Int.tdiv a b))
  | remainder => if b = 0 then none else some (Int.tmod a b)
  | add => some (wrap (a + b))
  | subtract => some (wrap (a - b))
  | shiftLeft => some (wrap (a * Nat.pow 2 (b % 64).toNat))
  | shiftRight => some (Int.fdiv a (Nat.pow 2 (b % 64).toNat))
  | less => some (ofBool (a < b))
  | lessEqual => some (ofBool (a ≤ b))
  | greater => some (ofBool (b < a))
  | greaterEqual => some (ofBool (b ≤ a))
  | equal => some (ofBool (a = b))
  | unequal => some (ofBool (a ≠ b))
  | and => some (wrap (word a &&& word b : Nat))
  | xor => some (wrap (word a ^^^ word b : Nat))
  | or => some (wrap (word a ||| word b : Nat))

end Operator

inductive Token
  | finish
  | bad
  | number (n : Int)
  | variable (name : String)
  | binary (op : Operator)
  | assign (op : Option Operator)
  | both
  | either
  | not
  | complement
  | openParen
  | closeParen
  | question
  | colon
  deriving DecidableEq, Repr

inductive Fault
  | expression (text : String)
  | illegalNumber (text : String)
  deriving DecidableEq, Repr

structure Calculation where
  rest : List Char
  last : Token := .finish
  assigned : List (String × String) := []

abbrev CalcM := EStateM Fault Calculation

def binaryOrAssign (op : Operator) : List Char → Token × List Char
  | '=' :: rest => (.assign (some op), rest)
  | rest => (.binary op, rest)

def lex (text : List Char) : Token × List Char :=
  match text.dropWhile fun c => c == ' ' || c == '\t' || c == '\n' with
  | [] => (.finish, [])
  | c :: rest =>
      if isDigit c then
        let (n, _, after) := readInteger 0 (c :: rest)
        (.number n, after)
      else if isNameStart c then
        let name := c :: rest.takeWhile isNamePart
        (.variable (String.ofList name), rest.drop (name.length - 1))
      else
        match c, rest with
        | '=', '=' :: rest => (.binary .equal, rest)
        | '=', rest => (.assign none, rest)
        | '>', '=' :: rest => (.binary .greaterEqual, rest)
        | '>', '>' :: rest => binaryOrAssign .shiftRight rest
        | '>', rest => (.binary .greater, rest)
        | '<', '=' :: rest => (.binary .lessEqual, rest)
        | '<', '<' :: rest => binaryOrAssign .shiftLeft rest
        | '<', rest => (.binary .less, rest)
        | '|', '|' :: rest => (.either, rest)
        | '|', rest => binaryOrAssign .or rest
        | '&', '&' :: rest => (.both, rest)
        | '&', rest => binaryOrAssign .and rest
        | '!', '=' :: rest => (.binary .unequal, rest)
        | '!', rest => (.not, rest)
        | '(', rest => (.openParen, rest)
        | ')', rest => (.closeParen, rest)
        | '*', rest => binaryOrAssign .multiply rest
        | '/', rest => binaryOrAssign .divide rest
        | '%', rest => binaryOrAssign .remainder rest
        | '+', rest => binaryOrAssign .add rest
        | '-', rest => binaryOrAssign .subtract rest
        | '~', rest => (.complement, rest)
        | '^', rest => binaryOrAssign .xor rest
        | '?', rest => (.question, rest)
        | ':', rest => (.colon, rest)
        | c, rest => (.bad, c :: rest)

def next : CalcM Token :=
  modifyGet fun calculation =>
    let (token, rest) := lex calculation.rest
    (token, { calculation with rest })

def setLast (token : Token) : CalcM Unit :=
  modify fun calculation => { calculation with last := token }

def fault (text : String) : CalcM α :=
  throw (.expression text)

def valueOf (lookup : String → Option String) (name : String) : CalcM Int := do
  let text := (((← get).assigned.lookup name).or (lookup name)).getD ""
  match integer? 0 text with
  | some n => return n
  | none => throw (.illegalNumber text)

def applied (op : Operator) (a b : Int) : CalcM Int :=
  match op.result? a b with
  | some n => pure n
  | none => fault "division by zero"

/-! Every function below goes on after the tokens it is given; `idle` tells that nothing is to be
read or assigned. -/

mutual

def primary (lookup : String → Option String) (fuel : Nat) (idle : Bool) (first second : Token) :
    CalcM Int :=
  match fuel with
  | 0 => fault "too deep"
  | fuel + 1 => do
      match first with
      | .openParen => do
          let n ← assignment lookup fuel idle second
          if (← get).last ≠ .closeParen then fault "expecting ')'"
          setLast (← next)
          return n
      | .number n => do
          setLast second
          return n
      | .variable name => do
          setLast second
          if idle then return 0 else valueOf lookup name
      | .binary .add => do primary lookup fuel idle second (← next)
      | .binary .subtract => do return wrap (-(← primary lookup fuel idle second (← next)))
      | .not => do
          return Operator.ofBool ((← primary lookup fuel idle second (← next)) = 0)
      | .complement => do return -(← primary lookup fuel idle second (← next)) - 1
      | _ => fault "expecting primary"

def binaryFrom (lookup : String → Option String) (fuel : Nat) (idle : Bool) (a : Int)
    (op : Operator) (rank : Nat) : CalcM Int :=
  match fuel with
  | 0 => fault "too deep"
  | fuel + 1 => do
      let first ← next
      let b ← primary lookup fuel idle first (← next)
      let b ← match (← get).last with
        | .binary op2 =>
            if op2.rank < op.rank then binaryFrom lookup fuel idle b op2 op.rank else pure b
        | _ => pure b
      let a ← if idle then pure b else applied op a b
      match (← get).last with
      | .binary op2 => if rank ≤ op2.rank then return a else binaryFrom lookup fuel idle a op2 rank
      | _ => return a

def binary (lookup : String → Option String) (fuel : Nat) (idle : Bool) (first second : Token) :
    CalcM Int :=
  match fuel with
  | 0 => fault "too deep"
  | fuel + 1 => do
      let a ← primary lookup fuel idle first second
      match (← get).last with
      | .binary op => binaryFrom lookup fuel idle a op Operator.maxRank
      | _ => return a

def both (lookup : String → Option String) (fuel : Nat) (idle : Bool) (first second : Token) :
    CalcM Int :=
  match fuel with
  | 0 => fault "too deep"
  | fuel + 1 => do
      let a ← binary lookup fuel idle first second
      if (← get).last ≠ .both then return a
      let first ← next
      let b ← both lookup fuel (idle || a = 0) first (← next)
      return Operator.ofBool (a ≠ 0 && b ≠ 0)

def either (lookup : String → Option String) (fuel : Nat) (idle : Bool) (first second : Token) :
    CalcM Int :=
  match fuel with
  | 0 => fault "too deep"
  | fuel + 1 => do
      let a ← both lookup fuel idle first second
      if (← get).last ≠ .either then return a
      let first ← next
      let b ← either lookup fuel (idle || a ≠ 0) first (← next)
      return Operator.ofBool (a ≠ 0 || b ≠ 0)

def conditional (lookup : String → Option String) (fuel : Nat) (idle : Bool)
    (first second : Token) : CalcM Int :=
  match fuel with
  | 0 => fault "too deep"
  | fuel + 1 => do
      let a ← either lookup fuel idle first second
      if (← get).last ≠ .question then return a
      let b ← assignment lookup fuel (idle || a = 0) (← next)
      if (← get).last ≠ .colon then fault "expecting ':'"
      let first ← next
      let c ← conditional lookup fuel (idle || a ≠ 0) first (← next)
      return if a ≠ 0 then b else c

def assignment (lookup : String → Option String) (fuel : Nat) (idle : Bool) (first : Token) :
    CalcM Int :=
  match fuel with
  | 0 => fault "too deep"
  | fuel + 1 => do
      let second ← next
      match first, second with
      | .variable name, .assign op? => do
          let n ← assignment lookup fuel idle (← next)
          if idle then return n
          let n ← match op? with
            | none => pure n
            | some op => applied op (← valueOf lookup name) n
          modify fun calculation =>
            { calculation with assigned := (name, toString n) :: calculation.assigned }
          return n
      | _, _ => conditional lookup fuel idle first second

end

def evaluate (lookup : String → Option String) (text : String) :
    Except Fault Int × List (String × String) :=
  let all : CalcM Int := do
    let n ← assignment lookup (10 * text.length + 20) false (← next)
    if (← get).last ≠ .finish then fault "expecting EOF"
    return n
  match all.run { rest := text.toList } with
  | .ok n calculation => (.ok n, calculation.assigned)
  | .error fault calculation => (.error fault, calculation.assigned)

def Fault.message (text : String) : Fault → String
  | .expression fault => "arithmetic expression: " ++ fault ++ ": \"" ++ text ++ "\""
  | .illegalNumber number => "Illegal number: " ++ number

end Arithmetic

end Bundler.Machine.Shell
