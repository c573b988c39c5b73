import Bundler.Machine.Shell.Condition
import Bundler.Machine.Utility.Options

/-! The programs `test` and `[`: conditions whose parts are words of the command line. -/

namespace Bundler.Machine.Utility.Test

structure Words where
  rest : List String
  last : String := ""

abbrev TestM := StateT Words WorkM

def fault (text : String) : TestM α :=
  die text 2

def beyond : TestM α := do
  fault ("missing argument after " ++ quoted (← get).last)

def nextWord : TestM String := do
  match (← get).rest with
  | [] => beyond
  | word :: rest => do
      modify fun words => { words with rest }
      return word

def isBinary (word : String) : Bool :=
  ["=", "!=", "==", "-nt", "-ot", "-ef", "-eq", "-ne", "-lt", "-le", "-gt", "-ge"].contains word

def isUnary (word : String) : Bool :=
  match word.toList with
  | ['-', _] => true
  | _ => false

def integer (word : String) : TestM Int := do
  let isBlank (c : Char) : Bool := c = ' ' || (9 ≤ c.toNat && c.toNat ≤ 13)
  let chars := ((word.toList.dropWhile isBlank).reverse.dropWhile isBlank).reverse
  let (negative, digits) := match chars with
    | '-' :: digits => (true, digits)
    | '+' :: digits => (false, digits)
    | digits => (false, digits)
  match (if digits.all Char.isDigit then (String.ofList digits).toNat? else none) with
  | some n => return if negative then -(n : Int) else n
  | none => fault ("invalid integer " ++ quoted word)

def unary : TestM Bool := do
  let operator ← nextWord
  let letters := "bcdefghkLNOGprsStuwxzn".toList
  match operator.toList with
  | ['-', c] =>
      if !letters.contains c then fault (quoted operator ++ ": unary operator expected")
      let operand ← nextWord
      let view ← request .view
      if c = 't' then
        let n ← integer operand
        return 0 ≤ n && view.descriptors.lookup n.toNat = some (.device .terminal)
      else if c = 'N' then return false
      else
        match (Shell.Condition.unary view operator operand).run [] with
        | .ok (value, _) => return value
        | .error text => fault text
  | _ => fault (quoted operator ++ ": unary operator expected")

def measured (isLength : Bool) (word : String) : TestM Int :=
  if isLength then return word.length else integer word

def binary (isLength : Bool) : TestM Bool := do
  if isLength then let _ ← nextWord
  let first ← nextWord
  let operator ← nextWord
  let isSecond ← match (← get).rest with
    | "-l" :: _ :: _ => pure (["-eq", "-ne", "-lt", "-le", "-gt", "-ge"].contains operator)
    | _ => pure false
  if isSecond then let _ ← nextWord
  let second ← nextWord
  let view ← request .view
  let compare (test : Int → Int → Bool) : TestM Bool := do
    let n ← measured isLength first
    return test n (← measured isSecond second)
  match operator with
  | "-eq" => compare fun n m => n = m
  | "-ne" => compare fun n m => n ≠ m
  | "-ge" => compare fun n m => m ≤ n
  | "-gt" => compare fun n m => m < n
  | "-le" => compare fun n m => n ≤ m
  | "-lt" => compare fun n m => n < m
  | "-nt" => return newer view first second
  | "-ot" => return newer view second first
  | operator =>
      match (Shell.Condition.binary view first operator second).run [] with
      | .ok (value, _) => return value
      | .error text => fault text
where
  newer (view : View) (a b : String) : Bool :=
    match view.status a, view.status b with
    | .ok a, .ok b => b.modified < a.modified
    | .ok _, .error _ => true
    | _, _ => false

mutual

def condition (fuel : Nat) (count : Nat) : TestM Bool :=
  match fuel with
  | 0 => return false
  | fuel + 1 => do
      match count, (← get).rest with
      | 1, _ => single
      | 2, words => two fuel words
      | 3, words => three fuel words
      | 4, "!" :: _ => do
          let _ ← nextWord
          return !(← three fuel (← get).rest)
      | 4, "(" :: _ :: _ :: ")" :: _ => do
          let _ ← nextWord
          let value ← two fuel (← get).rest
          let _ ← nextWord
          return value
      | _, _ => alternatives fuel

def single : TestM Bool := do
  return !(← nextWord).isEmpty

def two (fuel : Nat) (words : List String) : TestM Bool :=
  match fuel with
  | 0 => return false
  | _ + 1 => do
      match words with
      | "!" :: _ => do
          let _ ← nextWord
          return !(← single)
      | first :: _ => if isUnary first then unary else beyond
      | [] => beyond

def three (fuel : Nat) (words : List String) : TestM Bool :=
  match fuel with
  | 0 => return false
  | fuel + 1 => do
      match words with
      | first :: second :: rest =>
          if isBinary second then binary false
          else if first = "!" then
            let _ ← nextWord
            return !(← two fuel (← get).rest)
          else if first = "(" && rest.head? = some ")" then
            let _ ← nextWord
            let value ← single
            let _ ← nextWord
            return value
          else if second = "-a" || second = "-o" then alternatives fuel
          else fault (quoted second ++ ": binary operator expected")
      | _ => beyond

def alternatives (fuel : Nat) : TestM Bool :=
  match fuel with
  | 0 => return false
  | fuel + 1 => do
      let value ← sequence fuel
      match (← get).rest with
      | "-o" :: _ => do
          let _ ← nextWord
          let more ← alternatives fuel
          return value || more
      | _ => return value

def sequence (fuel : Nat) : TestM Bool :=
  match fuel with
  | 0 => return false
  | fuel + 1 => do
      let value ← term fuel false
      match (← get).rest with
      | "-a" :: _ => do
          let _ ← nextWord
          let more ← sequence fuel
          return value && more
      | _ => return value

def term (fuel : Nat) (negated : Bool) : TestM Bool :=
  match fuel with
  | 0 => return false
  | fuel + 1 => do
      match (← get).rest with
      | [] => beyond
      | "!" :: _ => do
          let _ ← nextWord
          if (← get).rest.isEmpty then beyond
          term fuel !negated
      | "(" :: words => do
          let _ ← nextWord
          if words.isEmpty then beyond
          let inner := 1 + (words.tail.takeWhile (· ≠ ")")).length
          let value ← condition fuel (if 4 < inner then words.length else inner)
          match (← get).rest with
          | [] => fault "')' expected"
          | word :: _ =>
              if word = ")" then
                let _ ← nextWord
                return value != negated
              else fault ("')' expected, found " ++ quoted word)
      | first :: second :: third :: rest =>
          if first = "-l" && !rest.isEmpty && isBinary third then
            return (← binary true) != negated
          else if isBinary second then return (← binary false) != negated
          else if isUnary first then return (← unary) != negated
          else return (← single) != negated
      | first :: _ =>
          if isUnary first then return (← unary) != negated
          else return (← single) != negated

end

def decideFor (words : List String) : WorkM Unit := do
  if words.isEmpty then setStatus 1
  else
    let start : Words := { rest := words, last := words.getLastD "" }
    let (value, left) ← (condition (20 * words.length + 20) words.length).run start
    match left.rest with
    | [] => setStatus (if value then 0 else 1)
    | word :: _ => die ("extra argument " ++ quoted word) 2

def main (args : List String) : WorkM Unit :=
  decideFor args

def mainInBrackets (args : List String) : WorkM Unit := do
  if args.getLast? = some "]" then decideFor args.dropLast
  else die "missing ']'" 2

end Bundler.Machine.Utility.Test
