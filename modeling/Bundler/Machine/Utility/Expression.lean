import Bundler.Machine.Regex.Parser
import Bundler.Machine.Utility.Options

/-! The program `expr`: expressions whose parts are words of the command line. -/

namespace Bundler.Machine.Utility.Expression

inductive Value
  | text (chars : String)
  | number (n : Int)

namespace Value

def shown : Value → String
  | text chars => chars
  | number n => toString n

def isNumeral (text : String) : Bool :=
  let digits := match text.toList with
    | '-' :: rest => rest
    | chars => chars
  !digits.isEmpty && digits.all Char.isDigit

def number? : Value → Option Int
  | number n => some n
  | text chars => if isNumeral chars then chars.toInt? else none

/-- Whether a value counts as false: it is empty or consists of zeros. -/
def isNull : Value → Bool
  | number n => n = 0
  | text chars =>
      match chars.toList with
      | [] => true
      | ['-'] => false
      | '-' :: rest => rest.all (· = '0')
      | chars => chars.all (· = '0')

end Value

structure Words where
  rest : List String
  before : String := ""

abbrev ExprM := StateT Words WorkM

def fault (text : String) : ExprM α :=
  die text 2

def takes (word : String) : ExprM Bool := do
  match (← get).rest with
  | first :: rest =>
      if first = word then
        set ({ rest, before := first } : Words)
        return true
      else return false
  | [] => return false

def takesOne : List String → ExprM (Option String)
  | [] => return none
  | word :: others => do
      if ← takes word then return some word else takesOne others

def needMore : ExprM Unit := do
  let words ← get
  if words.rest.isEmpty then
    fault ("syntax error: missing argument after " ++ quoted words.before)

def nextWord : ExprM String := do
  needMore
  let words ← get
  let word := words.rest.headD ""
  set ({ rest := words.rest.tail, before := word } : Words)
  return word

/-- What a pattern fits at the start of a text: the part that its first group fits, or how much. -/
def fitted (text pattern : String) : ExprM Value := do
  match Regex.parse { lenient := true } pattern.toList with
  | .error defect => fault defect.message
  | .ok regex =>
      let subject : Regex.Subject := { text := text.toList.toArray }
      let hasGroups := regex.groupCount ≠ 0
      match regex.fitAt? subject 0 with
      | none => return if hasGroups then .text "" else .number 0
      | some fit =>
          if hasGroups then
            let (start, stop) := (fit.groups.lookup 1).getD (0, 0)
            return .text (String.ofList (subject.part start stop))
          else return .number fit.place

def compared (operator : String) (a b : Value) : Bool :=
  let order : Ordering := match a.number?, b.number? with
    | some n, some m => compare n m
    | _, _ => compare a.shown b.shown
  match operator with
  | "<" => order.isLT
  | "<=" => order.isLE
  | ">" => order.isGT
  | ">=" => order.isGE
  | "!=" => order.isNe
  | _ => order.isEq

def calculated (operator : String) (a b : Value) : ExprM Value := do
  match a.number?, b.number? with
  | some n, some m =>
      match operator with
      | "+" => return .number (n + m)
      | "-" => return .number (n - m)
      | "*" => return .number (n * m)
      | operator =>
          if m = 0 then fault "division by zero"
          else return .number (if operator = "/" then n.tdiv m else n.tmod m)
  | _, _ => fault "non-integer argument"

def portion (text : String) (start length : Value) : Value :=
  match start.number?, length.number? with
  | some start, some length =>
      if 0 < start && 0 < length then
        .text (String.ofList ((text.toList.drop (start.toNat - 1)).take length.toNat))
      else .text ""
  | _, _ => .text ""

def placeOf (text chars : String) : Nat :=
  match text.toList.findIdx? fun c => chars.toList.contains c with
  | some place => place + 1
  | none => 0

def levels : List (List String) :=
  [["|"], ["&"], ["<=", "<", "==", "=", "!=", ">=", ">"], ["+", "-"], ["*", "/", "%"], [":"]]

mutual

/-- The value of an expression of operators that bind at least as much as the first ones. `counts`
tells whether it matters. -/
def evaluate (fuel : Nat) (counts : Bool) (operators : List (List String)) : ExprM Value :=
  match fuel, operators with
  | 0, _ => return .number 0
  | fuel + 1, [] => operand fuel counts
  | fuel + 1, level :: tighter => do
      let first ← evaluate fuel counts tighter
      goOn fuel counts level tighter first

def goOn (fuel : Nat) (counts : Bool) (level : List String) (tighter : List (List String))
    (first : Value) : ExprM Value :=
  match fuel with
  | 0 => return first
  | fuel + 1 => do
      match ← takesOne level with
      | none => return first
      | some "|" => do
          let second ← evaluate fuel (counts && first.isNull) tighter
          goOn fuel counts level tighter
            (if !first.isNull then first else if second.isNull then .number 0 else second)
      | some "&" => do
          let second ← evaluate fuel (counts && !first.isNull) tighter
          goOn fuel counts level tighter
            (if first.isNull || second.isNull then .number 0 else first)
      | some operator => do
          let second ← evaluate fuel counts tighter
          let value ← if !counts then pure first
            else if operator = ":" then fitted first.shown second.shown
            else if ["+", "-", "*", "/", "%"].contains operator then
              calculated operator first second
            else pure (.number (if compared operator first second then 1 else 0))
          goOn fuel counts level tighter value

def operand (fuel : Nat) (counts : Bool) : ExprM Value :=
  match fuel with
  | 0 => return .number 0
  | fuel + 1 => do
      match ← takesOne ["+", "length", "match", "index", "substr"] with
      | some "+" => return .text (← nextWord)
      | some "length" => do
          let value ← operand fuel counts
          return .number value.shown.length
      | some "match" => do
          let text ← operand fuel counts
          let pattern ← operand fuel counts
          if counts then fitted text.shown pattern.shown else return text
      | some "index" => do
          let text ← operand fuel counts
          let chars ← operand fuel counts
          return .number (placeOf text.shown chars.shown)
      | some _ => do
          let text ← operand fuel counts
          let start ← operand fuel counts
          let length ← operand fuel counts
          return portion text.shown start length
      | none => do
          needMore
          if ← takes "(" then
            let value ← evaluate fuel counts levels
            match (← get).rest with
            | [] => fault ("syntax error: expecting ')' after " ++ quoted (← get).before)
            | word :: _ =>
                if ← takes ")" then return value
                else fault ("syntax error: expecting ')' instead of " ++ quoted word)
          else if ← takes ")" then fault "syntax error: unexpected ')'"
          else return .text (← nextWord)

end

def main (args : List String) : WorkM Unit := do
  onWriteFailure 3
  let args := match args with
    | "--" :: rest => rest
    | args => args
  if args.isEmpty then misuse "missing operand" 2
  let (value, words) ← (evaluate (20 * args.length + 20) true levels).run { rest := args }
  match words.rest with
  | [] => do
      emit (value.shown ++ "\n")
      if value.isNull then setStatus 1
  | word :: _ => die ("syntax error: unexpected argument " ++ quoted word) 2

end Bundler.Machine.Utility.Expression
