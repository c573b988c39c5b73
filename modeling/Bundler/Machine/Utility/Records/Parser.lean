import Bundler.Machine.Utility.Records.Lexer

/-!
The grammar of programs. Of the operators, those that assign bind least; then come the choice, the
logical operators, membership, matching, comparison, concatenation and arithmetic.
-/

namespace Bundler.Machine.Utility.Records

structure Reading where
  left : List Lexeme
  globals : Array (String × Option Bool)
  within? : Option (String × List String) := none
  functions : List Function := []
  /-- The calls of functions: name, number of arguments and line. -/
  calls : List (String × Nat × Nat) := []
  loops : Nat := 0
  hasRecord : Bool := true

abbrev ParseM := EStateM (List String) Reading

namespace Reading

def start (source : String) : Reading :=
  { left := lexemes source
    globals := (specialNames.map fun (name, isTable) => (name, some isTable)).toArray }

end Reading

def here : ParseM Lexeme := do
  match (← get).left with
  | lexeme :: _ => return lexeme
  | [] =>
    return { token := .finish, line := 1, source := "end of file", parentheses := 0, braces := 0 }

def peek : ParseM Token :=
  return (← here).token

def peekSecond : ParseM Token := do
  match (← get).left with
  | _ :: lexeme :: _ => return lexeme.token
  | _ => return .finish

def advance : ParseM Unit :=
  modify fun reading =>
    match reading.left with
    | _ :: lexeme :: rest => { reading with left := lexeme :: rest }
    | _ => reading

def isAt (text : String) : ParseM Bool := do
  match ← peek with
  | .symbol found => return found = text
  | _ => return false

def isAtWord (text : String) : ParseM Bool := do
  match ← peek with
  | .keyword found => return found = text
  | _ => return false

def onLine (line : Nat) (message : String) : String :=
  "line " ++ toString line ++ ": " ++ message

def fail (message : String) : ParseM α := do
  throw [onLine (← here).line message]

def Token.endsPhrase : Token → Bool
  | .newline => true
  | .finish => true
  | .symbol sign => sign = ";" || sign = closeBrace
  | _ => false

/-- Complains of the next token. A parenthesis that was not closed is to blame first. -/
def unexpected : ParseM α := do
  let lexeme ← here
  let line := lexeme.line
  match lexeme.token with
  | .fault message => throw [message]
  | token =>
      let isSymbol (text : String) : Bool :=
        match token with
        | .symbol found => found = text
        | _ => false
      if isSymbol ")" && lexeme.parentheses = 0 then throw [onLine line "extra ')'"]
      else if isSymbol closeBrace && lexeme.braces = 0 then
        throw [onLine line ("extra '" ++ closeBrace ++ "'"),
          onLine line "syntax error at or near end of line"]
      else if lexeme.parentheses ≠ 0 && token.endsPhrase then
        let unclosed := match (← get).left with
          | [_, last] => if lexeme.braces ≠ 0 then
              [onLine last.line ("missing " ++ closeBrace ++ " near " ++ last.source)] else []
          | _ => []
        throw (onLine line ("missing ) near " ++ lexeme.source) :: unclosed)
      else
        match token with
        | .finish =>
            if lexeme.braces ≠ 0 then
              throw [onLine line ("missing " ++ closeBrace ++ " near " ++ lexeme.source)]
            else throw [onLine line ("syntax error at or near " ++ lexeme.source)]
        | _ => throw [onLine line ("syntax error at or near " ++ lexeme.source)]

def expect (text : String) : ParseM Unit := do
  if ← isAt text then advance else unexpected

def skipLines : (fuel : Nat) → ParseM Unit
  | 0 => return
  | fuel + 1 => do
      match ← peek with
      | .newline => do
          advance
          skipLines fuel
      | _ => return

def newlines : ParseM Unit := do
  skipLines (← get).left.length

def skipEnds : (fuel : Nat) → ParseM Unit
  | 0 => return
  | fuel + 1 => do
      match ← peek with
      | .newline | .symbol ";" => do
          advance
          skipEnds fuel
      | _ => return

def separators : ParseM Unit := do
  skipEnds (← get).left.length

/-- The end of a simple statement; a closing brace is left where it is. -/
def endStatement : ParseM Unit := do
  match ← peek with
  | .newline => newlines
  | .symbol ";" => do
      advance
      newlines
  | _ => unless ← isAt closeBrace do unexpected

/-! Names. -/

/-- The variable of a name. `isTable?` tells how it is used, if that is known. -/
def resolve (word : String) (isTable? : Option Bool) : ParseM Name := do
  let reading ← get
  match reading.within?.bind fun (_, parameters) => parameters.idxOf? word with
  | some place => return .parameter place
  | none =>
      match reading.globals.toList.findIdx? (·.1 = word) with
      | some number =>
          let known? := (reading.globals[number]?).bind (·.2)
          match known?, isTable? with
          | some true, some false => fail ("illegal reference to array " ++ word)
          | some false, some true => fail ("illegal reference to variable " ++ word)
          | known?, isTable? =>
              set { reading with
                globals := reading.globals.setIfInBounds number (word, known?.or isTable?) }
              return .global number
      | none =>
          set { reading with globals := reading.globals.push (word, isTable?) }
          return .global reading.globals.size

def tableName : ParseM Name := do
  match ← peek with
  | .name word => do
      advance
      resolve word (some true)
  | _ => unexpected

def isVariable (word : String) : ParseM Bool := do
  let reading ← get
  return reading.globals.any (·.1 = word) ||
    reading.within?.any fun (_, parameters) => parameters.contains word

namespace Expr

def isTarget : Expr → Bool
  | named _ | field _ | element _ _ => true
  | _ => false

end Expr

def Builtin.arity : Builtin → Nat × Nat
  | .length => (0, 1)
  | .index | .find | .atan2 => (2, 2)
  | .substr => (2, 3)
  | .split | .substitute | .substituteAll => (2, 3)
  | .format => (1, 255)
  | .random | .now => (0, 0)
  | .seed | .flush => (0, 1)
  | .timeText => (0, 3)
  | _ => (1, 1)

def relation? : String → Option Relation
  | "==" => some .equal
  | "!=" => some .unequal
  | "<" => some .less
  | "<=" => some .lessOrEqual
  | ">" => some .greater
  | ">=" => some .greaterOrEqual
  | _ => none

def binaryOp? : String → Option BinaryOp
  | "+" | "+=" => some .add
  | "-" | "-=" => some .sub
  | "*" | "*=" => some .mul
  | "/" | "/=" => some .div
  | "%" | "%=" => some .mod
  | "^" | "^=" => some .pow
  | _ => none

inductive Level
  | either
  | both
  | membership
  | matching
  | relation
  | concat
  | sum
  | product
  deriving DecidableEq, Repr

namespace Level

def next? : Level → Option Level
  | either => some both
  | both => some membership
  | membership => some matching
  | matching => some relation
  | relation => some concat
  | concat => some sum
  | sum => some product
  | product => none

end Level

def startsOperand : Token → Bool
  | .number _ => true
  | .text _ => true
  | .regex _ => true
  | .name _ => true
  | .call _ => true
  | .builtin _ => true
  | .symbol text => ["(", "!", "$", "++", "--"].contains text
  | .keyword word => word = "getline"
  | _ => false

def startsTarget : Token → Bool
  | .name _ => true
  | .symbol text => text = "$"
  | _ => false

mutual

/-- An expression. `plain` tells that neither `>` nor `|` sends it somewhere. -/
def expr (fuel : Nat) (plain : Bool) : ParseM Expr := do
  match fuel with
  | 0 => unexpected
  | fuel + 1 => do
      let test ← binary fuel plain .either
      if ← isAt "?" then
        advance
        newlines
        let yes ← expr fuel plain
        newlines
        expect ":"
        newlines
        let no ← expr fuel plain
        return .choice test yes no
      else return test

def binary (fuel : Nat) (plain : Bool) (level : Level) : ParseM Expr := do
  match fuel with
  | 0 => unexpected
  | fuel + 1 => do
      let left ← match level.next? with
        | some next => binary fuel plain next
        | none => unary fuel plain
      if level = .concat && left.isTarget then
        match ← peek with
        | .symbol "=" => do
            advance
            newlines
            return .assign left (← expr fuel plain)
        | .symbol text =>
            match text.endsWith "=" && (relation? text).isNone, binaryOp? text with
            | true, some op => do
                advance
                newlines
                return .update op left (← expr fuel plain)
            | _, _ => more fuel plain level left
        | _ => more fuel plain level left
      else more fuel plain level left

def more (fuel : Nat) (plain : Bool) (level : Level) (left : Expr) : ParseM Expr := do
  match fuel with
  | 0 => unexpected
  | fuel + 1 => do
      let operand : ParseM Expr :=
        match level.next? with
        | some next => binary fuel plain next
        | none => unary fuel plain
      match level, ← peek with
      | .either, .symbol "||" => do
          advance
          newlines
          more fuel plain level (.either left (← operand))
      | .both, .symbol "&&" => do
          advance
          newlines
          more fuel plain level (.both left (← operand))
      | .membership, .keyword "in" => do
          advance
          let table ← tableName
          let keys := match left with
            | .group items => items
            | key => [key]
          more fuel plain level (.isIn keys table)
      | .matching, .symbol "~" => do
          advance
          more fuel plain level (.fits false left (← operand))
      | .matching, .symbol "!~" => do
          advance
          more fuel plain level (.fits true left (← operand))
      | .relation, .symbol text =>
          match relation? text with
          | some op =>
              if text = ">" && !plain then return left
              else do
                advance
                more fuel plain level (.relation op left (← operand))
          | none => return left
      | .concat, token =>
          if startsOperand token then do more fuel plain level (.concat left (← operand))
          else return left
      | .sum, .symbol "+" => do
          advance
          more fuel plain level (.binary .add left (← operand))
      | .sum, .symbol "-" => do
          advance
          more fuel plain level (.binary .sub left (← operand))
      | .product, .symbol text =>
          if text = "*" || text = "/" || text = "%" then
            match binaryOp? text with
            | some op => do
                advance
                more fuel plain level (.binary op left (← operand))
            | none => return left
          else return left
      | _, _ => return left

def unary (fuel : Nat) (plain : Bool) : ParseM Expr := do
  match fuel with
  | 0 => unexpected
  | fuel + 1 => do
      match ← peek with
      | .symbol "!" => do
          advance
          return .negation (← unary fuel plain)
      | .symbol "-" => do
          advance
          return .minus (← unary fuel plain)
      | .symbol "+" => do
          advance
          return .plus (← unary fuel plain)
      | _ => do
          let first ← power fuel
          if plain then piped fuel first else return first

def piped (fuel : Nat) (left : Expr) : ParseM Expr := do
  match fuel with
  | 0 => unexpected
  | fuel + 1 => do
      match ← peek, ← peekSecond with
      | .symbol "|", .keyword "getline" => do
          advance
          advance
          let target? ← target? fuel
          piped fuel (.recordOfCommand left target?)
      | _, _ => return left

def target? (fuel : Nat) : ParseM (Option Expr) := do
  match fuel with
  | 0 => return none
  | fuel + 1 => do
      if startsTarget (← peek) then return some (← primary fuel) else return none

def power (fuel : Nat) : ParseM Expr := do
  match fuel with
  | 0 => unexpected
  | fuel + 1 => do
      let base ← stepped fuel
      if ← isAt "^" then
        advance
        let exponent ← match ← peek with
          | .symbol "-" => do
              advance
              pure (Expr.minus (← power fuel))
          | .symbol "+" => do
              advance
              pure (Expr.plus (← power fuel))
          | .symbol "!" => do
              advance
              pure (Expr.negation (← power fuel))
          | _ => power fuel
        return .binary .pow base exponent
      else return base

def stepped (fuel : Nat) : ParseM Expr := do
  match fuel with
  | 0 => unexpected
  | fuel + 1 => do
      match ← peek with
      | .symbol "++" => do
          advance
          step true fuel
      | .symbol "--" => do
          advance
          step false fuel
      | _ => do
          let operand ← primary fuel
          if operand.isTarget then
            if ← isAt "++" then
              advance
              return .step true false operand
            else if ← isAt "--" then
              advance
              return .step false false operand
            else return operand
          else return operand

def step (up : Bool) (fuel : Nat) : ParseM Expr := do
  match fuel with
  | 0 => unexpected
  | fuel + 1 => do
      if startsTarget (← peek) then
        let operand ← primary fuel
        return .step up true operand
      else unexpected

def primary (fuel : Nat) : ParseM Expr := do
  match fuel with
  | 0 => unexpected
  | fuel + 1 => do
      match ← peek with
      | .number value => do
          advance
          return .number value
      | .text chars => do
          advance
          return .text chars
      | .regex source => do
          advance
          return .regex source
      | .name word => do
          advance
          if ← isAt "[" then
            advance
            let keys ← items fuel
            expect "]"
            return .element (← resolve word (some true)) keys
          else if (← isAt "(") && (← get).functions.any (·.name = word) then
            called fuel word
          else return .named (← resolve word (some false))
      | .call word => do
          advance
          if ← isVariable word then return .named (← resolve word (some false))
          else called fuel word
      | .builtin function => do
          advance
          builtin fuel function
      | .symbol "(" => do
          advance
          let inside ← items fuel
          expect ")"
          match inside with
          | [one] => return .enclosed one
          | inside => return .group inside
      | .symbol "$" => do
          advance
          match ← peek with
          | .symbol "++" => do
              advance
              return .field (← step true fuel)
          | .symbol "--" => do
              advance
              return .field (← step false fuel)
          | .symbol "-" => do
              advance
              return .field (.minus (← primary fuel))
          | .symbol "+" => do
              advance
              return .field (.plus (← primary fuel))
          | .symbol "!" => do
              advance
              return .field (.negation (← primary fuel))
          | _ => return .field (← primary fuel)
      | .keyword "getline" => do
          advance
          let target? ← target? fuel
          if ← isAt "<" then
            advance
            return .recordOfFile (← stepped fuel) target?
          else return .nextRecord target?
      | _ => unexpected

def items (fuel : Nat) : ParseM (List Expr) := do
  match fuel with
  | 0 => unexpected
  | fuel + 1 => do
      let first ← expr fuel true
      if ← isAt "," then
        advance
        newlines
        return first :: (← items fuel)
      else return [first]

def arguments (fuel : Nat) : ParseM (List Expr) := do
  match fuel with
  | 0 => unexpected
  | fuel + 1 => do
      let first ← match ← peek, ← peekSecond with
        | .name word, .symbol next =>
            if next = "," || next = ")" then do
              advance
              pure (Expr.named (← resolve word none))
            else expr fuel true
        | _, _ => expr fuel true
      if ← isAt "," then
        advance
        newlines
        return first :: (← arguments fuel)
      else return [first]

def called (fuel : Nat) (word : String) : ParseM Expr := do
  match fuel with
  | 0 => unexpected
  | fuel + 1 => do
      let line := (← here).line
      expect "("
      let args ← if ← isAt ")" then pure [] else arguments fuel
      expect ")"
      modify fun reading =>
        { reading with calls := (word, args.length, line) :: reading.calls }
      return .call word args

def builtin (fuel : Nat) (function : Builtin) : ParseM Expr := do
  match fuel with
  | 0 => unexpected
  | fuel + 1 => do
      match function with
      | .length =>
          if ← isAt "(" then
            advance
            if ← isAt ")" then
              advance
              return .builtin .length []
            let arg ← match ← peek, ← peekSecond with
              | .name word, .symbol ")" => do
                  advance
                  pure (Expr.named (← resolve word none))
              | _, _ => expr fuel true
            expect ")"
            return .builtin .length [arg]
          else return .builtin .length []
      | .split => do
          expect "("
          let text ← expr fuel true
          expect ","
          newlines
          let table ← tableName
          if ← isAt "," then
            advance
            newlines
            let separator ← expr fuel true
            expect ")"
            return .builtin .split [text, .named table, separator]
          else
            expect ")"
            return .builtin .split [text, .named table]
      | .flush =>
          if ← isAt "(" then
            advance
            let args ← if ← isAt ")" then pure [] else items fuel
            expect ")"
            return .builtin .flush args
          else return .builtin .flush []
      | function => do
          expect "("
          let args ← if ← isAt ")" then pure [] else items fuel
          unless ← isAt ")" do unexpected
          let (least, most) := function.arity
          if args.length < least || most < args.length then
            let line := (← here).line
            let name := ((builtins.find? (·.2 = function)).map (·.1)).getD ""
            throw [onLine line ("wrong number of arguments in call to " ++ name)]
          advance
          return .builtin function args

end

end Bundler.Machine.Utility.Records
