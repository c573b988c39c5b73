import Bundler.Machine.Utility.Records.Parser

/-! The grammar of statements, rules and functions. -/

namespace Bundler.Machine.Utility.Records

def exprFuel : ParseM Nat :=
  return 40 * (← get).left.length + 200

def wholeExpr (plain : Bool := true) : ParseM Expr := do
  expr (← exprFuel) plain

def atEnd : ParseM Bool := do
  match ← peek with
  | .newline | .finish => return true
  | .symbol text => return text = ";" || text = closeBrace
  | _ => return false

def goal? : ParseM (Option (Direction × Expr)) := do
  let direction? : Option Direction := match ← peek with
    | .symbol ">" => some .file
    | .symbol ">>" => some .appended
    | .symbol "|" => some .command
    | _ => none
  match direction? with
  | some direction => do
      advance
      return some (direction, ← wholeExpr)
  | none => return none

def printed : (fuel : Nat) → ParseM (List Expr)
  | 0 => unexpected
  | fuel + 1 => do
      let first ← wholeExpr false
      if ← isAt "," then
        advance
        newlines
        return first :: (← printed fuel)
      else return [first]

def printStatement (formatted : Bool) : ParseM Statement := do
  let isEmpty := (← atEnd) || (← isAt ">") || (← isAt ">>") || (← isAt "|")
  let args ← if isEmpty then pure [] else do
    match ← peek, ← peekSecond with
    | .symbol "(", .symbol ")" => do
        advance
        advance
        pure []
    | _, _ => printed (← get).left.length
  let args := match args with
    | [.group items] => items
    | [.enclosed item] => [item]
    | args => args
  if formatted && args.isEmpty then fail "no arguments in call to printf"
  let goal? ← goal?
  endStatement
  return .print formatted args goal?

def wordStatement (word : String) : ParseM Statement := do
  let statement ← match word with
    | "next" => do
        unless (← get).hasRecord do fail "improper use of next"
        pure Statement.next
    | "nextfile" => do
        unless (← get).hasRecord do fail "improper use of nextfile"
        pure Statement.nextFile
    | "break" => do
        if (← get).loops = 0 then fail "break statement outside of loop"
        pure Statement.stop
    | "continue" => do
        if (← get).loops = 0 then fail "continue statement outside of loop"
        pure Statement.goOn
    | "exit" => if ← atEnd then pure (Statement.leave none) else
        pure (Statement.leave (some (← wholeExpr)))
    | "return" => do
        if (← get).within?.isNone then fail "return outside function body"
        if ← atEnd then pure (Statement.give none) else
          pure (Statement.give (some (← wholeExpr)))
    | _ => do
        let table ← tableName
        if ← isAt "[" then
          advance
          let keys ← items (← exprFuel)
          expect "]"
          pure (Statement.delete table keys)
        else pure (Statement.clear table)
  endStatement
  return statement

def enclosedTest : ParseM Expr := do
  expect "("
  let test ← wholeExpr
  expect ")"
  return test

def inLoop (body : ParseM Statement) : ParseM Statement := do
  modify fun reading => { reading with loops := reading.loops + 1 }
  let body ← body
  modify fun reading => { reading with loops := reading.loops - 1 }
  return body

def optionalExpr (stop : String) : ParseM Statement := do
  if ← isAt stop then return .nothing else return .expr (← wholeExpr)

mutual

def statement (fuel : Nat) : ParseM Statement := do
  match fuel with
  | 0 => unexpected
  | fuel + 1 => do
      match ← peek with
      | .symbol ";" => do
          advance
          newlines
          return .nothing
      | .keyword "if" => do
          advance
          let test ← enclosedTest
          newlines
          let yes ← statement fuel
          if ← isAtWord "else" then
            advance
            newlines
            return .cond test yes (some (← statement fuel))
          else return .cond test yes none
      | .keyword "while" => do
          advance
          let test ← enclosedTest
          if ← isAt ";" then
            endStatement
            return .loop test .nothing
          else
            newlines
            return .loop test (← inLoop (statement fuel))
      | .keyword "do" => do
          advance
          newlines
          let body ← inLoop (statement fuel)
          separators
          unless ← isAtWord "while" do unexpected
          advance
          let test ← enclosedTest
          endStatement
          return .loopOnce body test
      | .keyword "for" => do
          advance
          forStatement fuel
      | .keyword "print" => do
          advance
          printStatement false
      | .keyword "printf" => do
          advance
          printStatement true
      | .keyword word =>
          if ["next", "nextfile", "break", "continue", "exit", "return", "delete"].contains word
          then do
            advance
            wordStatement word
          else if word = "getline" then exprStatement
          else unexpected
      | .symbol text =>
          if text = openBrace then do
            advance
            newlines
            let body ← statements fuel
            expect closeBrace
            newlines
            return .block body
          else exprStatement
      | _ => exprStatement

def exprStatement : ParseM Statement := do
  let value ← wholeExpr
  endStatement
  return .expr value

def statements (fuel : Nat) : ParseM (List Statement) := do
  match fuel with
  | 0 => unexpected
  | fuel + 1 => do
      if ← isAt closeBrace then return []
      else return (← statement fuel) :: (← statements fuel)

def forStatement (fuel : Nat) : ParseM Statement := do
  match fuel with
  | 0 => unexpected
  | fuel + 1 => do
      expect "("
      let tokens : List Token := (← get).left.map (·.token)
      match tokens with
      | .name word :: .keyword "in" :: .name _ :: .symbol ")" :: _ => do
          advance
          let target ← resolve word (some false)
          advance
          let table ← tableName
          expect ")"
          newlines
          return .each (.named target) table (← inLoop (statement fuel))
      | _ => do
          let start ← optionalExpr ";"
          expect ";"
          newlines
          let test? ← if ← isAt ";" then pure none else some <$> wholeExpr
          expect ";"
          newlines
          let step ← optionalExpr ")"
          expect ")"
          if ← isAt ";" then
            endStatement
            return .count start test? step .nothing
          else
            newlines
            return .count start test? step (← inLoop (statement fuel))

end

def action : ParseM Statement := do
  expect openBrace
  newlines
  let body ← statements (2 * (← get).left.length + 10)
  expect closeBrace
  return .block body

def parameters : (fuel : Nat) → ParseM (List String)
  | 0 => unexpected
  | fuel + 1 => do
      match ← peek with
      | .name word => do
          advance
          if ← isAt "," then
            advance
            newlines
            return word :: (← parameters fuel)
          else return [word]
      | _ => unexpected

def function : ParseM Unit := do
  advance
  let name ← match ← peek with
    | .name word => pure word
    | .call word => pure word
    | _ => unexpected
  if (← get).functions.any (·.name = name) then fail ("redefinition of " ++ name)
  advance
  expect "("
  let names ← if ← isAt ")" then pure [] else parameters (← get).left.length
  expect ")"
  newlines
  let placeholder : Function := { name, parameters := names.length, body := .nothing }
  modify fun reading =>
    { reading with
      within? := some (name, names)
      functions := placeholder :: reading.functions }
  let body ← action
  modify fun reading =>
    { reading with
      within? := none
      functions := reading.functions.map fun known =>
        if known.name = name then { known with body } else known }

def rules : (fuel : Nat) → Program → ParseM Program
  | 0, program => return program
  | fuel + 1, program => do
      separators
      match ← peek with
      | .finish => return program
      | .keyword "BEGIN" => do
          advance
          modify fun reading => { reading with hasRecord := false }
          let body ← action
          modify fun reading => { reading with hasRecord := true }
          rules fuel { program with starts := program.starts ++ [body] }
      | .keyword "END" => do
          advance
          modify fun reading => { reading with hasRecord := false }
          let body ← action
          modify fun reading => { reading with hasRecord := true }
          rules fuel { program with ends := program.ends ++ [body] }
      | .keyword "function" => do
          function
          rules fuel program
      | _ =>
          if ← isAt openBrace then
            let body ← action
            let rule : Rule := { pattern := .always, action? := some body }
            rules fuel { program with rules := program.rules ++ [rule] }
          else
            let first ← wholeExpr
            let pattern ← if ← isAt "," then do
                advance
                newlines
                pure (Pattern.range first (← wholeExpr))
              else pure (Pattern.holds first)
            let action? ← if ← isAt openBrace then some <$> action
              else if ← atEnd then pure none
              else unexpected
            rules fuel { program with rules := program.rules ++ [⟨pattern, action?⟩] }

/-- A whole program. Every function that is called has to be there. -/
def wholeProgram : ParseM Program := do
  let last := ((← get).left.getLast?.map (·.line)).getD 1
  let program ← rules (2 * (← get).left.length + 10) {}
  let reading ← get
  for (name, count, line) in reading.calls.reverse do
    match reading.functions.find? (·.name = name) with
    | none => throw [onLine last ("function " ++ name ++ " never defined")]
    | some function =>
        if function.parameters < count then
          throw [onLine line ("too many arguments in call to " ++ name)]
  return { program with
    functions := reading.functions
    globals := reading.globals.map fun (name, isTable?) => (name, isTable?.getD false) }

def parse (source : String) : Except (List String) Program :=
  match wholeProgram.run (Reading.start source) with
  | .ok program _ => .ok program
  | .error messages _ => .error messages

end Bundler.Machine.Utility.Records
