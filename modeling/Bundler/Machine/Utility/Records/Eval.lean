import Bundler.Machine.Utility.Calendar
import Bundler.Machine.Utility.Records.Session

/-! What expressions and statements do. -/

namespace Bundler.Machine.Utility.Records

def stepTime : Nat :=
  200

inductive Target
  | global (number : Nat)
  | parameter (place : Nat)
  | field (index : Nat)
  | element (table : Nat) (key : Key)

def valueOf : Target → RunM Value
  | .global number => do
      if number = Special.fieldCount then ensureSplit
      globalOf number
  | .parameter place => do
      match ← cellAt (← currentFrame) place with
      | .value value => return value
      | .table _ => fault "type error: an array is used as a variable"
      | .lent _ _ => return .unset
  | .field index => fieldAt index
  | .element number key => do
      let (table, found?) := (← tableAt number).find key
      match found? with
      | some value => do
          setTable number table
          return value
      | none => do
          setTable number (table.insert key .unset)
          return .unset

def store (target : Target) (value : Value) : RunM Unit := do
  match target with
  | .global number => setGlobal number value
  | .parameter place => setCell (← currentFrame) place (.value value)
  | .field index => setField index value
  | .element number key => setTable number ((← tableAt number).insert key value)

def BinaryOp.apply (op : BinaryOp) (x y : Double) : Double :=
  match op with
  | .add => x.add y
  | .sub => x.sub y
  | .mul => x.mul y
  | .div => x.div y
  | .mod => x.rem y
  | .pow => x.pow y

def Relation.holds (relation : Relation) (order? : Option Ordering) : Bool :=
  match relation, order? with
  | .equal, order? => order? = some .eq
  | .unequal, order? => order? ≠ some .eq
  | .less, order? => order? = some .lt
  | .lessOrEqual, order? => order? = some .lt || order? = some .eq
  | .greater, order? => order? = some .gt
  | .greaterOrEqual, order? => order? = some .gt || order? = some .eq

/-- How two values compare: as numbers if both may be numbers, and as texts otherwise. -/
def compareValues (a b : Value) : RunM (Option Ordering) := do
  match a.number?, b.number? with
  | some x, some y => return x.compare? y
  | _, _ => return some (compare (← textOf a) (← textOf b))

/-- The part of a text from a place on, of some length. Places before the first one only shorten
the distance to it. -/
def part (text : String) (start : Double) (length? : Option Double) : String :=
  let cut (x : Double) (limit : Int) : Int :=
    match x with
    | .infinite negative => if negative then -limit else limit
    | x => max (-limit) (min limit (x.toInt?.getD 0))
  let limit : Int := Nat.pow 2 40
  let first := cut start limit
  let size := (length?.map fun length => cut length limit).getD (2 * limit)
  let (first, size) := if first < 1 then (1, size - first) else (first, size)
  String.ofList ((text.toList.drop (first - 1).toNat).take size.toNat)

def indexIn (text part : List Char) : Nat :=
  go 1 text
where
  go (place : Nat) : List Char → Nat
    | [] => if part.isEmpty then place else 0
    | c :: rest => if part.isPrefixOf (c :: rest) then place else go (place + 1) rest

def instantOf (text : String) : Int :=
  let numbers := (text.splitOn " ").filterMap fun word =>
    if word.isEmpty then none else some (word.toInt?.getD 0)
  match numbers with
  | year :: month :: day :: hour :: minute :: second :: _ =>
      if year < 0 || month < 1 then -1
      else
        (daysOf year.toNat month.toNat 1 + day - 1) * 86400 + hour * 3600 + minute * 60 + second
  | _ => -1

/-- Runs the body of a loop. Tells whether the loop goes on. -/
def runBody (body : RunM Unit) : RunM Bool :=
  tryCatch (do
    body
    return true) fun
    | .stop => return false
    | .goOn => return true
    | jump => throw jump

def repeatWhile (test : RunM Bool) (body : RunM Unit) : (fuel : Nat) → RunM Unit
  | 0 => return
  | fuel + 1 => do
      request (.pass stepTime)
      if ← test then
        if ← runBody body then repeatWhile test body fuel

def repeatFor (body : String → RunM Unit) : List String → RunM Unit
  | [] => return
  | key :: rest => do
      request (.pass stepTime)
      if ← runBody (body key) then repeatFor body rest

def givenBy (body : RunM Unit) : RunM Value :=
  tryCatch (do
    body
    return .unset) fun
    | .give value => return value
    | jump => throw jump

def putRecord (put : String → RunM Unit) : Option (Option String) → RunM Value
  | none => return .number (.ofInt (-1))
  | some none => return .ofNat 0
  | some (some record) => do
      put record
      return .ofNat 1

def fits (source : String) (value : Value) : RunM Bool := do
  let regex ← regexFor source
  return (regex.find? { text := (← textOf value).toList.toArray } 0).isSome

def splitInto (text : String) (table : Name) (separator : Separator) : RunM Value := do
  let parts := separator.split text
  let number ← tableNumber table
  setTable number (parts.zipIdx.foldl (fun table (part, i) =>
    table.insert (.number (i + 1)) (.input part)) {})
  return .ofNat parts.length

def plainBuiltin (function : Builtin) (values : List Value) : RunM Value := do
  let first := values.headD .unset
  let second := values.tail.headD .unset
  let third? := values[2]?
  match function with
  | .length => return .ofNat (← textOf first).length
  | .substr =>
      return .text (part (← textOf first) second.toNumber (third?.map Value.toNumber))
  | .index => return .ofNat (indexIn (← textOf first).toList (← textOf second).toList)
  | .format => do
      let format ← textOf first
      let (texts, fault?) :=
        formatted (← conversion) (format.length + 1) 1 format.toList values.tail
      match fault? with
      | some bad => fault (bad.message "sprintf" format)
      | none => return .text (String.join texts)
  | .sin => return .number first.toNumber.sin
  | .cos => return .number first.toNumber.cos
  | .atan2 => return .number (Double.atan2 first.toNumber second.toNumber)
  | .exp => return .number first.toNumber.exp
  | .log => return .number first.toNumber.log
  | .sqrt => return .number first.toNumber.sqrt
  | .truncate => return .number first.toNumber.truncated
  | .random => do
      let session ← get
      let random : Nat := (session.random * 1103515245 + 12345) % Nat.pow 2 31
      set { session with random }
      return .number ((Double.ofInt random).div (.ofInt (Nat.pow 2 31)))
  | .seed => do
      let session ← get
      let now ← (request .view : WorkM View)
      let seed := if values.isEmpty then Double.ofInt (now.now / 1000000000) else first.toNumber
      set { session with seed, random := (seed.toInt?.getD 0).natAbs }
      return .number session.seed
  | .lower => return .text ((← textOf first).map Char.toLower)
  | .upper => return .text ((← textOf first).map Char.toUpper)
  | .system => do
      let command ← textOf first
      flushAll
      let child ← spawn do
        let environment := (← get).environment
        let _ ← request (.execute "/bin/sh" ["sh", "-c", command] environment)
        throw 127
      return .ofNat (statusOf (← waitFor child Act.endless))
  | .close => return .number (.ofInt (← closeNamed (← textOf first)))
  | .flush => do
      flushAll
      return .ofNat 0
  | .now => do
      let view ← (request .view : WorkM View)
      return .ofNat (view.now / 1000000000)
  | .timeText => do
      let view ← (request .view : WorkM View)
      let format ← match values with
        | [] => pure "%c"
        | _ => textOf first
      let seconds : Int := if values.length < 2 then (view.now / 1000000000 : Nat)
        else second.toNumber.toInt?.getD 0
      return .text ((Moment.ofSeconds seconds).text 0 (format.length + 1) format.toList)
  | .instant => return .number (.ofInt (instantOf (← textOf first)))
  | .split | .find | .substitute | .substituteAll => return .unset

def putLine (sink : Sink) (values : List Value) : RunM Unit := do
  let format := inFormat (← textOf (← globalOf Special.outputFormat))
  let texts ← match values with
    | [] => do pure [← textOf (← fieldAt 0)]
    | values => pure (values.map fun value => value.toText format)
  let separator ← textOf (← globalOf Special.outputFieldSeparator)
  let stop ← textOf (← globalOf Special.outputRecordSeparator)
  send sink (String.intercalate separator texts ++ stop)

def putFormatted (sink : Sink) (values : List Value) : RunM Unit := do
  let format ← textOf (values.headD .unset)
  let (texts, fault?) := formatted (← conversion) (format.length + 1) 1 format.toList values.tail
  send sink (String.join texts)
  match fault? with
  | some bad => fault (bad.message "printf" format)
  | none => return

mutual

def eval (fuel : Nat) (expr : Expr) : RunM Value := do
  match fuel with
  | 0 => fault "function call nesting too deep"
  | fuel + 1 => do
      match expr with
      | .number x => return .number x
      | .text chars => return .text chars
      | .regex source => do
          ensureJoined
          return .ofBool (← fits source (.input (← get).record))
      | .enclosed inside => eval fuel inside
      | .named _ | .field _ | .element _ _ => do valueOf (← target fuel expr)
      | .group items => do
          let texts ← items.mapM fun item => do textOf (← eval fuel item)
          return .text (String.join texts)
      | .assign goal value => do
          let goal ← target fuel goal
          let value ← eval fuel value
          store goal value
          return value
      | .update op goal value => do
          let goal ← target fuel goal
          let y ← eval fuel value
          let x ← valueOf goal
          let value : Value := .number (op.apply x.toNumber y.toNumber)
          store goal value
          return value
      | .step up before goal => do
          let goal ← target fuel goal
          let x := (← valueOf goal).toNumber
          let y := x.add (.ofInt (if up then 1 else -1))
          store goal (.number y)
          return .number (if before then y else x)
      | .binary op left right => do
          let x := (← eval fuel left).toNumber
          let y := (← eval fuel right).toNumber
          return .number (op.apply x y)
      | .relation relation left right => do
          let a ← eval fuel left
          let b ← eval fuel right
          return .ofBool (relation.holds (← compareValues a b))
      | .concat left right => do
          let a ← textOf (← eval fuel left)
          let b ← textOf (← eval fuel right)
          return .text (a ++ b)
      | .fits negated left right => do
          let value ← eval fuel left
          let source ← sourceOf fuel right
          return .ofBool ((← fits source value) != negated)
      | .both left right => do
          if (← eval fuel left).isTrue then return .ofBool (← eval fuel right).isTrue
          else return .ofBool false
      | .either left right => do
          if (← eval fuel left).isTrue then return .ofBool true
          else return .ofBool (← eval fuel right).isTrue
      | .negation operand => return .ofBool !(← eval fuel operand).isTrue
      | .minus operand => return .number (← eval fuel operand).toNumber.neg
      | .plus operand => return .number (← eval fuel operand).toNumber
      | .choice test yes no => do
          if (← eval fuel test).isTrue then eval fuel yes else eval fuel no
      | .isIn keys table => do
          let key ← keyFor fuel keys
          let number ← tableNumber table
          let (table, found?) := (← tableAt number).find key
          setTable number table
          return .ofBool found?.isSome
      | .builtin function args => callBuiltin fuel function args
      | .call name args => callFunction fuel name args
      | .nextRecord goal? => do
          let record? ← nextRecord Act.endless
          putRecord (← putter fuel goal?) (some record?)
      | .recordOfFile path goal? => do
          let name ← textOf (← eval fuel path)
          let put ← putter fuel goal?
          putRecord put (← recordFrom false name)
      | .recordOfCommand command goal? => do
          let name ← textOf (← eval fuel command)
          let put ← putter fuel goal?
          putRecord put (← recordFrom true name)

/-- The source of an expression: a literal one, or a text. -/
def sourceOf (fuel : Nat) (expr : Expr) : RunM String := do
  match fuel with
  | 0 => return ""
  | fuel + 1 =>
      match expr with
      | .regex source => return source
      | expr => do textOf (← eval fuel expr)

/-- What puts a record: into a target, or in the place of the current one. -/
def putter (fuel : Nat) (goal? : Option Expr) : RunM (String → RunM Unit) := do
  match fuel with
  | 0 => return setRecord
  | fuel + 1 =>
      match goal? with
      | none => return setRecord
      | some goal => do
          let goal ← target fuel goal
          return fun record => store goal (.input record)

def keyFor (fuel : Nat) (keys : List Expr) : RunM Key := do
  match fuel with
  | 0 => return .text ""
  | fuel + 1 =>
      match keys with
      | [key] => do keyOf (← eval fuel key)
      | keys => do
          let texts ← keys.mapM fun key => do textOf (← eval fuel key)
          let separator ← textOf (← globalOf Special.subscriptSeparator)
          return .text (String.intercalate separator texts)

def target (fuel : Nat) (expr : Expr) : RunM Target := do
  match fuel with
  | 0 => return .field 0
  | fuel + 1 =>
      match expr with
      | .named (.global number) => return .global number
      | .named (.parameter place) => return .parameter place
      | .field index => do return .field (← fieldIndex (← eval fuel index))
      | .element table keys => do
          let key ← keyFor fuel keys
          return .element (← tableNumber table) key
      | _ => return .field 0

def callBuiltin (fuel : Nat) (function : Builtin) (args : List Expr) : RunM Value := do
  match fuel with
  | 0 => return .unset
  | fuel + 1 => do
      match function, args with
      | .length, [] => return .ofNat (← textOf (← fieldAt 0)).length
      | .length, [.named name] => lengthOf fuel name
      | .split, text :: .named table :: rest => do
          let text ← textOf (← eval fuel text)
          let separator ← match rest with
            | .regex source :: _ => do pure (Separator.regex (← regexFor source))
            | separator :: _ => do separatorFor (← textOf (← eval fuel separator))
            | [] => do separatorFor (← textOf (← globalOf Special.fieldSeparator))
          splitInto text table separator
      | .find, [text, pattern] => do
          let text ← textOf (← eval fuel text)
          let regex ← regexFor (← sourceOf fuel pattern)
          let (start, size) : Int × Int :=
            match regex.find? { text := text.toList.toArray } 0 with
            | some (found, fit) => (found + 1, fit.place - found)
            | none => (0, -1)
          setGlobal Special.matchStart (.number (.ofInt start))
          setGlobal Special.matchLength (.number (.ofInt size))
          return .number (.ofInt start)
      | .substitute, pattern :: put :: rest => substitute fuel false pattern put rest.head?
      | .substituteAll, pattern :: put :: rest => substitute fuel true pattern put rest.head?
      | function, args => do
          let values ← args.mapM fun arg => eval fuel arg
          plainBuiltin function values

/-- The length of what a variable is: a text, or a table. -/
def lengthOf (fuel : Nat) (name : Name) : RunM Value := do
  match fuel with
  | 0 => return .unset
  | fuel + 1 =>
      let isTable ← match name with
        | .global number => pure (((← get).program.globals[number]?).any (·.2))
        | .parameter place =>
            match ← cellAt (← currentFrame) place with
            | .table _ => pure true
            | _ => pure false
      if isTable then return .ofNat (← tableAt (← tableNumber name)).size
      else return .ofNat (← textOf (← eval fuel (.named name))).length

def substitute (fuel : Nat) (everywhere : Bool) (pattern put : Expr) (goal? : Option Expr) :
    RunM Value := do
  match fuel with
  | 0 => return .unset
  | fuel + 1 => do
      let regex ← regexFor (← sourceOf fuel pattern)
      let put ← textOf (← eval fuel put)
      let goal := goal?.getD (.field (.number .zero))
      let goal? ← if goal.isTarget then some <$> target fuel goal else pure none
      let text ← match goal? with
        | some goal => do textOf (← valueOf goal)
        | none => do textOf (← eval fuel goal)
      let subject : Regex.Subject := { text := text.toList.toArray }
      let (result, count) := substituted regex (pieces (put.length + 1) put.toList) everywhere
        subject (text.length + 2) 0 false
      match goal? with
      | some goal => if count ≠ 0 then store goal (.text (String.ofList result))
      | none => pure ()
      return .ofNat count

def callFunction (fuel : Nat) (name : String) (args : List Expr) : RunM Value := do
  match fuel with
  | 0 => return .unset
  | fuel + 1 => do
      match (← get).program.functions.find? (·.name = name) with
      | none => return .unset
      | some function => do
          let cells ← args.mapM fun arg => argument fuel arg
          let rest := List.replicate (function.parameters - cells.length) (Cell.value .unset)
          modify fun session =>
            { session with frames := session.frames.push (cells ++ rest).toArray }
          let value ← givenBy (exec fuel function.body)
          modify fun session => { session with frames := session.frames.pop }
          return value

/-- What a function gets for an argument. A variable that is nothing yet may become a table. -/
def argument (fuel : Nat) (arg : Expr) : RunM Cell := do
  match fuel with
  | 0 => return .value .unset
  | fuel + 1 => do
      match arg with
      | .named (.global number) =>
          if ((← get).program.globals[number]?).any (·.2) then return .table number
          else
            match ← valueOf (.global number) with
            | .unset => return .lent (.global number) 0
            | value => return .value value
      | .named (.parameter place) => do
          let frame ← currentFrame
          match ← cellAt frame place with
          | .value .unset => return .lent (.parameter place) frame
          | cell => return cell
      | arg => return .value (← eval fuel arg)

def exec (fuel : Nat) (statement : Statement) : RunM Unit := do
  match fuel with
  | 0 => fault "function call nesting too deep"
  | fuel + 1 => do
      match statement with
      | .nothing => return
      | .expr value => do
          let _ ← eval fuel value
      | .print formats args goal? => do
          let values ← args.mapM fun arg => eval fuel arg
          let sink ← match goal? with
            | none => pure Sink.standard
            | some (direction, name) => do
                let name ← textOf (← eval fuel name)
                sinkFor direction name
          if formats then putFormatted sink values else putLine sink values
      | .block body => body.forM fun statement => exec fuel statement
      | .cond test yes no? => do
          if (← eval fuel test).isTrue then exec fuel yes
          else
            match no? with
            | some no => exec fuel no
            | none => return
      | .loop test body =>
          repeatWhile (do return (← eval fuel test).isTrue) (exec fuel body) Act.endless
      | .loopOnce body test => do
          if ← runBody (exec fuel body) then
            repeatWhile (do return (← eval fuel test).isTrue) (exec fuel body) Act.endless
      | .count start test? step body => do
          exec fuel start
          repeatWhile
            (do
              match test? with
              | some test => return (← eval fuel test).isTrue
              | none => return true)
            (do
              if ← runBody (exec fuel body) then exec fuel step else throw .stop)
            Act.endless
      | .each goal table body => do
          let number ← tableNumber table
          let ordered := (← tableAt number).ordered
          setTable number ordered
          repeatFor (fun key => do
            store (← target fuel goal) (.text key)
            exec fuel body) ordered.keys
      | .delete table keys => do
          let key ← keyFor fuel keys
          let number ← tableNumber table
          setTable number ((← tableAt number).erase key)
      | .clear table => do setTable (← tableNumber table) {}
      | .next => throw .next
      | .nextFile => throw .nextFile
      | .leave status? => do
          match status? with
          | some status => do
              let n := (← eval fuel status).toNumber.toInt?.getD 0
              modify fun session => { session with status := (n % 256).toNat }
          | none => pure ()
          throw .leave
      | .give value? => do
          match value? with
          | some value => throw (.give (← eval fuel value))
          | none => throw (.give .unset)
      | .stop => throw .stop
      | .goOn => throw .goOn

end

end Bundler.Machine.Utility.Records
