import Bundler.Machine.Utility.Launch
import Bundler.Machine.Utility.Records.Program
import Bundler.Machine.Utility.Records.Separator
import Bundler.Machine.Utility.Records.Table

/-! The state of a running program: its variables, the record with its fields, and the files and
commands it reads from and writes to. -/

namespace Bundler.Machine.Utility.Records

inductive Cell
  | value (value : Value)
  | table (number : Nat)
  | lent (name : Name) (frame : Nat)
  deriving Inhabited

structure Outlet where
  name : String
  direction : Direction
  descriptor : Nat
  child? : Option Nat := none
  pending : ByteArray := .empty

structure Inlet where
  name : String
  descriptor : Nat
  child? : Option Nat := none
  text : List Char := []
  ended : Bool := false

structure Session where
  program : Program
  globals : Array Value
  tables : Array Table
  frames : Array (Array Cell) := #[]
  record : String := ""
  fields : Array Value := #[]
  isSplit : Bool := true
  isJoined : Bool := true
  outlets : List Outlet := []
  inlets : List Inlet := []
  main? : Option Inlet := none
  nextArgument : Nat := 1
  hasFile : Bool := false
  inputEnded : Bool := false
  ended : List (Nat × Outcome) := []
  regexes : List (String × Regex) := []
  ranges : Array Bool
  seed : Double := .zero
  random : Nat := 1
  status : Nat := 0

inductive Jump
  | next
  | nextFile
  | leave
  | give (value : Value)
  | stop
  | goOn

abbrev RunM := ExceptT Jump (StateT Session WorkM)

/-- Complains of something and ends. What was to be written is written after that. -/
def abort (text : String) : RunM α := do
  let work ← (get : WorkM Work)
  let _ ← request (.write 2 (Octets.bytes (work.name ++ ": " ++ text ++ "\n")))
  (throw 2 : WorkM α)

def globalOf (number : Nat) : RunM Value :=
  return (← get).globals.getD number .unset

def conversion : RunM (Double → String) := do
  let format ← globalOf Special.conversionFormat
  return inFormat (format.toText (inFormat "%.6g"))

def textOf (value : Value) : RunM String := do
  return value.toText (← conversion)

def fault (message : String) : RunM α := do
  let name ← textOf (← globalOf Special.fileName)
  let fileNumber ← textOf (.number (← globalOf Special.fileRecordNumber).toNumber)
  let number ← textOf (.number (← globalOf Special.recordNumber).toNumber)
  abort ("run time error: " ++ message ++ "\n\tFILENAME=\"" ++ name ++ "\" FNR=" ++ fileNumber ++
    " NR=" ++ number)

/-! The record and its fields. -/

def regexFor (source : String) : RunM Regex := do
  match (← get).regexes.lookup source with
  | some regex => return regex
  | none =>
      match regexOf source with
      | .ok regex => do
          modify fun session => { session with regexes := (source, regex) :: session.regexes }
          return regex
      | .error reason => fault ("regular expression compile failed (" ++ reason ++ ")\n" ++ source)

def separatorFor (text : String) : RunM Separator := do
  match Separator.ofText? text with
  | some separator => return separator
  | none => return .regex (← regexFor text)

def ensureSplit : RunM Unit := do
  let session ← get
  unless session.isSplit do
    let separator ← separatorFor (← textOf (← globalOf Special.fieldSeparator))
    let fields := (separator.split session.record).toArray.map Value.input
    modify fun session =>
      { session with
        fields
        isSplit := true
        globals := session.globals.setIfInBounds Special.fieldCount (.ofNat fields.size) }

def ensureJoined : RunM Unit := do
  let session ← get
  unless session.isJoined do
    let separator ← textOf (← globalOf Special.outputFieldSeparator)
    let texts ← session.fields.toList.mapM textOf
    modify fun session =>
      { session with record := String.intercalate separator texts, isJoined := true }

def setRecord (text : String) : RunM Unit :=
  modify fun session => { session with record := text, isSplit := false, isJoined := true }

def resize (count : Nat) : RunM Unit := do
  ensureSplit
  modify fun session =>
    let fields := session.fields.extract 0 count ++
      Array.replicate (count - session.fields.size) (Value.input "")
    { session with
      fields
      isJoined := false
      globals := session.globals.setIfInBounds Special.fieldCount (.ofNat count) }

def setField (index : Nat) (value : Value) : RunM Unit := do
  if index = 0 then setRecord (← textOf value)
  else
    ensureSplit
    if (← get).fields.size < index then resize index
    modify fun session =>
      { session with
        fields := session.fields.setIfInBounds (index - 1) value
        isJoined := false }

def fieldAt (index : Nat) : RunM Value := do
  if index = 0 then
    ensureJoined
    return .input (← get).record
  else
    ensureSplit
    return (← get).fields.getD (index - 1) (.input "")

def fieldIndex (value : Value) : RunM Nat := do
  let n := value.toNumber.toInt?.getD 0
  if n < 0 then fault ("negative field index $" ++ toString n)
  else return n.toNat

def setGlobal (number : Nat) (value : Value) : RunM Unit := do
  if number = Special.fieldCount then
    let n := value.toNumber.toInt?.getD 0
    if n < 0 then fault "negative value assigned to NF"
    resize n.toNat
  if number = Special.fieldSeparator then ensureSplit
  modify fun session => { session with globals := session.globals.setIfInBounds number value }

/-! Tables. -/

def newTable : RunM Nat := do
  let session ← get
  set { session with tables := session.tables.push {} }
  return session.tables.size

def cellAt (frame place : Nat) : RunM Cell := do
  return ((← get).frames.getD frame #[]).getD place (.value .unset)

def setCell (frame place : Nat) (cell : Cell) : RunM Unit :=
  modify fun session =>
    { session with frames := session.frames.modify frame (·.setIfInBounds place cell) }

/-- The table of a variable. One that is nothing yet becomes a table, together with the variables
of callers that it comes from; `fuel` is more than their number. -/
def tableOf : (fuel : Nat) → Name → (frame : Nat) → RunM Nat
  | 0, _, _ => newTable
  | _, .global number, _ => return number
  | fuel + 1, .parameter place, frame => do
      match ← cellAt frame place with
      | .table number => return number
      | .lent name owner => do
          let number ← tableOf fuel name owner
          setCell frame place (.table number)
          return number
      | .value _ => do
          let number ← newTable
          setCell frame place (.table number)
          return number

def currentFrame : RunM Nat :=
  return (← get).frames.size - 1

def tableNumber (name : Name) : RunM Nat := do
  let frames := (← get).frames.size
  tableOf (frames + 1) name (frames - 1)

def tableAt (number : Nat) : RunM Table :=
  return (← get).tables.getD number {}

def setTable (number : Nat) (table : Table) : RunM Unit :=
  modify fun session => { session with tables := session.tables.setIfInBounds number table }

def keyOf (value : Value) : RunM Key :=
  return Key.ofValue (← conversion) value

/-! Output. -/

def closeFailure (name : String) (error : IoError) : RunM α :=
  abort ("close failed on file \"" ++ name ++ "\" (" ++ reason error ++ ")")

def drain (outlet : Outlet) : RunM Outlet := do
  if outlet.pending.isEmpty then return outlet
  match ← request (.write outlet.descriptor outlet.pending) with
  | .ok _ => return { outlet with pending := .empty }
  | .error error => closeFailure outlet.name error

def flushAll : RunM Unit := do
  (flush : WorkM Unit)
  let outlets ← (← get).outlets.mapM drain
  modify fun session => { session with outlets }

def startShell (command : String) (descriptor : Nat) (ends : Nat × Nat) : RunM Nat := do
  let (reading, writing) := ends
  spawn do
    let _ ← request (.replace (if descriptor = 0 then reading else writing) descriptor)
    let _ ← request (.close reading)
    let _ ← request (.close writing)
    let environment := (← get).environment
    let _ ← request (.execute "/bin/sh" ["/bin/sh", "-c", command] environment)
    throw 127

/-- Where the text of a statement is sent: none is the standard output. -/
inductive Sink
  | standard
  | fault
  | outlet (name : String) (direction : Direction)

def sinkFor (direction : Direction) (name : String) : RunM Sink := do
  if direction ≠ .command && (name = "/dev/stdout" || name = "-") then return .standard
  if direction ≠ .command && name = "/dev/stderr" then return .fault
  let isCommand := direction = .command
  match (← get).outlets.find? fun outlet =>
      outlet.name = name && (outlet.direction = .command) = isCommand with
  | some outlet => return .outlet name outlet.direction
  | none =>
      match direction with
      | .command => do
          flushAll
          let (reading, writing) ← request .pipe
          request (.closeOnExecute writing)
          let child ← startShell name 0 (reading, writing)
          let _ ← request (.close reading)
          let outlet : Outlet := { name, direction, descriptor := writing, child? := some child }
          modify fun session => { session with outlets := session.outlets ++ [outlet] }
      | direction => do
          let mode := if direction = .appended then OpenMode.forAppending else .forWriting
          match ← request (.openFile name mode 0o666) with
          | .error error =>
              abort ("cannot open \"" ++ name ++ "\" for output (" ++ reason error ++ ")")
          | .ok descriptor => do
              request (.closeOnExecute descriptor)
              let outlet : Outlet := { name, direction, descriptor }
              modify fun session => { session with outlets := session.outlets ++ [outlet] }
      return .outlet name direction

def send (sink : Sink) (text : String) : RunM Unit := do
  match sink with
  | .standard => emit text
  | .fault =>
      let _ ← request (.write 2 (Octets.bytes text))
  | .outlet name direction => do
      let outlets ← (← get).outlets.mapM fun outlet => do
        if outlet.name = name && outlet.direction = direction then
          let outlet := { outlet with pending := outlet.pending ++ Octets.bytes text }
          if partSize ≤ outlet.pending.size then drain outlet else return outlet
        else return outlet
      modify fun session => { session with outlets }

def waitFor (child : Nat) : (fuel : Nat) → RunM Outcome
  | 0 => return .exited 0
  | fuel + 1 => do
      let session ← get
      match session.ended.lookup child with
      | some outcome => do
          set { session with ended := session.ended.filter (·.1 ≠ child) }
          return outcome
      | none =>
          match ← request (.await true) with
          | .ended pid outcome => do
              modify fun session => { session with ended := (pid, outcome) :: session.ended }
              waitFor child fuel
          | .childless => return .exited 0
          | _ => waitFor child fuel

def statusOf : Outcome → Nat
  | .exited status => status
  | .killed signal => 256 + signal

def closeOutlet (outlet : Outlet) : RunM Nat := do
  let outlet ← drain outlet
  let _ ← request (.close outlet.descriptor)
  match outlet.child? with
  | some child => return statusOf (← waitFor child Act.endless)
  | none => return 0

def closeInlet (inlet : Inlet) : RunM Nat := do
  closeInput inlet.descriptor
  match inlet.child? with
  | some child => return statusOf (← waitFor child Act.endless)
  | none => return 0

/-- Closes what has a name. Gives its status, -1 if there is nothing of that name. -/
def closeNamed (name : String) : RunM Int := do
  let session ← get
  let outlets := session.outlets.filter (·.name = name)
  let inlets := session.inlets.filter (·.name = name)
  set { session with
    outlets := session.outlets.filter (·.name ≠ name)
    inlets := session.inlets.filter (·.name ≠ name) }
  let mut status : Int := -1
  for outlet in outlets do status := (← closeOutlet outlet : Nat)
  for inlet in inlets do status := (← closeInlet inlet : Nat)
  return status

def closeAll : RunM Unit := do
  let outlets := (← get).outlets
  modify fun session => { session with outlets := [] }
  let (commands, files) := outlets.partition (·.direction = .command)
  let drained ← commands.mapM drain
  for outlet in drained do
    let _ ← request (.close outlet.descriptor)
  for outlet in drained do
    match outlet.child? with
    | some child =>
        let _ ← waitFor child Act.endless
    | none => pure ()
  for outlet in files do
    let _ ← closeOutlet outlet

/-! Input. -/

def recordEnd : RunM RecordEnd := do
  let text ← textOf (← globalOf Special.recordSeparator)
  match text.toList with
  | [] => return .paragraph
  | [c] => return .char c
  | _ => return .regex (← regexFor text)

def inputPart : Nat :=
  262144

def fillFrom (descriptor : Nat) : (fuel : Nat) → ByteArray → WorkM (Except IoError ByteArray)
  | 0, before => return .ok before
  | fuel + 1, before => do
      match ← readSome descriptor (inputPart - before.size) Act.endless with
      | .error error => return .error error
      | .ok bytes =>
          if bytes.isEmpty || inputPart ≤ before.size + bytes.size then
            return .ok (before ++ bytes)
          else fillFrom descriptor fuel (before ++ bytes)

def takeRecord (stop : RecordEnd) : (fuel : Nat) → Inlet →
    WorkM (Except IoError (Option String) × Inlet)
  | 0, inlet => return (.ok none, inlet)
  | fuel + 1, inlet => do
      match stop.take? inlet.ended inlet.text with
      | some (some (record, rest)) =>
          return (.ok (some (String.ofList record)), { inlet with text := rest })
      | some none => return (.ok none, { inlet with text := [] })
      | none =>
          match ← fillFrom inlet.descriptor Act.endless .empty with
          | .error error => return (.error error, inlet)
          | .ok bytes =>
              takeRecord stop fuel
                { inlet with
                  text := inlet.text ++ Octets.ofBytes bytes
                  ended := bytes.size < inputPart }

def assignment? (text : String) : Option (String × String) :=
  let name := text.toList.takeWhile fun c => isNameStart c || c.isDigit
  match text.toList.drop name.length with
  | '=' :: value =>
      if name.head?.any isNameStart then
        some (String.ofList name, withoutEscapes (String.ofList value))
      else none
  | _ => none

def assignNamed (name value : String) : RunM Unit := do
  match (← get).program.globals.toList.findIdx? (·.1 = name) with
  | some number => setGlobal number (.input value)
  | none => return

/-- Opens the next file that the arguments name. Without any it is the standard input. -/
def openNext : (fuel : Nat) → RunM Bool
  | 0 => return false
  | fuel + 1 => do
      let session ← get
      let count := (← globalOf Special.argumentCount).toNumber.toInt?.getD 0
      if count ≤ session.nextArgument then
        if session.hasFile then
          modify fun session => { session with inputEnded := true }
          return false
        else
          modify fun session => { session with hasFile := true }
          opened "-" 0
      else
        modify fun session => { session with nextArgument := session.nextArgument + 1 }
        let table ← tableAt Special.arguments
        let (table, arg?) := table.find (.number session.nextArgument)
        setTable Special.arguments table
        let text ← textOf (arg?.getD .unset)
        if text.isEmpty then openNext fuel
        else
          match assignment? text with
          | some (name, value) => do
              assignNamed name value
              openNext fuel
          | none => do
              modify fun session => { session with hasFile := true }
              match ← (openInput text : WorkM (Except IoError Nat)) with
              | .ok descriptor => opened text descriptor
              | .error error =>
                  abort ("cannot open \"" ++ text ++ "\" (" ++ reason error ++ ")")
where
  opened (name : String) (descriptor : Nat) : RunM Bool := do
    modify fun session => { session with main? := some { name, descriptor } }
    setGlobal Special.fileName (.input name)
    setGlobal Special.fileRecordNumber (.ofNat 0)
    return true

def closeMain : RunM Unit := do
  match (← get).main? with
  | some inlet => do
      closeInput inlet.descriptor
      modify fun session => { session with main? := none }
  | none => return

def nextRecord : (fuel : Nat) → RunM (Option String)
  | 0 => return none
  | fuel + 1 => do
      match (← get).main? with
      | none =>
          if (← get).inputEnded then return none
          if ← openNext Act.endless then nextRecord fuel else return none
      | some inlet => do
          let (result, inlet) ← takeRecord (← recordEnd) Act.endless inlet
          modify fun session => { session with main? := some inlet }
          match result with
          | .error error => abort ("read error (" ++ reason error ++ ")")
          | .ok (some record) => do
              let number := (← globalOf Special.recordNumber).toNumber
              let fileNumber := (← globalOf Special.fileRecordNumber).toNumber
              setGlobal Special.recordNumber (.number (number.add (.ofInt 1)))
              setGlobal Special.fileRecordNumber (.number (fileNumber.add (.ofInt 1)))
              return some record
          | .ok none => do
              closeMain
              nextRecord fuel

def inletFor (isCommand : Bool) (name : String) : RunM (Option Inlet) := do
  match (← get).inlets.find? fun inlet =>
      inlet.name = name && inlet.child?.isSome = isCommand with
  | some inlet => return some inlet
  | none =>
      if isCommand then
        flushAll
        let (reading, writing) ← request .pipe
        request (.closeOnExecute reading)
        let child ← startShell name 1 (reading, writing)
        let _ ← request (.close writing)
        return some { name, descriptor := reading, child? := some child }
      else
        let path := if name = "/dev/stdin" then "-" else name
        match ← (openInput path : WorkM (Except IoError Nat)) with
        | .error _ => return none
        | .ok descriptor => do
            if descriptor ≠ 0 then request (.closeOnExecute descriptor)
            return some { name, descriptor }

/-- The next record of a file or command. Without a result it cannot be read. -/
def recordFrom (isCommand : Bool) (name : String) : RunM (Option (Option String)) := do
  match ← inletFor isCommand name with
  | none => return none
  | some inlet => do
      let (result, after) ← takeRecord (← recordEnd) Act.endless inlet
      modify fun session =>
        { session with
          inlets := after :: session.inlets.filter fun other =>
            !(other.name = name && other.child?.isSome = isCommand) }
      match result with
      | .error _ => return none
      | .ok record? => return some record?

end Bundler.Machine.Utility.Records
