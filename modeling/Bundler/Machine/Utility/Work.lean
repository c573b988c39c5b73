import Bundler.Machine.Octets
import Bundler.Machine.Status

/-!
The computations of the system's small programs. What they write to the standard output is gathered
and written in large parts, and in any case before they complain of something.
-/

namespace Bundler.Machine.Utility

structure Work where
  name : String
  environment : List (String × String) := []
  output : ByteArray := .empty
  status : Nat := 0
  input : ByteArray := .empty
  used : Nat := 0
  lineEnded : Bool := true
  usage? : Option String := none
  unwritten : Nat := 1
  writeFault : String → String := fun reason => "write error: " ++ reason
  deriving Inhabited

abbrev WorkM := Act Work Nat

def request (request : Request) : WorkM request.Reply :=
  Act.request request

def partSize : Nat :=
  4096

def pieceTime : Nat :=
  2000

def flush : WorkM Unit := do
  let work ← get
  unless work.output.isEmpty do
    set { work with output := .empty }
    match ← request (.write 1 work.output) with
    | .ok _ => return
    | .error error =>
        let _ ← request (.write 2
          (Octets.bytes (work.name ++ ": " ++ work.writeFault error.reason ++ "\n")))
        throw work.unwritten

def onWriteFailure (status : Nat) : WorkM Unit :=
  modify fun work => { work with unwritten := status }

def setWriteFault (fault : String → String) : WorkM Unit :=
  modify fun work => { work with writeFault := fault }

def emitBytes (bytes : ByteArray) : WorkM Unit := do
  modify fun work => { work with output := work.output ++ bytes }
  if partSize ≤ (← get).output.size then flush

def emit (octets : String) : WorkM Unit :=
  emitBytes (Octets.bytes octets)

def emitChars (octets : List Char) : WorkM Unit :=
  emitBytes (Octets.toBytes octets)

def remark (octets : String) : WorkM Unit := do
  flush
  let _ ← request (.write 2 (Octets.bytes octets))

def complain (text : String) : WorkM Unit := do
  remark ((← get).name ++ ": " ++ text ++ "\n")

def setStatus (status : Nat) : WorkM Unit :=
  modify fun work => { work with status := max work.status status }

def grumble (text : String) (status : Nat := 1) : WorkM Unit := do
  complain text
  setStatus status

def die (text : String) (status : Nat := 1) : WorkM α := do
  complain text
  throw status

def pointToHelp (status : Nat := 1) : WorkM α := do
  let work ← get
  remark (work.usage?.getD ("Try '" ++ work.name ++ " --help' for more information.\n"))
  throw status

def misuse (text : String) (status : Nat := 1) : WorkM α := do
  complain text
  pointToHelp status

def octalEscape (c : Char) : String :=
  let digits := String.ofList (Nat.toDigits 8 c.toNat)
  "\\" ++ String.ofList (List.replicate (3 - digits.length) '0') ++ digits

def quoted (name : String) : String :=
  let special (c : Char) : Bool := c.toNat < 32 || c.toNat = 127 || 128 ≤ c.toNat
  if name.toList.any special then escapedForm name
  else if name.toList.contains '\'' then
    if name.toList.any fun c => c == '"' || c == '\\' || c == '$' || c == '`' then
      "'" ++ String.intercalate "'\\''" (name.splitOn "'") ++ "'"
    else "\"" ++ name ++ "\""
  else "'" ++ name ++ "'"
where
  escapedForm (name : String) : String :=
    let code (c : Char) : String := match c with
      | '\n' => "\\n"
      | '\t' => "\\t"
      | '\r' => "\\r"
      | c => octalEscape c
    let rec go : List Char → Bool → String
      | [], inside => if inside then "'" else ""
      | c :: rest, inside =>
          if c.toNat < 32 || c.toNat = 127 || 128 ≤ c.toNat then
            (if inside then "'" else "") ++ "$'" ++ code c ++ "'" ++
              (match rest with
                | [] => ""
                | rest => "'" ++ go rest true)
          else if c == '\'' then (if inside then "'" else "") ++ "\\''" ++ go rest true
          else (if inside then "" else "'") ++ c.toString ++ go rest true
    "'" ++ go name.toList true

def cited (text : String) : String :=
  let shown (c : Char) : String :=
    if c = '\'' then "\\'"
    else if c = '\\' then "\\\\"
    else if c.toNat < 32 || 127 ≤ c.toNat then
      match c with
      | '\n' => "\\n"
      | '\t' => "\\t"
      | '\r' => "\\r"
      | c => octalEscape c
    else c.toString
  "'" ++ String.join (text.toList.map shown) ++ "'"

def quotedIfNeeded (name : String) : String :=
  let plain (c : Char) : Bool :=
    c.isAlphanum ||
      ['_', '-', '.', '/', ',', '+', '@', '%', ':', '^', ']', '\x7b', '\x7d'].contains c
  if !name.isEmpty && name.toList.all plain then name
  else quoted name

def reason (error : IoError) : String :=
  error.reason

/-! Input. -/

def readSome (descriptor count : Nat) : (fuel : Nat) → WorkM (Except IoError ByteArray)
  | 0 => return .ok .empty
  | fuel + 1 => do
      match ← request (.read descriptor count) with
      | .error error =>
          if error = .interruptedCall then readSome descriptor count fuel else return .error error
      | .ok bytes => return .ok bytes

def readAllFrom (descriptor : Nat) : (fuel : Nat) → ByteArray → WorkM (Except IoError ByteArray)
  | 0, before => return .ok before
  | fuel + 1, before => do
      match ← readSome descriptor 65536 Act.endless with
      | .error error => return .error error
      | .ok bytes =>
          if bytes.isEmpty then return .ok before
          else readAllFrom descriptor fuel (before ++ bytes)

def readAll (descriptor : Nat) : WorkM (Except IoError ByteArray) :=
  readAllFrom descriptor Act.endless .empty

/-- Opens a file for reading; a dash is the standard input if that is allowed. -/
def openInput (path : String) (dash : Bool := true) : WorkM (Except IoError Nat) := do
  if dash && path = "-" then return .ok 0
  else
    match ← request (.openFile path .forReading 0) with
    | .error error => return .error error
    | .ok descriptor =>
        if 3 ≤ descriptor then return .ok descriptor
        else
          let found ← request (.duplicate descriptor 3)
          let _ ← request (.close descriptor)
          return found

def closeInput (descriptor : Nat) : WorkM Unit := do
  if descriptor ≠ 0 then let _ ← request (.close descriptor)

def contentOf (path : String) (dash : Bool := true) : WorkM (Except IoError ByteArray) := do
  match ← openInput path dash with
  | .error error => return .error error
  | .ok descriptor => do
      let content ← readAll descriptor
      closeInput descriptor
      return content

def startInput : WorkM Unit :=
  modify fun work => { work with input := .empty, used := 0, lineEnded := true }

/-- Where a byte is found, from some place on. `fuel` is more than the number of bytes left. -/
def findByte (bytes : ByteArray) (byte : UInt8) : (fuel : Nat) → (start : Nat) → Option Nat
  | 0, _ => none
  | fuel + 1, start =>
      if h : start < bytes.size then
        if bytes[start] == byte then some start else findByte bytes byte fuel (start + 1)
      else none

def readLineFrom (descriptor : Nat) (mark : UInt8) :
    (fuel : Nat) → WorkM (Except IoError (Option ByteArray))
  | 0 => return .ok none
  | fuel + 1 => do
      let work ← get
      match findByte work.input mark (work.input.size + 1) work.used with
      | some place => do
          set { work with used := place + 1, lineEnded := true }
          return .ok (some (work.input.extract work.used place))
      | none => do
          let left := work.input.extract work.used work.input.size
          match ← readSome descriptor 65536 Act.endless with
          | .error error => return .error error
          | .ok bytes =>
              if bytes.isEmpty then
                set { ← get with input := .empty, used := 0, lineEnded := false }
                return .ok (if left.isEmpty then none else some left)
              else
                set { ← get with input := left ++ bytes, used := 0 }
                readLineFrom descriptor mark fuel

def readLine (descriptor : Nat) (mark : UInt8 := 10) : WorkM (Except IoError (Option ByteArray)) :=
  readLineFrom descriptor mark Act.endless

def hasMore (descriptor : Nat) : WorkM Bool := do
  let work ← get
  if work.used < work.input.size then return true
  match ← readSome descriptor 65536 Act.endless with
  | .error _ => return false
  | .ok bytes => do
      set { ← get with input := bytes, used := 0 }
      return !bytes.isEmpty

def giveBack (descriptor : Nat) : WorkM Unit := do
  let work ← get
  let left := work.input.size - work.used
  if left ≠ 0 then
    let _ ← request (.seek descriptor (-(left : Int)) .current)
  startInput

def foldLinesFrom (descriptor : Nat) (mark : UInt8)
    (step : β → List Char → WorkM (β × Bool)) :
    (fuel : Nat) → β → WorkM (Except IoError β)
  | 0, value => return .ok value
  | fuel + 1, value => do
      match ← readLine descriptor mark with
      | .error error => return .error error
      | .ok none => return .ok value
      | .ok (some line) => do
          request (.pass pieceTime)
          let (value, more) ← step value (Octets.ofBytes line)
          if more then foldLinesFrom descriptor mark step fuel value else return .ok value

def foldLines (descriptor : Nat) (mark : UInt8) (value : β)
    (step : β → List Char → WorkM (β × Bool)) : WorkM (Except IoError β) := do
  startInput
  foldLinesFrom descriptor mark step Act.endless value

def linesOf (content : List Char) (mark : Char := '\n') : List (List Char) × Bool :=
  if content.isEmpty then ([], true)
  else
    let parts := content.splitOn mark
    if parts.getLast? = some [] then (parts.dropLast, true) else (parts, false)

def program (main : List String → WorkM Unit) (words : List String)
    (environment : List (String × String)) : Behaviour :=
  let name := words.headD ""
  let whole : WorkM Unit := do
    main words.tail
    flush
  let failed (status : Nat) (work : Work) : Behaviour :=
    (flush : WorkM Unit) work (fun _ _ => .stop status) fun status _ => .stop status
  whole { name, environment } (fun _ work => .stop work.status) failed

end Bundler.Machine.Utility
