import Bundler.Machine.Behaviour
import Bundler.Machine.Octets
import Bundler.Machine.Shell.Arithmetic
import Bundler.Machine.Shell.Token
import Bundler.Machine.Signal

/-! What a shell knows, and the elementary things it does. -/

namespace Bundler.Machine.Shell

structure Variable where
  name : String
  value : Option String
  exported : Bool := false
  fixed : Bool := false
  lasting : Bool := false
  deriving DecidableEq, Repr

inductive Kept
  | variable (name : String) (before : Option Variable)
  | options (before : List Char)

inductive Skip
  | none
  | breaking
  | continuing
  | returning
  | leaving
  deriving DecidableEq, Repr

structure Job where
  number : Nat
  members : List (Nat × Option Outcome)
  waited : Bool := false
  deriving DecidableEq, Repr

namespace Job

def isRunning (job : Job) : Bool :=
  job.members.any (·.2.isNone)

def outcome (job : Job) : Outcome :=
  ((job.members.getLast?.bind (·.2)).getD (.exited 0))

end Job

def statusOf : Outcome → Nat
  | .exited status => status
  | .killed signal => 128 + signal

structure Input where
  /-- Where more of it is read; a string has all of it. -/
  descriptor? : Option Nat := none
  text : List Char := []
  complete : Bool := true
  line : Nat := 1
  inUse : List String := []

structure Function where
  name : String
  line : Nat
  body : Command

inductive Halt
  | failed
  | exited
  | finished
  deriving DecidableEq, Repr

structure State where
  name : String
  pid : Nat := 0
  bindings : List Variable := []
  functions : List Function := []
  aliases : List (String × String) := []
  parameters : List String := []
  options : List Char := []
  status : Nat := 0
  substituted : Nat := 0
  line : Nat := 1
  command? : Option String := none
  inFunction : Bool := false
  loops : Nat := 0
  skip : Skip := .none
  skipCount : Nat := 0
  traps : List (Nat × String) := []
  fixedSignals : List Nat := []
  savedStatus : Option Nat := none
  pending : List Nat := []
  calls : Nat := 0
  locals : List (List Kept) := []
  jobs : List Job := []
  background? : Option Nat := none
  inputs : List Input := []
  documents : List (Nat × Word) := []
  nextDocument : Nat := 0
  place : String := ""
  truePlace : String := ""
  found : List (String × Nat) := []
  optionIndex : Nat := 1
  optionOffset : Nat := 0
  written : List String := []
  aside : List (List (Nat × Option Nat)) := []
  tracing : Nat := 2
  isChild : Bool := false

abbrev ShellM := Act State Halt

def commandTime : Nat :=
  300

/-! Options. -/

def optionNames : List (String × Char) :=
  [("errexit", 'e'), ("noglob", 'f'), ("ignoreeof", 'I'), ("interactive", 'i'), ("monitor", 'm'),
    ("noexec", 'n'), ("stdin", 's'), ("xtrace", 'x'), ("verbose", 'v'), ("vi", 'V'),
    ("emacs", 'E'), ("noclobber", 'C'), ("allexport", 'a'), ("notify", 'b'), ("nounset", 'u'),
    ("privileged", 'p'), ("nolog", '\x01'), ("debug", '\x02')]

def State.has (state : State) (option : Char) : Bool :=
  state.options.contains option

def State.setOption (state : State) (option : Char) (on : Bool) : State :=
  let others := state.options.filter (· ≠ option)
  { state with options := if on then option :: others else others }

def State.optionLetters (state : State) : String :=
  String.ofList ((optionNames.map (·.2)).reverse.filter fun c => ' ' < c && state.has c)

/-! Writing. -/

def request (request : Request) : ShellM request.Reply :=
  Act.request request

def writeNow (descriptor : Nat) (octets : String) : ShellM (Except IoError Unit) :=
  request (.write descriptor (Octets.bytes octets))

def emit (octets : String) : ShellM Unit :=
  modify fun state => { state with written := octets :: state.written }

def flush : ShellM (Except IoError Unit) := do
  let parts := (← get).written
  if parts.isEmpty then return .ok ()
  modify fun state => { state with written := [] }
  let text := String.join parts.reverse
  if text.isEmpty then return .ok () else writeNow 1 text

def warn (text : String) : ShellM Unit := do
  let state ← get
  let command := match state.command? with
    | some command => command ++ ": "
    | none => ""
  let _ ← writeNow 2
    (state.name ++ ": " ++ toString state.line ++ ": " ++ command ++ text ++ "\n")

def fail (text : String) : ShellM α := do
  modify fun state => { state with status := 2 }
  warn text
  let _ ← flush
  throw .failed

def illegalNumber (text : String) : ShellM α :=
  fail ("Illegal number: " ++ text)

def number (text : String) : ShellM Nat := do
  match integer? 10 text with
  | some n => if 0 ≤ n && n < Nat.pow 2 31 then return n.toNat else illegalNumber text
  | none => illegalNumber text

def pass : ShellM Unit :=
  request (.pass commandTime)

/-! Variables. -/

def State.known? (state : State) (name : String) : Option Variable :=
  state.bindings.find? (·.name = name)

def State.lookup (state : State) (name : String) : Option String :=
  (state.known? name).bind (·.value)

def State.separators (state : State) : List Char :=
  match state.lookup "IFS" with
  | some text => text.toList
  | none => [' ', '\t', '\n']

def State.put (state : State) (entry : Variable) : State :=
  if state.bindings.any (·.name = entry.name) then
    { state with
      bindings := state.bindings.map fun other =>
        if other.name = entry.name then entry else other }
  else { state with bindings := state.bindings ++ [entry] }

def State.erase (state : State) (name : String) : State :=
  { state with bindings := state.bindings.filter (·.name ≠ name) }

def notice (name : String) (value? : Option String) : ShellM Unit := do
  if name = "PATH" then modify fun state => { state with found := [] }
  if name = "OPTIND" then
    match value? with
    | some text => do
        let n ← number text
        modify fun state =>
          { state with optionIndex := if n = 0 then 1 else n, optionOffset := 0 }
    | none => pure ()

def setVariable (name : String) (value? : Option String) (isExport : Bool := false) :
    ShellM Unit := do
  match (← get).known? name with
  | some before =>
      if before.fixed then fail (name ++ ": is read only")
      notice name value?
      let state ← get
      if value?.isNone && !before.lasting && !isExport then set (state.erase name)
      else
        set (state.put { before with
          value := value?
          exported := before.exported || isExport || state.has 'a' })
  | none => do
      let state ← get
      unless value?.isNone && !isExport do
        set (state.put { name, value := value?, exported := isExport || state.has 'a' })

def makeLocal (name : String) (value? : Option String) (isExport : Bool) : ShellM Unit := do
  let state ← get
  let before? := state.known? name
  match before? with
  | none => set (state.put { name, value := none, exported := isExport, lasting := true })
  | some before => set (state.put { before with lasting := true })
  if value?.isSome then setVariable name value? isExport
  modify fun state =>
    match state.locals with
    | frame :: frames => { state with locals := (.variable name before? :: frame) :: frames }
    | [] => state

def State.restore (state : State) : Kept → State
  | .options before => { state with options := before }
  | .variable name before? =>
      let state := if name = "PATH" then { state with found := [] } else state
      match before? with
      | some before => state.put before
      | none => state.erase name

def pushLocals : ShellM Unit :=
  modify fun state => { state with locals := [] :: state.locals }

def popLocals (depth : Nat) : ShellM Unit :=
  modify fun state =>
    let gone := state.locals.take (state.locals.length - depth)
    let state := gone.foldl (fun state frame => frame.foldl State.restore state) state
    { state with locals := state.locals.drop (state.locals.length - depth) }

def bucket (name : String) : Nat :=
  let codes := name.toList.map (·.toNat)
  (codes.headD 0 * 16 + codes.foldl (· + ·) 0) % 39

def State.environment (state : State) : List (String × String) :=
  let exported := state.bindings.filterMap fun entry =>
    if entry.exported then entry.value.map (entry.name, ·) else none
  (List.range 39).flatMap fun n => exported.filter fun (name, _) => bucket name = n

def quoted (text : String) : String :=
  let rec go : (fuel : Nat) → List Char → List Char
    | 0, _ => []
    | fuel + 1, chars =>
        let plain := chars.takeWhile (· ≠ '\'')
        let rest := chars.drop plain.length
        let quotes := rest.takeWhile (· = '\'')
        '\'' :: plain ++ '\'' ::
          if quotes.isEmpty then []
          else
            '"' :: quotes ++ '"' ::
              match rest.drop quotes.length with
              | [] => []
              | rest => go fuel rest
  String.ofList (go (text.length + 1) text.toList)

end Bundler.Machine.Shell
