import Bundler.Machine.Signal
import Bundler.Machine.Utility.Names
import Bundler.Machine.Utility.Time

/-! Programs that start other programs, or signal them: `env`, `nohup`, `nice`, `setsid`, `timeout`,
`xargs`, `kill`, and `printenv`. -/

namespace Bundler.Machine.Utility

/-- Tries to execute a file; one that is no program is taken for a script of the shell. -/
def tryExecute (path : String) (words : List String) : WorkM IoError := do
  let environment := (← get).environment
  let error ← request (.execute path words environment)
  if error = .badFormat then
    request (.execute "/bin/sh" ("/bin/sh" :: path :: words.tail) environment)
  else return error

/-- Executes a program that is looked for on the search path. That one may not be executed counts
only if there is no other. -/
def execute (words : List String) : WorkM IoError := do
  flush
  let name := words.headD ""
  if name.isEmpty then return .noSuchFile
  if name.toList.contains '/' then tryExecute name words
  else
    let path := ((← get).environment.lookup "PATH").getD "/bin:/usr/bin"
    along .noSuchFile ((path.splitOn ":").map fun directory =>
      if directory.isEmpty then name else directory ++ "/" ++ name)
where
  along (error : IoError) : List String → WorkM IoError
    | [] => return error
    | path :: rest => do
        let other ← tryExecute path words
        if other = .noSuchFile || other = .notADirectory then along error rest
        else if other = .permissionDenied then along other rest
        else return other

def statusOfFailure (error : IoError) : Nat :=
  if error = .noSuchFile then 127 else 126

def become (words : List String) (excuse : String → String) : WorkM Unit := do
  let error ← execute words
  complain (excuse (cited (words.headD "")) ++ ": " ++ reason error)
  throw (statusOfFailure error)

def spawn (child : WorkM Unit) : WorkM Nat := do
  flush
  let whole : WorkM Unit := do
    child
    flush
  Act.fork fun work => whole work (fun _ work => .stop work.status) fun status _ => .stop status

def signal? (text : String) : Option Nat :=
  match text.toNat? with
  | some n => if n ≤ Signal.last then some n else none
  | none =>
      let name := text.toUpper
      let name := if "SIG".toList.isPrefixOf name.toList then String.ofList (name.toList.drop 3)
        else name
      if name = "EXIT" || name = "0" then some 0
      else if name = "POLL" then some 29
      else Signal.names.lookup name

namespace Environment

def known : List Known :=
  [⟨"i", "ignore-environment", .none⟩, ⟨"u", "unset", .required⟩, ⟨"0", "null", .none⟩,
    ⟨"C", "chdir", .required⟩, ⟨"S", "split-string", .required⟩, ⟨"v", "debug", .none⟩,
    ⟨"", "block-signal", .optional⟩, ⟨"", "default-signal", .optional⟩,
    ⟨"", "ignore-signal", .optional⟩]

def binding? (text : String) : Option (String × String) :=
  let name := text.toList.takeWhile (· ≠ '=')
  if name.length = text.length then none
  else some (String.ofList name, String.ofList (text.toList.drop (name.length + 1)))

def bind (environment : List (String × String)) (name value : String) : List (String × String) :=
  if environment.any (·.1 = name) then
    environment.map fun pair => if pair.1 = name then (name, value) else pair
  else environment ++ [(name, value)]

def split : (fuel : Nat) → (word? : Option (List Char)) → (quote? : Option Char) → List Char →
    List String
  | 0, _, _, _ => []
  | fuel + 1, word?, quote?, chars =>
      let finish : List String := (word?.map fun word => String.ofList word.reverse).toList
      let grow (c : Char) (quote? : Option Char) (rest : List Char) : List String :=
        split fuel (some (c :: word?.getD [])) quote? rest
      match chars, quote? with
      | [], _ => finish
      | '\\' :: c :: rest, quote? =>
          if quote? = some '\'' then grow '\\' quote? (c :: rest)
          else grow (match c with
            | 'n' => '\n'
            | 't' => '\t'
            | '_' => ' '
            | c => c) quote? rest
      | c :: rest, some quote =>
          if c = quote then split fuel (some (word?.getD [])) none rest else grow c quote? rest
      | c :: rest, none =>
          if c = '\'' || c = '"' then split fuel (some (word?.getD [])) (some c) rest
          else if c = ' ' || c = '\t' || c = '\n' then finish ++ split fuel none none rest
          else grow c none rest

def expanded : List String → List String
  | "-S" :: text :: rest => split (text.length + 1) none none text.toList ++ rest
  | arg :: rest =>
      if "-S".toList.isPrefixOf arg.toList then
        let text := arg.toList.drop 2
        split (text.length + 1) none none text ++ rest
      else arg :: rest
  | [] => []

def main (args : List String) : WorkM Unit := do
  onWriteFailure 125
  let line ← commandLine known (expanded args) false 125
  let (bare, operands) := match line.operands with
    | "-" :: rest => (true, rest)
    | operands => (line.has "i", operands)
  if bare then modify fun work => { work with environment := [] }
  for name in line.all "u" do
    modify fun work => { work with environment := work.environment.filter (·.1 ≠ name) }
  let bindings := operands.takeWhile fun word => (binding? word).isSome
  for word in bindings do
    match binding? word with
    | some (name, value) =>
        modify fun work => { work with environment := bind work.environment name value }
    | none => pure ()
  match line.last? "C" with
  | some path =>
      match ← request (.enter path) with
      | .ok _ => pure ()
      | .error error =>
          die ("cannot change directory to " ++ quoted path ++ ": " ++ reason error) 125
  | none => pure ()
  match operands.drop bindings.length with
  | [] =>
      for (name, value) in (← get).environment do
        emit (name ++ "=" ++ value ++ if line.has "0" then "\x00" else "\n")
  | words => do
      for option in line.options do
        if option.1 = "ignore-signal" then
          for name in option.2.splitOn "," do
            match signal? name with
            | some signal => request (.handle signal .ignored)
            | none => pure ()
      become words id

end Environment

namespace PrintEnvironment

def main (args : List String) : WorkM Unit := do
  onWriteFailure 2
  let line ← commandLine [⟨"0", "null", .none⟩] args true 2
  let ending := if line.has "0" then "\x00" else "\n"
  let environment := (← get).environment
  if line.operands.isEmpty then
    for (name, value) in environment do emit (name ++ "=" ++ value ++ ending)
  else
    for name in line.operands do
      match environment.lookup name with
      | some value => emit (value ++ ending)
      | none => setStatus 1

end PrintEnvironment

namespace NoHangUp

def main (args : List String) : WorkM Unit := do
  let line ← commandLine [] args false 125
  if line.operands.isEmpty then misuse "missing operand" 125
  request (.handle Signal.hangUp .ignored)
  become line.operands fun name => "failed to run command " ++ name

end NoHangUp

namespace Nice

def main (args : List String) : WorkM Unit := do
  onWriteFailure 125
  let args := args.flatMap fun arg =>
    match arg.toList with
    | '-' :: c :: rest =>
        if c.isDigit || (c = '-' && rest.all Char.isDigit && !rest.isEmpty) then
          ["-n", String.ofList (c :: rest)]
        else [arg]
    | _ => [arg]
  let line ← commandLine [⟨"n", "adjustment", .required⟩] args false 125
  match line.last? "n" with
  | some text =>
      if text.toInt?.isNone then die ("invalid adjustment " ++ cited text) 125
  | none => pure ()
  if line.operands.isEmpty then emit "0\n" else become line.operands id

end Nice

namespace NewSession

def main (args : List String) : WorkM Unit := do
  let line ← commandLine [⟨"c", "ctty", .none⟩, ⟨"f", "fork", .none⟩, ⟨"w", "wait", .none⟩] args
    false
  if line.operands.isEmpty then misuse "no command specified"
  let enter : WorkM Unit := do
    request (.setGroup 0 0)
    let error ← execute line.operands
    complain ("failed to execute " ++ line.operands.headD "" ++ ": " ++ reason error)
    throw (statusOfFailure error)
  if line.has "f" then
    let _ ← spawn enter
  else enter

end NewSession

namespace TimeLimit

def known : List Known :=
  [⟨"k", "kill-after", .required⟩, ⟨"s", "signal", .required⟩, ⟨"v", "verbose", .none⟩,
    ⟨"", "foreground", .none⟩, ⟨"", "preserve-status", .none⟩]

/-- Starts a clock that sends an alarm after a time. It belongs to no group and has nothing open. -/
def startClock (time : Nat) : WorkM Nat := do
  let goal := (← request .view).pid
  let clock ← spawn do
    for (number, _) in (← request .view).descriptors do
      let _ ← request (.close number)
    let _ ← request (.sleep time)
    let _ ← request (.kill goal Signal.alarm)
  request (.setGroup clock clock)
  return clock

structure Limit where
  signal : Nat
  last? : Option Nat
  command : String
  verbose : Bool
  foreground : Bool

def send (limit : Limit) (child signal : Nat) : WorkM Unit := do
  if limit.verbose then
    complain ("sending signal " ++ Signal.name signal ++ " to command " ++ cited limit.command)
  let _ ← request (.kill child signal)
  unless limit.foreground do
    request (.handle signal .ignored)
    let _ ← request (.kill 0 signal)
    if signal ≠ Signal.killed && signal ≠ Signal.proceed then
      let _ ← request (.kill child Signal.proceed)
      let _ ← request (.kill 0 Signal.proceed)

/-- Waits for a child. The alarm ends it, first kindly and then for good. Gives how it ended and
whether it was ended. -/
def waitFor (limit : Limit) (child : Nat) :
    (fuel : Nat) → (clock? : Option Nat) → (alarms : Nat) → WorkM (Outcome × Bool)
  | 0, _, _ => return (.exited 0, false)
  | fuel + 1, clock?, alarms => do
      match ← request (.await true) with
      | .ended pid outcome =>
          if pid = child then
            match clock? with
            | some clock =>
                let _ ← request (.kill clock Signal.killed)
            | none => pure ()
            return (outcome, alarms ≠ 0)
          else waitFor limit child fuel clock? alarms
      | .interrupted => do
          let caught ← request .caught
          if caught.contains Signal.alarm then
            let clock? ← match limit.last? with
              | some time =>
                  if alarms = 0 && limit.signal ≠ Signal.killed then
                    some <$> startClock time
                  else pure none
              | none => pure none
            send limit child (if alarms = 0 then limit.signal else Signal.killed)
            waitFor limit child fuel clock? (alarms + 1)
          else waitFor limit child fuel clock? alarms
      | _ => return (.exited 0, false)

def main (args : List String) : WorkM Unit := do
  let line ← commandLine known args false 125
  let spanOf (text : String) : WorkM Nat := do
    match span? text with
    | some time => return time
    | none => misuse ("invalid time interval " ++ cited text) 125
  let last? ← (line.last? "k").mapM spanOf
  let signal ← match line.last? "s" with
    | none => pure Signal.terminate
    | some name =>
        match signal? name with
        | some signal => pure signal
        | none => misuse (cited name ++ ": invalid signal") 125
  match line.operands with
  | time :: command :: rest => do
      let time ← spanOf time
      let limit : Limit :=
        { signal, last?, command, verbose := line.has "v", foreground := line.has "foreground" }
      unless limit.foreground do request (.setGroup 0 0)
      request (.handle Signal.alarm .caught)
      let child ← spawn (become (command :: rest) fun name => "failed to run command " ++ name)
      let clock? ← if time = 0 then pure none else some <$> startClock time
      let (outcome, ended) ← waitFor limit child Act.endless clock? 0
      match outcome with
      | .exited status =>
          throw (if ended && !(line.has "preserve-status") then 124 else status)
      | .killed signal =>
          if ended && !(line.has "preserve-status") && signal ≠ Signal.killed then throw 124
          if !ended || signal = Signal.killed then
            request (.handle signal .standard)
            let _ ← request (.kill (← request .view).pid signal)
          throw (128 + signal)
  | _ => pointToHelp 125

end TimeLimit

namespace Arguments

def known : List Known :=
  [⟨"0", "null", .none⟩, ⟨"a", "arg-file", .required⟩, ⟨"d", "delimiter", .required⟩,
    ⟨"E", "", .required⟩, ⟨"e", "eof", .optional⟩, ⟨"I", "", .required⟩,
    ⟨"i", "replace", .optional⟩, ⟨"L", "max-lines", .required⟩, ⟨"l", "", .optional⟩,
    ⟨"n", "max-args", .required⟩, ⟨"o", "open-tty", .none⟩, ⟨"P", "max-procs", .required⟩,
    ⟨"p", "interactive", .none⟩, ⟨"r", "no-run-if-empty", .none⟩, ⟨"s", "max-chars", .required⟩,
    ⟨"t", "verbose", .none⟩, ⟨"x", "exit", .none⟩]

/-- What is found in the input: an item, and whether it ends a line that is not to be continued. -/
structure Item where
  text : String
  ends : Bool := true

abbrev OpenQuote := Option Char

/-- The items of a text: words or, if `lines` is given, whole lines. `word?` is what is read of the
current one, last character first. `fuel` is more than the length of the text. -/
def items (lines : Bool) : (fuel : Nat) → (word? : Option (List Char)) → List Char →
    List Item × OpenQuote
  | 0, _, _ => ([], none)
  | fuel + 1, word?, chars =>
      let done (ends : Bool) : List Item :=
        (word?.map fun word => { text := String.ofList word.reverse, ends }).toList
      let put (found : List Item) (more : List Item × OpenQuote) : List Item × OpenQuote :=
        (found ++ more.1, more.2)
      match chars with
      | [] => (done true, none)
      | '\\' :: c :: rest => items lines fuel (some (c :: word?.getD [])) rest
      | '\n' :: rest => put (done true) (items lines fuel none rest)
      | c :: rest =>
          if c = '\'' || c = '"' then
            let inner := rest.takeWhile fun d => d ≠ c && d ≠ '\n'
            match rest.drop inner.length with
            | d :: after =>
                if d = c then items lines fuel (some (inner.reverse ++ word?.getD [])) after
                else ([], some c)
            | [] => ([], some c)
          else if (c = ' ' || c = '\t') && (!lines || word?.isNone) then
            put (done false) (items lines fuel none rest)
          else items lines fuel (some (c :: word?.getD [])) rest

def delimiterOf (text : String) : Char :=
  match text.toList with
  | ['\\', 'n'] => '\n'
  | ['\\', 't'] => '\t'
  | ['\\', '0'] => '\x00'
  | c :: _ => c
  | [] => '\x00'

structure Plan where
  command : List String
  most? : Option Nat := none
  lines? : Option Nat := none
  chars : Nat := 131072
  exits : Bool := false

def sizeOf (word : String) : Nat :=
  word.length + 1

/-- The words of each command, from items. None is for a word that is too long. -/
def batches (plan : Plan) : List Item → (batch : List String) → (lines size : Nat) →
    List (Option (List String))
  | [], batch, _, _ => if batch.isEmpty then [] else [some batch.reverse]
  | item :: rest, batch, lines, size =>
      let fixed := (plan.command.map sizeOf).foldl (· + ·) 0
      let full := batch.length = plan.most?.getD (batch.length + 1) ||
        lines = plan.lines?.getD (lines + 1) ||
        (plan.chars < fixed + size + sizeOf item.text && !batch.isEmpty)
      if plan.chars < fixed + sizeOf item.text then
        (if batch.isEmpty then [] else [some batch.reverse]) ++ [none]
      else
        let count := if item.ends then 1 else 0
        if full then
          some batch.reverse :: batches plan rest [item.text] count (sizeOf item.text)
        else batches plan rest (item.text :: batch) (lines + count) (size + sizeOf item.text)

def filled (mark text word : String) : String :=
  if mark.isEmpty then word else String.intercalate text (word.splitOn mark)

def note (command : String) (outcome : Outcome) : WorkM Unit := do
  match outcome with
  | .exited 0 => return
  | .exited 255 => die (command ++ ": exited with status 255; aborting") 124
  | .exited _ => setStatus 123
  | .killed signal => die (command ++ ": terminated by signal " ++ toString signal) 125

def settle (command : String) (most : Nat) : (fuel : Nat) → (running : Nat) → WorkM Nat
  | 0, running => return running
  | fuel + 1, running => do
      if running ≤ most then return running
      match ← request (.await true) with
      | .ended _ outcome => do
          note command outcome
          settle command most fuel (running - 1)
      | .interrupted => settle command most fuel running
      | _ => return 0

/-- Starts a command, with nothing to read if `detached` is given. A pipe that closes when the
program is executed tells whether it could be. -/
def launch (detached : Bool) (words : List String) : WorkM Unit := do
  let (front, back) ← request .pipe
  let _ ← spawn do
    request (.closeOnExecute back)
    let _ ← request (.close front)
    if detached then
      match ← request (.openFile "/dev/null" .forReading 0) with
      | .ok descriptor =>
          let _ ← request (.replace descriptor 0)
          let _ ← request (.close descriptor)
      | .error _ => pure ()
    let error ← execute words
    complain (words.headD "" ++ ": " ++ reason error)
    let status := statusOfFailure error
    let _ ← request (.write back ⟨#[.ofNat status]⟩)
    throw status
  let _ ← request (.close back)
  let told ← readSome front 1 Act.endless
  let _ ← request (.close front)
  match told with
  | .ok bytes =>
      unless bytes.isEmpty do throw (bytes.toList.headD 0).toNat
  | .error _ => return

def main (args : List String) : WorkM Unit := do
  let line ← commandLine known args false
  let natural (key : String) (least : Nat) : WorkM (Option Nat) := do
    match line.last? key with
    | none => return none
    | some text =>
        match text.toNat? with
        | none => misuse ("invalid number \"" ++ text ++ "\" for -" ++ key ++ " option")
        | some n =>
            if n < least then
              misuse ("value " ++ toString n ++ " for -" ++ key ++ " option should be >= " ++
                toString least)
            return some n
  let most? ← natural "n" 1
  let lines? ← natural "L" 1
  let chars? ← natural "s" 1
  let parallel ← natural "P" 0
  let keys := line.options.map (·.1)
  let replaces := line.lastOf? ["I", "i", "n", "L", "l"]
  let mark? : Option String := match line.lastOf? ["I", "i"] with
    | some key =>
        let text := (line.last? key).getD ""
        if replaces = some "I" || replaces = some "i" ||
            (replaces = some "n" && most? = some 1) then
          some (if text.isEmpty then "\x7b\x7d" else text)
        else none
    | none => none
  if mark?.isSome && most?.isSome &&
      (keys.reverse.find? (["n", "I", "i"].contains ·)) ≠ some "n" then
    complain ("warning: options --max-args and --replace/-I/-i are mutually exclusive, " ++
      "ignoring previous --max-args value")
  let content ← match line.last? "a" with
    | some path =>
        match ← contentOf path false with
        | .ok content => pure content
        | .error error =>
            die ("Cannot open input file " ++ quoted path ++ ": " ++ reason error)
    | none => do
        match ← readAll 0 with
        | .ok content => pure content
        | .error _ => pure .empty
  let text := Octets.ofBytes content
  let delimiter? := if line.has "0" then some '\x00' else (line.last? "d").map delimiterOf
  let (found, open?) : List Item × OpenQuote := match delimiter? with
    | some delimiter =>
        ((linesOf text delimiter).1.map fun part => { text := String.ofList part }, none)
    | none => items mark?.isSome (text.length + 1) none text
  let found := match line.last? "E" with
    | some stop => if delimiter?.isSome then found else found.takeWhile (·.text ≠ stop)
    | none => found
  let command := if line.operands.isEmpty then ["echo"] else line.operands
  let name := command.headD ""
  let plan : Plan :=
    { command, most? := if mark?.isSome then none else most?
      lines? := if mark?.isSome || replaces = some "n" then none
        else if replaces = some "l" then
          some (((line.last? "l").bind String.toNat?).getD 1)
        else lines?
      chars := chars?.getD 131072
      exits := line.has "x" }
  let commands : List (Option (List String)) := match mark? with
    | some mark => found.map fun item => some (command.map (filled mark item.text))
    | none =>
        if found.isEmpty && open?.isNone then
          (if line.has "r" then [] else [some command])
        else (batches plan found [] 0 0).map fun batch? => batch?.map (command ++ ·)
  let most := match parallel with
    | some 0 => commands.length
    | some n => n
    | none => 1
  let mut running := 0
  for words? in commands do
    match words? with
    | none => die "argument line too long"
    | some words => do
        if line.has "t" then
          remark (String.intercalate " " (words.map quotedIfNeeded) ++ "\n")
        running ← settle name (most - 1) Act.endless running
        launch (line.last? "a").isNone words
        running := running + 1
  let _ ← settle name 0 Act.endless running
  match open? with
  | some quote =>
      die ("unmatched " ++ (if quote = '\'' then "single" else "double") ++
        " quote; by default quotes are special to xargs unless you use the -0 option")
  | none => return

end Arguments

namespace Kill

def usage : String :=
  "\nUsage:\n kill [options] <pid> [...]\n\nOptions:\n" ++
  " <pid> [...]            send signal to every <pid> listed\n" ++
  " -<signal>, -s, --signal <signal>\n" ++
  "                        specify the <signal> to be sent\n" ++
  " -q, --queue <value>    integer value to be sent with the signal\n" ++
  " -l, --list=[<signal>]  list all signal names, or convert one to a name\n" ++
  " -L, --table            list all signal names in a nice table\n\n" ++
  " -h, --help     display this help and exit\n" ++
  " -V, --version  output version information and exit\n\n" ++
  "For more details see kill(1).\n"

def listing : String :=
  "HUP INT QUIT ILL TRAP ABRT BUS FPE KILL USR1 SEGV USR2 PIPE ALRM TERM STKFLT\n" ++
  "CHLD CONT STOP TSTP TTIN TTOU URG XCPU XFSZ VTALRM PROF WINCH POLL PWR SYS\n"

def chosen : List String → Except String (Nat × List String)
  | "--" :: rest => .ok (Signal.terminate, rest)
  | "-s" :: name :: rest | "--signal" :: name :: rest =>
      match signal? name with
      | some signal => .ok (signal, rest)
      | none => .error ("unknown signal name " ++ name)
  | arg :: rest =>
      match arg.toList with
      | '-' :: c :: more =>
          match signal? (String.ofList (c :: more)) with
          | some signal => .ok (signal, rest)
          | none => .error ("invalid argument " ++ c.toString)
      | _ => .ok (Signal.terminate, arg :: rest)
  | [] => .ok (Signal.terminate, [])

def main (args : List String) : WorkM Unit := do
  match args with
  | [] => do
      remark usage
      throw 1
  | ["-l"] => emit listing
  | ["-l", text] =>
      match text.toNat?, signal? text with
      | some n, some _ => emit (Signal.name n ++ "\n")
      | none, some n => emit (toString n ++ "\n")
      | _, _ => complain ("unknown signal name " ++ text)
  | args => do
      match chosen args with
      | .error fault => do
          complain fault
          unless "unknown".toList.isPrefixOf fault.toList do remark usage
          throw 1
      | .ok (signal, targets) => do
          if targets.isEmpty then
            remark usage
            throw 1
          for target in targets do
            match target.toInt? with
            | none => grumble ("failed to parse argument: '" ++ target ++ "'")
            | some pid =>
                match ← request (.kill pid signal) with
                | .ok _ => pure ()
                | .error error =>
                    grumble ("(" ++ toString pid ++ "): " ++ reason error)

end Kill

end Bundler.Machine.Utility
