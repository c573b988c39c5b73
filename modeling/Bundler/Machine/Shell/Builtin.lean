import Bundler.Machine.Shell.Condition
import Bundler.Machine.Shell.Jobs
import Bundler.Machine.Shell.Printf
import Bundler.Machine.Shell.Search

/-! The builtins of the shell that carry out no commands themselves. -/

namespace Bundler.Machine.Shell.Builtin

/-- Reads the letters of one word of options. In the list of known letters a colon follows those
that take an argument, which may be the next word. Gives the options, and whether that word was
taken. -/
def letters (known : List Char) (next? : Option String) : List Char →
    ShellM (List (Char × String) × Bool)
  | [] => return ([], false)
  | c :: more =>
      match known.dropWhile (· ≠ c) with
      | [] => fail ("Illegal option -" ++ c.toString)
      | _ :: ':' :: _ =>
          match more, next? with
          | [], some next => return ([(c, next)], true)
          | [], none => fail ("No arg for -" ++ c.toString ++ " option")
          | more, _ => return ([(c, String.ofList more)], false)
      | _ => do
          let (found, taken) ← letters known next? more
          return ((c, "") :: found, taken)

def options (known : String) : List String → ShellM (List (Char × String) × List String)
  | [] => return ([], [])
  | "--" :: rest => return ([], rest)
  | [arg] =>
      match arg.toList with
      | '-' :: c :: more => do
          let (found, _) ← letters known.toList none (c :: more)
          return (found, [])
      | _ => return ([], [arg])
  | arg :: next :: rest =>
      match arg.toList with
      | '-' :: c :: more => do
          let (found, taken) ← letters known.toList (some next) (c :: more)
          let (others, left) ← if taken then options known rest else options known (next :: rest)
          return (found ++ others, left)
      | _ => return ([], arg :: next :: rest)

def plain (args : List String) : ShellM (List String) := do
  return (← options "" args).2

/-! Variables. -/

def setNamed (name : String) (value? : Option String) (isExport : Bool := false) : ShellM Unit := do
  if isName name then setVariable name value? isExport else fail (name ++ ": bad variable name")

def splitAssignment (text : String) : String × Option String :=
  let name := text.toList.takeWhile (· ≠ '=')
  match text.toList.drop name.length with
  | _ :: value => (String.ofList name, some (String.ofList value))
  | [] => (text, none)

def listing (title : String) (chosen : List Variable) : String :=
  let sorted := chosen.mergeSort fun a b => decide (a.name ≤ b.name)
  String.join (sorted.map fun entry =>
    title ++ (if title.isEmpty then "" else " ") ++ entry.name ++
      (match entry.value with
        | some value => "=" ++ quoted value
        | none => "") ++ "\n")

def exportOrFix (name : String) (args : List String) : ShellM Nat := do
  let fixes := name = "readonly"
  let (found, args) ← options "p" args
  if !found.isEmpty || args.isEmpty then
    let state ← get
    emit (listing name (state.bindings.filter fun entry =>
      if fixes then entry.fixed else entry.exported))
  else
    for arg in args do
      let (name, value?) := splitAssignment arg
      let mark (entry : Variable) : Variable :=
        if fixes then { entry with fixed := true } else { entry with exported := true }
      match value?, (← get).known? name with
      | none, some entry => modify fun state => state.put (mark entry)
      | _, _ => do
          setNamed name value? (!fixes)
          modify fun state =>
            state.put (mark ((state.known? name).getD { name, value := none }))
  return 0

def localize (args : List String) : ShellM Nat := do
  if (← get).locals.isEmpty then fail "not in a function"
  for arg in args do
    if arg = "-" then
      modify fun state =>
        match state.locals with
        | frame :: frames => { state with locals := (.options state.options :: frame) :: frames }
        | [] => state
    else
      let (name, value?) := splitAssignment arg
      if !isName name then fail (name ++ ": bad variable name")
      makeLocal name value? false
  return 0

def unset (args : List String) : ShellM Nat := do
  let (found, args) ← options "vf" args
  for name in args do
    if (found.getLast?.map (·.1)) = some 'f' then
      modify fun state =>
        { state with functions := state.functions.filter (·.name ≠ name) }
    else setNamed name none
  return 0

def shift (args : List String) : ShellM Nat := do
  let n ← match args with
    | [] => pure 1
    | arg :: _ => number arg
  let state ← get
  if state.parameters.length < n then fail "can't shift that many"
  set { state with parameters := state.parameters.drop n, optionIndex := 1, optionOffset := 0 }
  return 0

/-! Options of the shell. -/

def setByName (name? : Option String) (on : Bool) : ShellM Unit := do
  match name? with
  | none => do
      let state ← get
      if on then
        emit "Current option settings\n"
        for (name, letter) in optionNames do
          emit (name ++ String.ofList (List.replicate (16 - name.length) ' ') ++
            (if state.has letter then "on" else "off") ++ "\n")
      else
        for (name, letter) in optionNames do
          emit ("set " ++ (if state.has letter then "-o " else "+o ") ++ name ++ "\n")
  | some name =>
      match optionNames.lookup name with
      | some letter => modify fun state => state.setOption letter on
      | none => fail ("Illegal option -o " ++ name)

/-- Sets options by the letters of one word. Gives the words that are left. -/
def setByLetters (on : Bool) : List Char → List String → ShellM (List String)
  | [], rest => return rest
  | 'o' :: more, rest => do
      setByName rest.head? on
      setByLetters on more rest.tail
  | c :: more, rest => do
      if (optionNames.map (·.2)).contains c then modify fun state => state.setOption c on
      else fail ("Illegal option -" ++ c.toString)
      setByLetters on more rest

/-- Sets the options that arguments tell. Gives the arguments that are left, and whether they are
to take the place of the parameters even if there are none. `fuel` is more than their number. -/
def setOptions : (fuel : Nat) → List String → ShellM (List String × Bool)
  | 0, args => return (args, false)
  | _ + 1, [] => return ([], false)
  | fuel + 1, arg :: rest =>
      match arg.toList with
      | ['-'] => do
          modify fun state => (state.setOption 'x' false).setOption 'v' false
          return (rest, false)
      | ['-', '-'] => return (rest, true)
      | '-' :: more => do setOptions fuel (← setByLetters true more rest)
      | '+' :: more => do setOptions fuel (← setByLetters false more rest)
      | _ => return (arg :: rest, false)

def checkOptions : ShellM Unit := do
  if (← get).has 'm' then
    warn "can't access tty; job control turned off"
    modify fun state => state.setOption 'm' false

def setParameters (parameters : List String) : ShellM Unit :=
  modify fun state => { state with parameters, optionIndex := 1, optionOffset := 0 }

def setBuiltin (args : List String) : ShellM Nat := do
  if args.isEmpty then
    emit (listing "" ((← get).bindings.filter (·.value.isSome)))
  else
    let (rest, replaces) ← setOptions (args.length + 1) args
    checkOptions
    if replaces || !rest.isEmpty then setParameters rest
  return 0

/-! Directories. -/

def isPhysical (found : List (Char × String)) : Bool :=
  (found.getLast?.map (·.1)) = some 'P'

def along (base : List String) (names : List String) : List String :=
  names.foldl (fun back name =>
    if name = "" || name = "." then back
    else if name = ".." then back.tail
    else name :: back) base

def logical (place path : String) : String :=
  let names (text : String) : List String := (text.splitOn "/").filter (· ≠ "")
  let isDouble (text : String) : Bool :=
    match text.toList with
    | '/' :: '/' :: c :: _ => c ≠ '/'
    | _ => false
  let absolute := path.toList.head? = some '/'
  let start := if absolute then [] else (names place).reverse
  let double := if absolute then isDouble path else isDouble place
  (if double then "//" else "/") ++ String.intercalate "/" (along start (names path)).reverse

def setPlace (place : String) (withOld : Bool) : ShellM Unit := do
  let state ← get
  if withOld then setVariable "OLDPWD" (some state.place) true
  let view ← request .view
  modify fun state => { state with place, truePlace := view.directory?.getD place }
  setVariable "PWD" (some place) true

def enter (path : String) (physical : Bool) : ShellM Bool := do
  let state ← get
  let goal := if physical then path else logical state.place path
  match ← request (.enter goal) with
  | .error _ => return false
  | .ok _ => do
      if physical then
        let view ← request .view
        setPlace (view.directory?.getD goal) true
      else setPlace goal true
      if (state.path.splitOn ":").any fun directory => directory.toList.head? ≠ some '/' then
        modify fun state => { state with found := [] }
      return true

def belowSearched (view : View) (searchPath path : String) : Option (String × Bool) :=
  ((searchPath.splitOn ":").zip (pathsFor searchPath path)).findSome? fun (directory, candidate) =>
    if view.isDirectory candidate then some (candidate, !directory.isEmpty) else none

def changeDirectory (args : List String) : ShellM Nat := do
  let (found, args) ← options "LP" args
  let physical := isPhysical found
  let state ← get
  let (goal, tells) := match args with
    | [] => ((state.lookup "HOME").getD "", false)
    | "-" :: _ => ((state.lookup "OLDPWD").getD "", true)
    | arg :: _ => (arg, false)
  let isAnchored := match goal.toList with
    | '/' :: _ | ['.'] | ['.', '.'] | '.' :: '/' :: _ | '.' :: '.' :: '/' :: _ => true
    | _ => false
  let path := if goal.isEmpty then "." else goal
  let found? ← match isAnchored, state.lookup "CDPATH" with
    | false, some searchPath => do
        pure (belowSearched (← request .view) searchPath path)
    | _, _ => pure none
  let (path, tells) := match found? with
    | some (path, searched) => (path, tells || searched)
    | none => (path, tells)
  if ← enter path physical then
    if tells then emit ((← get).place ++ "\n")
    return 0
  else fail ("can't cd to " ++ path)

def printDirectory (args : List String) : ShellM Nat := do
  let (found, _) ← options "LP" args
  let state ← get
  emit ((if isPhysical found then state.truePlace else state.place) ++ "\n")
  return 0

/-! Input. -/

structure LineRead where
  x : Expansion := {}
  start : Nat := 0
  escaped : Bool := false

namespace LineRead

def put (line : LineRead) (c : Char) : LineRead :=
  let x := line.x.push (.octet c)
  if line.escaped then { x, start := x.size, escaped := false } else { line with x }

def cut (line : LineRead) : LineRead :=
  { line with x := line.x.record line.start line.x.size false, start := line.x.size }

end LineRead

/-- Reads a line byte by byte. Gives whether there was an end to it. -/
def readLine (raw : Bool) : (fuel : Nat) → LineRead → ShellM (LineRead × Bool)
  | 0, line => return (line, false)
  | fuel + 1, line => do
      match ← request (.read 0 1) with
      | .error error => do
          takeSignals
          if error = .interruptedCall && (← get).pending.isEmpty then readLine raw fuel line
          else return (line, false)
      | .ok bytes =>
          match bytes.toList.head? with
          | none => return (line, false)
          | some byte =>
              let c := Char.ofNat byte.toNat
              if byte = 0 then readLine raw fuel line
              else if line.escaped then
                if c == '\n' then readLine raw fuel { line with escaped := false }
                else readLine raw fuel (line.put c)
              else if !raw && c == '\\' then readLine raw fuel { line.cut with escaped := true }
              else if c == '\n' then return (line, true)
              else readLine raw fuel (line.put c)

def read (args : List String) : ShellM Nat := do
  let (found, names) ← options "p:r" args
  if names.isEmpty then fail "arg count"
  let (line, ended) ← readLine (found.any (·.1 = 'r')) Act.endless {}
  let parts := fields line.cut.x (← get).separators (some names.length)
  let values := parts.map fun cells => String.ofList (textOf cells)
  for (name, index) in names.zipIdx do
    setNamed name (some ((values[index]?).getD ""))
  return if ended then 0 else 1

def takesArgument? (c : Char) : List Char → Option Bool
  | [] => none
  | d :: rest =>
      if d == c then some (rest.head? = some ':')
      else
        match rest with
        | ':' :: rest => takesArgument? c rest
        | rest => takesArgument? c rest

def nextOption (known name : String) (words : List String) : ShellM Nat := do
  let state ← get
  let position := state.optionIndex - 1
  let rest := if position = 0 || state.optionOffset = 0 then []
    else ((words[position - 1]?).getD "").toList.drop state.optionOffset
  let (rest, position, done) := match rest, words[position]? with
    | [], some word =>
        match word.toList with
        | ['-', '-'] => ([], position + 1, true)
        | '-' :: c :: more => (c :: more, position + 1, false)
        | _ => ([], position, true)
    | [], none => ([], position, true)
    | rest, _ => (rest, position, false)
  let conclude (c : Char) (left position : Nat) : ShellM Unit := do
    let length := ((words[position - 1]?).getD "").length
    setVariable "OPTIND" (some (toString (position + 1)))
    setNamed name (some c.toString)
    modify fun state =>
      { state with
        optionIndex := position + 1
        optionOffset := if left = 0 then 0 else length - left }
  let quiet := known.toList.head? = some ':'
  match done, rest with
  | false, c :: more => do
      match takesArgument? c known.toList with
      | none => do
          if quiet then setVariable "OPTARG" (some c.toString)
          else
            let _ ← writeNow 2 ("Illegal option -" ++ c.toString ++ "\n")
            setVariable "OPTARG" none
          conclude '?' more.length position
      | some false => do
          setVariable "OPTARG" (some "")
          conclude c more.length position
      | some true =>
          if !more.isEmpty then
            setVariable "OPTARG" (some (String.ofList more))
            conclude c 0 position
          else
            match words[position]? with
            | some argument => do
                setVariable "OPTARG" (some argument)
                conclude c 0 (position + 1)
            | none => do
                if quiet then
                  setVariable "OPTARG" (some c.toString)
                  conclude ':' 0 position
                else
                  let _ ← writeNow 2 ("No arg for -" ++ c.toString ++ " option\n")
                  setVariable "OPTARG" none
                  conclude '?' 0 position
      return 0
  | _, _ => do
      conclude '?' 0 position
      return 1

def getopts (args : List String) : ShellM Nat := do
  match ← plain args with
  | known :: name :: words => do
      let state ← get
      let words := if words.isEmpty then state.parameters else words
      if words.length + 1 < state.optionIndex then
        modify fun state => { state with optionIndex := 1, optionOffset := 0 }
      nextOption known name words
  | _ => fail "Usage: getopts optstring var [arg...]"

/-! Aliases, commands and functions. -/

def aliasLine (name value : String) : String :=
  name ++ "=" ++ quoted value ++ "\n"

def aliasCommand (args : List String) : ShellM Nat := do
  if args.isEmpty then
    let state ← get
    for n in List.range 39 do
      for (name, value) in state.aliases do
        if bucket name = n then emit (aliasLine name value)
    return 0
  let mut status := 0
  for arg in args do
    let name := match arg.toList with
      | c :: rest => c :: rest.takeWhile (· ≠ '=')
      | [] => []
    match arg.toList.drop name.length with
    | _ :: value => do
        let entry := (String.ofList name, String.ofList value)
        modify fun state =>
          { state with
            aliases :=
              if state.aliases.any (·.1 = entry.1) then
                state.aliases.map fun other => if other.1 = entry.1 then entry else other
              else state.aliases ++ [entry] }
    | [] => do
        match (← get).aliases.lookup arg with
        | some value => emit (aliasLine arg value)
        | none => do
            let _ ← writeNow 2 ("alias: " ++ arg ++ " not found\n")
            status := 1
  return status

def unalias (args : List String) : ShellM Nat := do
  let (found, args) ← options "a" args
  if !found.isEmpty then
    modify fun state => { state with aliases := [] }
    return 0
  let mut status := 0
  for name in args do
    if (← get).aliases.any (·.1 = name) then
      modify fun state => { state with aliases := state.aliases.filter (·.1 ≠ name) }
    else
      let _ ← writeNow 2 ("unalias: " ++ name ++ " not found\n")
      status := 1
  return status

def type (args : List String) : ShellM Nat := do
  let mut status := 0
  for name in ← plain args do
    if (← describe name none true) ≠ 0 then status := 127
  return status

def command (args : List String) : ShellM Nat := do
  let (found, args) ← options "pvV" args
  let path? := if found.any (·.1 = 'p') then some usualPath else none
  let atLength := found.any (·.1 = 'V')
  match args with
  | name :: _ =>
      if atLength || found.any (·.1 = 'v') then describe name path? atLength else return 0
  | [] => return 0

def commandBucket (name : String) : Nat :=
  let codes := name.toList.map (·.toNat)
  (codes.headD 0 * 16 + codes.foldl (· + ·) 0) % 32768 % 31

def hash (args : List String) : ShellM Nat := do
  let (found, args) ← options "r" args
  if !found.isEmpty then
    modify fun state => { state with found := [] }
    return 0
  if args.isEmpty then
    let state ← get
    for n in List.range 31 do
      for (name, index) in state.found do
        if commandBucket name = n then
          emit (((pathsFor state.path name)[index]?).getD name ++ "\n")
    return 0
  let mut status := 0
  for name in args do
    modify fun state => { state with found := state.found.filter (·.1 ≠ name) }
    match ← findCommand name true none false with
    | .missing error => do
        warn (name ++ ": " ++ reasonOf error "not found")
        status := 1
    | _ => pure ()
  return status

/-! Signals and processes. -/

def signal? (text : String) (least : Nat) : Option Nat :=
  if !text.isEmpty && text.toList.all isDigit then
    (text.toNat?).filter (· ≤ Signal.last)
  else
    ((List.range (Signal.last + 1)).filter (least ≤ ·)).find? fun signal =>
      (if signal = 0 then "EXIT" else Signal.name signal) = text.toUpper

def arrange (signal : Nat) : ShellM Unit := do
  let state ← get
  unless signal = 0 || state.fixedSignals.contains signal do
    request (.handle signal (match state.traps.lookup signal with
      | none => .standard
      | some "" => .ignored
      | some _ => .caught))

def trap (args : List String) : ShellM Nat := do
  let args ← plain args
  let (action?, signals) := match args with
    | [] => (none, [])
    | [_] => (none, args)
    | action :: rest =>
        if (action.toNat?.filter (· ≤ Signal.last)).isSome then (none, args)
        else (some action, rest)
  if args.isEmpty then
    let traps := (← get).traps
    for signal in List.range (Signal.last + 1) do
      match traps.lookup signal with
      | some action =>
          emit ("trap -- " ++ quoted action ++ " " ++
            (if signal = 0 then "EXIT" else Signal.name signal) ++ "\n")
      | none => pure ()
    return 0
  each (action?.filter (· ≠ "-")) signals
where
  each (action? : Option String) : List String → ShellM Nat
    | [] => return 0
    | name :: rest => do
        match signal? name 0 with
        | none => do
            let _ ← writeNow 2 ("trap: " ++ name ++ ": bad trap\n")
            return 1
        | some signal => do
            modify fun state =>
              { state with
                traps := action?.toList.map (signal, ·) ++ state.traps.filter (·.1 ≠ signal) }
            arrange signal
            each action? rest

def killUsage : String :=
  "Usage: kill [-s sigspec | -signum | -sigspec] [pid | job]... or\nkill -l [exitstatus]"

def sendAll (signal : Nat) (args : List String) : ShellM Nat := do
  let mut status := 0
  for arg in args do
    let target : Int ← match arg.toList with
      | '%' :: _ => do
          pure (-(((← namedJob arg).members.head?.map fun (pid, _) => (pid : Int)).getD 0))
      | '-' :: rest => do pure (-((← number (String.ofList rest)) : Int))
      | _ => do pure ((← number arg) : Int)
    match ← request (.kill target signal) with
    | .ok _ => pure ()
    | .error error => do
        warn (error.reason ++ "\n")
        status := 1
  return status

def kill (args : List String) : ShellM Nat := do
  let direct? := match args.head?.map (·.toList) with
    | some ('-' :: name) => signal? (String.ofList name) 1
    | _ => none
  match direct? with
  | some signal => if args.tail.isEmpty then fail killUsage else sendAll signal args.tail
  | none => do
      let (found, rest) ← if (args.headD "").toList.head? = some '-' then options "ls:" args
        else pure ([], args)
      let signal? ← found.foldlM (fun before (letter, name) => do
        if letter = 's' then
          match signal? name 1 with
          | some signal => pure (some signal)
          | none => fail ("invalid signal number or name: " ++ name)
        else pure before) none
      if found.any (·.1 = 'l') then
        if signal?.isSome then fail killUsage
        match rest with
        | [] => do
            emit "0\n"
            for signal in (List.range Signal.last).map (· + 1) do
              emit (Signal.name signal ++ "\n")
            return 0
        | arg :: _ => do
            let n ← number arg
            let signal := if 128 < n then n - 128 else n
            if 0 < signal && signal ≤ Signal.last then
              emit (Signal.name signal ++ "\n")
              return 0
            else fail ("invalid signal number or exit status: " ++ arg)
      else if rest.isEmpty then fail killUsage
      else sendAll (signal?.getD Signal.terminate) rest

def symbolicMask (mask : Nat) : String :=
  let part (name : String) (shift : Nat) : String :=
    let allowed := 7 - mask / Nat.pow 2 shift % 8
    name ++ "=" ++ (if allowed &&& 4 ≠ 0 then "r" else "") ++
      (if allowed &&& 2 ≠ 0 then "w" else "") ++ (if allowed &&& 1 ≠ 0 then "x" else "")
  part "u" 6 ++ "," ++ part "g" 3 ++ "," ++ part "o" 0

/-- The permissions that a text in letters allows, from those allowed before. `fuel` is more than
its length. -/
def allowedBy (before : Nat) : (fuel : Nat) → (allowed positions : Nat) → List Char → Option Nat
  | 0, _, _, _ => none
  | fuel + 1, allowed, positions, chars =>
      let whose := chars.takeWhile fun c => ['a', 'u', 'g', 'o'].contains c
      let positions := whose.foldl (fun positions c =>
        positions ||| match c with
          | 'a' => 0o111
          | 'u' => 0o100
          | 'g' => 0o10
          | _ => 1) positions
      let positions := if positions = 0 then 0o111 else positions
      match chars.drop whose.length with
      | op :: rest =>
          if !(['=', '+', '-'].contains op) then none
          else
            let what := rest.takeWhile fun c => "rwxugoXs".toList.contains c
            let bits := what.foldl (fun bits c =>
              bits ||| match c with
                | 'r' => 4
                | 'w' => 2
                | 'x' => 1
                | 'u' => before / 64
                | 'g' => before / 8
                | 'o' => before
                | 'X' => if before &&& 0o111 ≠ 0 then 1 else 0
                | _ => 0) 0
            let bits := (bits &&& 7) * positions
            let allowed := match op with
              | '-' => allowed &&& (0o777 ^^^ (bits &&& 0o777))
              | '=' => bits ||| (allowed &&& (0o777 ^^^ (positions * 7 &&& 0o777)))
              | _ => allowed ||| bits
            match rest.drop what.length with
            | [] => some allowed
            | ',' :: rest =>
              if rest.isEmpty then some allowed else allowedBy before fuel allowed 0 rest
            | c :: rest =>
                if ['=', '+', '-'].contains c then
                  allowedBy before fuel allowed positions (c :: rest)
                else none
      | [] => none

def umask (args : List String) : ShellM Nat := do
  let (found, args) ← options "S" args
  let mask := (← request .view).mask
  match args with
  | [] => do
      if found.isEmpty then
        let digits := String.ofList (Nat.toDigits 8 mask)
        emit (Directive.padding '0' (4 - digits.length) ++ digits ++ "\n")
      else emit (symbolicMask mask ++ "\n")
      return 0
  | arg :: _ => do
      let chars := arg.toList
      if (chars.head?.map isDigit).getD false then
        if chars.all Printf.isOctal then
          let _ ← request
            (.setMask (chars.foldl (fun n c => n * 8 + (c.toNat - '0'.toNat)) 0 % 512))
          return 0
        else illegalNumber arg
      else
        let before := 0o777 ^^^ (mask &&& 0o777)
        match if chars.isEmpty then some before
          else allowedBy before (chars.length + 1) before 0 chars with
        | some allowed => do
            let _ ← request (.setMask (0o777 ^^^ (allowed &&& 0o777)))
            return 0
        | none => fail ("Illegal mode: " ++ arg)

def limits : List (Char × String × String) :=
  [('t', "time(seconds)", "unlimited"), ('f', "file(blocks)", "unlimited"),
    ('d', "data(kbytes)", "unlimited"), ('s', "stack(kbytes)", "8192"),
    ('c', "coredump(blocks)", "0"), ('m', "memory(kbytes)", "unlimited"),
    ('l', "locked memory(kbytes)", "8192"), ('p', "process", "unlimited"),
    ('n', "nofiles", "1024"), ('v', "vmemory(kbytes)", "unlimited"), ('w', "locks", "unlimited"),
    ('r', "rtprio", "0")]

def ulimit (args : List String) : ShellM Nat := do
  let (found, args) ← options "HSatfdscmlpnvwr" args
  let letter := ((found.filter fun (c, _) => c ≠ 'H' && c ≠ 'S').getLast?.map (·.1)).getD 'f'
  if letter = 'a' then
    for (_, name, value) in limits do
      emit (name ++ String.ofList (List.replicate (20 - name.length) ' ') ++ " " ++ value ++ "\n")
  else if args.isEmpty then
    match limits.lookup letter with
    | some (_, value) => emit (value ++ "\n")
    | none => pure ()
  return 0

/-! Control. -/

def exit (args : List String) : ShellM Nat := do
  match args with
  | arg :: _ => do
      let status ← number arg
      modify fun state => { state with savedStatus := some status }
  | [] => pure ()
  throw .exited

def returnBuiltin (args : List String) : ShellM Nat := do
  match args with
  | arg :: _ => do
      let status ← number arg
      modify fun state => { state with skip := .returning }
      return status
  | [] => do
      modify fun state => { state with skip := .leaving }
      return (← get).status

def leaveLoops (skip : Skip) (args : List String) : ShellM Nat := do
  let n ← match args with
    | arg :: _ => do
        let n ← number arg
        if n = 0 then illegalNumber arg else pure n
    | [] => pure 1
  let n := min n (← get).loops
  if 0 < n then modify fun state => { state with skip, skipCount := n }
  return 0

def exec (args : List String) : ShellM Nat := do
  match ← plain args with
  | [] => return 0
  | words => do
      modify fun state => state.setOption 'i' false
      execute words (← get).path none

def moveJob (args : List String) : ShellM Nat := do
  let args ← plain args
  let _ ← namedJob (args.headD "%%")
  fail ("job " ++ args.headD "(null)" ++ " not created under job control")

def printf (args : List String) : ShellM Nat := do
  match ← plain args with
  | [] => fail "usage: printf format [arg ...]"
  | format :: args => do
      let (text, complaints, fault?) := Printf.run format args
      for complaint in complaints do warn complaint
      emit text
      match fault? with
      | some fault => fail fault
      | none => return if complaints.isEmpty then 0 else 1

def test (name : String) (args : List String) : ShellM Nat := do
  match testHolds (← request .view) name args with
  | .ok holds => return if holds then 0 else 1
  | .error fault => fail fault

def run (name : String) (args : List String) : ShellM Nat := do
  match name with
  | "echo" => do
      emit (echoText args)
      return 0
  | "printf" => printf args
  | "test" | "[" => test name args
  | "false" => return 1
  | "cd" | "chdir" => changeDirectory args
  | "pwd" => printDirectory args
  | "export" | "readonly" => exportOrFix name args
  | "local" => localize args
  | "unset" => unset args
  | "set" => setBuiltin args
  | "shift" => shift args
  | "read" => read args
  | "getopts" => getopts args
  | "alias" => aliasCommand args
  | "unalias" => unalias args
  | "type" => type args
  | "command" => command args
  | "hash" => hash args
  | "trap" => trap args
  | "kill" => kill args
  | "wait" => do waitFor (← plain args)
  | "jobs" => do
      let (found, args) ← options "lp" args
      showJobs (found.map (·.1)) args
  | "fg" | "bg" => moveJob args
  | "umask" => umask args
  | "ulimit" => ulimit args
  | "times" => do
      emit "0m0.000000s 0m0.000000s\n0m0.000000s 0m0.000000s\n"
      return 0
  | "exit" => exit args
  | "return" => returnBuiltin args
  | "break" => leaveLoops .breaking args
  | "continue" => leaveLoops .continuing args
  | "exec" => exec args
  | _ => return 0

end Bundler.Machine.Shell.Builtin
