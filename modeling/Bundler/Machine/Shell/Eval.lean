import Bundler.Machine.Shell.Builtin
import Bundler.Machine.Shell.Parser

/-! Carrying out commands. -/

namespace Bundler.Machine.Shell

structure Flags where
  exits : Bool := false
  tested : Bool := false
  deriving DecidableEq, Repr

structure Words where
  fields : List String := []
  dropped : Nat := 0
  rest : List Word

namespace Words

def args (words : Words) : List String :=
  words.fields.drop words.dropped

end Words

structure Call where
  words : Words
  target? : Option Target := none
  special : Bool := false
  withFunctions : Bool := true
  path? : Option String := none

def maxCalls : Nat :=
  1000

def maxScript : Nat :=
  8192

def State.hasTraps (state : State) : Bool :=
  state.traps.any fun (_, text) => !text.isEmpty

def resetForExit (halt? : Option Halt) : ShellM Unit := do
  for _ in (← get).aside do popAside false
  modify fun state =>
    let status := match state.savedStatus with
      | some saved =>
          if halt? = some .exited || state.skip = .leaving then saved else state.status
      | none => state.status
    { state with status, savedStatus := none, skip := .none, loops := 0 }

def becomeChild (background first : Bool) : ShellM Unit := do
  let state ← get
  for input in state.inputs do
    match input.descriptor? with
    | some descriptor => if 0 < descriptor then let _ ← request (.close descriptor)
    | none => pure ()
  for (signal, text) in state.traps do
    unless text.isEmpty || signal = 0 || state.fixedSignals.contains signal do
      request (.handle signal .standard)
  modify fun state =>
    { state with
      isChild := true
      traps := state.traps.filter (·.2.isEmpty)
      pending := []
      jobs := []
      aside := []
      inputs := [] }
  if background then
    for signal in [Signal.interrupt, Signal.quit] do
      request (.handle signal .ignored)
    modify fun state =>
      { state with fixedSignals := Signal.interrupt :: Signal.quit :: state.fixedSignals }
    if first then
      let _ ← request (.close 0)
      let _ ← request (.openFile "/dev/null" .forReading 0)

def readMore (input : Input) : ShellM Input := do
  match input.descriptor? with
  | none => return { input with complete := true }
  | some descriptor =>
      match ← request (.read descriptor maxScript) with
      | .error _ => return { input with complete := true }
      | .ok bytes =>
          if bytes.isEmpty then return { input with complete := true }
          else
            return { input with
              text := input.text ++ (Octets.ofBytes bytes).filter (· ≠ '\x00') }

def nextCommand : (fuel : Nat) → ShellM Reading
  | 0 => return .nothing
  | fuel + 1 => do
      let state ← get
      match state.inputs with
      | [] => return .nothing
      | input :: inputs => do
          let reader : Reader :=
            { rest := input.text
              complete := input.complete
              line := input.line
              aliases := state.aliases
              inUse := input.inUse
              documents := state.documents
              nextDocument := state.nextDocument }
          match readCommand reader with
          | .error .unfinished => do
              let input ← readMore input
              modify fun state => { state with inputs := input :: inputs }
              nextCommand fuel
          | .error (.fault text line) => misread text line
          | .ok (reading, reader) => do
              let left := { input with
                text := reader.rest, line := reader.line, inUse := reader.inUse }
              set { state with
                inputs := left :: inputs
                documents := reader.documents
                nextDocument := reader.nextDocument }
              if state.has 'v' && input.descriptor?.isSome then
                let passed := input.text.take (input.text.length - reader.rest.length)
                let _ ← writeNow 2 (String.ofList passed)
              return reading

def scriptPath (name : String) : ShellM String := do
  if isPath name then return name
  let view ← request .view
  let state ← get
  match (pathsFor state.path name).find? fun path => view.has path (·.kind = .file) with
  | some path => return path
  | none => fail (name ++ ": not found")

def openScript (path : String) : ShellM Nat := do
  match ← request (.openFile path .forReading 0) with
  | .error error => fail ("cannot open " ++ path ++ ": " ++ reasonOf error "No such file")
  | .ok number => do
      let kept ← if number < leastKept then putAside number else pure (some number)
      let number := kept.getD number
      request (.closeOnExecute number)
      return number

def popInput : ShellM Unit := do
  match (← get).inputs with
  | [] => return
  | input :: inputs => do
      modify fun state => { state with inputs }
      match input.descriptor? with
      | some descriptor => let _ ← request (.close descriptor)
      | none => pure ()

def popInputs (count : Nat) : ShellM Unit := do
  for _ in (← get).inputs.drop count do popInput

def trace (substitute : Substitute) (assignments fields : List String) : ShellM Unit := do
  let state ← get
  let prompt ← match readQuoted ((state.lookup "PS4").getD "") with
    | .error _ => pure ""
    | .ok word => do
        set (state.setOption 'x' false)
        let prompt ← expandDocument substitute word
        modify fun state => state.setOption 'x' true
        pure prompt
  let _ ← writeNow state.tracing
    (prompt ++ String.intercalate " " (assignments ++ fields) ++ "\n")

def fill (substitute : Substitute) (count : Nat) (words : Words) : ShellM Words := do
  go words.rest words.fields words.dropped
where
  go (rest : List Word) (fields : List String) (dropped : Nat) : ShellM Words := do
    if count < fields.length then return { fields, dropped, rest }
    else
      match rest with
      | [] => return { fields, dropped, rest := [] }
      | word :: rest => do go rest (fields ++ (← expandFields substitute word)) dropped

def fillAll (substitute : Substitute) (assigns : Bool) (words : Words) : ShellM Words := do
  let more ← words.rest.mapM fun word => do
    if assigns && isAssignment word then return [← expandAssignment substitute word]
    else expandFields substitute word
  return { words with fields := words.fields ++ more.flatten, rest := [] }

/-- Passes over the options of `command`, of which the next is at a place. Gives the place of the
command that follows, if there is one, and the search path for it. -/
def passOptions (substitute : Substitute) (words : Words) :
    (fuel : Nat) → (place : Nat) → (path? : Option String) →
      ShellM (Words × Option (Nat × Option String))
  | 0, _, _ => return (words, none)
  | fuel + 1, place, path? => do
      let words ← fill substitute place words
      match words.fields[place]? with
      | none => return (words, none)
      | some field =>
          match field.toList with
          | ['-', '-'] => do
              let words ← fill substitute (place + 1) words
              return (words, (words.fields[place + 1]?).map fun _ => (place + 1, path?))
          | '-' :: c :: more =>
              if (c :: more).all (· = 'p') then
                passOptions substitute words fuel (place + 1) (some usualPath)
              else return (words, none)
          | _ => return (words, some (place, path?))

def findTarget (substitute : Substitute) : (fuel : Nat) → (first : Bool) → Call → ShellM Call
  | 0, _, call => return call
  | fuel + 1, first, call => do
      match call.words.args with
      | [] => return call
      | name :: _ => do
          let target ← findCommand name call.withFunctions call.path? false
          let call := { call with target? := some target }
          match target with
          | .builtin builtin => do
              let call := { call with
                special := if first then specialBuiltins.contains builtin else call.special }
              if builtin ≠ "command" then return call
              let words := call.words
              let (words, found?) ←
                passOptions substitute words Act.endless (words.dropped + 1) call.path?
              match found? with
              | none => return { call with words }
              | some (place, path?) =>
                  findTarget substitute fuel false
                    { call with
                      words := { words with dropped := place }
                      path? := path?
                      withFunctions := false }
          | _ => return call

def caught (act : ShellM α) : ShellM (Except Halt α) := do
  try return .ok (← act)
  catch halt => return .error halt

def leaveLoop : ShellM Skip := do
  let state ← get
  match state.skip with
  | .breaking | .continuing =>
      let count := state.skipCount - 1
      set { state with skipCount := count, skip := if count = 0 then .none else state.skip }
      return if count = 0 then state.skip else .breaking
  | skip => return skip

/-- Reads to the end. Gives what is read backwards, without bytes that are zero. -/
def collect (descriptor : Nat) : (fuel : Nat) → (back : List Char) → ShellM (List Char)
  | 0, back => return back
  | fuel + 1, back => do
      match ← request (.read descriptor 65536) with
      | .ok bytes =>
          if bytes.isEmpty then return back
          else
            collect descriptor fuel (((Octets.ofBytes bytes).filter (· ≠ '\x00')).reverse ++ back)
      | .error error =>
          if error = .interruptedCall then collect descriptor fuel back else return back

/-! Every function below carries out a part of a command; `fuel` bounds how deep they call each
other. -/

mutual

def eval (fuel : Nat) (flags : Flags) (command? : Option Command) : ShellM Nat :=
  match fuel with
  | 0 => throw .finished
  | fuel + 1 => do
      let idle := (← get).has 'n'
      let (status, checked) ← match command?, idle with
        | some command, false => do
            runTraps fuel
            evalOne fuel flags command
        | _, _ => pure (0, false)
      runTraps fuel
      if checked && status ≠ 0 && !flags.tested && (← get).has 'e' then throw .finished
      if flags.exits then throw .finished
      return status

/-- Carries out a command. Gives its status, and whether the shell may end on it. -/
def evalOne (fuel : Nat) (flags : Flags) (command : Command) : ShellM (Nat × Bool) :=
  match fuel with
  | 0 => throw .finished
  | fuel + 1 => do
      let tested : Flags := { tested := true }
      let inner : Flags := { flags with exits := false }
      let ended (checked : Bool) (status : Nat) : ShellM (Nat × Bool) := do
        modify fun state => { state with status }
        return (status, checked)
      let setLine (line : Nat) : ShellM Unit := modify fun state => { state with line }
      match command with
      | .negated body => do
          let status ← eval fuel tested (some body)
          ended false (if status = 0 then 1 else 0)
      | .redirected line body redirections => do
          setLine line
          let channels ← expandRedirections (substituteOutput fuel) redirections
          pushAside
          let status ← match ← caught (redirect (substituteOutput fuel) true channels) with
            | .ok _ => eval fuel inner (some body)
            | .error .failed => pure 2
            | .error halt => throw halt
          popAside false
          ended false status
      | .simple line assignments words redirections => do
          setLine line
          ended true (← evalSimple fuel flags assignments words redirections)
      | .each line name words body => do
          setLine line
          let values ← words.mapM (expandFields (substituteOutput fuel))
          modify fun state => { state with loops := state.loops + 1 }
          let status ← evalEach fuel inner name values.flatten body 0
          modify fun state => { state with loops := state.loops - 1 }
          ended false status
      | .loop untilTrue test body => do
          modify fun state => { state with loops := state.loops + 1 }
          let status ← evalLoop fuel inner untilTrue test body 0
          modify fun state => { state with loops := state.loops - 1 }
          ended false status
      | .subshell line body redirections => do
          setLine line
          ended true (← evalSubshell fuel flags false body redirections)
      | .background line body redirections => do
          setLine line
          ended true (← evalSubshell fuel flags true body redirections)
      | .pipeline commands background => do
          ended true (← evalPipeline fuel flags commands background)
      | .choice line word cases => do
          setLine line
          let text ← expandText (substituteOutput fuel) word
          ended false (← evalChoice fuel flags text cases)
      | .both first second => do
          let status ← eval fuel tested (some first)
          if status ≠ 0 || (← get).skip ≠ .none then return (status, false)
          else ended false (← eval fuel flags (some second))
      | .either first second => do
          let status ← eval fuel tested (some first)
          if status = 0 || (← get).skip ≠ .none then return (status, false)
          else ended false (← eval fuel flags (some second))
      | .sequence first second => do
          let status ← eval fuel inner (some first)
          if (← get).skip ≠ .none then return (status, false)
          else ended false (← eval fuel flags (some second))
      | .condition test yes no => do
          let status ← eval fuel tested (some test)
          if (← get).skip ≠ .none then return (status, false)
          else if status = 0 then ended false (← eval fuel flags (some yes))
          else
            match no with
            | some no => ended false (← eval fuel flags (some no))
            | none => ended false 0
      | .define line name body => do
          modify fun state =>
            { state with
              functions := { name, line, body } :: state.functions.filter (·.name ≠ name)
              found := state.found.filter (·.1 ≠ name) }
          ended false 0

def evalEach (fuel : Nat) (flags : Flags) (name : String) (values : List String) (body : Command)
    (status : Nat) : ShellM Nat :=
  match fuel, values with
  | 0, _ => throw .finished
  | _, [] => return status
  | fuel + 1, value :: rest => do
      setVariable name (some value)
      let status ← eval fuel flags (some body)
      let skip ← leaveLoop
      if skip = .none || skip = .continuing then evalEach fuel flags name rest body status
      else return status

def evalLoop (fuel : Nat) (flags : Flags) (untilTrue : Bool) (test body : Command)
    (status : Nat) : ShellM Nat :=
  match fuel with
  | 0 => throw .finished
  | fuel + 1 => do
      let tested ← eval fuel { tested := true } (some test)
      let skip ← leaveLoop
      match skip with
      | .none =>
          if (tested = 0) == untilTrue then return status
          else do
            let status ← eval fuel flags (some body)
            let skip ← leaveLoop
            if skip = .none || skip = .continuing then
              evalLoop fuel flags untilTrue test body status
            else return status
      | .continuing => evalLoop fuel flags untilTrue test body status
      | .returning => return tested
      | _ => return status

def evalChoice (fuel : Nat) (flags : Flags) (text : String)
    (cases : List (List Word × Option Command)) : ShellM Nat :=
  match fuel, cases with
  | 0, _ => throw .finished
  | _, [] => return 0
  | fuel + 1, (patterns, body?) :: rest => do
      if ← fitsOne fuel text patterns then
        match body? with
        | some body => eval fuel flags (some body)
        | none => return 0
      else evalChoice fuel flags text rest

def fitsOne (fuel : Nat) (text : String) (patterns : List Word) : ShellM Bool :=
  match fuel, patterns with
  | 0, _ => throw .finished
  | _, [] => return false
  | fuel + 1, pattern :: rest => do
      let pattern ← expandPattern (substituteOutput fuel) pattern
      if Pattern.fits pattern text.toList then return true else fitsOne fuel text rest

def forkShell (fuel : Nat) (job : Nat) (background first : Bool) (body : ShellM Unit) :
    ShellM Unit :=
  match fuel with
  | 0 => throw .finished
  | fuel + 1 => do
      let _ ← flush
      let pid ← Act.fork fun state =>
        (do becomeChild background first; body : ShellM Unit) state
          (fun _ state => conclude fuel none state (fun _ _ => .stop 0) fun _ _ => .stop 0)
          (fun halt state =>
            conclude fuel (some halt) state (fun _ _ => .stop 0) fun _ _ => .stop 0)
      addMember job pid
      if background then modify fun state => { state with background? := some pid }

def conclude (fuel : Nat) (halt? : Option Halt) : ShellM Unit :=
  match fuel with
  | 0 => Act.quit 2
  | fuel + 1 => do
      if halt?.isSome then resetForExit halt?
      let state ← get
      set { state with savedStatus := some state.status }
      let halt? ← match state.traps.lookup 0 with
        | none => pure halt?
        | some text => do
            modify fun state =>
              { state with traps := state.traps.filter (·.1 ≠ 0), skip := .none }
            match ← caught (evalText fuel {} text) with
            | .ok _ => do
                modify fun state => { state with skip := .leaving }
                pure halt?
            | .error halt => pure (some halt)
      resetForExit halt?
      let _ ← flush
      Act.quit (← get).status

def evalSubshell (fuel : Nat) (flags : Flags) (background : Bool) (body : Command)
    (redirections : List Redirection) : ShellM Nat :=
  match fuel with
  | 0 => throw .finished
  | fuel + 1 => do
      let channels ← expandRedirections (substituteOutput fuel) redirections
      let flags : Flags := { flags with tested := flags.tested && !background }
      let within : ShellM Unit := do
        redirect (substituteOutput fuel) false channels
        let _ ← eval fuel { flags with exits := true } (some body)
      if !background && flags.exits && !(← get).hasTraps then
        within
        return 0
      else
        let job ← newJob
        forkShell fuel job background true within
        if background then return 0 else waitForJob job

def evalPipeline (fuel : Nat) (flags : Flags) (commands : List Command) (background : Bool) :
    ShellM Nat :=
  match fuel with
  | 0 => throw .finished
  | fuel + 1 => do
      let job ← newJob
      evalPipelineFrom fuel { flags with exits := true } job background true none commands
      if background then return 0 else waitForJob job

def evalPipelineFrom (fuel : Nat) (flags : Flags) (job : Nat) (background first : Bool)
    (before? : Option Nat) (commands : List Command) : ShellM Unit :=
  match fuel, commands with
  | 0, _ => throw .finished
  | _, [] => return
  | fuel + 1, command :: rest => do
      let ends? ← if rest.isEmpty then pure none else some <$> request .pipe
      forkShell fuel job background first do
        match ends? with
        | some (front, _) => let _ ← request (.close front)
        | none => pure ()
        match before? with
        | some before =>
            if 0 < before then
              let _ ← request (.replace before 0)
              let _ ← request (.close before)
        | none => pure ()
        match ends? with
        | some (_, back) =>
            if 1 < back then
              let _ ← request (.replace back 1)
              let _ ← request (.close back)
        | none => pure ()
        let _ ← eval fuel flags (some command)
      match before? with
      | some before => let _ ← request (.close before)
      | none => pure ()
      match ends? with
      | some (_, back) => let _ ← request (.close back)
      | none => pure ()
      evalPipelineFrom fuel flags job background false (ends?.map (·.1)) rest

def substituteOutput (fuel : Nat) (command? : Option Command) : ShellM (List Char) :=
  match fuel with
  | 0 => throw .finished
  | fuel + 1 =>
      match command? with
      | none => return []
      | some command => do
          let (front, back) ← request .pipe
          let job ← newJob
          forkShell fuel job false true do
            let _ ← request (.close front)
            if back ≠ 1 then
              let _ ← request (.replace back 1)
              let _ ← request (.close back)
            let _ ← eval fuel { exits := true } (some command)
          let _ ← request (.close back)
          let chars ← collect front Act.endless []
          let _ ← request (.close front)
          let status ← waitForJob job
          modify fun state => { state with substituted := status }
          return (chars.dropWhile (· = '\n')).reverse

def runTraps (fuel : Nat) : ShellM Unit :=
  match fuel with
  | 0 => return
  | fuel + 1 => do
      takeSignals
      let state ← get
      unless state.pending.isEmpty do
        let status := state.savedStatus.getD state.status
        set { state with savedStatus := some status }
        runTrapsOf fuel status (state.pending.mergeSort fun a b => decide (a ≤ b))
        modify fun later => { later with savedStatus := state.savedStatus }

def runTrapsOf (fuel : Nat) (status : Nat) (signals : List Nat) : ShellM Unit :=
  match fuel, signals with
  | 0, _ => return
  | _, [] => return
  | fuel + 1, signal :: rest => do
      if (← get).skip = .none then
        modify fun state => { state with pending := state.pending.filter (· ≠ signal) }
        let text := ((← get).traps.lookup signal).getD ""
        unless text.isEmpty do
          let _ ← evalText fuel {} text
          modify fun state =>
            if state.skip = .returning then state else { state with status }
        runTrapsOf fuel status rest

def evalText (fuel : Nat) (flags : Flags) (text : String) : ShellM Nat :=
  match fuel with
  | 0 => throw .finished
  | fuel + 1 => do
      modify fun state => { state with inputs := { text := text.toList } :: state.inputs }
      let status ← evalTextFrom fuel flags 0
      popInput
      return status

def evalTextFrom (fuel : Nat) (flags : Flags) (status : Nat) : ShellM Nat :=
  match fuel with
  | 0 => throw .finished
  | fuel + 1 => do
      match ← nextCommand Act.endless with
      | .nothing => return status
      | .command command? last => do
          let result ← eval fuel { flags with exits := flags.exits && last } command?
          let status := if command?.isSome then result else status
          if (← get).skip ≠ .none then return status else evalTextFrom fuel flags status

def evalInput (fuel : Nat) (status : Nat) : ShellM Nat :=
  match fuel with
  | 0 => throw .finished
  | fuel + 1 => do
      match ← nextCommand Act.endless with
      | .nothing => return status
      | .command command? _ => do
          let result ← eval fuel {} command?
          let status := if command?.isSome then result else status
          let skip := (← get).skip
          if skip = .none then evalInput fuel status
          else
            if skip = .returning || skip = .leaving then
              modify fun state => { state with skip := .none }
            return status

def evalFile (fuel : Nat) (args : List String) : ShellM Nat :=
  match fuel with
  | 0 => throw .finished
  | fuel + 1 => do
      match ← Builtin.plain args with
      | [] => return 0
      | name :: _ => do
          let path ← scriptPath name
          let descriptor ← openScript path
          modify fun state =>
            { state with
              inputs := { descriptor? := some descriptor, complete := false } :: state.inputs
              command? := some path }
          let status ← evalInput fuel 0
          popInput
          return status

def evalSimple (fuel : Nat) (flags : Flags) (assignments words : List Word)
    (redirections : List Redirection) : ShellM Nat :=
  match fuel with
  | 0 => throw .finished
  | fuel + 1 => do
      pass
      let substitute := substituteOutput fuel
      modify fun state => { state with substituted := 0 }
      let before ← get
      let words ← fill substitute 0 { rest := words }
      let call ← findTarget substitute Act.endless true { words }
      let builtin? := match call.target? with
        | some (.builtin name) => some name
        | _ => none
      let words ← fillAll substitute (builtin?.any assigningBuiltins.contains) call.words
      let call := { call with words }
      let isExec := builtin? = some "exec"
      let isLocal := call.target?.isSome && !call.special
      if isLocal then pushLocals
      let channels ← expandRedirections substitute redirections
      unless channels.isEmpty do pushAside
      modify fun state => { state with tracing := 2 }
      let status ← match ← caught (redirect substitute true channels) with
        | .error .failed => do
            modify fun state => { state with status := 2 }
            if call.special then throw .failed
            pure 2
        | .error halt => throw halt
        | .ok _ => do
            unless channels.isEmpty do
              modify fun state =>
                { state with
                  tracing := (((state.aside.headD []).lookup 2).bind id).getD 2 }
            let texts ← evalAssignments fuel isLocal (isExec && 1 < words.args.length) assignments
            if (← get).has 'x' then trace substitute texts words.fields
            evalCall fuel flags call
      let frames := before.aside.length + if channels.isEmpty then 0 else 1
      for _ in (← get).aside.drop frames do popAside false
      unless channels.isEmpty do popAside isExec
      popInputs before.inputs.length
      popLocals before.locals.length
      return status

/-- Carries out assignments. Gives them as they are shown. -/
def evalAssignments (fuel : Nat) (isLocal isExport : Bool) (assignments : List Word) :
    ShellM (List String) :=
  match fuel, assignments with
  | 0, _ => throw .finished
  | _, [] => return []
  | fuel + 1, word :: rest => do
      let text ← expandAssignment (substituteOutput fuel) word
      let (name, value?) := Builtin.splitAssignment text
      if isLocal then makeLocal name value? true else setVariable name value? isExport
      return text :: (← evalAssignments fuel isLocal isExport rest)

def evalCall (fuel : Nat) (flags : Flags) (call : Call) : ShellM Nat :=
  match fuel with
  | 0 => throw .finished
  | fuel + 1 => do
      match call.words.args with
      | [] => do
          let status := (← get).substituted
          modify fun state => { state with status }
          noticeEnds
          return status
      | name :: args => do
          let found ← findCommand name call.withFunctions call.path? false
          match found with
          | .missing error => do
              warn (name ++ ": " ++ reasonOf error "not found")
              modify fun state => { state with status := 127 }
              if call.special then throw .failed
              return 127
          | .program index? => do
              let state ← get
              let path := call.path?.getD state.path
              if flags.exits && !state.hasTraps then execute (name :: args) path index?
              else
                let _ ← flush
                let job ← newJob
                let pid ← Act.fork fun state =>
                  (execute (name :: args) path index? : ShellM Unit) state
                    (fun _ state => .stop state.status) fun _ state => .stop state.status
                addMember job pid
                waitForJob job
          | .builtin builtin => do
              match ← caught (evalBuiltin fuel flags builtin args) with
              | .ok _ => pure ()
              | .error halt => if halt ≠ .failed || call.special then throw halt
              noticeEnds
              return (← get).status
          | .function function => do
              evalFunction fuel flags function args
              noticeEnds
              return (← get).status

def evalBuiltin (fuel : Nat) (flags : Flags) (name : String) (args : List String) : ShellM Unit :=
  match fuel with
  | 0 => throw .finished
  | fuel + 1 => do
      let before := (← get).command?
      modify fun state => { state with command? := some name }
      let result ← caught do
        let status ← match name with
          | "eval" =>
              if args.isEmpty then pure 0
              else evalText fuel { tested := flags.tested } (String.intercalate " " args)
          | "." => evalFile fuel args
          | _ => Builtin.run name args
        match ← flush with
        | .ok _ => modify fun state => { state with status }
        | .error _ => do
            warn (name ++ ": I/O error")
            modify fun state => { state with status := status ||| 1 }
      modify fun state => { state with command? := before, written := [] }
      match result with
      | .ok _ => return
      | .error halt => throw halt

def evalFunction (fuel : Nat) (flags : Flags) (function : Function) (args : List String) :
    ShellM Unit :=
  match fuel with
  | 0 => throw .finished
  | fuel + 1 => do
      let before ← get
      if maxCalls ≤ before.calls then
        fail ("Maximum function recursion depth (" ++ toString maxCalls ++ ") reached")
      set { before with
        parameters := args
        optionIndex := 1
        optionOffset := 0
        loops := 0
        calls := before.calls + 1 }
      let result ← caught (eval fuel { tested := flags.tested } (some function.body))
      modify fun state =>
        { state with
          parameters := before.parameters
          optionIndex := before.optionIndex
          optionOffset := before.optionOffset
          loops := before.loops
          calls := before.calls
          skip := if state.skip = .returning || state.skip = .leaving then .none else state.skip }
      match result with
      | .ok _ => return
      | .error halt => throw halt

end

end Bundler.Machine.Shell
