import Bundler.Machine.Shell.State

/-! The processes that a shell starts, as jobs, the latest one first. -/

namespace Bundler.Machine.Shell

def Job.status (job : Job) : Nat :=
  statusOf job.outcome

def State.job? (state : State) (number : Nat) : Option Job :=
  state.jobs.find? (·.number = number)

def State.freeJob (state : State) (number : Nat) : State :=
  { state with jobs := state.jobs.filter (·.number ≠ number) }

/-- Takes a number for a new job. A job that is done and was waited for makes place. -/
def newJob : ShellM Nat :=
  modifyGet fun state =>
    let isFree (number : Nat) : Bool :=
      match state.job? number with
      | none => true
      | some job => !job.isRunning && job.waited
    let number := (((List.range (state.jobs.length + 1)).map (· + 1)).find? isFree).getD 0
    let state := state.freeJob number
    (number, { state with jobs := { number, members := [] } :: state.jobs })

def addMember (number pid : Nat) : ShellM Unit :=
  modify fun state =>
    { state with
      jobs := state.jobs.map fun job =>
        if job.number = number then { job with members := job.members ++ [(pid, none)] }
        else job }

def State.ended (state : State) (pid : Nat) (outcome : Outcome) : State :=
  { state with
    jobs := state.jobs.map fun job =>
      { job with
        members := job.members.map fun (member, before) =>
          if member = pid && before.isNone then (member, some outcome) else (member, before) } }

/-- Takes notice of a process that ended. One of the job that is waited for, if any, is told of when
a signal ended it. -/
def noticeEnd (waited? : Option Nat) (pid : Nat) (outcome : Outcome) : ShellM Unit := do
  let state ← get
  let isWaited := (waited?.bind state.job?).any fun job =>
    job.members.any fun member => member.1 = pid && member.2.isNone
  modify fun state => state.ended pid outcome
  match outcome with
  | .killed signal =>
      if isWaited && signal ≠ Signal.interrupt && signal ≠ Signal.brokenPipe then
        let _ ← writeNow 2 (Signal.description signal ++ "\n")
  | .exited _ => return

def noticeAll (waited? : Option Nat) : (fuel : Nat) → ShellM Unit
  | 0 => return
  | fuel + 1 => do
      match ← request (.await false) with
      | .ended pid outcome => do
          noticeEnd waited? pid outcome
          noticeAll waited? fuel
      | _ => return

def noticeEnds : ShellM Unit := do
  if (← get).jobs.any (·.isRunning) then noticeAll none Act.endless

def State.isRunning (state : State) (number : Nat) : Bool :=
  ((state.job? number).map (·.isRunning)).getD false

def untilDone (number : Nat) : (fuel : Nat) → ShellM Unit
  | 0 => return
  | fuel + 1 => do
      if (← get).isRunning number then
        match ← request (.await true) with
        | .ended pid outcome => do
            noticeEnd (some number) pid outcome
            untilDone number fuel
        | .interrupted => untilDone number fuel
        | _ => return
      else noticeAll (some number) fuel

def waitForJob (number : Nat) : ShellM Nat := do
  untilDone number Act.endless
  let state ← get
  let status := ((state.job? number).map (·.status)).getD 0
  set (state.freeJob number)
  return status

def takeSignals : ShellM Unit := do
  if (← get).traps.any fun (signal, text) => signal ≠ 0 && !text.isEmpty then
    let caught ← request .caught
    unless caught.isEmpty do
      modify fun state =>
        { state with pending := state.pending ++ caught.filter (!state.pending.contains ·) }

/-- Waits until a job is done, or until any is when none is told, or a signal comes for which there
is a trap. Gives whether it is done. -/
def waitUnlessSignalled (number? : Option Nat) : (fuel : Nat) → ShellM Bool
  | 0 => return true
  | fuel + 1 => do
      let state ← get
      let running := match number? with
        | some number => state.isRunning number
        | none => state.jobs.any (·.isRunning)
      if !running then return true
      takeSignals
      if !(← get).pending.isEmpty then return false
      match ← request (.await true) with
      | .ended pid outcome => do
          noticeEnd number? pid outcome
          waitUnlessSignalled number? fuel
      | .interrupted => do
          takeSignals
          if !(← get).pending.isEmpty then return false else waitUnlessSignalled number? fuel
      | _ => return true

def namedJob (text : String) : ShellM Job := do
  let jobs := (← get).jobs
  let found (job? : Option Job) (complaint : String) : ShellM Job :=
    match job? with
    | some job => return job
    | none => fail complaint
  let unknown := "No such job: " ++ text
  match text.toList with
  | ['%'] | ['%', '%'] | ['%', '+'] => found jobs.head? "No current job"
  | ['%', '-'] => found jobs[1]? "No previous job"
  | '%' :: number =>
      found ((String.ofList number).toNat?.bind fun number => jobs.find? (·.number = number))
        unknown
  | _ =>
      found (text.toNat?.bind fun pid =>
        jobs.find? fun job => (job.members.getLast?.map (·.1)) = some pid) unknown

def waitFor (args : List String) : ShellM Nat := do
  match args with
  | [] => do
      if ← waitUnlessSignalled none Act.endless then
        modify fun state => { state with jobs := state.jobs.map ({ · with waited := true }) }
        return 0
      else return 128 + ((← get).pending.head?.getD 0)
  | args => each 127 args
where
  each (status : Nat) : List String → ShellM Nat
    | [] => return status
    | arg :: rest => do
        let job? ← if arg.toList.head? = some '%' then some <$> namedJob arg
          else do
            let pid ← number arg
            pure ((← get).jobs.find? fun job => (job.members.getLast?.map (·.1)) = some pid)
        match job? with
        | none => each status rest
        | some job => do
            if ← waitUnlessSignalled (some job.number) Act.endless then
              let state ← get
              let status := ((state.job? job.number).map (·.status)).getD 127
              set { state with
                jobs := state.jobs.map fun (other : Job) =>
                  if other.number = job.number then { other with waited := true } else other }
              each status rest
            else return 128 + ((← get).pending.head?.getD 0)

def jobLine (state : State) (job : Job) (withPid : Bool) : String :=
  let mark := if state.jobs.head? = some job then "+"
    else if state.jobs[1]? = some job then "-"
    else " "
  let first := ((job.members.head?.map (·.1)).getD 0)
  let description := if job.isRunning then "Running"
    else
      match job.outcome with
      | .exited 0 => "Done"
      | .exited status => "Done(" ++ toString status ++ ")"
      | .killed signal => Signal.description signal
  let start := "[" ++ toString job.number ++ "] " ++ mark ++ " " ++
    (if withPid then toString first ++ " " else "") ++ description
  let blanks := String.ofList (List.replicate (max 1 (33 - start.length)) ' ')
  let others := job.members.tail
  if withPid then
    let indent := String.ofList (List.replicate (4 + (toString job.number).length) ' ')
    start ++ blanks ++ String.join (others.map fun (pid, _) =>
      " |\n" ++ indent ++ toString pid ++ " " ++ String.ofList (List.replicate 24 ' ')) ++ "\n"
  else start ++ blanks ++ String.join (others.map fun _ => " | ") ++ "\n"

/-- The builtin `jobs`. Jobs that are done are forgotten when they have been told of. -/
def showJobs (letters : List Char) (args : List String) : ShellM Nat := do
  noticeEnds
  let jobs ← if args.isEmpty then pure (← get).jobs else args.mapM namedJob
  for job in jobs do
    let state ← get
    if letters.getLast? = some 'p' then
      emit (toString ((job.members.head?.map (·.1)).getD 0) ++ "\n")
    else
      emit (jobLine state job (letters.getLast? = some 'l'))
      unless job.isRunning do set ((← get).freeJob job.number)
  return 0

end Bundler.Machine.Shell
