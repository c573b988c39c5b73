import Bundler.Machine.Kernel

/-!
The order in which processes act. Every request takes a time, and the process whose time is the
earliest acts first, so that all of them seem to run side by side.
-/

namespace Bundler.Machine

namespace Request

def cost : Request → Nat
  | pass time => time
  | sleep _ => 60000
  | openFile _ _ _ => 4000
  | write _ _ => 1500
  | read _ _ => 800
  | execute _ _ _ => 700000
  | change _ => 8000
  | _ => 600

end Request

namespace Schedule

def forkTime : Nat :=
  150000

def childTime : Nat :=
  300000

def next? (kernel : Kernel) : Option Process :=
  kernel.processes.foldl (fun best? process =>
    if process.stopped || process.condition ≠ .ready then best?
    else
      match best? with
      | some best => if process.time < best.time then some process else best?
      | none => some process) none

def addChild (kernel : Kernel) (process : Process) (behaviour : Behaviour) : Nat × Kernel :=
  let pid := kernel.nextPid
  let child := { process with
    pid
    parent := process.pid
    behaviour
    time := process.time + childTime
    caught := [] }
  let kernel := process.descriptors.foldl (fun kernel (_, descriptor) =>
    kernel.hold descriptor.file) kernel
  (pid, { kernel with processes := kernel.processes ++ [child], nextPid := pid + 1 })

def act (programs : Programs) (kernel : Kernel) (process : Process) : Kernel :=
  let kernel := { kernel with now := process.time }
  match process.doom?, process.behaviour with
  | some signal, _ => kernel.finish process.pid (.killed signal)
  | none, .stop status => kernel.finish process.pid (.exited (status % 256))
  | none, .fork child next =>
      let (pid, kernel) := addChild kernel process child
      kernel.update process.pid fun process =>
        { process with behaviour := next pid, time := process.time + forkTime }
  | none, .ask request next =>
      let (kernel, verdict) := kernel.answer programs process request
      match verdict with
      | .reply value =>
          kernel.update process.pid fun process =>
            { process with behaviour := next value, time := process.time + request.cost }
      | .wait on => kernel.update process.pid fun process =>
          { process with condition := .waiting on }
      | .until time => kernel.update process.pid fun process =>
          { process with alarm := some time, time }
      | .gone => kernel.update process.pid fun process =>
          { process with time := process.time + request.cost }

def run (programs : Programs) (goal : Kernel → Bool) (limit? : Option Nat) :
    (fuel : Nat) → Kernel → Kernel
  | 0, kernel => kernel
  | fuel + 1, kernel =>
      if goal kernel then kernel
      else
        match next? kernel with
        | none => kernel
        | some process =>
            if limit?.any (· < process.time) then kernel
            else run programs goal limit? fuel (act programs kernel process)

end Schedule

end Bundler.Machine
