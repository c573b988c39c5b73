import Bundler.Log
import Bundler.Machine.Programs
import Bundler.Machine.Schedule
import Bundler.Native.Host
import Bundler.Native.Tool

/-! A machine with files and an environment, and the processes that are started on it. -/

namespace Bundler

open Native (Ending Launch)

structure Machine where
  kernel : Machine.Kernel := { tree := Machine.systemTree }
  cwd : Nat := 0
  environment : List (String × String) := []
  stdin : ByteArray := .empty
  stdout : ByteArray := .empty
  stderr : ByteArray := .empty
  records : List Record := []

namespace Machine

def searchPath : String :=
  "/usr/local/sbin:/usr/local/bin:/usr/sbin:/usr/bin:/sbin:/bin"

def home : String :=
  "/root"

def tree (machine : Machine) : FileTree :=
  machine.kernel.tree

def now (machine : Machine) : Nat :=
  machine.kernel.fileTime

def setTree (machine : Machine) (tree : FileTree) : Machine :=
  { machine with kernel := { machine.kernel with tree } }

def search (machine : Machine) (name : String) : Option String :=
  (machine.environment.lookup "PATH").bind fun searchPath =>
    (Native.Tool.candidates (machine.environment.lookup "HOME") searchPath name).find?
      (machine.tree.isExecutableFile machine.cwd)

/-- What is executed for a program's name. One without a slash is tried in every directory of the
search path, and that it may not be executed in one of them counts only if it is in no other. -/
def imageOf (machine : Machine) (program : String) (words : List String) :
    Except IoError (String × List String) :=
  let image (path : String) : Except IoError (String × List String) :=
    machine.tree.image machine.cwd FileTree.maxInterpreters (Octets.ofText path) words
  let rec firstOf (error : IoError) : List String → Except IoError (String × List String)
    | [] => .error error
    | path :: rest =>
        match image path with
        | .ok found => .ok found
        | .error other =>
            if other = .noSuchFile || other = .notADirectory then firstOf error rest
            else if other = .permissionDenied then firstOf other rest
            else .error other
  if program.toList.contains '/' then image program
  else
    let path := (machine.environment.lookup "PATH").getD "/bin:/usr/bin"
    firstOf .noSuchFile ((path.splitOn ":").map fun directory =>
      if directory.isEmpty then program else directory ++ "/" ++ program)

def starter : Nat :=
  2

def startTime : Nat :=
  1000000

structure Started where
  pid : Nat
  stdout? : Option Nat
  stderr : Nat
  deadline? : Option Nat

def addOutput (kernel : Kernel) : Nat × Nat × Kernel :=
  let (pipe, kernel) := kernel.addPipe { bounded := false, readers := 1 }
  let (file, kernel) := kernel.addFile (.pipe pipe) { writes := true }
  (pipe, file, kernel)

def begin (machine : Machine) (launch : Launch) (name : String) (words : List String) :
    Started × Kernel :=
  let kernel := machine.kernel
  let (input, kernel) := match launch.stdin with
    | none => kernel.addFile (.device .null) .forReading
    | some bytes =>
        let (pipe, kernel) := kernel.addPipe { content := bytes, bounded := false }
        kernel.addFile (.pipe pipe) { reads := true }
  let (stdout?, output, kernel) :=
    if launch.keepsOutput then
      let (pipe, file, kernel) := addOutput kernel
      (some pipe, file, kernel)
    else
      let (file, kernel) := kernel.addFile (.device .null) .forWriting
      (none, file, kernel)
  let (stderr, errors, kernel) := addOutput kernel
  let kernel := ((kernel.hold input).hold output).hold errors
  let pid := kernel.nextPid
  let environment := machine.environment.map fun (name, value) =>
    (Octets.ofText name, Octets.ofText value)
  let process : Process :=
    { pid
      parent := starter
      group := pid
      behaviour := programs name words environment
      time := kernel.now + startTime
      descriptors := [(0, { file := input }), (1, { file := output }), (2, { file := errors })]
      cwd := machine.cwd }
  ({ pid, stdout?, stderr
     deadline? := launch.limitMs.map fun limit => kernel.now + limit.toNat * 1000000 },
    { kernel with processes := kernel.processes ++ [process], nextPid := pid + 1 })

def outcome? (kernel : Kernel) (pid : Nat) : Option Outcome :=
  (kernel.process? pid).bind fun process =>
    match process.condition with
    | .ended outcome => some outcome
    | _ => none

def forget (kernel : Kernel) (pid : Nat) : Kernel :=
  { kernel with processes := kernel.processes.filter (·.pid ≠ pid) }

def endGroup (kernel : Kernel) (group : Nat) : Kernel :=
  let members := kernel.processes.filter fun process => process.group = group && !process.isEnded
  members.foldl (fun kernel process => kernel.deliver process.pid Signal.killed) kernel

def isClosed (kernel : Kernel) (pipe : Nat) : Bool :=
  (kernel.pipes[pipe]?.map (·.writers)).getD 0 = 0

def contentOf (kernel : Kernel) (pipe : Nat) : ByteArray :=
  (kernel.pipes[pipe]?.map (·.rest)).getD .empty

def await (started : Started) (kernel : Kernel) : Ending × Kernel :=
  let kernel := Schedule.run programs (fun kernel => (outcome? kernel started.pid).isSome)
    started.deadline? Act.endless kernel
  match outcome? kernel started.pid, started.deadline? with
  | some outcome, _ =>
      let kernel := forget kernel started.pid
      let pipes := started.stderr :: started.stdout?.toList
      let kernel := Schedule.run programs (fun kernel => pipes.all (isClosed kernel)) none
        Act.endless kernel
      let status : Option Int := match outcome with
        | .exited status => some status
        | .killed _ => none
      (.finished status ((started.stdout?.map (contentOf kernel)).getD .empty)
        (contentOf kernel started.stderr), kernel)
  | none, deadline? =>
      let kernel := { kernel with now := max kernel.now (deadline?.getD kernel.now) }
      (.expired, forget (endGroup kernel started.pid) started.pid)

/-- Starts a process and waits for its end. What it leaves running goes on. -/
def start (machine : Machine) (launch : Launch) : Except IoError Ending × Machine :=
  if (launch.program :: launch.args).any fun word => word.toList.contains '\x00' then
    (.error .nulInArgument, machine)
  else
    let words := (launch.program :: launch.args).map Octets.ofText
    let environment := machine.environment.map fun (name, value) =>
      (Octets.ofText name, Octets.ofText value)
    if !fits words environment then (.error .argumentsTooLong, machine)
    else
      match machine.imageOf launch.program words with
      | .error error => (.error error, machine)
      | .ok (name, words) =>
          let (started, kernel) := machine.begin launch name words
          let (ending, kernel) := await started kernel
          (.ok ending, { machine with kernel })

end Machine

end Bundler
