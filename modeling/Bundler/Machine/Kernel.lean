import Bundler.Machine.Behaviour
import Bundler.Machine.Image
import Bundler.Machine.Signal

/-!
The state of a system that runs processes, and its replies to what they ask. A request that cannot
be answered yet leaves the state as it is, and is asked again when something has changed.
-/

namespace Bundler.Machine

structure OpenFile where
  source : Resource
  mode : OpenMode
  offset : Nat := 0
  holders : Nat := 0

structure Pipe where
  content : ByteArray := .empty
  front : Nat := 0
  bounded : Bool := true
  readers : Nat := 0
  writers : Nat := 0
  openings : Nat := 0

namespace Pipe

def capacity : Nat :=
  65536

def atom : Nat :=
  4096

def size (pipe : Pipe) : Nat :=
  pipe.content.size - pipe.front

def room (pipe : Pipe) : Nat :=
  capacity - pipe.size

def rest (pipe : Pipe) : ByteArray :=
  pipe.content.extract pipe.front pipe.content.size

def push (pipe : Pipe) (bytes : ByteArray) : Pipe :=
  { pipe with content := pipe.content ++ bytes }

def drop (pipe : Pipe) (count : Nat) : Pipe :=
  if pipe.size ≤ count then { pipe with content := .empty, front := 0 }
  else { pipe with front := pipe.front + count }

end Pipe

inductive Wait
  | pipe (index : Nat)
  | child
  deriving DecidableEq, Repr

inductive Condition
  | ready
  | waiting (on : Wait)
  | ended (outcome : Outcome)
  deriving DecidableEq, Repr

structure Descriptor where
  file : Nat
  closing : Bool := false

structure Process where
  pid : Nat
  parent : Nat
  group : Nat
  behaviour : Behaviour
  time : Nat
  condition : Condition := .ready
  stopped : Bool := false
  descriptors : List (Nat × Descriptor) := []
  cwd : Nat := 0
  mask : Nat := 0o022
  dispositions : List (Nat × Disposition) := []
  caught : List Nat := []
  interrupted : Bool := false
  doom? : Option Nat := none
  alarm : Option Nat := none
  written : Nat := 0
  opening : Option (Nat × Nat) := none

def beginning : Nat :=
  1760000000000000000

structure Kernel where
  tree : FileTree := {}
  processes : List Process := []
  files : Array OpenFile := #[]
  pipes : Array Pipe := #[]
  fifos : List (Nat × Nat) := []
  now : Nat := beginning
  nextPid : Nat := 1000

inductive Verdict (α : Type)
  | reply (value : α)
  | wait (on : Wait)
  | until (time : Nat)
  | gone

abbrev Programs := String → List String → List (String × String) → Behaviour

namespace Process

def isEnded (process : Process) : Bool :=
  match process.condition with
  | .ended _ => true
  | _ => false

def disposition (process : Process) (signal : Nat) : Disposition :=
  (process.dispositions.lookup signal).getD .standard

def descriptor? (process : Process) (number : Nat) : Option Descriptor :=
  process.descriptors.lookup number

def freeNumber (process : Process) (least : Nat) : Nat :=
  ((List.range (process.descriptors.length + 1)).find? fun step =>
    !(process.descriptors.any (·.1 = least + step))).getD 0 + least

def setDescriptor (process : Process) (number : Nat) (descriptor : Descriptor) : Process :=
  { process with
    descriptors := (number, descriptor) :: process.descriptors.filter (·.1 ≠ number) }

end Process

namespace Kernel

def maxDescriptors : Nat :=
  1048576

def wakeTime : Nat :=
  30000

def fileTime (kernel : Kernel) : Nat :=
  atTick kernel.now

def process? (kernel : Kernel) (pid : Nat) : Option Process :=
  kernel.processes.find? (·.pid = pid)

def update (kernel : Kernel) (pid : Nat) (change : Process → Process) : Kernel :=
  { kernel with
    processes := kernel.processes.map fun process =>
      if process.pid = pid then change process else process }

def rouse (kernel : Kernel) (process : Process) : Process :=
  { process with condition := .ready, time := max process.time (kernel.now + wakeTime) }

def wake (kernel : Kernel) (wait : Wait) : Kernel :=
  if kernel.processes.any (·.condition = .waiting wait) then
    { kernel with
      processes := kernel.processes.map fun process =>
        if process.condition = .waiting wait then kernel.rouse process else process }
  else kernel

def source? (kernel : Kernel) (process : Process) (number : Nat) : Option Resource := do
  return (← kernel.files[(← process.descriptor? number).file]?).source

/-! Open files. -/

def addFile (kernel : Kernel) (source : Resource) (mode : OpenMode) : Nat × Kernel :=
  let index := kernel.files.size
  let kernel := { kernel with files := kernel.files.push { source, mode } }
  match source with
  | .pipe pipe =>
      (index, { kernel with
        pipes := kernel.pipes.modify pipe fun pipe =>
          { pipe with
            readers := pipe.readers + if mode.reads then 1 else 0
            writers := pipe.writers + if mode.writes then 1 else 0
            openings := pipe.openings + 1 } })
  | _ => (index, kernel)

def addPipe (kernel : Kernel) (pipe : Pipe) : Nat × Kernel :=
  (kernel.pipes.size, { kernel with pipes := kernel.pipes.push pipe })

def hold (kernel : Kernel) (file : Nat) : Kernel :=
  { kernel with files := kernel.files.modify file fun file =>
      { file with holders := file.holders + 1 } }

/-- Takes a holder from an open file. Without holders it is closed. -/
def release (kernel : Kernel) (file : Nat) : Kernel :=
  let kernel := { kernel with files := kernel.files.modify file fun file =>
    { file with holders := file.holders - 1 } }
  match (kernel.files[file]? : Option OpenFile) with
  | some ⟨.pipe index, mode, _, 0⟩ =>
      wake { kernel with
        pipes := kernel.pipes.modify index fun pipe =>
          { pipe with
            readers := pipe.readers - if mode.reads then 1 else 0
            writers := pipe.writers - if mode.writes then 1 else 0 } } (.pipe index)
  | _ => kernel

def install (kernel : Kernel) (pid number file : Nat) : Kernel :=
  (kernel.hold file).update pid fun process => process.setDescriptor number { file }

def closeDescriptor (kernel : Kernel) (pid number : Nat) : Kernel :=
  match (kernel.process? pid).bind (·.descriptor? number) with
  | none => kernel
  | some descriptor =>
      (kernel.update pid fun process =>
        { process with descriptors := process.descriptors.filter (·.1 ≠ number) }).release
        descriptor.file

/-! Ends and signals. -/

def markCaught (process : Process) (signal : Nat) : Process :=
  if process.caught.contains signal then process
  else { process with caught := process.caught ++ [signal] }

def informed (kernel : Kernel) (ended : Process) (outcome : Outcome) (process : Process) :
    Process :=
  if process.pid = ended.pid then
    { process with condition := .ended outcome, descriptors := [], behaviour := .stop 0 }
  else if process.parent = ended.pid then { process with parent := 1 }
  else if process.pid = ended.parent then
    let process := if process.disposition Signal.child = .caught then
        markCaught process Signal.child
      else process
    if process.condition = .waiting .child then kernel.rouse process else process
  else process

/-- Ends a process. Its children are left to the system, which has no use for what became of
them. -/
def finish (kernel : Kernel) (pid : Nat) (outcome : Outcome) : Kernel :=
  match kernel.process? pid with
  | none => kernel
  | some process =>
      let kernel := process.descriptors.foldl (fun kernel (_, descriptor) =>
        kernel.release descriptor.file) kernel
      let kernel := match process.opening with
        | some (file, _) => (kernel.hold file).release file
        | none => kernel
      { kernel with
        processes := (kernel.processes.map (kernel.informed process outcome)).filter fun other =>
          !(other.parent = 1 && other.isEnded) }

def dyingTime : Nat :=
  150000

/-- Sends a signal to a process. If it ends the process, then after `delay`. -/
def deliver (kernel : Kernel) (pid signal : Nat) (delay : Nat := 0) : Kernel :=
  match kernel.process? pid with
  | none => kernel
  | some process =>
      if process.isEnded || (process.doom?.isSome && delay ≠ 0) then kernel
      else
        let kernel := if signal = Signal.proceed || signal = Signal.killed then
            kernel.update pid fun process =>
              { process with stopped := false, time := max process.time kernel.now }
          else kernel
        let disposition := if signal = Signal.killed || signal = Signal.stop then .standard
          else process.disposition signal
        match disposition with
        | .ignored => kernel
        | .caught =>
            kernel.update pid fun process =>
              let process := markCaught process signal
              match process.condition, process.alarm with
              | .waiting _, _ => { kernel.rouse process with interrupted := true }
              | _, some _ =>
                  { process with time := kernel.now + wakeTime, interrupted := true }
              | _, none => process
        | .standard =>
            match Signal.effect signal with
            | .ends =>
                if delay = 0 then kernel.finish pid (.killed signal)
                else
                  kernel.update pid fun process =>
                    { process with
                      condition := .ready
                      time := kernel.now + delay
                      doom? := some signal }
            | .stops => kernel.update pid fun process => { process with stopped := true }
            | _ => kernel

/-! Replies. -/

def view (kernel : Kernel) (process : Process) : View where
  tree := kernel.tree
  cwd := process.cwd
  now := kernel.now
  pid := process.pid
  parent := process.parent
  mask := process.mask
  descriptors := process.descriptors.filterMap fun (number, _) =>
    (kernel.source? process number).map (number, ·)
  ignored := process.dispositions.filterMap fun (signal, disposition) =>
    if disposition = .ignored then some signal else none

def openSource (kernel : Kernel) (process : Process) (source : Resource) (mode : OpenMode) :
    Kernel × Verdict (Except IoError Nat) :=
  let (file, kernel) := kernel.addFile source mode
  let number := process.freeNumber 0
  (kernel.install process.pid number file, .reply (.ok number))

def fifo (kernel : Kernel) (node : Nat) : Nat × Kernel :=
  match kernel.fifos.lookup node with
  | some pipe => (pipe, kernel)
  | none =>
      let (pipe, kernel) := kernel.addPipe {}
      (pipe, { kernel with fifos := (node, pipe) :: kernel.fifos })

def openFifo (kernel : Kernel) (process : Process) (node : Nat) (mode : OpenMode) :
    Kernel × Verdict (Except IoError Nat) :=
  let (pipe, kernel) := kernel.fifo node
  if mode.reads && mode.writes then kernel.openSource process (.pipe pipe) mode
  else
    let before := (kernel.pipes[pipe]?.map (·.openings)).getD 0
    let (file, kernel) := kernel.addFile (.pipe pipe) mode
    let kernel := kernel.wake (.pipe pipe)
    let others := match kernel.pipes[pipe]? with
      | some pipe => if mode.reads then pipe.writers else pipe.readers
      | none => 0
    if 0 < others then
      let number := process.freeNumber 0
      (kernel.install process.pid number file, .reply (.ok number))
    else
      (kernel.update process.pid fun process =>
        { process with opening := some (file, before + 1) }, .wait (.pipe pipe))

def resumeOpening (kernel : Kernel) (process : Process) (file before : Nat) :
    Kernel × Verdict (Except IoError Nat) :=
  match kernel.files[file]? with
  | some ⟨.pipe pipe, _, _, _⟩ =>
      if (kernel.pipes[pipe]?.map (·.openings)).getD 0 ≤ before then
        if process.interrupted then
          ((kernel.hold file).release file |>.update process.pid fun process =>
            { process with opening := none, interrupted := false },
            .reply (.error .interruptedCall))
        else (kernel, .wait (.pipe pipe))
      else
        let kernel := kernel.update process.pid fun process => { process with opening := none }
        let number := process.freeNumber 0
        (kernel.install process.pid number file, .reply (.ok number))
  | _ => (kernel, .reply (.error .noSuchDevice))

def openNode (kernel : Kernel) (process : Process) (index : Nat) (mode : OpenMode) :
    Kernel × Verdict (Except IoError Nat) :=
  match kernel.tree.content? index with
  | none => (kernel, .reply (.error .noSuchFile))
  | some (.directory _ _) =>
      if mode.writes || mode.creates then (kernel, .reply (.error .isADirectory))
      else kernel.openSource process (.node index) mode
  | some (.device .terminal) => (kernel, .reply (.error .noSuchDevice))
  | some (.device (.descriptor number)) =>
      match kernel.source? process number with
      | none => (kernel, .reply (.error .noSuchFile))
      | some (.node other) =>
          let kernel := if mode.truncates then
              { kernel with
                tree := match kernel.tree.content? other with
                  | some (.file _) => kernel.tree.setContent other (.file .empty) kernel.fileTime
                  | _ => kernel.tree }
            else kernel
          kernel.openSource process (.node other) mode
      | some source => kernel.openSource process source mode
  | some (.device device) => kernel.openSource process (.device device) mode
  | some .fifo => kernel.openFifo process index mode
  | some (.program _) =>
      if mode.writes then (kernel, .reply (.error .fileBusy))
      else kernel.openSource process (.node index) mode
  | some (.file bytes) =>
      let kernel := if mode.truncates && !bytes.isEmpty then
          { kernel with tree := kernel.tree.setContent index (.file .empty) kernel.fileTime }
        else kernel
      kernel.openSource process (.node index) mode
  | some (.link _) => (kernel, .reply (.error .tooManyLinks))

def openPath (kernel : Kernel) (process : Process) (path : String) (mode : OpenMode)
    (permissions : Nat) : Kernel × Verdict (Except IoError Nat) :=
  match process.opening with
  | some (file, before) => kernel.resumeOpening process file before
  | none =>
      let located := if mode.creates then
          kernel.tree.locateForCreation process.cwd path (!mode.exclusive)
        else kernel.tree.locate process.cwd path
      match located with
      | .error error => (kernel, .reply (.error error))
      | .ok location =>
          match location.node? with
          | some index =>
              if mode.exclusive then (kernel, .reply (.error .fileExists))
              else kernel.openNode process index mode
          | none =>
              if !mode.creates then (kernel, .reply (.error .noSuchFile))
              else
                let (index, tree) := kernel.tree.add location.directory location.name
                  (.file .empty) (permissions &&& (0o777 ^^^ (process.mask &&& 0o777)))
                  kernel.fileTime
                { kernel with tree }.openSource process (.node index) mode

def zeros (count : Nat) : ByteArray :=
  ⟨Array.replicate count 0⟩

def readFrom (kernel : Kernel) (process : Process) (number count : Nat) :
    Kernel × Verdict (Except IoError ByteArray) :=
  match process.descriptor? number with
  | none => (kernel, .reply (.error .badDescriptor))
  | some descriptor =>
      match kernel.files[descriptor.file]? with
      | none => (kernel, .reply (.error .badDescriptor))
      | some file =>
          if !file.mode.reads then (kernel, .reply (.error .badDescriptor))
          else
            match file.source with
            | .device .zero | .device .full => (kernel, .reply (.ok (zeros count)))
            | .device _ => (kernel, .reply (.ok .empty))
            | .node index =>
                match kernel.tree.content? index with
                | some (.directory _ _) => (kernel, .reply (.error .isADirectory))
                | some (.file bytes) =>
                    let part := bytes.extract file.offset (file.offset + count)
                    ({ kernel with
                      files := kernel.files.modify descriptor.file fun file =>
                        { file with offset := file.offset + part.size } }, .reply (.ok part))
                | _ => (kernel, .reply (.ok .empty))
            | .pipe index =>
                match kernel.pipes[index]? with
                | none => (kernel, .reply (.ok .empty))
                | some pipe =>
                    if pipe.size = 0 then
                      if pipe.writers = 0 || count = 0 then (kernel, .reply (.ok .empty))
                      else if process.interrupted then
                        (kernel.update process.pid fun process =>
                          { process with interrupted := false },
                          .reply (.error .interruptedCall))
                      else (kernel, .wait (.pipe index))
                    else
                      let count := min count (min pipe.size Pipe.capacity)
                      let part := pipe.content.extract pipe.front (pipe.front + count)
                      ({ kernel with pipes := kernel.pipes.modify index (·.drop count) }.wake
                        (.pipe index), .reply (.ok part))

def overwrite (content : ByteArray) (offset : Nat) (bytes : ByteArray) : ByteArray :=
  if offset = content.size then content ++ bytes
  else if content.size < offset then content ++ zeros (offset - content.size) ++ bytes
  else
    content.extract 0 offset ++ bytes ++ content.extract (offset + bytes.size) content.size

def writeNode (kernel : Kernel) (file index offset : Nat) (bytes : ByteArray) : Kernel :=
  let now := kernel.fileTime
  { kernel with
    tree := { nodes := kernel.tree.nodes.modify index fun node =>
      match node with
      | ⟨.file content, mode, _⟩ => ⟨.file (overwrite content offset bytes), mode, now⟩
      | node => node }
    files := kernel.files.modify file fun file =>
      { file with offset := offset + bytes.size } }

def writePipe (kernel : Kernel) (process : Process) (index : Nat) (bytes : ByteArray) :
    Kernel × Verdict (Except IoError Unit) :=
  match kernel.pipes[index]? with
  | none => (kernel, .reply (.error .brokenPipe))
  | some pipe =>
      if pipe.readers = 0 then
        if process.disposition Signal.brokenPipe = .standard then
          (kernel.finish process.pid (.killed Signal.brokenPipe), .gone)
        else
          ((kernel.deliver process.pid Signal.brokenPipe).update process.pid fun process =>
            { process with written := 0 }, .reply (.error .brokenPipe))
      else
        let left := bytes.size - process.written
        let taken := if !pipe.bounded || left ≤ pipe.room then left
          else if bytes.size ≤ Pipe.atom then 0
          else pipe.room
        let kernel := if taken = 0 then kernel
          else
            let part := if taken = bytes.size then bytes
              else bytes.extract process.written (process.written + taken)
            { kernel with pipes := kernel.pipes.modify index (·.push part) }.wake (.pipe index)
        if taken = left then
          (if process.written = 0 then kernel
            else kernel.update process.pid fun process => { process with written := 0 },
            .reply (.ok ()))
        else
          (kernel.update process.pid fun process =>
            { process with written := process.written + taken }, .wait (.pipe index))

def writeTo (kernel : Kernel) (process : Process) (number : Nat) (bytes : ByteArray) :
    Kernel × Verdict (Except IoError Unit) :=
  match process.descriptor? number with
  | none => (kernel, .reply (.error .badDescriptor))
  | some descriptor =>
      match kernel.files[descriptor.file]? with
      | none => (kernel, .reply (.error .badDescriptor))
      | some file =>
          if !file.mode.writes then (kernel, .reply (.error .badDescriptor))
          else
            match file.source with
            | .device .full =>
                (kernel, .reply (if bytes.isEmpty then .ok () else .error .noSpace))
            | .device _ => (kernel, .reply (.ok ()))
            | .node index =>
                let offset := if file.mode.appends then
                    match kernel.tree.content? index with
                    | some (.file content) => content.size
                    | _ => 0
                  else file.offset
                (kernel.writeNode descriptor.file index offset bytes, .reply (.ok ()))
            | .pipe index => kernel.writePipe process index bytes

def seekIn (kernel : Kernel) (process : Process) (number : Nat) (offset : Int) (origin : Origin) :
    Kernel × Except IoError Nat :=
  match process.descriptor? number with
  | none => (kernel, .error .badDescriptor)
  | some descriptor =>
      match kernel.files[descriptor.file]? with
      | some ⟨.node index, _, current, _⟩ =>
          let size := match kernel.tree.nodes[index]? with
            | some node => node.size
            | none => 0
          let start : Nat := match origin with
            | .start => 0
            | .current => current
            | .finish => size
          let goal := (start : Int) + offset
          if goal < 0 then (kernel, .error .invalidArgument)
          else
            ({ kernel with
              files := kernel.files.modify descriptor.file fun file =>
                { file with offset := goal.toNat } }, .ok goal.toNat)
      | some ⟨.device _, _, _, _⟩ => (kernel, .ok 0)
      | _ => (kernel, .error .illegalSeek)

/-- Those whom a number stands for: one process, or the members of a group. -/
def addressed (kernel : Kernel) (process : Process) (target : Int) : List Nat :=
  let test (other : Process) : Bool :=
    if 0 < target then other.pid = target.toNat
    else if target = 0 then other.group = process.group
    else if target = -1 then other.pid ≠ process.pid
    else other.group = (-target).toNat
  (kernel.processes.filter test).map (·.pid)

def awaitChild (kernel : Kernel) (process : Process) (block : Bool) : Kernel × Verdict Awaited :=
  let children := kernel.processes.filter (·.parent = process.pid)
  let ended? := children.findSome? fun child =>
    match child.condition with
    | .ended outcome => some (child.pid, outcome)
    | _ => none
  match ended? with
  | some (pid, outcome) =>
      ({ kernel with processes := kernel.processes.filter (·.pid ≠ pid) },
        .reply (.ended pid outcome))
  | none =>
      if children.isEmpty then (kernel, .reply .childless)
      else if !block then (kernel, .reply .running)
      else if process.interrupted then
        (kernel.update process.pid fun process => { process with interrupted := false },
          .reply .interrupted)
      else (kernel, .wait .child)

def isOpenForWriting (kernel : Kernel) (index : Nat) : Bool :=
  kernel.files.any fun file => file.source = .node index && file.mode.writes && file.holders ≠ 0

def execute (kernel : Kernel) (programs : Programs) (process : Process) (path : String)
    (words : List String) (environment : List (String × String)) : Kernel × Verdict IoError :=
  if !fits words environment then (kernel, .reply .argumentsTooLong)
  else
    match kernel.tree.image process.cwd FileTree.maxInterpreters path words with
    | .error error => (kernel, .reply error)
    | .ok (name, words) =>
        let busy := match kernel.tree.find process.cwd (Octets.toText path) with
          | .ok index => kernel.isOpenForWriting index
          | .error _ => false
        if busy then (kernel, .reply .fileBusy)
        else
          let kernel := (process.descriptors.filter (·.2.closing)).foldl
            (fun kernel (number, _) => kernel.closeDescriptor process.pid number) kernel
          (kernel.update process.pid fun process =>
            { process with
              behaviour := programs name words environment
              dispositions := process.dispositions.filter (·.2 = .ignored)
              caught := [] }, .gone)

def answer (kernel : Kernel) (programs : Programs) (process : Process) :
    (request : Request) → Kernel × Verdict request.Reply
  | .pass _ => (kernel, .reply ())
  | .sleep time =>
      match process.alarm with
      | none => (kernel, .until (kernel.now + time))
      | some _ =>
          (kernel.update process.pid fun process =>
            { process with alarm := none, interrupted := false }, .reply process.interrupted)
  | .view => (kernel, .reply (kernel.view process))
  | .openFile path mode permissions =>
      kernel.openPath process (Octets.toText path) mode permissions
  | .close number =>
      if (process.descriptor? number).isNone then (kernel, .reply (.error .badDescriptor))
      else (kernel.closeDescriptor process.pid number, .reply (.ok ()))
  | .duplicate number least =>
      match process.descriptor? number with
      | none => (kernel, .reply (.error .badDescriptor))
      | some descriptor =>
          let free := process.freeNumber least
          (kernel.install process.pid free descriptor.file, .reply (.ok free))
  | .replace number target =>
      match process.descriptor? number with
      | none => (kernel, .reply (.error .badDescriptor))
      | some descriptor =>
          if number = target then (kernel, .reply (.ok ()))
          else if maxDescriptors ≤ target then (kernel, .reply (.error .badDescriptor))
          else
            let kernel := kernel.hold descriptor.file
            let kernel := kernel.closeDescriptor process.pid target
            let kernel := kernel.update process.pid fun process =>
              process.setDescriptor target { file := descriptor.file }
            (kernel, .reply (.ok ()))
  | .closeOnExecute number =>
      (kernel.update process.pid fun process =>
        match process.descriptor? number with
        | some descriptor => process.setDescriptor number { descriptor with closing := true }
        | none => process, .reply ())
  | .read number count => kernel.readFrom process number count
  | .write number bytes => kernel.writeTo process number bytes
  | .seek number offset origin =>
      let (kernel, result) := kernel.seekIn process number offset origin
      (kernel, .reply result)
  | .pipe =>
      let (pipe, kernel) := kernel.addPipe {}
      let (front, kernel) := kernel.addFile (.pipe pipe) { reads := true }
      let (back, kernel) := kernel.addFile (.pipe pipe) { writes := true }
      let first := process.freeNumber 0
      let kernel := kernel.install process.pid first front
      let second := (process.setDescriptor first { file := front }).freeNumber 0
      (kernel.install process.pid second back, .reply (first, second))
  | .change operation =>
      match operation (kernel.view process) with
      | .error error => (kernel, .reply (.error error))
      | .ok tree => ({ kernel with tree }, .reply (.ok ()))
  | .enter path =>
      match kernel.tree.find process.cwd (Octets.toText path) with
      | .error error => (kernel, .reply (.error error))
      | .ok index =>
          if kernel.tree.isDirectoryNode index then
            (kernel.update process.pid fun process => { process with cwd := index },
              .reply (.ok ()))
          else (kernel, .reply (.error .notADirectory))
  | .setMask mask =>
      (kernel.update process.pid fun process => { process with mask }, .reply process.mask)
  | .execute path words environment => kernel.execute programs process path words environment
  | .await block => kernel.awaitChild process block
  | .kill target signal =>
      match kernel.addressed process target with
      | [] => (kernel, .reply (.error .noSuchProcess))
      | pids =>
          if signal = 0 then (kernel, .reply (.ok ()))
          else if Signal.last < signal then (kernel, .reply (.error .invalidArgument))
          else
            let kernel := pids.foldl (fun kernel pid =>
              kernel.deliver pid signal (if pid = process.pid then 0 else dyingTime)) kernel
            if ((kernel.process? process.pid).map (·.isEnded)).getD true then (kernel, .gone)
            else (kernel, .reply (.ok ()))
  | .handle signal disposition =>
      (kernel.update process.pid fun process =>
        { process with
          dispositions := (signal, disposition) :: process.dispositions.filter (·.1 ≠ signal)
          caught := if disposition = .caught then process.caught
            else process.caught.filter (· ≠ signal) }, .reply ())
  | .caught =>
      if process.caught.isEmpty then (kernel, .reply [])
      else
        (kernel.update process.pid fun process => { process with caught := [] },
          .reply process.caught)
  | .setGroup pid group =>
      let pid := if pid = 0 then process.pid else pid
      (kernel.update pid fun process =>
        { process with group := if group = 0 then pid else group }, .reply ())

end Kernel

end Bundler.Machine
