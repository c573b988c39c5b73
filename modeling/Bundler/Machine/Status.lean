import Bundler.Machine.Behaviour
import Bundler.Machine.Octets

/-! What a process learns about a file by its path. -/

namespace Bundler.Machine

inductive FileKind
  | file
  | directory
  | link
  | fifo
  | device
  deriving DecidableEq, Repr

structure FileStatus where
  kind : FileKind
  mode : Nat
  size : Nat
  modified : Nat
  index? : Option Nat
  identity : Resource
  deriving DecidableEq, Repr

namespace Node

def kind (node : Node) : FileKind :=
  match node.content with
  | .directory _ _ => .directory
  | .file _ | .program _ => .file
  | .link _ => .link
  | .fifo => .fifo
  | .device _ => .device

end Node

namespace View

def nodeStatus (view : View) (index : Nat) : Except IoError FileStatus :=
  match view.tree.nodes[index]? with
  | some node => .ok
      { kind := node.kind
        mode := node.mode
        size := node.size
        modified := node.modified
        index? := some index
        identity := .node index }
  | none => .error .noSuchFile

def sourceStatus (view : View) : Resource → Except IoError FileStatus
  | .node index => view.nodeStatus index
  | .pipe index => .ok
      { kind := .fifo, mode := 0o600, size := 0, modified := view.now, index? := none
        identity := .pipe index }
  | .device device => .ok
      { kind := .device, mode := 0o666, size := 0, modified := 0, index? := none
        identity := .device device }

def descriptorStatus (view : View) (number : Nat) : Except IoError FileStatus :=
  match view.descriptors.lookup number with
  | some source => view.sourceStatus source
  | none => .error .badDescriptor

def status (view : View) (path : String) (follow : Bool := true) : Except IoError FileStatus := do
  let index ← view.tree.find view.cwd (Octets.toText path) follow
  match view.tree.content? index with
  | some (.device (.descriptor number)) =>
      if follow then
        match view.descriptors.lookup number with
        | some source => view.sourceStatus source
        | none => throw .noSuchFile
      else
        return { (← view.nodeStatus index) with kind := .link, mode := 0o777 }
  | _ => view.nodeStatus index

def has (view : View) (path : String) (test : FileStatus → Bool) : Bool :=
  match view.status path with
  | .ok status => test status
  | .error _ => false

def isDirectory (view : View) (path : String) : Bool :=
  view.has path (·.kind = .directory)

def directory? (view : View) : Option String :=
  (view.tree.place? view.cwd).map fun place => Octets.ofText (FileTree.pathOf place)

end View

end Bundler.Machine
