import Bundler.Machine.System
import Bundler.Program

/-! A machine as the host and console of a program. -/

namespace Bundler.Machine

open Source (LoadRun)

abbrev MachineM := StateM Machine

/-- The file that a path leads to. What the program itself has open is told apart. -/
def device? (machine : Machine) (path : String) : Option Device :=
  match machine.tree.node machine.cwd path with
  | .ok { content := .device device, .. } => some device
  | _ => none

def reader (machine : Machine) : Source.Reader := fun path =>
  (machine.tree.read machine.cwd path).map Text.Utf8.decode

def depth (machine : Machine) : Nat :=
  ((machine.tree.place? machine.cwd).map (·.length)).getD 0

/-- A depth that no load of the files needs more than. A relative spelling of a file climbs no
higher than to the root. -/
def loadDepth (machine : Machine) : Nat :=
  Source.sufficientDepth (machine.tree.nodes.size * (machine.depth + 2))

def load (machine : Machine) (entry : String) : LoadRun :=
  Source.load machine.reader machine.loadDepth entry

def directoryText (machine : Machine) : String :=
  FileTree.pathOf ((machine.tree.place? machine.cwd).getD [])

def change (result : Except IoError FileTree) : MachineM (Except IoError Unit) := do
  match result with
  | .ok tree =>
      modify (·.setTree tree)
      return .ok ()
  | .error error => return .error error

def readPath (path : String) : MachineM (Except IoError ByteArray) := do
  let machine ← get
  match machine.device? path with
  | some (.descriptor 0) => do
      set { machine with stdin := .empty }
      return .ok machine.stdin
  | some (.descriptor number) => return if number < 3 then .ok .empty else .error .noSuchFile
  | _ => return machine.tree.read machine.cwd path

def writePath (path text : String) : MachineM (Except IoError Unit) := do
  let machine ← get
  let bytes := text.toUTF8
  match machine.device? path with
  | some (.descriptor 0) => return .ok ()
  | some (.descriptor 1) => do
      set { machine with stdout := machine.stdout ++ bytes }
      return .ok ()
  | some (.descriptor 2) => do
      set { machine with stderr := machine.stderr ++ bytes }
      return .ok ()
  | some (.descriptor _) => return .error .noSuchFile
  | _ => change (machine.tree.write machine.cwd path bytes machine.now)

def isFile (machine : Machine) (path : String) : Bool :=
  machine.tree.isFile machine.cwd path

def makeDirectories (path : String) : MachineM (Except IoError Unit) :=
  modifyGet fun machine =>
    let (result, tree) := machine.tree.makeDirectories machine.cwd path machine.now
    (result, machine.setTree tree)

def remove (path : String) : MachineM (Except IoError Unit) := do
  let machine ← get
  change (machine.tree.remove machine.cwd path machine.now)

def console : Console MachineM where
  isFile path := do return (← get).isFile path
  search name := do return (← get).search name
  makeDirectories := makeDirectories
  remove := remove
  start launch := modifyGet fun machine => machine.start launch
  report record := modify fun machine =>
    { machine with records := machine.records ++ [record] }
  read := readPath
  write := writePath
  load entry := do return (← get).load entry
  workingDirectory := do return (← get).directoryText
  environment name := do return (← get).environment.lookup name
  input := modifyGet fun machine => (.ok machine.stdin, { machine with stdin := .empty })
  print text := modify fun machine =>
    { machine with stdout := machine.stdout ++ text.toUTF8 }
  printError text := modify fun machine =>
    { machine with stderr := machine.stderr ++ text.toUTF8 }

end Bundler.Machine
