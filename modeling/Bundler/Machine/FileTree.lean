import Bundler.IoError
import Bundler.Path

/-!
A tree of files: numbered nodes, of which the directories name others. Node 0 is the root.
Operations fail as those of a system do whose user may read and write everything.
-/

namespace Bundler.Machine

open Bundler.Path (Place)

inductive Device
  | null
  | zero
  | full
  | terminal
  | descriptor (number : Nat)
  deriving DecidableEq, Repr

inductive Content
  | directory (parent : Nat) (entries : List (String × Nat))
  | file (bytes : ByteArray)
  | link (target : String)
  | fifo
  | device (device : Device)
  | program (name : String)

structure Node where
  content : Content
  mode : Nat
  modified : Nat := 0

structure FileTree where
  nodes : Array Node := #[⟨.directory 0 [], 0o755, 0⟩]

/-- Where a path leads: the directory and the name in it, and the node of that name. A path that
ends at a directory without naming it has an idle name. -/
structure Location where
  directory : Nat
  name : String
  node? : Option Nat
  slashed : Bool := false
  deriving DecidableEq, Repr

namespace Node

def isDirectory (node : Node) : Bool :=
  match node.content with
  | .directory _ _ => true
  | _ => false

def isFile (node : Node) : Bool :=
  match node.content with
  | .file _ | .program _ => true
  | _ => false

def isLink (node : Node) : Bool :=
  match node.content with
  | .link _ => true
  | _ => false

def isExecutable (node : Node) : Bool :=
  node.mode &&& 0o111 ≠ 0

def size (node : Node) : Nat :=
  match node.content with
  | .file bytes => bytes.size
  | .link target => target.utf8ByteSize
  | .directory _ _ => 4096
  | _ => 0

end Node

namespace FileTree

def content? (tree : FileTree) (index : Nat) : Option Content :=
  tree.nodes[index]?.map (·.content)

def entries (tree : FileTree) (index : Nat) : List (String × Nat) :=
  match tree.content? index with
  | some (.directory _ entries) => entries
  | _ => []

def parent (tree : FileTree) (index : Nat) : Nat :=
  match tree.content? index with
  | some (.directory parent _) => parent
  | _ => 0

def isDirectoryNode (tree : FileTree) (index : Nat) : Bool :=
  match tree.content? index with
  | some (.directory _ _) => true
  | _ => false

def maxName : Nat :=
  255

def maxPath : Nat :=
  4095

def maxLinks : Nat :=
  40

def steps (path : String) : List String :=
  (Path.names path).filter (· ≠ "")

/-- Goes down from a directory, name by name. A link is followed unless it comes last and
`follow` is not asked for. -/
def walk (tree : FileTree) (follow : Bool) (links index : Nat) (names : List String) :
    Except IoError Location :=
  match names with
  | [] => .ok { directory := index, name := "", node? := some index }
  | name :: rest =>
      match tree.content? index with
      | some (.directory parent entries) =>
          if name = "." then
            if rest = [] then .ok { directory := index, name, node? := some index }
            else walk tree follow links index rest
          else if name = ".." then
            if rest = [] then .ok { directory := parent, name, node? := some parent }
            else walk tree follow links parent rest
          else if maxName < name.utf8ByteSize then .error .nameTooLong
          else
            match entries.lookup name with
            | none =>
                if rest = [] then .ok { directory := index, name, node? := none }
                else .error .noSuchFile
            | some below =>
                match tree.content? below with
                | some (.link target) =>
                    if rest = [] && !follow then
                      .ok { directory := index, name, node? := some below }
                    else
                      match links with
                      | 0 => .error .tooManyLinks
                      | links + 1 =>
                          if target.isEmpty then .error .noSuchFile
                          else walk tree follow links (if Path.isAbsolute target then 0 else index)
                            (steps target ++ rest)
                | _ =>
                    if rest = [] then .ok { directory := index, name, node? := some below }
                    else walk tree follow links below rest
      | _ => .error .notADirectory
termination_by (links, names.length)

def startOf (cwd : Nat) (path : String) : Nat :=
  if Path.isAbsolute path then 0 else cwd

def isSlashed (path : String) : Bool :=
  path.toList.getLast? == some '/'

def checkPath (path : String) : Except IoError Unit := do
  if path.toList.contains '\x00' then throw .nulInPath
  if path.isEmpty then throw .noSuchFile
  if maxPath < path.utf8ByteSize then throw .nameTooLong

/-- Where a path leads from a working directory. A path that ends in a slash leads to nothing but
directories. -/
def locate (tree : FileTree) (cwd : Nat) (path : String) (follow : Bool := true) :
    Except IoError Location := do
  checkPath path
  let slashed := isSlashed path
  let location ← tree.walk (follow || slashed) maxLinks (startOf cwd path) (steps path)
  if slashed && location.node?.any (!tree.isDirectoryNode ·) then throw .notADirectory
  return { location with slashed }

/-- Where a file is to be made if it is missing. No file is made under a name with a slash behind
it. -/
def locateForCreation (tree : FileTree) (cwd : Nat) (path : String) (follow : Bool := true) :
    Except IoError Location := do
  checkPath path
  if isSlashed path then
    let above ← tree.walk true maxLinks (startOf cwd path) (steps path).dropLast
    match above.node? with
    | none => throw .noSuchFile
    | some node => throw (if tree.isDirectoryNode node then .isADirectory else .notADirectory)
  else tree.locate cwd path follow

def find (tree : FileTree) (cwd : Nat) (path : String) (follow : Bool := true) :
    Except IoError Nat := do
  match (← tree.locate cwd path follow).node? with
  | some index => return index
  | none => throw .noSuchFile

def node (tree : FileTree) (cwd : Nat) (path : String) (follow : Bool := true) :
    Except IoError Node := do
  match tree.nodes[← tree.find cwd path follow]? with
  | some node => return node
  | none => throw .noSuchFile

def has (tree : FileTree) (cwd : Nat) (path : String) (test : Node → Bool) : Bool :=
  match tree.node cwd path with
  | .ok node => test node
  | .error _ => false

def isFile (tree : FileTree) (cwd : Nat) (path : String) : Bool :=
  tree.has cwd path (·.isFile)

def isDirectory (tree : FileTree) (cwd : Nat) (path : String) : Bool :=
  tree.has cwd path (·.isDirectory)

def isExecutableFile (tree : FileTree) (cwd : Nat) (path : String) : Bool :=
  tree.has cwd path fun node => node.isFile && node.isExecutable

/-- The names from the root down to a directory. `fuel` is at least their number. -/
def placeFrom (tree : FileTree) : (fuel : Nat) → Nat → Option Place
  | 0, index => if index = 0 then some [] else none
  | fuel + 1, index =>
      if index = 0 then some []
      else do
        let parent := tree.parent index
        let (name, _) ← (tree.entries parent).find? (·.2 = index)
        return (← placeFrom tree fuel parent) ++ [name]

def place? (tree : FileTree) (index : Nat) : Option Place :=
  tree.placeFrom tree.nodes.size index

def pathOf (place : Place) : String :=
  "/" ++ String.intercalate "/" place

/-! Changes. -/

def setContent (tree : FileTree) (index : Nat) (content : Content) (now : Nat) : FileTree :=
  { nodes := tree.nodes.modify index fun node => { node with content, modified := now } }

def setMode (tree : FileTree) (index mode : Nat) : FileTree :=
  { nodes := tree.nodes.modify index fun node => { node with mode } }

def setModified (tree : FileTree) (index now : Nat) : FileTree :=
  { nodes := tree.nodes.modify index fun node => { node with modified := now } }

def setEntries (tree : FileTree) (index : Nat) (entries : List (String × Nat)) (now : Nat) :
    FileTree :=
  tree.setContent index (.directory (tree.parent index) entries) now

def unbind (tree : FileTree) (directory : Nat) (name : String) (now : Nat) : FileTree :=
  tree.setEntries directory ((tree.entries directory).filter (·.1 ≠ name)) now

def bind (tree : FileTree) (directory : Nat) (name : String) (index now : Nat) : FileTree :=
  tree.setEntries directory
    ((name, index) :: (tree.entries directory).filter (·.1 ≠ name)) now

def add (tree : FileTree) (directory : Nat) (name : String) (content : Content) (mode now : Nat) :
    Nat × FileTree :=
  let index := tree.nodes.size
  let tree : FileTree := { nodes := tree.nodes.push ⟨content, mode, now⟩ }
  (index, tree.bind directory name index now)

/-- The number of names that a node has. A directory has those that lead to it from within. -/
def linkCount (tree : FileTree) (index : Nat) : Nat :=
  let named := tree.nodes.foldl (fun count node =>
    match node.content with
    | .directory _ entries => count + (entries.filter (·.2 = index)).length
    | _ => count) 0
  if tree.isDirectoryNode index then
    2 + ((tree.entries index).filter (tree.isDirectoryNode ·.2)).length
  else named

def makeDirectory (tree : FileTree) (cwd : Nat) (path : String) (mode now : Nat) :
    Except IoError FileTree := do
  let location ← match tree.locate cwd path false with
    | .error error =>
        if error = .notADirectory && (tree.locate cwd (String.ofList
            (path.toList.reverse.dropWhile (· = '/')).reverse) false).isOk then
          throw .fileExists
        else throw error
    | .ok location => pure location
  match location.node? with
  | some _ => throw .fileExists
  | none => return (tree.add location.directory location.name
      (.directory location.directory []) mode now).2

def make (tree : FileTree) (cwd : Nat) (path : String) (content : Content) (mode now : Nat) :
    Except IoError FileTree := do
  let location ← tree.locate cwd path false
  match location.node? with
  | some _ => throw .fileExists
  | none =>
      if location.slashed then throw .noSuchFile
      return (tree.add location.directory location.name content mode now).2

def makeLink (tree : FileTree) (cwd : Nat) (old new : String) (follow : Bool) (now : Nat) :
    Except IoError FileTree := do
  let index ← tree.find cwd old follow
  let location ← tree.locate cwd new false
  if location.node?.isSome then throw .fileExists
  if location.slashed then throw .noSuchFile
  if tree.isDirectoryNode index then throw .notPermitted
  return tree.bind location.directory location.name index now

def isIdleName (name : String) : Bool :=
  name = "" || name = "." || name = ".."

def remove (tree : FileTree) (cwd : Nat) (path : String) (now : Nat) :
    Except IoError FileTree := do
  let location ← tree.locate cwd path false
  match location.node? with
  | none => throw .noSuchFile
  | some index =>
      if tree.isDirectoryNode index then throw .isADirectory
      return tree.unbind location.directory location.name now

def isSlashedLink (tree : FileTree) (cwd : Nat) (path : String) : Bool :=
  isSlashed path &&
    match tree.walk false maxLinks (startOf cwd path) (steps path) with
    | .ok { node? := some index, .. } => (tree.nodes[index]?).any (·.isLink)
    | _ => false

def removeDirectory (tree : FileTree) (cwd : Nat) (path : String) (now : Nat) :
    Except IoError FileTree := do
  let names := steps path
  if tree.isSlashedLink cwd path then throw .notADirectory
  let location ← tree.locate cwd path false
  match location.node? with
  | none => throw .noSuchFile
  | some index =>
      if names.getLast? = some "." then throw .invalidArgument
      if names.getLast? = some ".." then throw .notEmpty
      if !tree.isDirectoryNode index then throw .notADirectory
      if location.name = "" then throw .busy
      if !(tree.entries index).isEmpty then throw .notEmpty
      return tree.unbind location.directory location.name now

def isAbove (tree : FileTree) (above : Nat) : (fuel : Nat) → Nat → Bool
  | 0, index => index = above
  | fuel + 1, index => index = above || (index ≠ 0 && isAbove tree above fuel (tree.parent index))

def rename (tree : FileTree) (cwd : Nat) (old new : String) (now : Nat) :
    Except IoError FileTree := do
  if tree.isSlashedLink cwd old then throw .notADirectory
  let source ← tree.locate cwd old false
  let target ← tree.locate cwd new false
  if isIdleName source.name || isIdleName target.name then throw .busy
  match source.node? with
  | none => throw .noSuchFile
  | some index =>
      let isDirectory := tree.isDirectoryNode index
      if !isDirectory && (source.slashed || target.slashed) then throw .notADirectory
      if isDirectory && tree.isAbove index tree.nodes.size target.directory then
        throw .invalidArgument
      match target.node? with
      | some other =>
          if other = index then return tree
          if isDirectory && !tree.isDirectoryNode other then throw .notADirectory
          if !isDirectory && tree.isDirectoryNode other then throw .isADirectory
          if !(tree.entries other).isEmpty then throw .notEmpty
      | none => pure ()
      let tree := (tree.unbind source.directory source.name now).bind target.directory target.name
        index now
      if isDirectory then
        return { nodes := tree.nodes.modify index fun node =>
          { node with content := .directory target.directory (tree.entries index) } }
      else return tree

def write (tree : FileTree) (cwd : Nat) (path : String) (bytes : ByteArray) (now : Nat) :
    Except IoError FileTree := do
  let location ← tree.locateForCreation cwd path
  match location.node? with
  | none => return (tree.add location.directory location.name (.file bytes) 0o644 now).2
  | some index =>
      match tree.content? index with
      | some (.directory _ _) => throw .isADirectory
      | some (.device .full) => if bytes.isEmpty then return tree else throw .noSpace
      | some (.device .terminal) => throw .noSuchDevice
      | some (.file _) => return tree.setContent index (.file bytes) now
      | some (.program _) => throw .fileBusy
      | _ => return tree

def read (tree : FileTree) (cwd : Nat) (path : String) : Except IoError ByteArray := do
  match (← tree.node cwd path).content with
  | .directory _ _ => throw .isADirectory
  | .device .terminal => throw .noSuchDevice
  | .file bytes => return bytes
  | _ => return .empty

/-- Makes a directory, and before it those above it that are missing. What was made stays, even
when the directory itself cannot be made. `fuel` is more than the number of components. -/
def makeDirectoriesFrom (cwd mode now : Nat) :
    (fuel : Nat) → FileTree → String → Except IoError Unit × FileTree
  | 0, tree, _ => (.error .noSuchFile, tree)
  | fuel + 1, tree, path =>
      if path.isEmpty then (.ok (), tree)
      else
        match tree.makeDirectory cwd path mode now with
        | .ok made => (.ok (), made)
        | .error error =>
            if error.kind = .notFound then
              match Path.parent? path with
              | none => (.error ⟨.other, "failed to create whole tree"⟩, tree)
              | some parent =>
                  match makeDirectoriesFrom cwd mode now fuel tree parent with
                  | (.error error, tree) => (.error error, tree)
                  | (.ok _, tree) =>
                      match tree.makeDirectory cwd path mode now with
                      | .ok made => (.ok (), made)
                      | .error error =>
                          if tree.isDirectory cwd path then (.ok (), tree) else (.error error, tree)
            else if tree.isDirectory cwd path then (.ok (), tree)
            else (.error error, tree)

def makeDirectories (tree : FileTree) (cwd : Nat) (path : String) (now : Nat) :
    Except IoError Unit × FileTree :=
  makeDirectoriesFrom cwd 0o755 now (Path.componentCount path + 2) tree path

/-! Trees by place. -/

def putDirectoriesBelow : FileTree → Nat → Place → Nat × FileTree
  | tree, index, [] => (index, tree)
  | tree, index, name :: rest =>
      match (tree.entries index).lookup name with
      | some below => putDirectoriesBelow tree below rest
      | none =>
          let (below, tree) := tree.add index name (.directory index []) 0o755 0
          putDirectoriesBelow tree below rest

def putDirectories (tree : FileTree) (place : Place) : FileTree :=
  (tree.putDirectoriesBelow 0 place).2

/-- Puts a node at a place, in the stead of what is there. A file that is there keeps its number. -/
def put (tree : FileTree) (place : Place) (content : Content) (mode : Nat) (now : Nat := 0) :
    FileTree :=
  let (directory, tree) := tree.putDirectoriesBelow 0 place.dropLast
  let name := place.getLast?.getD ""
  match (tree.entries directory).lookup name with
  | some index =>
      if tree.isDirectoryNode index then (tree.add directory name content mode now).2
      else (tree.setContent index content now).setMode index mode
  | none => (tree.add directory name content mode now).2

def at? (tree : FileTree) (place : Place) : Option Nat :=
  let next? (index? : Option Nat) (name : String) : Option Nat :=
    index?.bind fun index => (tree.entries index).lookup name
  place.foldl next? (some 0)

def names (tree : FileTree) (index : Nat) : List String :=
  ((tree.entries index).map (·.1)).mergeSort fun a b => decide (a ≤ b)

/-- All nodes below a directory with their places in it, each directory before what is in it.
Links stand for what they lead to. `fuel` bounds the depth. -/
def below (tree : FileTree) : (fuel : Nat) → Nat → List (Place × Content)
  | 0, _ => []
  | fuel + 1, index =>
      (tree.names index).flatMap fun name =>
        match tree.find index name with
        | .error _ => [([name], .file .empty)]
        | .ok node =>
            match tree.content? node with
            | some content =>
                ([name], content) :: match content with
                  | .directory _ _ =>
                      (below tree fuel node).map fun (place, content) => (name :: place, content)
                  | _ => []
            | none => []

end FileTree

end Bundler.Machine
