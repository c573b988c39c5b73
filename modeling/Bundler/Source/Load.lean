import Bundler.Source.Graph
import Bundler.Source.Imports
import Bundler.Source.Reader
import Bundler.Source.Unit

/-!
Loading an entry module with all it imports. The imports of a module are loaded in order before
its own text is put into the unit, and a module that was met before, in whichever spelling, is not
loaded again.
-/

namespace Bundler.Source

open Text (Decoded)

inductive Event
  | read (path : ModulePath) (candidate : String) (result : Except IoError Decoded)
  | opened (path : ModulePath)
  | cycle (importer target : ModulePath)
  | repeated (path : ModulePath)
  | finished (count : Nat) (entry : ModulePath)

namespace Event

def records : Event → List Record
  | read path candidate result => readRecords path candidate result
  | opened path => [⟨.debug, "kooix_loader::flatten", "loading " ++ path.text⟩]
  | cycle importer target =>
      [⟨.debug, "kooix_loader::flatten",
        "import cycle: " ++ importer.text ++ " -> " ++ target.text⟩]
  | repeated path => [⟨.debug, "kooix_loader::flatten", path.text ++ " already loaded"⟩]
  | finished count entry =>
      [⟨.debug, "kooix_loader::flatten",
        "flattened " ++ toString count ++ " module(s) from " ++ entry.text⟩]

def asked? : Event → Option String
  | read _ candidate _ => some candidate
  | _ => none

end Event

structure Traversal where
  visited : List String := []
  /-- The keys of the modules whose imports are being followed, innermost first. -/
  loading : List String := []
  unit : CompilationUnit := {}
  modules : List Module := []
  cycles : List Cycle := []
  events : List Event := []

namespace Traversal

def note (state : Traversal) (events : List Event) : Traversal :=
  { state with events := state.events ++ events }

def revisit (state : Traversal) (importer? : Option ModulePath) (path : ModulePath) : Traversal :=
  match importer? with
  | some importer =>
      if state.loading.contains path.key then
        let cycle : Cycle := ⟨importer, path⟩
        { state with cycles := state.cycles ++ [cycle] }.note [.cycle importer path]
      else state.note [.repeated path]
  | none => state.note [.repeated path]

def enter (state : Traversal) (path : ModulePath)
    (reads : List (String × Except IoError Decoded)) : Traversal :=
  { state with visited := path.key :: state.visited }.note
    (reads.map fun (candidate, result) => .read path candidate result)

def begin (state : Traversal) (path : ModulePath) : Traversal :=
  { state with loading := path.key :: state.loading }.note [.opened path]

def close (state : Traversal) (path : ModulePath) (source : Located) (imports : List Import) :
    Traversal :=
  { state with
    loading := state.loading.tail
    unit := state.unit.append path source.text
    modules := state.modules ++ [⟨path, source.location, imports⟩] }

end Traversal

def importsOf (path : ModulePath) (text : String) : List Import :=
  (imports text).map fun specifier => ⟨specifier, .resolve path.baseDir specifier⟩

abbrev LoadM := EStateM LoadError Traversal

/-- Loads a path with at most `depth` modules open below each other. -/
def visit (reader : Reader) (depth : Nat) (importer? : Option ModulePath) (path : ModulePath) :
    LoadM PUnit := do
  let state ← get
  if state.visited.contains path.key then
    set (state.revisit importer? path)
  else
    match depth with
    | 0 => throw (.tooDeep path)
    | depth + 1 =>
        let reads := reader.probe path.candidates
        set (state.enter path reads)
        match conclude path reads with
        | .error error => throw error
        | .ok source =>
            modify (·.begin path)
            let imports := importsOf path source.text
            imports.forM fun edge => visit reader depth (some path) edge.target
            modify (·.close path source imports)

structure Loaded where
  unit : CompilationUnit
  graph : Graph
  deriving DecidableEq, Repr

structure LoadRun where
  result : Except LoadError Loaded
  events : List Event

namespace LoadRun

def records (run : LoadRun) : List Record :=
  run.events.flatMap Event.records

def asked (run : LoadRun) : List String :=
  run.events.filterMap Event.asked?

def combined (run : LoadRun) : Except LoadError String :=
  run.result.map (·.unit.text)

end LoadRun

def load (reader : Reader) (depth : Nat) (entry : String) : LoadRun :=
  if entry.isEmpty then ⟨.error .emptyEntry, []⟩
  else
    let path := ModulePath.ofRaw entry
    match (visit reader depth none path).run {} with
    | .error error state => ⟨.error error, state.events⟩
    | .ok _ state =>
        ⟨.ok ⟨state.unit, ⟨path, state.modules, state.cycles⟩⟩,
          (state.note [.finished state.modules.length path]).events⟩

/-- A depth that no load needs more than when only `readable` path strings can be read: each of
them is a candidate of at most nine paths. -/
def sufficientDepth (readable : Nat) : Nat :=
  (ModulePath.maxClimb + 1) * readable + 1

end Bundler.Source
