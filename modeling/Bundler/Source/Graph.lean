import Bundler.Source.ModulePath

/-! The graph of the modules of a load. -/

namespace Bundler.Source

structure Import where
  specifier : String
  target : ModulePath
  deriving DecidableEq, Repr

structure Module where
  path : ModulePath
  location : String
  imports : List Import
  deriving DecidableEq, Repr

/-- An import of a module whose own imports are still being followed. -/
structure Cycle where
  importer : ModulePath
  target : ModulePath
  deriving DecidableEq, Repr

structure Graph where
  entry : ModulePath
  modules : List Module
  cycles : List Cycle
  deriving DecidableEq, Repr

namespace Module

def key (module : Module) : String :=
  module.path.key

end Module

namespace Graph

def size (graph : Graph) : Nat :=
  graph.modules.length

def isEmpty (graph : Graph) : Bool :=
  graph.modules.isEmpty

def hasCycles (graph : Graph) : Bool :=
  !graph.cycles.isEmpty

def node? (graph : Graph) (path : String) : Option Module :=
  let key := (ModulePath.ofRaw path).key
  graph.modules.find? (·.key == key)

end Graph

end Bundler.Source
