import Bundler.Source.Graph

/-!
The import tree of a graph: a listing from the entry downwards that expands each module where it
appears first.
-/

namespace Bundler.Source

inductive Mark
  | expanded
  | seen
  | cycle
  deriving DecidableEq, Repr

structure TreeLine where
  depth : Nat
  path : ModulePath
  mark : Mark
  deriving DecidableEq, Repr

namespace Mark

def text : Mark → String
  | expanded => ""
  | seen => " (seen)"
  | cycle => " (cycle)"

end Mark

namespace TreeLine

def text (line : TreeLine) : String :=
  String.join (List.replicate line.depth "  ") ++ line.path.text ++ line.mark.text ++ "\n"

end TreeLine

structure Listing where
  met : List String := []
  lines : List TreeLine := []

namespace Listing

def write (listing : Listing) (depth : Nat) (path : ModulePath) (mark : Mark) : Listing :=
  { listing with lines := ⟨depth, path, mark⟩ :: listing.lines }

/-- Lists a path below the modules whose keys are in `above`. A path with no module takes a line
but opens no level. Levels never outnumber `fuel`, which is more than the number of modules. -/
def visit (modules : List (String × Module)) :
    (fuel : Nat) → (above : List String) → Listing → ModulePath → Listing
  | 0, _, listing, _ => listing
  | fuel + 1, above, listing, path =>
      let key := path.key
      if above.contains key then listing.write above.length path .cycle
      else if listing.met.contains key then listing.write above.length path .seen
      else
        let entered := { listing with met := key :: listing.met }.write above.length path .expanded
        match modules.lookup key with
        | none => entered
        | some module =>
            module.imports.foldl
              (fun listing edge => visit modules fuel (key :: above) listing edge.target) entered

end Listing

namespace Graph

/-- The modules by key, the last one of a key in front. -/
def byKey (graph : Graph) : List (String × Module) :=
  graph.modules.reverse.map fun module => (module.key, module)

def treeLines (graph : Graph) : List TreeLine :=
  (Listing.visit graph.byKey (graph.size + 1) [] {} graph.entry).lines.reverse

def tree (graph : Graph) : String :=
  String.join (graph.treeLines.map (·.text))

end Graph

end Bundler.Source
