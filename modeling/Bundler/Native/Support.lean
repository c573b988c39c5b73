import Bundler.Path

/-! Where the support file that is linked into every executable may lie. -/

namespace Bundler.Native

structure SupportSearch where
  explicit : Option String := none
  builtin : Option String := none
  override : Option String := none
  root : Option String := none
  deriving DecidableEq, Repr

namespace SupportSearch

/-- Where the program is built, unless something else is said. -/
def usualOrigin : String :=
  "/usr/local/share/kooix"

def builtinLocation (origin : String := usualOrigin) : String :=
  Path.join (Path.join origin "native_runtime") "runtime.c"

def standard (origin : String := usualOrigin) : SupportSearch :=
  { builtin := some (builtinLocation origin) }

def only (path : String) : SupportSearch :=
  { explicit := some path }

def relativeLocations : List String :=
  ["native_runtime/runtime.c", "kooix-linker/native_runtime/runtime.c"]

def maxLevels : Nat :=
  8

def above (root : String) : Nat → String
  | 0 => root
  | level + 1 => Path.join (above root level) ".."

def candidates (search : SupportSearch) : List String :=
  match search.explicit with
  | some path => [path]
  | none =>
      search.builtin.toList ++ search.override.toList ++
        relativeLocations.flatMap fun location =>
          (List.range (maxLevels + 1)).map fun level =>
            Path.join (above (search.root.getD "") level) location

end SupportSearch

end Bundler.Native
