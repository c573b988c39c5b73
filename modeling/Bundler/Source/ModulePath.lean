import Bundler.Path

/-!
Paths of modules: how a specifier becomes a path, which spellings name the same module, and where
a module may lie.
-/

namespace Bundler.Source

def directoryPart (path : String) : String :=
  String.ofList (path.toList.reverse.dropWhile (· ≠ '/')).reverse

def filePart (path : String) : String :=
  String.ofList (path.toList.reverse.takeWhile (· ≠ '/')).reverse

def hasExtension (path : String) : Bool :=
  (filePart path).toList.contains '.'

def defaultExtension : String :=
  ".kooix"

/-- A path whose last component has a dot in it. -/
structure ModulePath where
  text : String
  extended : hasExtension text
  deriving DecidableEq

namespace ModulePath

instance : Repr ModulePath where
  reprPrec path := reprPrec path.text

theorem ext_iff_text {path other : ModulePath} : path = other ↔ path.text = other.text := by
  cases path
  cases other
  simp

theorem hasExtension_append_default (raw : String) :
    hasExtension (raw ++ defaultExtension) := by
  simp [hasExtension, filePart, defaultExtension, String.toList_append]

/-- A path without an extension gets the default one. -/
def ofRaw (raw : String) : ModulePath :=
  if h : hasExtension raw then ⟨raw, h⟩
  else ⟨raw ++ defaultExtension, hasExtension_append_default raw⟩

def baseDir (path : ModulePath) : String :=
  directoryPart path.text

/-- A specifier written in a module in the directory `base`, which is empty or ends in a slash. -/
def resolve (base specifier : String) : ModulePath :=
  if Path.isAbsolute specifier then ofRaw specifier else ofRaw (base ++ specifier)

/-- Reading one more name onto a normal path, last name first. A parent step takes back the name
before it; where there is none, it is kept, or dropped below the root. -/
def normalStep (absolute : Bool) (names : List String) (name : String) : List String :=
  if name = "" ∨ name = "." then names
  else if name = ".." then
    match names with
    | last :: above => if last ≠ ".." then above else if absolute then names else ".." :: names
    | [] => if absolute then [] else [".."]
  else name :: names

def normalNames (path : String) : List String :=
  ((Path.names path).foldl (normalStep (Path.isAbsolute path)) []).reverse

/-- The normal spelling of a path. Modules are told apart by it. -/
def key (path : ModulePath) : String :=
  (if Path.isAbsolute path.text then "/" else "") ++
    String.intercalate "/" (normalNames path.text)

def maxClimb : Nat :=
  8

def climb (levels : Nat) (path : String) : String :=
  String.join (List.replicate levels "../") ++ path

/-- Where a module is looked for: at its path, then at that path from each directory above. -/
def candidates (path : ModulePath) : List String :=
  (List.range (maxClimb + 1)).map (climb · path.text)

def marker (path : ModulePath) : String :=
  "// --- file: " ++ path.text ++ " ---\n"

end ModulePath

end Bundler.Source
