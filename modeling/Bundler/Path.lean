/-!
Path strings, read lexically: names separated by slashes, from the root when the first character
is a slash and from a working directory otherwise.
-/

namespace Bundler.Path

def isAbsolute (path : String) : Bool :=
  path.toList.head? == some '/'

def names (path : String) : List String :=
  (path.toList.splitOn '/').map String.ofList

/-- A directory of a tree without links, as the names from the root down to it. -/
abbrev Place := List String

def Place.step (place : Place) (name : String) : Place :=
  if name = "" ∨ name = "." then place
  else if name = ".." then place.dropLast
  else place ++ [name]

def Place.follow (place : Place) (names : List String) : Place :=
  names.foldl Place.step place

/-- The place a path leads to from a working directory. Nothing lies above the root. -/
def denote (cwd : Place) (path : String) : Place :=
  Place.follow (if isAbsolute path then [] else cwd) (names path)

/-- One path below another: a slash is put between them unless the first is empty or ends in one,
and an absolute second path stands alone. -/
def join (base path : String) : String :=
  if isAbsolute path then path
  else if base.isEmpty || base.toList.getLast? == some '/' then base ++ path
  else base ++ "/" ++ path

def isIdle (name : List Char) : Bool :=
  name == [] || name == ['.']

/-- A path without its root or leading dot, and that root or dot. A dot counts only in front. -/
def anchored (path : String) : String × List (List Char) :=
  match path.toList with
  | '/' :: rest => ("/", rest.splitOn '/')
  | ['.'] => (".", [])
  | '.' :: '/' :: rest => (".", [] :: rest.splitOn '/')
  | chars => ("", chars.splitOn '/')

/-- The path of the directory that holds the last component. The root and the empty path have
none. -/
def parent? (path : String) : Option String :=
  let (anchor, names) := anchored path
  match names.reverse.dropWhile isIdle with
  | _ :: above =>
      let kept := (above.dropWhile isIdle).reverse
      some (anchor ++ String.ofList (['/'].intercalate kept))
  | [] => if anchor == "." then some "" else none

/-- The directory a path lies in, unless that is written as the empty path. -/
def directory? (path : String) : Option String :=
  (parent? path).filter (!·.isEmpty)

/-- The number of components, where repeated slashes and inner dots do not count. -/
def componentCount (path : String) : Nat :=
  let (anchor, names) := anchored path
  (if anchor.isEmpty then 0 else 1) + (names.filter (!isIdle ·)).length

end Bundler.Path
