import Bundler.Machine.FileTree
import Bundler.Machine.Octets
import Bundler.Machine.Shell.Command
import Bundler.Machine.Shell.Pattern

/-!
What words are expanded to, before it is parted into fields: characters of which some stand for
themselves, and the regions in which fields are parted.
-/

namespace Bundler.Machine.Shell

inductive Cell
  | octet (c : Char)
  | escaped (c : Char)
  | quote
  | gap
  deriving DecidableEq, Repr

structure Region where
  start : Nat
  stop : Nat
  gapsOnly : Bool
  deriving DecidableEq, Repr

structure Expansion where
  cells : Array Cell := #[]
  regions : List Region := []

namespace Cell

def char? : Cell → Option Char
  | octet c | escaped c => some c
  | _ => none

def pattern : Cell → List Char
  | octet c => [c]
  | escaped c => ['\\', c]
  | _ => []

end Cell

def textOf (cells : List Cell) : List Char :=
  cells.filterMap Cell.char?

/-- The pattern that cells are. A backslash that is not escaped makes what follows stand for
itself. -/
def patternOf : List Cell → List Char
  | [] => []
  | .octet '\\' :: .escaped c :: rest => '\\' :: c :: patternOf rest
  | cell :: rest => cell.pattern ++ patternOf rest

namespace Expansion

def size (x : Expansion) : Nat :=
  x.cells.size

def push (x : Expansion) (cell : Cell) : Expansion :=
  { x with cells := x.cells.push cell }

def append (x : Expansion) (cells : List Cell) : Expansion :=
  { x with cells := x.cells ++ cells }

def record (x : Expansion) (start stop : Nat) (gapsOnly : Bool) : Expansion :=
  { x with regions := ⟨start, stop, gapsOnly⟩ :: x.regions }

def truncate (x : Expansion) (size : Nat) : Expansion :=
  { cells := x.cells.extract 0 size, regions := x.regions.filter (·.start < size) }

def since (x : Expansion) (start : Nat) : List Cell :=
  (x.cells.extract start x.cells.size).toList

def cellList (x : Expansion) : List Cell :=
  x.cells.toList

def text (x : Expansion) : String :=
  String.ofList (textOf (x.cellList.takeWhile (· ≠ .gap)))

end Expansion

structure Parting where
  start : Nat := 0
  afterBlank : Bool := false
  gapsOnly : Bool := false
  left? : Option Nat := none
  cut? : Option Nat := none
  fields : List (List Cell) := []

namespace Parting

def slice (x : Expansion) (start stop : Nat) : List Cell :=
  (x.cells.extract start stop).toList

def step (x : Expansion) (separators : List Char) (gapsOnly afterGaps : Bool) (parting : Parting)
    (index : Nat) : Parting :=
  let cell := x.cells[index]?.getD .gap
  let isGap := cell = .gap
  let separates := isGap ||
    (!gapsOnly && match cell.char? with
      | some c => separators.contains c
      | none => false)
  let blank := separates && (isGap || match cell.char? with
    | some c => c == ' ' || c == '\t' || c == '\n'
    | none => false)
  if parting.left? = some 0 then
    if blank then { parting with cut? := parting.cut?.or (some index) }
    else
      { parting with
        cut? := if separates && parting.afterBlank then parting.cut? else none
        afterBlank := false }
  else
    let passed := parting.afterBlank
    let parting := if passed then
        { parting with start := if separates then index + 1 else index }
      else parting
    if passed && blank then parting
    else
      let parts := separates && !passed
      let parting := { parting with afterBlank := false }
      if !parts then parting
      else
        let blankNow := blank && !(afterGaps || gapsOnly)
        if index = parting.start && blankNow then { parting with start := index + 1 }
        else if parting.left? = some 1 then
          { parting with left? := some 0, cut? := some index, afterBlank := blankNow }
        else
          { parting with
            left? := parting.left?.map (· - 1)
            fields := slice x parting.start index :: parting.fields
            start := index + 1
            afterBlank := blankNow }

def region (x : Expansion) (separators : List Char) (parting : Parting) (region : Region) :
    Parting :=
  let afterGaps := parting.gapsOnly
  let parting := { parting with gapsOnly := region.gapsOnly, afterBlank := false }
  (List.range' region.start (region.stop - region.start)).foldl
    (step x separators region.gapsOnly afterGaps) parting

end Parting

/-- The fields of an expansion. When they are limited in number the last one takes all that is
left. -/
def fields (x : Expansion) (separators : List Char) (limit? : Option Nat) : List (List Cell) :=
  let parting := x.regions.reverse.foldl (Parting.region x separators) { left? := limit? }
  let stop := parting.cut?.getD x.size
  if parting.start < stop || parting.gapsOnly then
    (Parting.slice x parting.start stop :: parting.fields).reverse
  else parting.fields.reverse

namespace Pattern

def isPattern : (fuel : Nat) → List Char → Bool
  | 0, _ => false
  | fuel + 1, chars =>
      match chars with
      | '*' :: _ | '?' :: _ => true
      | '[' :: rest =>
          let inside := match rest with
            | '!' :: rest => rest
            | rest => rest
          closes fuel true inside || isPattern fuel rest
      | '\\' :: _ :: rest => isPattern fuel rest
      | _ :: rest => isPattern fuel rest
      | [] => false
where
  closes : (fuel : Nat) → (first : Bool) → List Char → Bool
    | 0, _, _ => false
    | fuel + 1, first, chars =>
        match chars with
        | '\\' :: _ :: rest => closes fuel false rest
        | ']' :: rest => !first || closes fuel false rest
        | _ :: rest => closes fuel false rest
        | [] => false

def components : (fuel : Nat) → List Char → List (List Char × List Char)
  | 0, _ => []
  | _ + 1, [] => []
  | fuel + 1, chars =>
      let name := component chars
      let rest := chars.drop name.length
      let slash := match rest with
        | '\\' :: '/' :: _ => ['\\', '/']
        | '/' :: _ => ['/']
        | _ => []
      (name, slash) :: components fuel (rest.drop slash.length)
where
  component : List Char → List Char
    | [] => []
    | '/' :: _ => []
    | '\\' :: '/' :: _ => []
    | '\\' :: c :: rest => '\\' :: c :: component rest
    | c :: rest => c :: component rest

def namesIn (tree : FileTree) (index : Nat) : List String :=
  "." :: ".." :: (tree.entries index).map fun (name, _) => Octets.ofText name

def paths (tree : FileTree) (cwd : Nat) : List (List Char × List Char) → String → List String
  | [], _ => []
  | (name, slash) :: rest, before =>
      let asPath := Octets.toText (if before = "" then "." else before)
      if isPattern (name.length + 1) name then
        match tree.find cwd asPath with
        | .error _ => []
        | .ok index =>
            if !tree.isDirectoryNode index then []
            else
              let hidden := match name with
                | '.' :: _ | '\\' :: '.' :: _ => true
                | _ => false
              let fitting := (namesIn tree index).filter fun other =>
                (hidden || other.toList.head? ≠ some '.') && fits name other.toList
              fitting.flatMap fun other =>
                match slash, rest with
                | [], _ => [before ++ other]
                | _, [] => reached tree cwd (before ++ other ++ "/")
                | _, rest => paths tree cwd rest (before ++ other ++ "/")
      else
        let path := before ++ String.ofList (unescaped (name ++ slash))
        match rest with
        | [] => reached tree cwd path
        | rest => paths tree cwd rest path
where
  reached (tree : FileTree) (cwd : Nat) (path : String) : List String :=
    match tree.locate cwd (Octets.toText path) false with
    | .ok { node? := some _, .. } => [path]
    | _ => []

def expand (tree : FileTree) (cwd : Nat) (pattern : List Char) : List String :=
  let parts := components (pattern.length + 1) pattern
  if parts.any fun (name, _) => isPattern (name.length + 1) name then
    (paths tree cwd parts "").mergeSort fun a b => decide (a ≤ b)
  else []

end Pattern

end Bundler.Machine.Shell
