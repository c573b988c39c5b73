import Bundler.Source.ModulePath
import Bundler.Text.Utf8

/-!
A compilation unit: the texts of modules, each under a line that names it and followed by a blank
line, with a table of where each text lies.
-/

namespace Bundler.Source

/-- The bytes of a unit that are one module's text: from `start` up to, but without, `stop`. -/
structure Segment where
  path : ModulePath
  start : Nat
  stop : Nat
  deriving DecidableEq, Repr

/-- A place in a module's text. Lines and columns are counted from one. -/
structure Position where
  path : ModulePath
  line : Nat
  column : Nat
  deriving DecidableEq, Repr

namespace Position

def text (position : Position) : String :=
  position.path.text ++ ":" ++ toString position.line ++ ":" ++ toString position.column

end Position

structure CompilationUnit where
  text : String := ""
  segments : List Segment := []
  deriving DecidableEq, Repr

namespace CompilationUnit

def separator : String :=
  "\n\n"

def append (unit : CompilationUnit) (path : ModulePath) (text : String) : CompilationUnit :=
  let start := unit.text.utf8ByteSize + path.marker.utf8ByteSize
  { text := unit.text ++ path.marker ++ text ++ separator
    segments := unit.segments ++ [⟨path, start, start + text.utf8ByteSize⟩] }

def textOf (unit : CompilationUnit) (segment : Segment) : String :=
  match Text.sliceBack? unit.text segment.start segment.stop with
  | some back => String.ofList back.reverse
  | none => ""

/-- The segment a byte lies in. The lines that name modules and the blank ones lie in none. -/
def locate? (unit : CompilationUnit) (offset : Nat) : Option Segment :=
  unit.segments.find? fun segment => segment.start ≤ offset && offset < segment.stop

/-- Where a byte lies in its module's text, unless it lies inside a character. -/
def position? (unit : CompilationUnit) (offset : Nat) : Option Position := do
  let segment ← unit.locate? offset
  let back ← Text.sliceBack? unit.text segment.start offset
  return {
    path := segment.path
    line := back.count '\n' + 1
    column := (back.takeWhile (· ≠ '\n')).length + 1 }

end CompilationUnit

end Bundler.Source
