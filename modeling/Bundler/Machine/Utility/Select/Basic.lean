import Bundler.Machine.Regex.Parser
import Bundler.Machine.Utility.Work

/-!
What it means that a line fits patterns, and what is written about the lines of a file that do.
-/

namespace Bundler.Machine.Utility.Select

structure Matcher where
  regex? : Option Regex
  folds : Bool := false
  words : Bool := false
  whole : Bool := false

namespace Matcher

def end? (matcher : Matcher) (subject : Regex.Subject) (place : Nat) : Option Nat :=
  match matcher.regex? with
  | none => none
  | some regex =>
      let ends := (regex.fits subject { place }).map (·.place)
      if matcher.whole then
        if place = 0 then ends.find? (· = subject.text.size) else none
      else if matcher.words then
        let isApart (stop : Nat) : Bool := !subject.wordBefore place && !subject.wordAfter stop
        match ends.max? with
        | none => none
        | some longest =>
            if isApart longest then some longest
            else (ends.filter fun stop => place < stop && isApart stop).max?
      else ends.max?

/-- The first part from some place on that fits. `fuel` is more than the number of places left. -/
def findFrom (matcher : Matcher) (subject : Regex.Subject) :
    (fuel : Nat) → (place : Nat) → Option (Nat × Nat)
  | 0, _ => none
  | fuel + 1, place =>
      if subject.text.size < place then none
      else
        match matcher.end? subject place with
        | some stop => some (place, stop)
        | none => findFrom matcher subject fuel (place + 1)

def subject (matcher : Matcher) (line : List Char) : Regex.Subject :=
  { text := line.toArray, folds := matcher.folds }

def fits (matcher : Matcher) (line : List Char) : Bool :=
  let subject := matcher.subject line
  (matcher.findFrom subject (subject.text.size + 1) 0).isSome

/-- The parts from some place on that fit and are not empty. `fuel` is more than the number of
places left. -/
def partsFrom (matcher : Matcher) (subject : Regex.Subject) :
    (fuel : Nat) → (place : Nat) → List (Nat × Nat)
  | 0, _ => []
  | fuel + 1, place =>
      match matcher.findFrom subject (subject.text.size + 1 - place) place with
      | none => []
      | some (start, stop) =>
          if start = stop then partsFrom matcher subject fuel (start + 1)
          else (start, stop) :: partsFrom matcher subject fuel stop

def parts (matcher : Matcher) (line : List Char) : List (Nat × Nat) :=
  let subject := matcher.subject line
  matcher.partsFrom subject (subject.text.size + 1) 0

end Matcher

inductive Report
  | lines
  | count
  | name (selected : Bool)
  | nothing
  deriving DecidableEq, Repr

inductive Binaries
  | told
  | asText
  | skipped
  deriving DecidableEq, Repr

structure Options where
  report : Report := .lines
  inverted : Bool := false
  partsOnly : Bool := false
  showsNumbers : Bool := false
  showsOffsets : Bool := false
  tabs : Bool := false
  zeros : Bool := false
  mark : Char := '\n'
  most? : Option Nat := none
  before : Nat := 0
  after : Nat := 0
  separator? : Option String := none
  silent : Bool := false
  binaries : Binaries := .told
  colored : Bool := false
  flushes : Bool := false

structure Line where
  number : Nat
  offset : Nat
  text : List Char

structure Progress where
  number : Nat := 0
  offset : Nat := 0
  selected : Nat := 0
  before : List Line := []
  after : Nat := 0
  written? : Option Nat := none
  wrote : Bool := false
  binary : Bool := false
  since : Nat := 0

def painted (options : Options) (code text : String) : String :=
  if options.colored && !text.isEmpty then
    "\x1b[" ++ code ++ "m\x1b[K" ++ text ++ "\x1b[m\x1b[K"
  else text

def sign (options : Options) (text : String) : String :=
  painted options "36" text

def front (options : Options) (name? : Option String) (line : Line) (offset : Nat)
    (isEmpty : Bool) (mark : String) : String :=
  let name := match name? with
    | none => ""
    | some name =>
      painted options "35" name ++ (if options.zeros then "\x00" else sign options mark)
  let counted (shows : Bool) (n : Nat) : String :=
    if shows then painted options "32" (toString n) ++ sign options mark else ""
  let front := name ++ counted options.showsNumbers line.number ++
    counted options.showsOffsets offset
  if options.tabs && !front.isEmpty && !isEmpty then front ++ "\t" else front

def writeLine (options : Options) (matcher : Matcher) (name? : Option String) (line : Line)
    (isSelected : Bool) : WorkM Unit := do
  let mark := if isSelected then ":" else "-"
  let fitting := isSelected != options.inverted
  let part (start stop : Nat) : List Char := (line.text.drop start).take (stop - start)
  if options.partsOnly then
    if fitting then
      for (start, stop) in matcher.parts line.text do
        emit (front options name? line (line.offset + start) false mark)
        emit (painted options "01;31" (String.ofList (part start stop)))
        emit options.mark.toString
  else
    emit (front options name? line line.offset line.text.isEmpty mark)
    if options.colored && fitting then
      let place ← (matcher.parts line.text).foldlM (fun place (start, stop) => do
        emitChars (part place start)
        emit (painted options "01;31" (String.ofList (part start stop)))
        pure stop) 0
      emitChars (line.text.drop place)
    else emitChars line.text
    emit options.mark.toString
  if options.flushes then flush

def writeWith (options : Options) (matcher : Matcher) (name? : Option String)
    (progress : Progress) (line : Line) (isSelected : Bool) : WorkM Progress := do
  let lines := progress.before.reverse
  let first := (lines.head?.map (·.number)).getD line.number
  match options.separator? with
  | some separator =>
      if progress.wrote && progress.written? ≠ some (first - 1) then
        emit (sign options separator ++ "\n")
  | none => pure ()
  for earlier in lines do writeLine options matcher name? earlier false
  writeLine options matcher name? line isSelected
  return { progress with before := [], written? := some line.number, wrote := true }

/-- Selects a line or not, and writes it if it is to be written. Tells whether to go on. -/
def step (options : Options) (matcher : Matcher) (name? : Option String)
    (progress : Progress) (text : List Char) : WorkM (Progress × Bool) := do
  let line : Line := ⟨progress.number + 1, progress.offset, text⟩
  let size := text.length + 1
  let progress := { progress with number := line.number, offset := line.offset + size }
  let isFull (progress : Progress) : Bool := options.most?.any (· ≤ progress.selected)
  let selects := !isFull progress && matcher.fits text != options.inverted
  if selects then
    let progress := { progress with selected := progress.selected + 1, since := 0 }
    match options.report with
    | .nothing => throw 0
    | .name _ => return (progress, false)
    | .count => return (progress, !isFull progress)
    | .lines =>
        if progress.binary then return (progress, false)
        let progress ← writeWith options matcher name? progress line true
        return ({ progress with after := options.after }, !isFull progress || options.after ≠ 0)
  else
    let progress := { progress with since := progress.since + size }
    if options.report = .lines && progress.after ≠ 0 && !progress.binary then
      let progress ← writeWith options matcher name? progress line false
      let progress := { progress with after := progress.after - 1 }
      return (progress, !isFull progress || progress.after ≠ 0)
    else
      let before := if options.before = 0 then [] else (line :: progress.before).take options.before
      return ({ progress with before }, !isFull progress)

def steps (options : Options) (matcher : Matcher) (name? : Option String) :
    Progress → List (List Char) → WorkM (Progress × Bool)
  | progress, [] => return (progress, true)
  | progress, text :: rest => do
      let (progress, more) ← step options matcher name? progress text
      if more then steps options matcher name? progress rest else return (progress, false)

def isBinary (options : Options) (bytes : ByteArray) : Bool :=
  options.binaries ≠ .asText && options.mark = '\n' &&
    (findByte bytes 0 (bytes.size + 1) 0).isSome

def readThrough (options : Options) (matcher : Matcher) (name? : Option String)
    (descriptor : Nat) : (fuel : Nat) → Progress → WorkM (Except IoError Progress)
  | 0, progress => return .ok progress
  | fuel + 1, progress => do
      match ← readLine descriptor (UInt8.ofNat options.mark.toNat) with
      | .error error => return .error error
      | .ok none => return .ok progress
      | .ok (some bytes) => do
          request (.pass pieceTime)
          let work ← get
          let ahead := if progress.offset = 0 then work.input else .empty
          let binary := progress.binary || isBinary options ahead || isBinary options bytes
          let progress := { progress with binary }
          if binary && options.binaries = .skipped then return .ok { progress with selected := 0 }
          let text := Octets.ofBytes bytes
          let texts := if binary then text.splitOn '\x00' else [text]
          let (progress, more) ← steps options matcher name? progress texts
          if more then readThrough options matcher name? descriptor fuel progress
          else return .ok progress

end Bundler.Machine.Utility.Select
