/-!
Regular expressions over octets, and where they fit in a text: at the first place, and as far as
they can there.
-/

namespace Bundler.Machine

inductive Anchor
  | lineStart
  | lineEnd
  | textStart
  | textEnd
  | wordStart
  | wordEnd
  | wordEdge
  | noWordEdge
  deriving DecidableEq, Repr

inductive Regex
  | empty
  | set (test : Char → Bool)
  | anchor (kind : Anchor)
  | seq (first second : Regex)
  | alt (first second : Regex)
  | rep (body : Regex) (least : Nat) (most : Option Nat)
  | group (number : Nat) (body : Regex)
  | again (number : Nat)

namespace Regex

structure Subject where
  text : Array Char
  folds : Bool := false
  lines : Bool := false
  starts : Bool := true
  ends : Bool := true

structure Fit where
  place : Nat
  groups : List (Nat × Nat × Nat) := []
  deriving DecidableEq, Repr

def isWord (c : Char) : Bool :=
  c.isAlphanum || c = '_'

namespace Subject

def wordBefore (subject : Subject) (place : Nat) : Bool :=
  place ≠ 0 && (subject.text[place - 1]?).any isWord

def wordAfter (subject : Subject) (place : Nat) : Bool :=
  (subject.text[place]?).any isWord

def holds (subject : Subject) (place : Nat) : Anchor → Bool
  | .lineStart =>
      (place = 0 && subject.starts) ||
        (subject.lines && place ≠ 0 && subject.text[place - 1]? = some '\n')
  | .lineEnd =>
      (place = subject.text.size && subject.ends) ||
        (subject.lines && subject.text[place]? = some '\n')
  | .textStart => place = 0
  | .textEnd => place = subject.text.size
  | .wordStart => !subject.wordBefore place && subject.wordAfter place
  | .wordEnd => subject.wordBefore place && !subject.wordAfter place
  | .wordEdge => subject.wordBefore place != subject.wordAfter place
  | .noWordEdge => subject.wordBefore place == subject.wordAfter place

def admits (subject : Subject) (test : Char → Bool) (c : Char) : Bool :=
  test c || (subject.folds && (test c.toLower || test c.toUpper))

def part (subject : Subject) (start stop : Nat) : List Char :=
  (subject.text.extract start stop).toList

end Subject

def distinct (fits : List Fit) : List Fit :=
  (fits.foldl (fun (kept, places) fit =>
    if places.contains fit.place then (kept, places) else (fit :: kept, fit.place :: places))
    (([] : List Fit), ([] : List Nat))).1.reverse

/-- All that any number of steps lead to, the farthest first. Each step must go on, and no place is
visited twice. `fuel` is more than the number of places. -/
def closure (step : Fit → List Fit) : (fuel : Nat) → (visited : List Nat) → Fit →
    List Fit × List Nat
  | 0, visited, fit => ([fit], visited)
  | fuel + 1, visited, fit =>
      let (found, visited) := (step fit).foldl (fun (found, visited) next =>
        if visited.contains next.place then (found, visited)
        else
          let (more, visited) := closure step fuel visited next
          (found ++ more, visited)) (([] : List Fit), fit.place :: visited)
      (found ++ [fit], visited)

def upTo (step : Fit → List Fit) : (most : Nat) → Fit → List Fit
  | 0, fit => [fit]
  | most + 1, fit =>
      distinct (((step fit).filter (·.place ≠ fit.place)).flatMap (upTo step most) ++ [fit])

def exactly (step : Fit → List Fit) : (count : Nat) → Fit → List Fit
  | 0, fit => [fit]
  | count + 1, fit => distinct ((step fit).flatMap (exactly step count))

def fits (subject : Subject) : Regex → Fit → List Fit
  | empty, fit => [fit]
  | set test, fit =>
      match subject.text[fit.place]? with
      | some c => if subject.admits test c then [{ fit with place := fit.place + 1 }] else []
      | none => []
  | anchor kind, fit => if subject.holds fit.place kind then [fit] else []
  | seq first second, fit => distinct ((fits subject first fit).flatMap (fits subject second))
  | alt first second, fit => distinct (fits subject first fit ++ fits subject second fit)
  | rep body least most, fit =>
      let starts := exactly (fits subject body) least fit
      distinct (starts.flatMap fun start =>
        match most with
        | some most => upTo (fits subject body) (most - least) start
        | none => (closure (fits subject body) (subject.text.size + 1) [] start).1)
  | group number body, fit =>
      (fits subject body fit).map fun found =>
        { found with groups := (number, fit.place, found.place) :: found.groups }
  | again number, fit =>
      match fit.groups.lookup number with
      | none => []
      | some (start, stop) =>
          let size := stop - start
          let same := (List.range size).all fun offset =>
            match subject.text[start + offset]?, subject.text[fit.place + offset]? with
            | some a, some b => a = b || (subject.folds && a.toLower = b.toLower)
            | _, _ => false
          if same then [{ fit with place := fit.place + size }] else []

def fitAt? (regex : Regex) (subject : Subject) (place : Nat) : Option Fit :=
  match regex.fits subject { place } with
  | [] => none
  | first :: rest =>
      some (rest.foldl (fun best fit => if best.place < fit.place then fit else best) first)

/-- The first place from some place on at which an expression fits, and how. `fuel` is more than the
number of places left. -/
def findFrom (regex : Regex) (subject : Subject) :
    (fuel : Nat) → (place : Nat) → Option (Nat × Fit)
  | 0, _ => none
  | fuel + 1, place =>
      if subject.text.size < place then none
      else
        match regex.fitAt? subject place with
        | some fit => some (place, fit)
        | none => findFrom regex subject fuel (place + 1)

def find? (regex : Regex) (subject : Subject) (place : Nat) : Option (Nat × Fit) :=
  regex.findFrom subject (subject.text.size + 1 - place) place

def groupCount : Regex → Nat
  | seq first second | alt first second => max first.groupCount second.groupCount
  | rep body _ _ => body.groupCount
  | group number body => max number body.groupCount
  | _ => 0

def char (c : Char) : Regex :=
  set (· = c)

def literal : List Char → Regex
  | [] => empty
  | [c] => char c
  | c :: rest => seq (char c) (literal rest)

end Regex

end Bundler.Machine
