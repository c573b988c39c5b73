/-!
The changes that lead from one sequence to another. The middle of a shortest way is found by
searching from both ends, and the parts before and behind it are treated in the same way.
-/

namespace Bundler.Machine.Utility.Difference

structure Change where
  place : Nat
  deleted : Nat
  goal : Nat
  inserted : Nat
  deriving DecidableEq, Repr

structure Window where
  left : Int
  right : Int
  top : Int
  bottom : Int
  deriving Repr

/-- How far a search came on each diagonal. Diagonals from `-shift` on are kept. -/
structure Reach where
  shift : Int
  places : Array Int

namespace Reach

def get (reach : Reach) (diagonal : Int) : Int :=
  reach.places.getD (diagonal + reach.shift).toNat 0

def set (reach : Reach) (diagonal place : Int) : Reach :=
  { reach with places := reach.places.setIfInBounds (diagonal + reach.shift).toNat place }

end Reach

/-- One side of a search: how far it came on the diagonals between two limits. -/
structure Front where
  reach : Reach
  low : Int
  high : Int

variable (same : Int → Int → Bool)

def slideForward (window : Window) : (fuel : Nat) → Int → Int → Int × Int
  | 0, x, y => (x, y)
  | fuel + 1, x, y =>
      if x < window.right && y < window.bottom && same x y then
        slideForward window fuel (x + 1) (y + 1)
      else (x, y)

def slideBackward (window : Window) : (fuel : Nat) → Int → Int → Int × Int
  | 0, x, y => (x, y)
  | fuel + 1, x, y =>
      if window.left < x && window.top < y && same (x - 1) (y - 1) then
        slideBackward window fuel (x - 1) (y - 1)
      else (x, y)

def Window.fuel (window : Window) : Nat :=
  (window.right - window.left).toNat + (window.bottom - window.top).toNat + 2

/-- Widens a front by a diagonal on each side, or narrows it where the window ends. New diagonals
start from a place that no other can be behind. -/
def Front.widened (front : Front) (window : Window) (unreached : Int) : Front :=
  let lowest := window.left - window.bottom
  let highest := window.right - window.top
  let front := if lowest < front.low then
      { front with low := front.low - 1, reach := front.reach.set (front.low - 2) unreached }
    else { front with low := front.low + 1 }
  if front.high < highest then
    { front with high := front.high + 1, reach := front.reach.set (front.high + 2) unreached }
  else { front with high := front.high - 1 }

def advance (window : Window) (odd : Bool) (other : Front) :
    (fuel : Nat) → Front → (diagonal : Int) → Front × Option (Int × Int)
  | 0, front, _ => (front, none)
  | fuel + 1, front, diagonal =>
      if diagonal < front.low then (front, none)
      else
        let below := front.reach.get (diagonal - 1)
        let above := front.reach.get (diagonal + 1)
        let start := if below < above then above else below + 1
        let (x, y) := slideForward same window window.fuel start (start - diagonal)
        let front := { front with reach := front.reach.set diagonal x }
        if odd && other.low ≤ diagonal && diagonal ≤ other.high &&
            other.reach.get diagonal ≤ x then (front, some (x, y))
        else advance window odd other fuel front (diagonal - 2)

def retreat (window : Window) (odd : Bool) (other : Front) :
    (fuel : Nat) → Front → (diagonal : Int) → Front × Option (Int × Int)
  | 0, front, _ => (front, none)
  | fuel + 1, front, diagonal =>
      if diagonal < front.low then (front, none)
      else
        let below := front.reach.get (diagonal - 1)
        let above := front.reach.get (diagonal + 1)
        let start := if below < above then below else above - 1
        let (x, y) := slideBackward same window window.fuel start (start - diagonal)
        let front := { front with reach := front.reach.set diagonal x }
        if !odd && other.low ≤ diagonal && diagonal ≤ other.high &&
            x ≤ other.reach.get diagonal then (front, some (x, y))
        else retreat window odd other fuel front (diagonal - 2)

def middle (window : Window) : Int × Int :=
  let shift := window.bottom + 2
  let size := (window.right + window.bottom + 5).toNat
  let start := window.left - window.top
  let stop := window.right - window.bottom
  let front (diagonal place : Int) : Front :=
    { reach := (Reach.mk shift (Array.replicate size 0)).set diagonal place
      low := diagonal
      high := diagonal }
  search window ((start - stop) % 2 = 1) window.fuel (front start window.left)
    (front stop window.right)
where
  search (window : Window) (odd : Bool) : (fuel : Nat) → Front → Front → Int × Int
    | 0, _, _ => (window.right, window.bottom)
    | fuel + 1, forward, backward =>
        let forward := forward.widened window (-1)
        match advance same window odd backward window.fuel forward forward.high with
        | (_, some place) => place
        | (forward, none) =>
            let backward := backward.widened window (window.right + window.bottom + 1)
            match retreat same window odd forward window.fuel backward backward.high with
            | (_, some place) => place
            | (backward, none) => search window odd fuel forward backward

structure Marks where
  first : Array Bool
  second : Array Bool

def marked (marks : Array Bool) (start stop : Int) : Array Bool :=
  (List.range' start.toNat (stop - start).toNat).foldl (fun marks i => marks.setIfInBounds i true)
    marks

/-- Marks what is not kept in a window. `fuel` is more than its size. -/
def mark : (fuel : Nat) → Window → Marks → Marks
  | 0, _, marks => marks
  | fuel + 1, window, marks =>
      let (left, top) := slideForward same window window.fuel window.left window.top
      let window := { window with left, top }
      let (right, bottom) := slideBackward same window window.fuel window.right window.bottom
      let window := { window with right, bottom }
      if left = right then { marks with second := marked marks.second top bottom }
      else if top = bottom then { marks with first := marked marks.first left right }
      else
        let (x, y) := middle same window
        mark fuel { window with left := x, top := y }
          (mark fuel { window with right := x, bottom := y } marks)

/-- The marks of two sequences of keys. Elements that the other one does not have are set aside. -/
def marksOf (first second : Array Nat) : Marks :=
  let kept (xs ys : Array Nat) : Array Nat :=
    ((List.range xs.size).filter fun i => ys.contains (xs.getD i 0)).toArray
  let lefts := kept first second
  let rights := kept second first
  let same (x y : Int) : Bool :=
    first.getD (lefts.getD x.toNat 0) 0 == second.getD (rights.getD y.toNat 0) 0
  let inner := mark same (lefts.size + rights.size + 1)
    { left := 0, right := lefts.size, top := 0, bottom := rights.size }
    { first := Array.replicate lefts.size false, second := Array.replicate rights.size false }
  let outer (size : Nat) (kept : Array Nat) (marks : Array Bool) : Array Bool :=
    kept.toList.zipIdx.foldl (fun all (place, i) => all.setIfInBounds place (marks.getD i false))
      (Array.replicate size true)
  { first := outer first.size lefts inner.first, second := outer second.size rights inner.second }

/-! Runs of changes are moved as far down as they can be, so that they meet others or changes of the
other side. -/

structure Run where
  changed : Array Bool
  start : Nat
  stop : Nat
  across : Nat

def unmarkedFrom (marks : Array Bool) : (fuel : Nat) → Nat → Nat
  | 0, i => i
  | fuel + 1, i => if marks.getD i false then unmarkedFrom marks fuel (i + 1) else i

def unmarkedAbove (marks : Array Bool) : (fuel : Nat) → Nat → Nat
  | 0, i => i
  | fuel + 1, i =>
      if 0 < i && marks.getD (i - 1) false then unmarkedAbove marks fuel (i - 1) else i

def unmarkedBefore (marks : Array Bool) : (fuel : Nat) → Nat → Nat
  | 0, i => i
  | fuel + 1, i =>
      if 0 < i && marks.getD (i - 1) false then unmarkedBefore marks fuel (i - 1) else i - 1

namespace Run

variable (keys : Array Nat) (others : Array Bool)

def raised : (fuel : Nat) → Run → Run
  | 0, run => run
  | fuel + 1, run =>
      if 0 < run.start && keys.getD (run.start - 1) 0 == keys.getD (run.stop - 1) 0 then
        let changed := (run.changed.setIfInBounds (run.start - 1) true).setIfInBounds
          (run.stop - 1) false
        raised fuel
          { changed
            start := unmarkedAbove changed (keys.size + 1) (run.start - 1)
            stop := run.stop - 1
            across := unmarkedBefore others (others.size + 1) run.across }
      else run

/-- Moves the run down while the element below is the same as its first one. Gives also the last
place where it goes with a change of the other side. -/
def lowered : (fuel : Nat) → Run × Nat → Run × Nat
  | 0, state => state
  | fuel + 1, (run, corresponding) =>
      if run.stop < keys.size && keys.getD run.start 0 == keys.getD run.stop 0 then
        let changed := (run.changed.setIfInBounds run.start false).setIfInBounds run.stop true
        let stop := unmarkedFrom changed (keys.size + 1) (run.stop + 1)
        let across := unmarkedFrom others (others.size + 1) (run.across + 1)
        lowered fuel
          ({ changed, start := run.start + 1, stop, across },
            if across = run.across + 1 then corresponding else stop)
      else (run, corresponding)

def restored (corresponding : Nat) : (fuel : Nat) → Run → Run
  | 0, run => run
  | fuel + 1, run =>
      if corresponding < run.stop && 0 < run.start then
        restored corresponding fuel
          { changed := (run.changed.setIfInBounds (run.start - 1) true).setIfInBounds
              (run.stop - 1) false
            start := run.start - 1
            stop := run.stop - 1
            across := unmarkedBefore others (others.size + 1) run.across }
      else run

def settled : (fuel : Nat) → Run → Run × Nat
  | 0, run => (run, keys.size)
  | fuel + 1, run =>
      let size := run.stop - run.start
      let up := run.raised keys others (keys.size + 1)
      let corresponding := if 0 < up.across && others.getD (up.across - 1) false then up.stop
        else keys.size
      let (down, corresponding) := lowered keys others (keys.size + 1) (up, corresponding)
      if down.stop - down.start = size then (down, corresponding)
      else settled fuel down

end Run

def moveRuns (keys : Array Nat) (others : Array Bool) :
    (fuel : Nat) → (changed : Array Bool) → (place across : Nat) → Array Bool
  | 0, changed, _, _ => changed
  | fuel + 1, changed, place, across =>
      if keys.size ≤ place then changed
      else if !(changed.getD place false) then
        moveRuns keys others fuel changed (place + 1)
          (unmarkedFrom others (others.size + 1) across + 1)
      else
        let run : Run :=
          { changed
            start := place
            stop := unmarkedFrom changed (keys.size + 1) place
            across := unmarkedFrom others (others.size + 1) across }
        let (run, corresponding) := run.settled keys others (keys.size + 1)
        let run := run.restored others corresponding (keys.size + 1)
        moveRuns keys others fuel run.changed run.stop run.across

def changesFrom (marks : Marks) : (fuel : Nat) → (place goal : Nat) → List Change
  | 0, _, _ => []
  | fuel + 1, place, goal =>
      if marks.first.size ≤ place && marks.second.size ≤ goal then []
      else
        let stop := unmarkedFrom marks.first (marks.first.size + 1) place
        let goalStop := unmarkedFrom marks.second (marks.second.size + 1) goal
        let rest := changesFrom marks fuel (stop + 1) (goalStop + 1)
        if stop = place && goalStop = goal then rest
        else ⟨place, stop - place, goal, goalStop - goal⟩ :: rest

def changes (first second : Array Nat) : List Change :=
  let marks := marksOf first second
  let fuel := first.size + second.size + 1
  let marks := { marks with first := moveRuns first marks.second fuel marks.first 0 0 }
  let marks := { marks with second := moveRuns second marks.first fuel marks.second 0 0 }
  changesFrom marks fuel 0 0

end Bundler.Machine.Utility.Difference
