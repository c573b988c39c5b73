import Bundler.Machine.Regex.Parser

/-! The commands of a stream editor, and the lines that they are for. -/

namespace Bundler.Machine.Utility.Edit

abbrev Pattern := Option (Regex × Bool × Bool)

inductive Address
  | line (number : Nat)
  | step (first step : Nat)
  | last
  | fitting (pattern : Pattern)
  | plus (count : Nat)
  | multiple (factor : Nat)

structure Selection where
  start? : Option Address := none
  stop? : Option Address := none
  negated : Bool := false

inductive Case
  | upper
  | lower
  | upperNext
  | lowerNext
  | plain
  deriving DecidableEq, Repr

inductive Piece
  | text (chars : List Char)
  | group (number : Nat)
  | case (case : Case)
  deriving DecidableEq, Repr

structure Substitution where
  pattern : Pattern
  pieces : List Piece
  everywhere : Bool := false
  number : Nat := 1
  prints : Bool := false
  output? : Option String := none

inductive Action
  | enter (behind : Nat)
  | nothing
  | label (name : String)
  | jump (name : String)
  | jumpIfReplaced (name : String)
  | jumpUnlessReplaced (name : String)
  | append (text : List Char)
  | insert (text : List Char)
  | change (text : List Char)
  | delete
  | deleteFirst
  | showName
  | take
  | takeMore
  | keep
  | keepMore
  | exchange
  | list (width? : Option Nat)
  | next
  | nextMore
  | print
  | printFirst
  | quit (status : Nat)
  | quitSilently (status : Nat)
  | readFile (path : String)
  | readLine (path : String)
  | write (path : String)
  | writeFirst (path : String)
  | substitute (substitution : Substitution)
  | translate (pairs : List (Char × Char))
  | number
  | clear

structure Command where
  selection : Selection
  action : Action

end Bundler.Machine.Utility.Edit
