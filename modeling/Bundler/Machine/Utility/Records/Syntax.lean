import Bundler.Machine.Double

/-!
Programs that treat a text as records of fields: patterns with actions, and functions that these
call.
-/

namespace Bundler.Machine.Utility.Records

/-- A variable: one of the whole program by its number, or one of a function by its place among its
parameters. -/
inductive Name
  | global (number : Nat)
  | parameter (place : Nat)
  deriving DecidableEq, Repr

inductive Builtin
  | length
  | substr
  | index
  | split
  | find
  | substitute
  | substituteAll
  | format
  | sin
  | cos
  | atan2
  | exp
  | log
  | sqrt
  | truncate
  | random
  | seed
  | lower
  | upper
  | system
  | close
  | flush
  | now
  | timeText
  | instant
  deriving DecidableEq, Repr

inductive BinaryOp
  | add
  | sub
  | mul
  | div
  | mod
  | pow
  deriving DecidableEq, Repr

inductive Relation
  | equal
  | unequal
  | less
  | lessOrEqual
  | greater
  | greaterOrEqual
  deriving DecidableEq, Repr

inductive Expr
  | number (value : Double)
  | text (chars : String)
  | regex (source : String)
  | named (name : Name)
  | field (index : Expr)
  | element (table : Name) (keys : List Expr)
  | assign (target value : Expr)
  | update (op : BinaryOp) (target value : Expr)
  | step (up before : Bool) (target : Expr)
  | binary (op : BinaryOp) (left right : Expr)
  | relation (op : Relation) (left right : Expr)
  | concat (left right : Expr)
  | fits (negated : Bool) (left right : Expr)
  | both (left right : Expr)
  | either (left right : Expr)
  | negation (operand : Expr)
  | minus (operand : Expr)
  | plus (operand : Expr)
  | choice (test yes no : Expr)
  | isIn (keys : List Expr) (table : Name)
  | enclosed (inside : Expr)
  | group (items : List Expr)
  | builtin (function : Builtin) (args : List Expr)
  | call (function : String) (args : List Expr)
  | nextRecord (target? : Option Expr)
  | recordOfFile (path : Expr) (target? : Option Expr)
  | recordOfCommand (command : Expr) (target? : Option Expr)
  deriving Inhabited

inductive Direction
  | file
  | appended
  | command
  deriving DecidableEq, Repr

inductive Statement
  | nothing
  | expr (value : Expr)
  | print (formatted : Bool) (args : List Expr) (goal? : Option (Direction × Expr))
  | block (body : List Statement)
  | cond (test : Expr) (yes : Statement) (no? : Option Statement)
  | loop (test : Expr) (body : Statement)
  | loopOnce (body : Statement) (test : Expr)
  | count (start : Statement) (test? : Option Expr) (step : Statement) (body : Statement)
  | each (target : Expr) (table : Name) (body : Statement)
  | delete (table : Name) (keys : List Expr)
  | clear (table : Name)
  | next
  | nextFile
  | leave (status? : Option Expr)
  | give (value? : Option Expr)
  | stop
  | goOn
  deriving Inhabited

inductive Pattern
  | always
  | holds (test : Expr)
  | range (first last : Expr)

/-- A pattern and its action; without one the record is printed. -/
structure Rule where
  pattern : Pattern
  action? : Option Statement

structure Function where
  name : String
  parameters : Nat
  body : Statement

structure Program where
  starts : List Statement := []
  rules : List Rule := []
  ends : List Statement := []
  functions : List Function := []
  globals : Array (String × Bool) := #[]

/-! Variables with a meaning of their own, by their numbers. -/

namespace Special

def fieldCount : Nat := 0
def recordNumber : Nat := 1
def fileRecordNumber : Nat := 2
def fieldSeparator : Nat := 3
def outputFieldSeparator : Nat := 4
def outputRecordSeparator : Nat := 5
def recordSeparator : Nat := 6
def fileName : Nat := 7
def subscriptSeparator : Nat := 8
def matchStart : Nat := 9
def matchLength : Nat := 10
def conversionFormat : Nat := 11
def outputFormat : Nat := 12
def environment : Nat := 13
def argumentCount : Nat := 14
def arguments : Nat := 15

end Special

def specialNames : List (String × Bool) :=
  [("NF", false), ("NR", false), ("FNR", false), ("FS", false), ("OFS", false), ("ORS", false),
    ("RS", false), ("FILENAME", false), ("SUBSEP", false), ("RSTART", false), ("RLENGTH", false),
    ("CONVFMT", false), ("OFMT", false), ("ENVIRON", true), ("ARGC", false), ("ARGV", true)]

end Bundler.Machine.Utility.Records
