/-!
Command lines of options and operands. A level is what one command understands; the arguments are
read from left to right, and an option's value is checked when the next option or operand begins.
-/

namespace Bundler.Arguments

inductive UsageError
  | help
  | version
  | nothingGiven
  | missingCommand
  | unknownCommand
  | unknownArgument
  | invalidValue
  | notANumber
  | repeated
  | unwantedValue
  | missingArgument
  deriving DecidableEq, Repr

namespace UsageError

/-- Help and version were asked for, and are no failure. -/
def exitStatus : UsageError → Nat
  | help | version => 0
  | _ => 2

end UsageError

inductive Kind
  | help
  | version
  | flag
  | text
  | path
  | natural
  deriving DecidableEq, Repr

namespace Kind

def takesValue : Kind → Bool
  | help | version | flag => false
  | text | path | natural => true

/-- A natural number of 64 bits, with an optional plus sign. -/
def natural? (value : String) : Option UInt64 :=
  let digits := match value.toList with
    | '+' :: rest => rest
    | chars => chars
  if digits.isEmpty || !digits.all Char.isDigit then none
  else
    let n := digits.foldl (fun n c => n * 10 + (c.toNat - '0'.toNat)) 0
    if n < Nat.pow 2 64 then some (.ofNat n) else none

def check (kind : Kind) (value : String) : Except UsageError Unit :=
  match kind with
  | path => if value.isEmpty then .error .invalidValue else .ok ()
  | natural => if (natural? value).isNone then .error .notANumber else .ok ()
  | _ => .ok ()

end Kind

structure Argument where
  name : String
  short : Option Char := none
  kind : Kind
  takesDashes : Bool := false
  many : Bool := false
  deriving DecidableEq, Repr

structure Level where
  options : List Argument
  operands : List Argument := []
  trailing : Option Argument := none
  commands : List String := []
  deriving DecidableEq, Repr

namespace Level

def long? (level : Level) (name : String) : Option Argument :=
  level.options.find? (·.name == name)

def short? (level : Level) (c : Char) : Option Argument :=
  level.options.find? (·.short == some c)

end Level

/-- The arguments given, each with the values of one occurrence, in order. -/
abbrev Matches := List (String × List String)

namespace Matches

def has (found : Matches) (name : String) : Bool :=
  found.any (·.1 == name)

def values (found : Matches) (name : String) : List String :=
  found.flatMap fun (given, values) => if given = name then values else []

def value? (found : Matches) (name : String) : Option String :=
  (found.values name).head?

end Matches

structure Parse where
  found : Matches := []
  pending : Option (Argument × List String) := none
  awaiting : Bool := false
  pastDashes : Bool := false
  operands : Nat := 0
  deriving DecidableEq, Repr

namespace Parse

def accept (parse : Parse) (argument : Argument) (values : List String) :
    Except UsageError Parse := do
  match argument.kind with
  | .help => throw .help
  | .version => throw .version
  | kind =>
      if kind.takesValue && values.isEmpty then throw .invalidValue
      else if !argument.many && parse.found.has argument.name then throw .repeated
      else
        values.forM kind.check
        return { parse with found := parse.found ++ [(argument.name, values)] }

def settle (parse : Parse) : Except UsageError Parse :=
  match parse.pending with
  | none => .ok { parse with awaiting := false }
  | some (argument, values) =>
      { parse with pending := none, awaiting := false }.accept argument values

def occurrence (parse : Parse) (argument : Argument) (values : List String) :
    Except UsageError Parse := do
  (← parse.settle).accept argument values

def valued (parse : Parse) (argument : Argument) (attached? : Option String) :
    Except UsageError Parse := do
  match attached? with
  | some value => parse.occurrence argument [value]
  | none => return { ← parse.settle with pending := some (argument, []), awaiting := true }

def splitValue (chars : List Char) : String × Option String :=
  match chars.dropWhile (· ≠ '=') with
  | _ :: value => (String.ofList (chars.takeWhile (· ≠ '=')), some (String.ofList value))
  | [] => (String.ofList chars, none)

def long (level : Level) (parse : Parse) (chars : List Char) : Except UsageError Parse :=
  let (name, value?) := splitValue chars
  match level.long? name with
  | none => .error .unknownArgument
  | some argument =>
      if argument.kind.takesValue then parse.valued argument value?
      else if value?.isSome then .error .unwantedValue
      else parse.occurrence argument []

/-- Options in their short spelling behind one dash. The first that takes a value takes what is
left, without an equals sign before it. -/
def short (level : Level) (parse : Parse) : List Char → Except UsageError Parse
  | [] => .ok parse
  | c :: rest =>
      match level.short? c with
      | none => .error .unknownArgument
      | some argument =>
          if argument.kind.takesValue then
            parse.valued argument (match rest with
              | [] => none
              | '=' :: value => some (String.ofList value)
              | value => some (String.ofList value))
          else do short level (← parse.occurrence argument []) rest

def misplaced (level : Level) (parse : Parse) (word : String) : UsageError :=
  if level.commands.isEmpty then .unknownArgument
  else if parse.pastDashes && level.commands.contains word then .unknownArgument
  else .unknownCommand

def operand (level : Level) (parse : Parse) (word : String) : Except UsageError Parse :=
  match parse.pastDashes, level.trailing with
  | true, some argument =>
      match parse.pending with
      | some (pending, values) =>
          if pending = argument then
            .ok { parse with pending := some (argument, values ++ [word]) }
          else do return { ← parse.settle with pending := some (argument, [word]) }
      | none => .ok { parse with pending := some (argument, [word]), awaiting := false }
  | _, _ =>
      match level.operands[parse.operands]? with
      | some argument => do
          return { ← parse.settle with
            pending := some (argument, [word]), operands := parse.operands + 1 }
      | none => .error (parse.misplaced level word)

def supply (parse : Parse) (word : String) : Parse :=
  match parse.pending with
  | some (argument, values) =>
      { parse with pending := some (argument, values ++ [word]), awaiting := false }
  | none => { parse with awaiting := false }

def wantsDashes (parse : Parse) : Bool :=
  parse.awaiting && parse.pending.any (·.1.takesDashes)

/-- One word before a double dash that names no command. A dash alone is an operand. -/
def word (level : Level) (parse : Parse) (word : String) : Except UsageError Parse :=
  if parse.wantsDashes then .ok (parse.supply word)
  else
    match word.toList with
    | ['-', '-'] => .ok { parse with pastDashes := true }
    | '-' :: '-' :: chars => parse.long level chars
    | '-' :: c :: chars => parse.short level (c :: chars)
    | _ => if parse.awaiting then .ok (parse.supply word) else parse.operand level word

/-- Reads the words up to the end or up to a command, which is given with the words after it. -/
def words (level : Level) (parse : Parse) :
    List String → Except UsageError (Parse × Option (String × List String))
  | [] => .ok (parse, none)
  | first :: rest => do
      if parse.pastDashes then words level (← parse.operand level first) rest
      else if !parse.awaiting && level.commands.contains first then
        return (parse, some (first, rest))
      else words level (← parse.word level first) rest

end Parse

end Bundler.Arguments
