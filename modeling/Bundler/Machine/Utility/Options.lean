import Bundler.Machine.Utility.Work

/-! Options on the command lines of programs, by letter or by name. -/

namespace Bundler.Machine.Utility

inductive Arity
  | none
  | required
  | optional
  deriving DecidableEq, Repr

/-- An option that is known. It has a letter, a name or both. -/
structure Known where
  letter : String
  name : String := ""
  arity : Arity := .none
  deriving Repr

namespace Known

def key (known : Known) : String :=
  if known.letter.isEmpty then known.name else known.letter

end Known

def ofLetters : List Char → List Known
  | [] => []
  | c :: ':' :: rest => { letter := c.toString, arity := .required } :: ofLetters rest
  | c :: rest => { letter := c.toString } :: ofLetters rest

structure CommandLine where
  options : List (String × String) := []
  operands : List String := []

namespace CommandLine

def has (line : CommandLine) (key : String) : Bool :=
  line.options.any (·.1 = key)

def last? (line : CommandLine) (key : String) : Option String :=
  (line.options.reverse.find? (·.1 = key)).map (·.2)

def all (line : CommandLine) (key : String) : List String :=
  (line.options.filter (·.1 = key)).map (·.2)

def lastOf? (line : CommandLine) (keys : List String) : Option String :=
  (line.options.reverse.find? fun (key, _) => keys.contains key).map (·.1)

end CommandLine

def letterOptions (known : List Known) (status : Nat) :
    List Char → WorkM (List (String × String) × Option String)
  | [] => return ([], none)
  | c :: rest => do
      match known.find? (·.letter = c.toString) with
      | none => misuse ("invalid option -- '" ++ c.toString ++ "'") status
      | some option =>
          match option.arity, rest with
          | .none, rest => do
              let (found, open?) ← letterOptions known status rest
              return ((option.key, "") :: found, open?)
          | .optional, rest => return ([(option.key, String.ofList rest)], none)
          | .required, [] => return ([], some option.key)
          | .required, rest => return ([(option.key, String.ofList rest)], none)

def namedOption (known : List Known) (status : Nat) (text : String) :
    WorkM (List (String × String) × Option String) := do
  let name := String.ofList (text.toList.takeWhile (· ≠ '='))
  let argument? := if name.length < text.length then
      some (String.ofList (text.toList.drop (name.length + 1)))
    else none
  let named := known.filter (!·.name.isEmpty)
  let exact := named.filter (·.name = name)
  let fitting := if exact.isEmpty then
      named.filter fun option => name.toList.isPrefixOf option.name.toList
    else exact
  match fitting with
  | [] => misuse ("unrecognized option '--" ++ name ++
      (match argument? with
        | some argument => "=" ++ argument
        | none => "") ++ "'") status
  | option :: others =>
      if others.any (·.key ≠ option.key) then
        misuse ("option '--" ++ text ++ "' is ambiguous; possibilities:" ++
          String.join (fitting.map fun option => " '--" ++ option.name ++ "'")) status
      else
        match option.arity, argument? with
        | .none, some _ =>
            misuse ("option '--" ++ option.name ++ "' doesn't allow an argument") status
        | .required, none => return ([], some option.key)
        | _, argument? => return ([(option.key, argument?.getD "")], none)

/-- The options and operands among arguments. `mixed` tells that options may follow operands, and
`status` is that of a misuse. -/
def commandLine (known : List Known) (args : List String) (mixed : Bool := true)
    (status : Nat := 1) : WorkM CommandLine := do
  match args with
  | [] => return {}
  | "--" :: rest => return { operands := rest }
  | [arg] => do
      let (found, open?) ← one arg
      match found, open? with
      | none, _ => return { operands := [arg] }
      | some _, some key => do
          missing arg key
      | some options, none => return { options }
  | arg :: next :: rest => do
      let (found, open?) ← one arg
      match found, open? with
      | none, _ =>
          if mixed then
            let line ← commandLine known (next :: rest) mixed status
            return { line with operands := arg :: line.operands }
          else return { operands := arg :: next :: rest }
      | some options, some key => do
          let line ← commandLine known rest mixed status
          return { line with options := options ++ (key, next) :: line.options }
      | some options, none => do
          let line ← commandLine known (next :: rest) mixed status
          return { line with options := options ++ line.options }
where
  one (arg : String) : WorkM (Option (List (String × String)) × Option String) := do
    match arg.toList with
    | '-' :: '-' :: name => do
        let (options, open?) ← namedOption known status (String.ofList name)
        return (some options, open?)
    | '-' :: c :: rest => do
        let (options, open?) ← letterOptions known status (c :: rest)
        return (some options, open?)
    | _ => return (none, none)
  missing (arg key : String) : WorkM CommandLine :=
    if "--".toList.isPrefixOf arg.toList then
      misuse ("option '" ++ arg ++ "' requires an argument") status
    else misuse ("option requires an argument -- '" ++ key ++ "'") status

def someOperands (line : CommandLine) : WorkM (List String) := do
  if line.operands.isEmpty then misuse "missing operand" else return line.operands

def extraOperand (operand : String) (status : Nat := 1) : WorkM α :=
  misuse ("extra operand " ++ cited operand) status

end Bundler.Machine.Utility
