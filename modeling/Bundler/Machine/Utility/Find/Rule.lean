import Bundler.Machine.Regex.Parser
import Bundler.Machine.Shell.Pattern
import Bundler.Machine.Utility.Listing

/-! What files are looked for, and what is done with them, as it is written on a command line. -/

namespace Bundler.Machine.Utility.Find

structure Visit where
  path : String
  start : String
  depth : Nat
  entry : Directory.Entry
  view : View

inductive Rule
  | check (test : Visit → Bool)
  | both (first second : Rule)
  | either (first second : Rule)
  | inTurn (first second : Rule)
  | negation (rule : Rule)
  | print (ending : String)
  | printAs (format : String)
  | list
  | run (words : List String) (asks : Bool)
  | runMany (number : Nat) (words : List String)
  | delete
  | leaveOut
  | quit

namespace Rule

def acts : Rule → Bool
  | check _ | leaveOut | quit => false
  | both first second | either first second | inTurn first second => first.acts || second.acts
  | negation rule => rule.acts
  | _ => true

end Rule

structure Settings where
  least : Nat := 0
  most? : Option Nat := none
  late : Bool := false
  follows : Bool := false
  followsGiven : Bool := false

structure Reading where
  rest : List String
  settings : Settings := {}
  before : String := ""
  commands : Nat := 0
  extended : Bool := false

abbrev ReadM := StateT Reading WorkM

inductive Comparison
  | less
  | equal
  | more
  deriving DecidableEq, Repr

def Comparison.holds : Comparison → Nat → Nat → Bool
  | less, n, bound => n < bound
  | equal, n, bound => n = bound
  | more, n, bound => bound < n

def comparison? (text : String) : Option (Comparison × Nat × List Char) :=
  let (how, chars) := match text.toList with
    | '+' :: rest => (Comparison.more, rest)
    | '-' :: rest => (Comparison.less, rest)
    | chars => (.equal, chars)
  let digits := chars.takeWhile Char.isDigit
  if digits.isEmpty then none
  else (String.ofList digits).toNat?.map fun n => (how, n, chars.drop digits.length)

def argument (option : String) : ReadM String := do
  match (← get).rest with
  | [] => die ("missing argument to `" ++ option ++ "'")
  | word :: rest => do
      modify fun reading => { reading with rest, before := word }
      return word

def globTest (pattern : String) (folds : Bool) (text : Visit → String) : Visit → Bool :=
  let lowered (text : String) : String := if folds then text.toLower else text
  fun visit => Shell.Pattern.fits (lowered pattern).toList (lowered (text visit)).toList

def nameOf (path : String) : String :=
  if path.toList.all (· = '/') && !path.isEmpty then "/" else lastName path

def kindTest (option argument : String) (follow : Bool) : WorkM (Visit → Bool) := do
  let letters := argument.splitOn ","
  for letter in letters do
    unless ["f", "d", "l", "p", "c", "b", "s", "D"].contains letter do
      die ("Unknown argument to " ++ option ++ ": " ++
        String.ofList (argument.toList.take 1))
  return fun visit =>
    let status := if follow then
        match visit.view.status visit.path with
        | .ok status => status
        | .error _ => visit.entry.status
      else visit.entry.status
    let letter := match kindLetter status.kind with
      | "-" => "f"
      | letter => letter
    letters.contains letter

def sizeTest (argument : String) : WorkM (Visit → Bool) := do
  match comparison? argument with
  | none => die ("invalid -size type `" ++ argument ++ "'")
  | some (how, n, unit) =>
      let size? : Option Nat := match unit with
        | [] | ['b'] => some 512
        | ['c'] => some 1
        | ['w'] => some 2
        | ['k'] => some 1024
        | ['M'] => some (1024 * 1024)
        | ['G'] => some (1024 * 1024 * 1024)
        | _ => none
      match size? with
      | none => die ("invalid -size type `" ++ String.ofList unit ++ "'")
      | some size => return fun visit => how.holds ((visit.entry.status.size + size - 1) / size) n

def permissionTest (argument : String) : WorkM (Visit → Bool) := do
  let (how, text) := match argument.toList with
    | '-' :: rest => ('-', rest)
    | '/' :: rest => ('/', rest)
    | text => ('=', text)
  match Permissions.applied? (String.ofList text) 0 false 0 with
  | none => die ("invalid mode " ++ quoted argument)
  | some bits =>
      return fun visit =>
        let mode := visit.entry.status.mode
        match how with
        | '-' => mode &&& bits = bits
        | '/' => bits = 0 || mode &&& bits ≠ 0
        | _ => mode = bits

def ageTest (option argument : String) (unit : Nat) : WorkM (Visit → Bool) := do
  match comparison? argument with
  | some (how, n, []) =>
      return fun visit => how.holds ((visit.view.now - visit.entry.status.modified) / unit) n
  | _ => die ("invalid argument `" ++ argument ++ "' to `" ++ option ++ "'")

def countTest (option argument : String) (count : Visit → Nat) : WorkM (Visit → Bool) := do
  match comparison? argument with
  | some (how, n, []) => return fun visit => how.holds (count visit) n
  | _ => die ("invalid argument `" ++ argument ++ "' to `" ++ option ++ "'")

def isEmpty (visit : Visit) : Bool :=
  match visit.entry.status.kind, visit.entry.status.index? with
  | .file, _ => visit.entry.status.size = 0
  | .directory, some index => (visit.view.tree.entries index).isEmpty
  | _, _ => false

def levels (option argument : String) : WorkM Nat := do
  match digits? argument with
  | some n => return n
  | none =>
      die ("Expected a positive decimal integer argument to " ++ option ++ ", but got " ++
        quoted argument)

def commandWords (option : String) : (fuel : Nat) → List String → ReadM (List String × Bool)
  | 0, _ => die ("missing argument to `" ++ option ++ "'")
  | fuel + 1, words => do
      let word ← argument option
      if word = ";" then
        if words.isEmpty then die ("missing argument to `" ++ option ++ "'")
        return (words.reverse, false)
      else if word = "+" && words.head? = some "\x7b\x7d" && 1 < words.length then
        return (words.tail.reverse, true)
      else commandWords option fuel (word :: words)

def always : Rule :=
  .check fun _ => true

def reference (path : String) : ReadM FileStatus := do
  match (← request .view).status path (← get).settings.follows with
  | .ok status => return status
  | .error error => die (quoted path ++ ": " ++ reason error)

def simple (option : String) : ReadM Rule := do
  let change (update : Settings → Settings) : ReadM Rule := do
    modify fun reading => { reading with settings := update reading.settings }
    return always
  match option with
  | "-name" => return .check (globTest (← argument option) false fun visit => nameOf visit.path)
  | "-iname" => return .check (globTest (← argument option) true fun visit => nameOf visit.path)
  | "-path" | "-wholename" => return .check (globTest (← argument option) false (·.path))
  | "-ipath" | "-iwholename" => return .check (globTest (← argument option) true (·.path))
  | "-lname" =>
      return .check (globTest (← argument option) false fun visit => visit.entry.target?.getD "")
  | "-type" => return .check (← kindTest option (← argument option) false)
  | "-xtype" => return .check (← kindTest option (← argument option) true)
  | "-size" => return .check (← sizeTest (← argument option))
  | "-perm" => return .check (← permissionTest (← argument option))
  | "-mtime" | "-ctime" | "-atime" =>
      return .check (← ageTest option (← argument option) (86400 * billion))
  | "-mmin" | "-cmin" | "-amin" =>
      return .check (← ageTest option (← argument option) (60 * billion))
  | "-links" => return .check (← countTest option (← argument option) (·.entry.links))
  | "-inum" =>
      return .check (← countTest option (← argument option) fun visit =>
        (visit.entry.status.index?.getD 0) + 2)
  | "-uid" | "-gid" => return .check (← countTest option (← argument option) fun _ => 0)
  | "-newer" | "-anewer" | "-cnewer" => do
      let status ← reference (← argument option)
      return .check fun visit => status.modified < visit.entry.status.modified
  | "-samefile" => do
      let status ← reference (← argument option)
      return .check fun visit => visit.entry.status.identity = status.identity
  | "-user" | "-group" => do
      let name ← argument option
      if name ≠ "root" && name ≠ "0" then
        if (digits? name).isNone then
          die (quoted name ++ " is not the name of " ++
            (if option = "-user" then "a known user" else "an existing group"))
        else return .check fun _ => false
      else return always
  | "-nouser" | "-nogroup" | "-false" => return .check fun _ => false
  | "-true" | "-noleaf" | "-xdev" | "-mount" | "-warn" | "-nowarn" | "-readable" | "-writable"
  | "-daystart" | "-ignore_readdir_race" => return always
  | "-executable" =>
      return .check fun visit =>
        visit.entry.status.kind = .directory || visit.entry.status.mode &&& 0o111 ≠ 0
  | "-empty" => return .check isEmpty
  | "-regextype" => do
      let type ← argument option
      modify fun reading =>
        { reading with extended := ["posix-extended", "egrep", "posix-egrep", "awk"].contains type }
      return always
  | "-regex" | "-iregex" => do
      let text ← argument option
      match Regex.parse { extended := (← get).extended, lenient := true } text.toList with
      | .error defect => die ("failed to compile regular expression '" ++ text ++ "': " ++
          defect.message)
      | .ok regex =>
          return .check fun visit =>
            let subject : Regex.Subject :=
              { text := visit.path.toList.toArray, folds := option = "-iregex" }
            (regex.fits subject { place := 0 }).any (·.place = subject.text.size)
  | "-maxdepth" => do
      let most ← levels option (← argument option)
      change fun settings => { settings with most? := some most }
  | "-mindepth" => do
      let least ← levels option (← argument option)
      change fun settings => { settings with least }
  | "-depth" | "-d" => change fun settings => { settings with late := true }
  | "-follow" => change fun settings => { settings with follows := true }
  | "-print" => return .print "\n"
  | "-print0" => return .print "\x00"
  | "-printf" => return .printAs (← argument option)
  | "-ls" => return .list
  | "-prune" => return .leaveOut
  | "-quit" => return .quit
  | "-delete" => do
      let _ ← change fun settings => { settings with late := true }
      return .delete
  | "-exec" | "-execdir" | "-ok" | "-okdir" => do
      let (words, many) ← commandWords option ((← get).rest.length + 1) []
      if many then
        let number := (← get).commands
        modify fun reading => { reading with commands := number + 1 }
        return .runMany number words
      else return .run words (option = "-ok" || option = "-okdir")
  | option => die ("unknown predicate `" ++ option ++ "'")

def isOption (word : String) : Bool :=
  match word.toList with
  | '-' :: _ :: _ => true
  | _ => false

def lastOption (before : String) : String :=
  if ["\x7b\x7d", "+", ";"].contains before then "-exec" else before

mutual

def inTurns (fuel : Nat) : ReadM Rule :=
  match fuel with
  | 0 => return always
  | fuel + 1 => do
      let first ← alternatives fuel
      match (← get).rest with
      | "," :: rest => do
          modify fun reading => { reading with rest, before := "," }
          return .inTurn first (← inTurns fuel)
      | _ => return first

def alternatives (fuel : Nat) : ReadM Rule :=
  match fuel with
  | 0 => return always
  | fuel + 1 => do
      let first ← sequence fuel
      match (← get).rest with
      | "-o" :: rest | "-or" :: rest => do
          modify fun reading => { reading with rest, before := "-o" }
          return .either first (← alternatives fuel)
      | _ => return first

def sequence (fuel : Nat) : ReadM Rule :=
  match fuel with
  | 0 => return always
  | fuel + 1 => do
      let first ← operand fuel
      match (← get).rest with
      | "-a" :: rest | "-and" :: rest => do
          modify fun reading => { reading with rest, before := "-a" }
          return .both first (← sequence fuel)
      | [] | "," :: _ | "-o" :: _ | "-or" :: _ | ")" :: _ => return first
      | _ => return .both first (← sequence fuel)

def operand (fuel : Nat) : ReadM Rule :=
  match fuel with
  | 0 => return always
  | fuel + 1 => do
      let reading ← get
      match reading.rest with
      | [] => die ("expected an expression after " ++ quoted reading.before)
      | word :: rest => do
          let isBinary := ["-a", "-and", "-o", "-or", ","].contains word
          if isBinary then
            die ("invalid expression; you have used a binary operator " ++ quoted word ++
              " with nothing before it.")
          else if word = ")" then
            die (if reading.before = "(" then
                "invalid expression; empty parentheses are not allowed."
              else "you have too many ')'")
          modify fun reading => { reading with rest, before := word }
          if word = "!" || word = "-not" then return .negation (← operand fuel)
          else if word = "(" then
            let rule ← inTurns fuel
            match (← get).rest with
            | ")" :: rest => do
                modify fun reading => { reading with rest, before := ")" }
                return rule
            | _ =>
                die ("invalid expression; I was expecting to find a ')' somewhere but did not " ++
                  "see one.")
          else if isOption word then simple word
          else
            complain ("paths must precede expression: `" ++ word ++ "'")
            if (← request .view).has word (fun _ => true) then
              complain ("possible unquoted pattern after predicate `" ++
                lastOption reading.before ++ "'?")
            throw 1

end

end Bundler.Machine.Utility.Find
