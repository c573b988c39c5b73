import Bundler.Arguments.Level
import Bundler.Session

/-! The commands of the program and what may be given to each. -/

namespace Bundler

open Arguments (Argument Level Matches Parse UsageError)

structure LinkRequest where
  code : String
  output : String
  flags : ToolchainFlags := {}
  run : Bool := false
  stdin : Option String := none
  args : List String := []
  deriving DecidableEq, Repr

inductive Command
  | flatten (entry output : Option String)
  | graph (entry : Option String) (json : Bool)
  | link (request : LinkRequest)
  deriving DecidableEq, Repr

structure Invocation where
  verbose : Bool := false
  manifest : Option String := none
  command : Command
  deriving DecidableEq, Repr

namespace Invocation

def verboseFlag : Argument :=
  { name := "verbose", short := some 'v', kind := .flag }

def manifestOption : Argument :=
  { name := "manifest", kind := .path }

def helpFlag : Argument :=
  { name := "help", short := some 'h', kind := .help }

def versionFlag : Argument :=
  { name := "version", short := some 'V', kind := .version }

def outputOption : Argument :=
  { name := "output", short := some 'o', kind := .path }

def commonOptions : List Argument :=
  [verboseFlag, manifestOption, helpFlag]

def programLevel : Level where
  options := versionFlag :: commonOptions
  commands := ["flatten", "graph", "link", "help"]

def flattenLevel : Level where
  options := outputOption :: commonOptions
  operands := [{ name := "entry", kind := .text }]

def graphLevel : Level where
  options := { name := "json", kind := .flag } :: commonOptions
  operands := [{ name := "entry", kind := .text }]

def linkLevel : Level where
  options :=
    outputOption ::
    { name := "runtime", kind := .path } ::
    { name := "translator", kind := .text } ::
    { name := "linker", kind := .text } ::
    { name := "link-arg", kind := .text, takesDashes := true, many := true } ::
    { name := "timeout-ms", kind := .natural } ::
    { name := "run", kind := .flag } ::
    { name := "stdin", kind := .text } :: commonOptions
  operands := [{ name := "ir", kind := .path }]
  trailing := some { name := "args", kind := .text, many := true }

def flattenCommand (found : Matches) : Except UsageError Command :=
  .ok (.flatten (found.value? "entry") (found.value? "output"))

def graphCommand (found : Matches) : Except UsageError Command :=
  .ok (.graph (found.value? "entry") (found.has "json"))

/-- What is fed to the program and its arguments are only wanted when it is run. -/
def linkCommand (found : Matches) : Except UsageError Command :=
  match found.value? "ir", found.value? "output" with
  | some code, some output =>
      if !found.has "run" && (found.has "stdin" || found.has "args") then .error .missingArgument
      else
        .ok (.link {
          code, output
          flags := {
            runtime := found.value? "runtime"
            translator := found.value? "translator"
            linker := found.value? "linker"
            linkArgs := found.values "link-arg"
            timeoutMs := (found.value? "timeout-ms").bind Arguments.Kind.natural? }
          run := found.has "run"
          stdin := found.value? "stdin"
          args := found.values "args" })
  | _, _ => .error .missingArgument

def commandOf (level : Level) (build : Matches → Except UsageError Command)
    (words : List String) : Except UsageError (Matches × Command) := do
  let (parse, _) ← Parse.words level {} words
  let parse ← parse.settle
  return (parse.found, ← build parse.found)

def helpOn (words : List String) : UsageError :=
  match words with
  | [] => .help
  | [command] => if programLevel.commands.contains command then .help else .unknownCommand
  | _ => .unknownCommand

/-- The invocation that the words after the program's name make up. What is given after a command
wins over what is given before it. -/
def parse (words : List String) : Except UsageError Invocation := do
  let (outer, command?) ← Parse.words programLevel {} words
  let inner? ← match command? with
    | none => pure none
    | some ("flatten", rest) => some <$> commandOf flattenLevel flattenCommand rest
    | some ("graph", rest) => some <$> commandOf graphLevel graphCommand rest
    | some ("link", rest) => some <$> commandOf linkLevel linkCommand rest
    | some (_, rest) => throw (helpOn rest)
  let outer ← outer.settle
  match inner? with
  | none => throw (if outer.found.isEmpty then .nothingGiven else .missingCommand)
  | some (inner, command) =>
      return {
        verbose := outer.found.has "verbose" || inner.has "verbose"
        manifest := (inner.value? "manifest").or (outer.found.value? "manifest")
        command }

end Invocation

end Bundler
