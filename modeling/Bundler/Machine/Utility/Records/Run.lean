import Bundler.Machine.Utility.Records.Eval

/-! The program `awk`: the rules of a program, applied to the records of files. -/

namespace Bundler.Machine.Utility.Records

inductive Ending
  | done
  | next
  | nextFile
  | left
  deriving DecidableEq, Repr

def ending (act : RunM Unit) : RunM Ending :=
  tryCatch (do
    act
    return .done) fun
    | .next => return .next
    | .nextFile => return .nextFile
    | .leave => return .left
    | _ => return .done

def evalFuel : Nat :=
  Act.endless

def holds (test : Expr) : RunM Bool :=
  return (← eval evalFuel test).isTrue

def act (rule : Rule) : RunM Unit := do
  match rule.action? with
  | some action => exec evalFuel action
  | none => putLine .standard []

def applyRule (index : Nat) (rule : Rule) : RunM Unit := do
  match rule.pattern with
  | .always => act rule
  | .holds test => if ← holds test then act rule
  | .range first last => do
      let isOpen := (← get).ranges.getD index false
      if isOpen || (← holds first) then
        let closes ← holds last
        modify fun session =>
          { session with ranges := session.ranges.setIfInBounds index (!closes) }
        act rule

def applyRules : (fuel : Nat) → RunM Ending
  | 0 => return .done
  | fuel + 1 => do
      match ← nextRecord Act.endless with
      | none => return .done
      | some record => do
          setRecord record
          request (.pass pieceTime)
          let rules := (← get).program.rules
          match ← ending (rules.zipIdx.forM fun (rule, index) => applyRule index rule) with
          | .left => return .left
          | .nextFile => do
              closeMain
              applyRules fuel
          | _ => applyRules fuel

/-- Runs a whole program: its starts, its rules and its ends. -/
def runProgram : RunM Unit := do
  let program := (← get).program
  let start ← ending (program.starts.forM (exec evalFuel))
  let readsInput := !program.rules.isEmpty || !program.ends.isEmpty
  if start ≠ .left && readsInput then
    let _ ← applyRules Act.endless
  let _ ← ending (program.ends.forM (exec evalFuel))
  closeAll

def initial (program : Program) (args : List String) (environment : List (String × String)) :
    Session :=
  let values : List (Nat × Value) :=
    [(Special.fieldCount, .ofNat 0), (Special.recordNumber, .ofNat 0),
      (Special.fileRecordNumber, .ofNat 0), (Special.fieldSeparator, .text " "),
      (Special.outputFieldSeparator, .text " "), (Special.outputRecordSeparator, .text "\n"),
      (Special.recordSeparator, .text "\n"), (Special.fileName, .text ""),
      (Special.subscriptSeparator, .text "\x1c"), (Special.matchStart, .ofNat 0),
      (Special.matchLength, .number (.ofInt (-1))), (Special.conversionFormat, .text "%.6g"),
      (Special.outputFormat, .text "%.6g"), (Special.argumentCount, .ofNat args.length)]
  let globals := values.foldl (fun globals (number, value) =>
    globals.setIfInBounds number value) (Array.replicate program.globals.size Value.unset)
  let tables : Array Table := Array.replicate program.globals.size {}
  let arguments : Table := args.zipIdx.foldl (fun table (arg, i) =>
    table.insert (.number i) (.input arg)) {}
  let inherited : Table := environment.foldl (fun table (name, value) =>
    table.insert (.text name) (.input value)) {}
  { program
    globals
    tables := (tables.setIfInBounds Special.arguments arguments).setIfInBounds
      Special.environment inherited
    ranges := Array.replicate program.rules.length false }

structure Invocation where
  assignments : List (String × String) := []
  sources : List String := []
  operands : List String := []

def usage : String :=
  "Usage: mawk [Options] [Program] [file ...]\n\nProgram:\n" ++
    "    The -f option value is the name of a file containing program text.\n" ++
    "    If no -f option is given, a \"--\" ends option processing; the following\n" ++
    "    parameters are the program text.\n\nOptions:\n" ++
    "    -f program-file  Program  text is read from file instead of from the\n" ++
    "                     command-line.  Multiple -f options are accepted.\n" ++
    "    -F value         sets the field separator, FS, to value.\n" ++
    "    -v var=value     assigns value to program variable var.\n" ++
    "    --               unambiguous end of options.\n\n" ++
    "    Implementation-specific options are prefixed with \"-W\".  They can be\n" ++
    "    abbreviated:\n\n" ++
    "    -W version       show version information and exit.\n" ++
    "    -W compat        pre-POSIX 2001.\n" ++
    "    -W dump          show assembler-like listing of program and exit.\n" ++
    "    -W help          show this message and exit.\n" ++
    "    -W interactive   set unbuffered output, line-buffered input.\n" ++
    "    -W exec file     use file as program as well as last option.\n" ++
    "    -W posix         stricter POSIX checking.\n" ++
    "    -W random=number set initial random seed.\n" ++
    "    -W sprintf=number adjust size of sprintf buffer.\n" ++
    "    -W usage         show this message and exit.\n"

def invocation : (fuel : Nat) → List String → Invocation → WorkM Invocation
  | 0, _, found => return found
  | fuel + 1, args, found => do
      match args with
      | [] => return found
      | "--" :: rest => return { found with operands := rest }
      | "--help" :: _ => do
          emit usage
          throw 0
      | arg :: rest =>
          match arg.toList with
          | '-' :: letter :: value => do
              let (value?, after) : Option String × List String :=
                if value.isEmpty then (rest.head?, rest.tail)
                else (some (String.ofList value), rest)
              if !(['F', 'v', 'f', 'W'].contains letter) then
                fail ("not an option: " ++ arg)
              else
                match value? with
                | none => fail ("option -" ++ letter.toString ++ " lacks argument")
                | some value =>
                    match letter with
                    | 'F' => do
                        let value := if value = "t" then value else withoutEscapes value
                        invocation fuel after
                          { found with assignments := found.assignments ++ [("FS", value)] }
                    | 'v' =>
                        match assignment? value with
                        | some pair =>
                            invocation fuel after
                              { found with assignments := found.assignments ++ [pair] }
                        | none => fail ("improper assignment: -v " ++ value)
                    | 'f' =>
                        invocation fuel after { found with sources := found.sources ++ [value] }
                    | _ => invocation fuel after found
          | _ => return { found with operands := args }
where
  fail (text : String) : WorkM Invocation := do
    complain text
    throw 2

def main (args : List String) : WorkM Unit := do
  onWriteFailure 2
  setWriteFault fun reason => "close failed on file \"/dev/stdout\" (" ++ reason ++ ")"
  let found ← invocation (args.length + 1) args {}
  let (label, source, operands) ← match found.sources, found.operands with
    | [], [] => do
        if args.isEmpty then remark usage
        throw 0
    | [], source :: operands => pure ("", source, operands)
    | paths, operands => do
        let mut source := ""
        for path in paths do
          match ← contentOf path with
          | .ok content =>
              let text := String.ofList (Octets.ofBytes content)
              source := if source.isEmpty || source.endsWith "\n" then source ++ text
                else source ++ "\n" ++ text
          | .error error => do
              complain ("cannot open \"" ++ path ++ "\" (" ++ reason error ++ ")")
              throw 2
        pure ((paths.getLastD "") ++ ": ", source, operands)
  let work ← get
  match parse source with
  | .error messages => do
      for message in messages do complain (label ++ message)
      throw 2
  | .ok program => do
      let session := initial program (work.name :: operands) work.environment
      let whole : RunM Unit := do
        for (name, value) in found.assignments do assignNamed name value
        runProgram
      let (_, session) ← whole.run.run session
      throw session.status

end Bundler.Machine.Utility.Records
