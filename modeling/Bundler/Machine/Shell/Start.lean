import Bundler.Machine.Shell.Eval

/-! The shell as a program. -/

namespace Bundler.Machine.Shell

def initialVariables : List Variable :=
  [("IFS", " \t\n"), ("PATH", usualPath), ("PS1", "# "), ("PS2", "> "), ("PS4", "+ "),
    ("OPTIND", "1")].map fun (name, value) => { name, value := some value, lasting := true }

def takeOver (environment : List (String × String)) : ShellM Unit := do
  let view ← request .view
  modify fun state => { state with
    pid := view.pid
    fixedSignals := view.ignored
    bindings := initialVariables }
  for (name, value) in environment do
    if isName name && name ≠ "IFS" && name ≠ "OPTIND" && name ≠ "PPID" then
      setVariable name (some value) true
  setVariable "PPID" (some (toString view.parent))
  let place? := view.directory?
  if place?.isNone then warn "getcwd() failed: No such file or directory"
  let place := place?.getD ""
  let known? := ((← get).lookup "PWD").filter fun path =>
    path.toList.head? = some '/' &&
      match view.status path, view.status "." with
      | .ok a, .ok b => a.identity = b.identity
      | _, _ => false
  modify fun state => { state with place := known?.getD place, truePlace := place }
  setVariable "PWD" (some (known?.getD place)) true

structure Assignment where
  isText : Bool := false
  args : List String

def startLetters (on : Bool) : List Char → Assignment → ShellM Assignment
  | [], assignment => return assignment
  | 'c' :: more, assignment => startLetters on more { assignment with isText := true }
  | 'l' :: more, assignment => startLetters on more assignment
  | 'o' :: more, assignment => do
      Builtin.setByName assignment.args.head? on
      startLetters on more { assignment with args := assignment.args.tail }
  | c :: more, assignment => do
      let _ ← Builtin.setByLetters on [c] []
      startLetters on more assignment

def startOptions : (fuel : Nat) → Assignment → ShellM Assignment
  | 0, assignment => return assignment
  | fuel + 1, assignment => do
      match assignment.args with
      | [] => return assignment
      | arg :: rest =>
          let left := { assignment with args := rest }
          match arg.toList with
          | ['-'] | ['-', '-'] => return left
          | '-' :: letters => do startOptions fuel (← startLetters true letters left)
          | '+' :: letters => do startOptions fuel (← startLetters false letters left)
          | _ => return assignment

def main (words : List String) (environment : List (String × String)) : ShellM Unit := do
  takeOver environment
  let assignment ← startOptions (words.length + 1) { args := words.tail }
  if assignment.isText && assignment.args.isEmpty then fail "-c requires an argument"
  if !assignment.isText && assignment.args.isEmpty then
    modify fun state => state.setOption 's' true
  let reads := (← get).has 's'
  let (text?, args) := if assignment.isText then (assignment.args.head?, assignment.args.tail)
    else (none, assignment.args)
  if assignment.isText then
    modify fun state =>
      { state with name := args.headD state.name, parameters := args.tail }
  else if reads then modify fun state => { state with parameters := args }
  else
    let descriptor ← openScript (args.headD "")
    modify fun state =>
      { state with
        name := args.headD ""
        parameters := args.tail
        inputs := [{ descriptor? := some descriptor, complete := false }] }
  Builtin.checkOptions
  match text? with
  | some text => let _ ← evalText Act.endless { exits := !reads } text
  | none => pure ()
  if reads then
    modify fun state =>
      { state with
        inputs := state.inputs ++ [{ descriptor? := some 0, complete := false }] }
  if reads || text?.isNone then let _ ← evalInput Act.endless 0

def program (words : List String) (environment : List (String × String)) : Behaviour :=
  let last (_ : Unit) (state : State) : Behaviour := .stop state.status
  main words environment { name := words.headD "sh", line := 0 }
    (fun _ state => conclude Act.endless none state last fun _ state => .stop state.status)
    (fun halt state =>
      conclude Act.endless (some halt) state last fun _ state => .stop state.status)

end Bundler.Machine.Shell
