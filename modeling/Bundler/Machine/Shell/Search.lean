import Bundler.Machine.Shell.Redirect

/-! What the name of a command stands for, and how programs are executed. -/

namespace Bundler.Machine.Shell

def regularBuiltins : List String :=
  ["[", "alias", "bg", "cd", "chdir", "command", "echo", "false", "fg", "getopts", "hash", "jobs",
    "kill", "printf", "pwd", "read", "test", "true", "type", "ulimit", "umask", "unalias", "wait"]

def assigningBuiltins : List String :=
  ["alias", "export", "local", "readonly"]

def isBuiltin (name : String) : Bool :=
  regularBuiltins.contains name || specialBuiltins.contains name

inductive Target
  | function (function : Function)
  | builtin (name : String)
  | program (index? : Option Nat)
  | missing (error : IoError)

def usualPath : String :=
  "/usr/local/sbin:/usr/local/bin:/usr/sbin:/usr/bin:/sbin:/bin"

def State.path (state : State) : String :=
  (state.lookup "PATH").getD ""

def pathsFor (searchPath name : String) : List String :=
  (searchPath.splitOn ":").map fun directory =>
    if directory.isEmpty then name else directory ++ "/" ++ name

def isPath (name : String) : Bool :=
  name.toList.contains '/'

def firstFile (view : View) : (index : Nat) → (error : IoError) → List String →
    Except IoError Nat
  | _, error, [] => .error error
  | index, error, path :: rest =>
      match view.status path with
      | .ok status =>
          if status.kind = .file then .ok index
          else firstFile view (index + 1) .permissionDenied rest
      | .error other =>
          firstFile view (index + 1)
            (if other = .noSuchFile || other = .notADirectory then error else other) rest

/-- Finds out what a name stands for. `path?` is a search path that is used in place of the shell's
own, and `known` tells that a path must lead somewhere. -/
def findCommand (name : String) (withFunctions : Bool) (path? : Option String) (known : Bool) :
    ShellM Target := do
  let state ← get
  if isPath name then
    if known then
      match (← request .view).status name with
      | .ok _ => return .program none
      | .error error => return .missing error
    else return .program none
  else
    let function? := if withFunctions then state.functions.find? (·.name = name) else none
    let found? := if path?.isNone then state.found.lookup name else none
    match function?, found? with
    | some function, _ => return .function function
    | none, some index => return .program (some index)
    | none, none => do
        if isBuiltin name then return .builtin name
        let view ← request .view
        match firstFile view 0 .noSuchFile (pathsFor (path?.getD state.path) name) with
        | .error error => return .missing error
        | .ok index => do
            if path?.isNone then
              modify fun state => { state with found := state.found ++ [(name, index)] }
            return .program (some index)

/-- Tries to execute a file; one that is no program is taken for a script of the shell. -/
def tryExecute (path : String) (words : List String) (environment : List (String × String)) :
    ShellM IoError := do
  let error ← request (.execute path words environment)
  if error = .badFormat then
    request (.execute "/bin/sh" ("/bin/sh" :: path :: words.tail) environment)
  else return error

def execute (words : List String) (path : String) (index? : Option Nat) : ShellM α := do
  let _ ← flush
  let name := words.headD ""
  let environment := (← get).environment
  let error ← if isPath name then tryExecute name words environment
    else along environment .noSuchFile ((pathsFor path name).drop (index?.getD 0))
  let missing := [IoError.tooManyLinks, .nameTooLong, .noSuchFile, .notADirectory].contains error
  warn (name ++ ": " ++ reasonOf error "not found")
  modify fun state => { state with status := if missing then 127 else 126 }
  throw .finished
where
  along (environment : List (String × String)) (error : IoError) : List String → ShellM IoError
    | [] => return error
    | path :: rest => do
        let other ← tryExecute path words environment
        along environment
          (if other = .noSuchFile || other = .notADirectory then error else other) rest

def describe (name : String) (path? : Option String) (atLength : Bool) : ShellM Nat := do
  let state ← get
  let tell (long short : String) : ShellM Nat := do
    emit ((if atLength then name ++ long else short) ++ "\n")
    return 0
  if Token.keywords.contains name then tell " is a shell keyword" name
  else
    match state.aliases.lookup name with
    | some value =>
        tell (" is an alias for " ++ value) ("alias " ++ name ++ "=" ++ quoted value)
    | none => do
        let tracked := path?.isNone && state.found.any (·.1 = name) &&
          !(state.functions.any (·.name = name))
        match ← findCommand name true path? true with
        | .function _ => tell " is a shell function" name
        | .builtin _ =>
            tell (if specialBuiltins.contains name then " is a special shell builtin"
              else " is a shell builtin") name
        | .program index? =>
            let path := match index? with
              | none => name
              | some index => ((pathsFor (path?.getD state.path) name)[index]?).getD name
            tell ((if tracked then " is a tracked alias for " else " is ") ++ path) path
        | .missing _ => do
            if atLength then emit (name ++ ": not found\n")
            return 127

end Bundler.Machine.Shell
