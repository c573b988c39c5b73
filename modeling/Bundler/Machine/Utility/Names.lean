import Bundler.Machine.Utility.Files

/-! Programs about paths: `basename`, `dirname`, `pwd`, `readlink`, `realpath`, `which`. -/

namespace Bundler.Machine.Utility

def directoryName (path : String) : String :=
  let chars := (withoutSlashes path).toList
  let above := chars.reverse.dropWhile (· ≠ '/')
  if chars = ['/'] then "/"
  else if above.isEmpty then "."
  else
    let directory := (above.dropWhile (· = '/')).reverse
    if directory.isEmpty then "/" else String.ofList directory

namespace BaseName

def known : List Known :=
  [⟨"a", "multiple", .none⟩, ⟨"s", "suffix", .required⟩, ⟨"z", "zero", .none⟩]

def without (suffix name : String) : String :=
  if suffix.length < name.length && suffix.toList.isSuffixOf name.toList then
    String.ofList (name.toList.take (name.length - suffix.length))
  else name

def main (args : List String) : WorkM Unit := do
  let line ← commandLine known args false
  let ending := if line.has "z" then "\x00" else "\n"
  let operands ← someOperands line
  if line.has "a" || line.has "s" then
    for path in operands do
      emit (without ((line.last? "s").getD "") (lastName path) ++ ending)
  else
    match operands with
    | [path] => emit (lastName path ++ ending)
    | [path, suffix] => emit (without suffix (lastName path) ++ ending)
    | _ :: _ :: extra :: _ => extraOperand extra
    | [] => return

end BaseName

namespace DirectoryName

def main (args : List String) : WorkM Unit := do
  let line ← commandLine [⟨"z", "zero", .none⟩] args
  for path in ← someOperands line do
    emit (directoryName path ++ if line.has "z" then "\x00" else "\n")

end DirectoryName

namespace WorkingDirectory

def main (args : List String) : WorkM Unit := do
  let line ← commandLine [⟨"L", "logical", .none⟩, ⟨"P", "physical", .none⟩] args
  unless line.operands.isEmpty do complain "ignoring non-option arguments"
  let view ← request .view
  let logical? : Option String :=
    (((← get).environment.lookup "PWD").filter fun path =>
      path.toList.head? = some '/' &&
        !((path.splitOn "/").any fun name => name = "." || name = "..")
        && (match view.tree.find view.cwd (Octets.toText path) with
          | .ok index => index = view.cwd
          | .error _ => false))
  match if line.lastOf? ["L", "P"] = some "L" then logical?.or view.directory?
    else view.directory? with
  | some path => emit (path ++ "\n")
  | none => die "couldn't find directory entry in '..' with matching i-node"

end WorkingDirectory

inductive Presence
  | all
  | allButLast
  | nothing
  deriving DecidableEq, Repr

def placeOf (view : View) (location : Location) : Option (List String) :=
  match location.node? with
  | some index =>
      if view.tree.isDirectoryNode index then view.tree.place? index
      else (view.tree.place? location.directory).map (· ++ [location.name])
  | none => (view.tree.place? location.directory).map (· ++ [location.name])

def canonical (view : View) (presence : Presence) (path : String) : Except IoError String := do
  let located (path : String) : Except IoError Location :=
    view.tree.locate view.cwd (Octets.toText path)
  let text (place? : Option (List String)) : String :=
    Octets.ofText (FileTree.pathOf (place?.getD []))
  match presence with
  | .all =>
      let location ← located path
      if location.node?.isNone then throw .noSuchFile
      return text (placeOf view location)
  | .allButLast => return text (placeOf view (← located path))
  | .nothing =>
      let names := (path.splitOn "/").filter (· ≠ "")
      let start := if path.toList.head? = some '/' then [] else
        ((view.tree.place? view.cwd).getD []).map Octets.ofText
      return text (some ((names.foldl (step view) start).map Octets.toText))
where
  step (view : View) (place : List String) (name : String) : List String :=
    if name = "." then place
    else if name = ".." then place.dropLast
    else
      let path := "/" ++ String.intercalate "/" (place ++ [name])
      match view.tree.locate view.cwd (Octets.toText path) with
      | .ok location =>
          ((placeOf view location).map fun place => place.map Octets.ofText).getD (place ++ [name])
      | .error _ => place ++ [name]

namespace ReadLink

def known : List Known :=
  [⟨"f", "canonicalize", .none⟩, ⟨"e", "canonicalize-existing", .none⟩,
    ⟨"m", "canonicalize-missing", .none⟩, ⟨"n", "no-newline", .none⟩, ⟨"q", "quiet", .none⟩,
    ⟨"s", "silent", .none⟩, ⟨"v", "verbose", .none⟩, ⟨"z", "zero", .none⟩]

def main (args : List String) : WorkM Unit := do
  let line ← commandLine known args
  let operands ← someOperands line
  let many := 1 < operands.length
  if line.has "n" && many then complain "ignoring --no-newline with multiple arguments"
  let ending := if line.has "z" then "\x00" else if line.has "n" && !many then "" else "\n"
  for path in operands do
    let view ← request .view
    let result : Except IoError String := match line.lastOf? ["f", "e", "m"] with
      | some "f" => canonical view .allButLast path
      | some "e" => canonical view .all path
      | some _ => canonical view .nothing path
      | none => do
          let index ← view.tree.find view.cwd (Octets.toText path) false
          match view.tree.content? index with
          | some (.link target) => return Octets.ofText target
          | _ => throw .invalidArgument
    match result with
    | .ok text => emit (text ++ ending)
    | .error error => do
        setStatus 1
        if line.has "v" then complain (quotedIfNeeded path ++ ": " ++ reason error)

end ReadLink

namespace RealPath

def known : List Known :=
  [⟨"e", "canonicalize-existing", .none⟩, ⟨"m", "canonicalize-missing", .none⟩,
    ⟨"L", "logical", .none⟩, ⟨"P", "physical", .none⟩, ⟨"q", "quiet", .none⟩,
    ⟨"s", "strip", .none⟩, ⟨"s", "no-symlinks", .none⟩, ⟨"z", "zero", .none⟩,
    ⟨"", "relative-to", .required⟩, ⟨"", "relative-base", .required⟩]

def relative (start goal : String) : String :=
  let names (path : String) : List String := (path.splitOn "/").filter (· ≠ "")
  let rec go : List String → List String → List String
    | a :: start, b :: goal =>
        if a = b then go start goal
        else List.replicate (start.length + 1) ".." ++ b :: goal
    | start, goal => List.replicate start.length ".." ++ goal
  match go (names start) (names goal) with
  | [] => "."
  | steps => String.intercalate "/" steps

def stripped (view : View) (path : String) : String :=
  let whole := if path.toList.head? = some '/' then path
    else (view.directory?.getD "") ++ "/" ++ path
  let names := ((whole.splitOn "/").filter fun name => name ≠ "" && name ≠ ".").foldl
    (fun names name => if name = ".." then names.dropLast else names ++ [name]) []
  "/" ++ String.intercalate "/" names

def main (args : List String) : WorkM Unit := do
  let line ← commandLine known args
  let presence := match line.lastOf? ["e", "m"] with
    | some "e" => Presence.all
    | some _ => .nothing
    | none => .allButLast
  for path in ← someOperands line do
    let view ← request .view
    let result := if line.has "s" then .ok (stripped view path) else canonical view presence path
    match result with
    | .ok text =>
        let shown := match line.last? "relative-to" with
          | some start =>
              match canonical view .nothing start with
              | .ok start => relative start text
              | .error _ => text
          | none => text
        emit (shown ++ if line.has "z" then "\x00" else "\n")
    | .error error => do
        setStatus 1
        unless line.has "q" do complain (quotedIfNeeded path ++ ": " ++ reason error)

end RealPath

namespace Which

def main (args : List String) : WorkM Unit := do
  let all := args.head? = some "-a"
  let names := if all then args.tail else args
  if names.isEmpty then throw 1
  let view ← request .view
  let isProgram (path : String) : Bool :=
    view.has path fun status => status.kind = .file && status.mode &&& 0o111 ≠ 0
  let path := ((← get).environment.lookup "PATH").getD ""
  for name in names do
    let places := if name.toList.contains '/' then [name]
      else (path.splitOn ":").map fun directory =>
        (if directory.isEmpty then "." else directory) ++ "/" ++ name
    match places.filter isProgram with
    | [] => setStatus 1
    | first :: rest =>
        for place in if all then first :: rest else [first] do emit (place ++ "\n")

end Which

end Bundler.Machine.Utility
