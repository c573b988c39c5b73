import Bundler.Machine.Utility.Names

/-! Programs that copy and move files: `cp`, `mv`, `install`. -/

namespace Bundler.Machine.Utility

inductive Overwriting
  | always
  | never
  | asks
  | older
  deriving DecidableEq, Repr

structure Transfer where
  overwriting : Overwriting := .always
  recursive : Bool := false
  follows : Bool := true
  verbose : Bool := false
  preserves : Bool := false
  backs : Bool := false
  hard : Bool := false
  symbolic : Bool := false
  removes : Bool := false
  mode? : Option Nat := none

def pairText (source goal : String) : String :=
  quoted source ++ " -> " ++ quoted goal

def orderedEntriesOf (view : View) (path : String) : List String :=
  match view.tree.find view.cwd (Octets.toText path) with
  | .ok index =>
      ((view.tree.entries index).mergeSort fun a b => decide (a.2 ≤ b.2)).map fun (name, _) =>
        Octets.ofText name
  | .error _ => []

def backUp (path : String) : WorkM Unit := do
  let _ ← change fun view =>
    view.tree.rename view.cwd (Octets.toText path) (Octets.toText (path ++ "~"))
      view.fileTime

def unlink (path : String) : WorkM (Except IoError Unit) :=
  change fun view => view.tree.remove view.cwd (Octets.toText path) view.fileTime

def mayReplace (transfer : Transfer) (source goal : FileStatus) (path : String) : WorkM Bool := do
  match transfer.overwriting with
  | .always => return true
  | .never => return false
  | .older => return decide (goal.modified < source.modified)
  | .asks => do
      if ← Remove.confirm ("overwrite " ++ quoted path) then return true
      setStatus 1
      return false

def copyContent (source goal : String) (mode : Nat) : WorkM (Except IoError Unit ⊕ String) := do
  match ← request (.openFile source .forReading 0) with
  | .error error =>
      return .inr ("cannot open " ++ quoted source ++ " for reading: " ++ reason error)
  | .ok input => do
      match ← request (.openFile goal .forWriting mode) with
      | .error error => do
          let _ ← request (.close input)
          return .inl (.error error)
      | .ok output => do
          let fault? ← pass input output Act.endless
          let _ ← request (.close input)
          let _ ← request (.close output)
          match fault? with
          | some fault => return .inr fault
          | none => return .inl (.ok ())
where
  pass (input output : Nat) : (fuel : Nat) → WorkM (Option String)
    | 0 => return none
    | fuel + 1 => do
        match ← readSome input 131072 Act.endless with
        | .error error => return some ("error reading " ++ quoted source ++ ": " ++ reason error)
        | .ok bytes =>
            if bytes.isEmpty then return none
            else
              match ← request (.write output bytes) with
              | .error error =>
                  return some ("error writing " ++ quoted goal ++ ": " ++ reason error)
              | .ok _ => pass input output fuel

def preserve (source : FileStatus) (goal : String) : WorkM Unit := do
  let _ ← change fun view => do
    let index ← view.tree.find view.cwd (Octets.toText goal) false
    return (view.tree.setMode index source.mode).setModified index source.modified

def copyFile (transfer : Transfer) (status : FileStatus) (source goal : String) : WorkM Unit := do
  let shown : WorkM Unit := do
    if transfer.verbose then emit (pairText source goal ++ "\n")
  let failed (kind : String) (error : IoError) : WorkM Unit :=
    grumble ("cannot create " ++ kind ++ " " ++ quoted goal ++ ": " ++ reason error)
  if transfer.hard then
    match ← change fun view =>
      view.tree.makeLink view.cwd (Octets.toText source) (Octets.toText goal) transfer.follows
        view.fileTime with
    | .ok _ => shown
    | .error error =>
        grumble ("cannot create hard link " ++ quoted goal ++ " to " ++ quoted source ++ ": " ++
          reason error)
  else if transfer.symbolic then
    match ← change fun view =>
      view.tree.make view.cwd (Octets.toText goal) (.link (Octets.toText source)) 0o777
        view.fileTime with
    | .ok _ => shown
    | .error error =>
        grumble ("cannot create symbolic link " ++ quoted goal ++ " to " ++ quoted source ++
          ": " ++ reason error)
  else if status.kind = .link || (status.kind = .fifo && transfer.recursive) then
    let view ← request .view
    let content? := status.index?.bind view.tree.content?
    match ← change fun view =>
      view.tree.make view.cwd (Octets.toText goal) (content?.getD .fifo)
        (status.mode &&& (0o777 ^^^ view.mask)) view.fileTime with
    | .ok _ => shown
    | .error error =>
        failed (if status.kind = .link then "symbolic link" else "fifo") error
  else do
    shown
    match ← copyContent source goal (status.mode &&& 0o777) with
    | .inr fault => grumble fault
    | .inl (.error error) => do
        let isMissing := error = .isADirectory && goal.toList.getLast? = some '/'
        failed "regular file" (if isMissing then .notADirectory else error)
    | .inl (.ok _) =>
        match transfer.mode? with
        | some mode => do
            let _ ← change fun view => do
              let index ← view.tree.find view.cwd (Octets.toText goal)
              return view.tree.setMode index mode
        | none => if transfer.preserves then preserve status goal

/-- Copies what is in a directory to one that is made if it is missing. `copyEntry` copies what is
in it, and is told of the directories made. -/
def copyInside (transfer : Transfer) (copyEntry : List Nat → String → String → WorkM Unit)
    (made : List Nat) (status : FileStatus) (isThere : Bool) (source goal : String) :
    WorkM Unit := do
  let result ← if isThere then pure (.ok ())
    else
      change fun view =>
        view.tree.makeDirectory view.cwd (Octets.toText goal)
          ((status.mode ||| 0o700) &&& (0o7777 ^^^ view.mask)) view.fileTime
  match result with
  | .error error => grumble ("cannot create directory " ++ quoted goal ++ ": " ++ reason error)
  | .ok _ => do
      if transfer.verbose && !isThere then emit (pairText source goal ++ "\n")
      let view ← request .view
      let index := match view.status goal with
        | .ok status => status.index?.toList
        | .error _ => []
      for name in orderedEntriesOf view source do
        copyEntry (if isThere then made else index ++ made) (joined source name) (joined goal name)
      if transfer.preserves then preserve status goal

/-- Copies a file or a directory. `roots` are the names that the command line gives, and `made` are
the directories made so far. `fuel` bounds the depth. -/
def copy (transfer : Transfer) (roots : String × String) :
    (fuel : Nat) → (made : List Nat) → (source goal : String) → WorkM Unit
  | 0, _, _, _ => return
  | fuel + 1, made, source, goal => do
      let view ← request .view
      match view.status source transfer.follows with
      | .error error => grumble ("cannot stat " ++ quoted source ++ ": " ++ reason error)
      | .ok status => do
          let inside (isThere : Bool) : WorkM Unit :=
            copyInside transfer (copy transfer roots fuel) made status isThere source goal
          if status.kind = .directory && !transfer.recursive then
            grumble ((if transfer.mode?.isSome then "" else "-r not specified; ") ++
              "omitting directory " ++ quoted source)
          else if status.index?.any made.contains then
            grumble ("cannot copy a directory, " ++ quoted roots.1 ++ ", into itself, " ++
              quoted roots.2)
          else
            match view.status goal (transfer.follows || status.kind = .file) with
            | .ok other => do
                if other.identity = status.identity && !transfer.symbolic && !transfer.hard then
                  grumble (quoted source ++ " and " ++ quoted goal ++ " are the same file")
                else if status.kind = .directory && other.kind ≠ .directory then
                  grumble ("cannot overwrite non-directory " ++ quoted goal ++ " with directory " ++
                    quoted source)
                else if status.kind ≠ .directory && other.kind = .directory then
                  grumble ("cannot overwrite directory " ++ quoted goal ++ " with non-directory")
                else if status.kind = .directory then inside true
                else if ← mayReplace transfer status other goal then
                  if transfer.backs then backUp goal
                  else if transfer.removes || status.kind = .link then
                    let _ ← unlink goal
                  copyFile transfer status source goal
            | .error error => do
                let isDangling := (view.status goal false).isOk
                if error ≠ .noSuchFile && error ≠ .notADirectory then
                  grumble ("cannot stat " ++ quoted goal ++ ": " ++ reason error)
                else if error = .notADirectory && goal.toList.getLast? ≠ some '/' then
                  grumble ("cannot stat " ++ quoted goal ++ ": " ++ reason error)
                else if error = .notADirectory && (view.status (withoutSlashes goal)).isOk then
                  grumble ("cannot stat " ++ quoted goal ++ ": " ++ reason error)
                else if isDangling && !transfer.removes && status.kind = .file then
                  grumble ("not writing through dangling symlink " ++ quoted goal)
                else if status.kind = .directory then inside false
                else copyFile transfer status source goal

/-- Where operands lead: pairs of names. `fileName` is how a file gets its name in a directory. -/
def goalsOf (line : CommandLine) (isGoal : View → String → Bool)
    (fileName : String → String := lastName) : WorkM (List (String × String)) := do
  let view ← request .view
  match line.last? "t", line.operands with
  | _, [] => misuse "missing file operand"
  | some directory, operands =>
      if isGoal view directory then
        return operands.map fun path => (path, joined directory (fileName path))
      else
        die ("target directory " ++ quoted directory ++ ": " ++ match view.status directory with
          | .ok _ => reason .notADirectory
          | .error error => reason error)
  | none, [path] => misuse ("missing destination file operand after " ++ quoted path)
  | none, operands => do
      let last := operands.getLast?.getD ""
      let sources := operands.dropLast
      if line.has "T" then
        match sources with
        | [source] => return [(source, last)]
        | _ => misuse ("extra operand " ++ quoted last)
      else if isGoal view last then
        return sources.map fun path => (path, joined last (fileName path))
      else
        match sources with
        | [source] => return [(source, last)]
        | _ =>
            die ("target " ++ quoted last ++ ": " ++ match view.status last with
              | .ok _ => reason .notADirectory
              | .error error => reason error)

def overwritingOf (line : CommandLine) : Overwriting :=
  let updates := match line.last? "update", line.has "u" with
    | some "none", _ => Overwriting.never
    | some "all", _ => .always
    | some _, _ | none, true => .older
    | none, false => .always
  match line.lastOf? ["f", "i", "n"] with
  | some "i" => .asks
  | some "n" => .never
  | _ => updates

namespace Copy

def known : List Known :=
  [⟨"a", "archive", .none⟩, ⟨"b", "", .none⟩, ⟨"", "backup", .optional⟩, ⟨"d", "", .none⟩,
    ⟨"f", "force", .none⟩, ⟨"i", "interactive", .none⟩, ⟨"H", "", .none⟩, ⟨"l", "link", .none⟩,
    ⟨"L", "dereference", .none⟩, ⟨"n", "no-clobber", .none⟩, ⟨"P", "no-dereference", .none⟩,
    ⟨"p", "", .none⟩, ⟨"", "preserve", .optional⟩, ⟨"", "no-preserve", .required⟩,
    ⟨"R", "recursive", .none⟩, ⟨"r", "", .none⟩, ⟨"", "reflink", .optional⟩,
    ⟨"", "remove-destination", .none⟩, ⟨"", "parents", .none⟩, ⟨"s", "symbolic-link", .none⟩,
    ⟨"S", "suffix", .required⟩, ⟨"t", "target-directory", .required⟩,
    ⟨"T", "no-target-directory", .none⟩, ⟨"u", "", .none⟩, ⟨"", "update", .optional⟩,
    ⟨"v", "verbose", .none⟩, ⟨"x", "one-file-system", .none⟩, ⟨"", "sparse", .required⟩,
    ⟨"", "strip-trailing-slashes", .none⟩, ⟨"", "attributes-only", .none⟩]

def makeParents (path : String) : WorkM Unit := do
  let parts := MakeDirectory.partsOf path
  for part in parts.dropLast do
    unless (← request .view).isDirectory part do
      let _ ← MakeDirectory.make part 0o755

def main (args : List String) : WorkM Unit := do
  let line ← commandLine known args
  if line.has "n" then
    complain ("warning: behavior of -n is non-portable and may change in future; " ++
      "use --update=none instead")
  let recursive := line.has "a" || line.has "r" || line.has "R"
  let transfer : Transfer :=
    { overwriting := overwritingOf line
      recursive
      follows := match line.lastOf? ["a", "d", "H", "L", "P"] with
        | some "H" | some "L" => true
        | some _ => false
        | none => !recursive || line.has "l"
      verbose := line.has "v"
      preserves := line.has "a" || line.has "p" || line.has "preserve"
      backs := line.has "b" || line.has "backup"
      hard := line.has "l"
      symbolic := line.has "s"
      removes := line.has "remove-destination" || line.has "f" && (line.has "l" || line.has "s") }
  let parents := line.has "parents"
  let goals ← goalsOf line View.isDirectory
    (fun path => if parents then path
      else
        let name := lastName path
        if name = ".." then "." else name)
  startInput
  for (source, goal) in goals do
    if parents then makeParents goal
    copy transfer (source, goal) 1000 [] source goal

end Copy

namespace Move

def known : List Known :=
  [⟨"b", "", .none⟩, ⟨"", "backup", .optional⟩, ⟨"f", "force", .none⟩,
    ⟨"i", "interactive", .none⟩, ⟨"n", "no-clobber", .none⟩, ⟨"S", "suffix", .required⟩,
    ⟨"t", "target-directory", .required⟩, ⟨"T", "no-target-directory", .none⟩, ⟨"u", "", .none⟩,
    ⟨"", "update", .optional⟩, ⟨"v", "verbose", .none⟩, ⟨"", "strip-trailing-slashes", .none⟩]

def move (transfer : Transfer) (source goal : String) : WorkM Unit := do
  let view ← request .view
  match view.status source false with
  | .error error => grumble ("cannot stat " ++ quoted source ++ ": " ++ reason error)
  | .ok status => do
      let other := view.status goal false
      let goes ← match other with
        | .error error =>
            if goal.isEmpty then
              if status.kind = .directory then
                grumble ("cannot move " ++ quoted source ++ " to '': " ++ reason .busy)
              else grumble "cannot overwrite directory '' with non-directory"
              pure false
            else if error = .notADirectory && (view.status (withoutSlashes goal) false).isOk then
              grumble ("cannot stat " ++ quoted goal ++ ": " ++ reason error)
              pure false
            else pure true
        | .ok other =>
            if other.identity = status.identity then
              grumble (quoted source ++ " and " ++ quoted goal ++ " are the same file")
              pure false
            else if transfer.overwriting = .never then
              grumble ("not replacing " ++ quoted goal)
              pure false
            else if !(← mayReplace transfer status other goal) then pure false
            else if status.kind = .directory && other.kind ≠ .directory then
              grumble ("cannot overwrite non-directory " ++ quoted goal ++ " with directory " ++
                quoted source)
              pure false
            else if status.kind ≠ .directory && other.kind = .directory then
              grumble ("cannot overwrite directory " ++ quoted goal ++ " with non-directory")
              pure false
            else pure true
      if goes then
        if transfer.backs && other.isOk then backUp goal
        match ← change fun view =>
          view.tree.rename view.cwd (Octets.toText source) (Octets.toText goal)
            view.fileTime with
        | .ok _ => if transfer.verbose then emit ("renamed " ++ pairText source goal ++ "\n")
        | .error error =>
            if error = .invalidArgument then
              grumble ("cannot move " ++ quoted source ++ " to a subdirectory of itself, " ++
                quoted goal)
            else if error = .notEmpty then
              grumble ("cannot overwrite " ++ quoted goal ++ ": " ++ reason error)
            else
              grumble ("cannot move " ++ quoted source ++ " to " ++ quoted goal ++ ": " ++
                reason error)

def main (args : List String) : WorkM Unit := do
  let line ← commandLine known args
  let goals ← goalsOf line View.isDirectory
  startInput
  for (source, goal) in goals do
    move { overwriting := overwritingOf line, verbose := line.has "v"
           backs := line.has "b" || line.has "backup" } source goal

end Move

namespace Install

def known : List Known :=
  [⟨"b", "", .none⟩, ⟨"c", "", .none⟩, ⟨"C", "compare", .none⟩, ⟨"d", "directory", .none⟩,
    ⟨"D", "", .none⟩, ⟨"g", "group", .required⟩, ⟨"m", "mode", .required⟩,
    ⟨"o", "owner", .required⟩, ⟨"p", "preserve-timestamps", .none⟩, ⟨"s", "strip", .none⟩,
    ⟨"S", "suffix", .required⟩, ⟨"t", "target-directory", .required⟩,
    ⟨"T", "no-target-directory", .none⟩, ⟨"v", "verbose", .none⟩]

def main (args : List String) : WorkM Unit := do
  let line ← commandLine known args
  let mode ← match line.last? "m" with
    | none => pure 0o755
    | some text =>
        match Permissions.applied? text 0 false 0 with
        | some mode => pure mode
        | none => die ("invalid mode " ++ quoted text)
  let makeAll (path : String) : WorkM Unit := do
    for part in MakeDirectory.partsOf path do
      unless (← request .view).isDirectory part do
        match ← MakeDirectory.make part 0o755 with
        | .ok _ =>
            if line.has "v" then
              emit ((← get).name ++ ": creating directory " ++ quoted part ++ "\n")
        | .error error =>
            grumble ("cannot create directory " ++ quoted part ++ ": " ++ reason error)
  if line.has "d" then
    if line.operands.isEmpty then misuse "missing file operand"
    for path in line.operands do
      makeAll path
      let _ ← change fun view => do
        let index ← view.tree.find view.cwd (Octets.toText path)
        return view.tree.setMode index mode
  else
    if line.has "D" then
      match line.last? "t" with
      | some directory => makeAll directory
      | none =>
          if 1 < line.operands.length then
            let parent := directoryName (line.operands.getLast?.getD "")
            if parent ≠ "." then makeAll parent
    for (source, goal) in ← goalsOf line View.isDirectory do
      copy { mode? := some mode, removes := true, verbose := line.has "v"
             backs := line.has "b" } (source, goal) 1 [] source goal

end Install

end Bundler.Machine.Utility
