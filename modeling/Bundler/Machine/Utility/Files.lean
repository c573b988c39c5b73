import Bundler.Machine.Utility.Calendar
import Bundler.Machine.Utility.Mode
import Bundler.Machine.Utility.Options

/-! Programs that make, change and take away files. -/

namespace Bundler.Machine.Utility

def change (operation : View → Except IoError FileTree) : WorkM (Except IoError Unit) :=
  request (.change operation)

def joined (directory name : String) : String :=
  if directory.toList.getLast? = some '/' then directory ++ name else directory ++ "/" ++ name

def withoutSlashes (path : String) : String :=
  let chars := (path.toList.reverse.dropWhile (· = '/')).reverse
  if chars.isEmpty && !path.isEmpty then "/" else String.ofList chars

def lastName (path : String) : String :=
  let chars := (withoutSlashes path).toList
  if chars = ['/'] then "/"
  else String.ofList (chars.reverse.takeWhile (· ≠ '/')).reverse

def entriesOf (view : View) (path : String) : List String :=
  match view.tree.find view.cwd (Octets.toText path) with
  | .ok index => ((view.tree.entries index).map fun (name, _) => Octets.ofText name).mergeSort
      fun a b => decide (a ≤ b)
  | .error _ => []

def latestEntriesOf (view : View) (path : String) : List String :=
  match view.tree.find view.cwd (Octets.toText path) with
  | .ok index => (view.tree.entries index).map fun (name, _) => Octets.ofText name
  | .error _ => []

namespace MakeDirectory

def known : List Known :=
  [⟨"m", "mode", .required⟩, ⟨"p", "parents", .none⟩, ⟨"v", "verbose", .none⟩]

def partsOf (path : String) : List String :=
  let names := (path.splitOn "/").filter (· ≠ "")
  let start := if path.toList.head? = some '/' then "/" else ""
  (List.range names.length).map fun n =>
    start ++ String.intercalate "/" (names.take (n + 1))

def make (path : String) (mode : Nat) : WorkM (Except IoError Unit) :=
  change fun view =>
    view.tree.makeDirectory view.cwd (Octets.toText path) mode view.fileTime

def created (path : String) : WorkM Unit := do
  emit ((← get).name ++ ": created directory " ++ quoted path ++ "\n")

/-- Makes a directory and those above it that are missing. The ones above get the usual mode. -/
def makeAll (mode usual : Nat) (verbose : Bool) : List String → WorkM Unit
  | [] => return
  | part :: rest => do
      let view ← request .view
      if view.isDirectory part then makeAll mode usual verbose rest
      else
        match ← make part (if rest.isEmpty then mode else usual) with
        | .ok _ => do
            if verbose then created part
            makeAll mode usual verbose rest
        | .error error =>
            let isFile := error = .fileExists && !rest.isEmpty && (view.status part).isOk
            grumble ("cannot create directory " ++ quoted part ++ ": " ++
              reason (if isFile then .notADirectory else error))

def main (args : List String) : WorkM Unit := do
  let line ← commandLine known args
  let operands ← someOperands line
  let mask := (← request .view).mask
  let mode ← match line.last? "m" with
    | none => pure (Permissions.without 0o777 mask)
    | some text =>
        match Permissions.applied? text mask true 0o777 with
        | some mode => pure mode
        | none => die ("invalid mode " ++ cited text)
  for path in operands do
    if line.has "p" && !path.isEmpty then
      makeAll mode (Permissions.without 0o777 (mask &&& 0o477)) (line.has "v") (partsOf path)
    else
      match ← make path mode with
      | .ok _ => if line.has "v" then created path
      | .error error =>
          grumble ("cannot create directory " ++ quoted path ++ ": " ++ reason error)

end MakeDirectory

namespace RemoveDirectory

def known : List Known :=
  [⟨"", "ignore-fail-on-non-empty", .none⟩, ⟨"p", "parents", .none⟩, ⟨"v", "verbose", .none⟩]

def each (line : CommandLine) (parent : Bool) : List String → WorkM Unit
  | [] => return
  | path :: rest => do
      if line.has "v" then
        emit ((← get).name ++ ": removing directory, " ++ quoted path ++ "\n")
      match ← change fun view =>
        view.tree.removeDirectory view.cwd (Octets.toText path) view.fileTime with
      | .ok _ => each line true rest
      | .error error =>
          let view ← request .view
          unless error = .notEmpty && line.has "ignore-fail-on-non-empty" do
            let reason (error : IoError) : String :=
              if view.tree.isSlashedLink view.cwd (Octets.toText path) then
                "Symbolic link not followed"
              else reason error
            grumble ((if parent then "failed to remove directory " else "failed to remove ") ++
              quoted path ++ ": " ++ reason error)

def main (args : List String) : WorkM Unit := do
  let line ← commandLine known args
  for path in ← someOperands line do
    if line.has "p" then
      let parts := MakeDirectory.partsOf path
      each line false (path :: parts.dropLast.reverse)
    else each line false [path]

end RemoveDirectory

namespace Remove

def known : List Known :=
  [⟨"f", "force", .none⟩, ⟨"i", "", .none⟩, ⟨"I", "", .none⟩, ⟨"r", "recursive", .none⟩,
    ⟨"R", "", .none⟩, ⟨"d", "dir", .none⟩, ⟨"v", "verbose", .none⟩,
    ⟨"", "interactive", .optional⟩, ⟨"", "one-file-system", .none⟩,
    ⟨"", "preserve-root", .optional⟩, ⟨"", "no-preserve-root", .none⟩]

def confirm (question : String) : WorkM Bool := do
  complain' question
  match ← readLine 0 with
  | .ok (some answer) => return match answer.toList.head? with
      | some byte => byte == 121 || byte == 89
      | none => false
  | _ => return false
where
  complain' (question : String) : WorkM Unit := do
    remark ((← get).name ++ ": " ++ question ++ "? ")

def kindName (status : FileStatus) : String :=
  match status.kind with
  | .file => if status.size = 0 then "regular empty file" else "regular file"
  | .directory => "directory"
  | .link => "symbolic link"
  | .fifo => "fifo"
  | .device => "character special file"

structure Choice where
  force : Bool
  asks : Bool
  recursive : Bool
  directories : Bool
  verbose : Bool

/-- Takes a file away, and all below it. Gives whether it is gone. `fuel` bounds the depth. -/
def remove (choice : Choice) : (fuel : Nat) → String → WorkM Bool
  | 0, _ => return false
  | fuel + 1, path => do
      let view ← request .view
      match view.status path false with
      | .error error => do
          unless choice.force && (error = .noSuchFile || error = .notADirectory) do
            grumble ("cannot remove " ++ quoted path ++ ": " ++ reason error)
          return false
      | .ok status =>
          if status.kind ≠ .directory then do
            if choice.asks then
              unless ← confirm ("remove " ++ kindName status ++ " " ++ quoted path) do return false
            match ← change fun view =>
              view.tree.remove view.cwd (Octets.toText path) view.fileTime with
            | .ok _ => do
                if choice.verbose then emit ("removed " ++ quoted path ++ "\n")
                return true
            | .error error => do
                grumble ("cannot remove " ++ quoted path ++ ": " ++ reason error)
                return false
          else
            let entries := latestEntriesOf view path
            if !choice.recursive && !(choice.directories && entries.isEmpty) then do
              grumble ("cannot remove " ++ quoted path ++ ": " ++
                if choice.directories then reason .notEmpty else reason .isADirectory)
              return false
            else if view.tree.isSlashedLink view.cwd (Octets.toText path) then do
              grumble ("cannot remove " ++ quoted path ++ ": " ++ reason .notADirectory)
              return false
            else do
              if choice.asks && !entries.isEmpty then
                unless ← confirm ("descend into directory " ++ quoted path) do return false
              let gone ← entries.reverse.mapM fun name => remove choice fuel (joined path name)
              if choice.asks then
                unless ← confirm ("remove directory " ++ quoted path) do return false
              if gone.all id then
                match ← change fun view =>
                  view.tree.removeDirectory view.cwd (Octets.toText path) view.fileTime with
                | .ok _ => do
                    if choice.verbose then emit ("removed directory " ++ quoted path ++ "\n")
                    return true
                | .error error => do
                    grumble ("cannot remove " ++ quoted path ++ ": " ++ reason error)
                    return false
              else return false

def main (args : List String) : WorkM Unit := do
  let line ← commandLine known args
  let force := line.lastOf? ["f", "i"] = some "f"
  if line.operands.isEmpty && !force then misuse "missing operand"
  let choice : Choice :=
    { force
      asks := line.lastOf? ["f", "i"] = some "i"
      recursive := line.has "r" || line.has "R"
      directories := line.has "d"
      verbose := line.has "v" }
  startInput
  for path in line.operands do
    let last := lastName path
    if choice.recursive && (last = "." || last = "..") then
      grumble ("refusing to remove '.' or '..' directory: skipping " ++ quoted path)
    else if choice.recursive && withoutSlashes path = "/" then
      complain "it is dangerous to operate recursively on '/'"
      grumble "use --no-preserve-root to override this failsafe"
    else let _ ← remove choice 1000 path

end Remove

namespace Unlink

def main (args : List String) : WorkM Unit := do
  let line ← commandLine [] args
  match ← someOperands line with
  | [path] =>
      match ← change fun view =>
        view.tree.remove view.cwd (Octets.toText path) view.fileTime with
      | .ok _ => return
      | .error error => die ("cannot unlink " ++ quoted path ++ ": " ++ reason error)
  | _ :: extra :: _ => extraOperand extra
  | [] => return

end Unlink

namespace Touch

def known : List Known :=
  [⟨"a", "", .none⟩, ⟨"c", "no-create", .none⟩, ⟨"d", "date", .required⟩, ⟨"f", "", .none⟩,
    ⟨"h", "no-dereference", .none⟩, ⟨"m", "", .none⟩, ⟨"r", "reference", .required⟩,
    ⟨"t", "", .required⟩, ⟨"", "time", .required⟩]

def stamp? (text : String) (thisYear : Nat) : Option Nat := do
  let (main, second) ← match text.splitOn "." with
    | [main] => some (main, 0)
    | [main, second] => (if second.length = 2 then digits? second else none).map (main, ·)
    | _ => none
  let _ ← digits? main
  let part (start count : Nat) : Nat :=
    ((String.ofList ((main.toList.drop start).take count)).toNat?).getD 0
  match main.length with
  | 8 => instant thisYear (part 0 2) (part 2 2) (part 4 2) (part 6 2) second
  | 10 =>
      let short := part 0 2
      instant (if short < 69 then 2000 + short else 1900 + short) (part 2 2) (part 4 2) (part 6 2)
        (part 8 2) second
  | 12 => instant (part 0 4) (part 4 2) (part 6 2) (part 8 2) (part 10 2) second
  | _ => none

def main (args : List String) : WorkM Unit := do
  let line ← commandLine known args
  let view ← request .view
  let time? : Option Nat ← match line.last? "t", line.last? "d", line.last? "r" with
    | some text, _, _ =>
        match stamp? text 2025 with
        | some time => pure (some time)
        | none => die ("invalid date format " ++ cited text)
    | none, some text, _ =>
        if text = "now" then pure none
        else
          match readDate? view.now text with
          | some time => pure (some time)
          | none => die ("invalid date format " ++ cited text)
    | none, none, some path =>
        match view.status path with
        | .ok status => pure (some status.modified)
        | .error error =>
            die ("failed to get attributes of " ++ quoted path ++ ": " ++ reason error)
    | none, none, none => pure none
  if line.operands.isEmpty then misuse "missing file operand"
  for path in line.operands do
    let result ← change fun view => do
      let time := time?.getD view.fileTime
      let location ← view.tree.locate view.cwd (Octets.toText path)
      match location.node? with
      | some index => return view.tree.setModified index time
      | none =>
          if line.has "c" then return view.tree
          let location ← view.tree.locateForCreation view.cwd (Octets.toText path)
          return (view.tree.add location.directory location.name (.file .empty)
            (Permissions.without 0o666 view.mask) time).2
    match result with
    | .ok _ => pure ()
    | .error error =>
        unless line.has "c" && error = .noSuchFile do
          if path.toList.getLast? = some '/' then
            grumble ("setting times of " ++ quoted path ++ ": " ++
              reason (if error = .isADirectory then .noSuchFile else error))
          else grumble ("cannot touch " ++ quoted path ++ ": " ++ reason error)

end Touch

namespace ChangeMode

def known : List Known :=
  [⟨"R", "recursive", .none⟩, ⟨"c", "changes", .none⟩, ⟨"f", "silent", .none⟩,
    ⟨"f", "quiet", .none⟩, ⟨"v", "verbose", .none⟩, ⟨"", "reference", .required⟩,
    ⟨"", "preserve-root", .none⟩, ⟨"", "no-preserve-root", .none⟩]

def isMode (arg : String) : Bool :=
  match arg.toList with
  | '-' :: c :: rest => (c :: rest).all fun c => "rwxXstugoa,+=-01234567".toList.contains c
  | _ => false

def takeMode : List String → Option String × List String
  | [] => (none, [])
  | "--" :: rest => (none, "--" :: rest)
  | arg :: rest =>
      if isMode arg then (some arg, rest)
      else
        let (mode?, others) := takeMode rest
        (mode?, arg :: others)

def apply (line : CommandLine) (newMode : Bool → Nat → Option Nat) :
    (fuel : Nat) → String → WorkM Unit
  | 0, _ => return
  | fuel + 1, path => do
      let view ← request .view
      match view.status path with
      | .error error => do
          if line.has "f" then setStatus 1
          else if error = .noSuchFile && (view.status path false).isOk then
            grumble ("cannot operate on dangling symlink " ++ quoted path)
          else grumble ("cannot access " ++ quoted path ++ ": " ++ reason error)
          if line.has "v" then emit (quoted path ++ " could not be accessed\n")
      | .ok status => do
          let isDirectory := status.kind = .directory
          let mode := (newMode isDirectory status.mode).getD status.mode
          match status.index? with
          | some index =>
              let _ ← change fun view => .ok (view.tree.setMode index mode)
          | none => pure ()
          let text (mode : Nat) : String :=
            Permissions.octal mode ++ " (" ++ Permissions.letters mode ++ ")"
          if mode ≠ status.mode && (line.has "v" || line.has "c") then
            emit ("mode of " ++ quoted path ++ " changed from " ++ text status.mode ++ " to " ++
              text mode ++ "\n")
          else if line.has "v" then
            emit ("mode of " ++ quoted path ++ " retained as " ++ text mode ++ "\n")
          if isDirectory && line.has "R" then
            for name in entriesOf view path do
              match view.status (joined path name) false with
              | .ok status =>
                  if status.kind ≠ .link then apply line newMode fuel (joined path name)
              | .error _ => pure ()

def main (args : List String) : WorkM Unit := do
  let (dashed?, args) := takeMode args
  let line ← commandLine known args
  let view ← request .view
  let (text?, operands) := match dashed?, line.last? "reference" with
    | some mode, _ => (some mode, line.operands)
    | none, some _ => (none, line.operands)
    | none, none => (line.operands.head?, line.operands.tail)
  if operands.isEmpty then
    match text? with
    | some text => misuse ("missing operand after " ++ cited text)
    | none => misuse "missing operand"
  let newMode : Bool → Nat → Option Nat ← match text?, line.last? "reference" with
    | none, some path =>
        match view.status path with
        | .ok status => pure fun _ _ => some status.mode
        | .error error =>
            die ("failed to get attributes of " ++ quoted path ++ ": " ++ reason error)
    | text?, _ => do
        let text := text?.getD ""
        if (Permissions.applied? text view.mask false 0).isNone then
          misuse ("invalid mode: " ++ cited text)
        pure (Permissions.applied? text view.mask)
  for path in operands do apply line newMode 1000 path

end ChangeMode

namespace MakeFifo

def main (args : List String) : WorkM Unit := do
  let line ← commandLine [⟨"m", "mode", .required⟩] args
  let view ← request .view
  let mode := ((line.last? "m").bind fun text =>
    Permissions.applied? text view.mask false 0o666).getD (Permissions.without 0o666 view.mask)
  for path in ← someOperands line do
    match ← change fun view =>
      view.tree.make view.cwd (Octets.toText path) .fifo mode view.fileTime with
    | .ok _ => pure ()
    | .error error => grumble ("cannot create fifo " ++ quoted path ++ ": " ++ reason error)

end MakeFifo

namespace MakeTemporary

def known : List Known :=
  [⟨"d", "directory", .none⟩, ⟨"u", "dry-run", .none⟩, ⟨"q", "quiet", .none⟩,
    ⟨"p", "tmpdir", .required⟩, ⟨"t", "", .none⟩, ⟨"", "suffix", .required⟩]

def letters (count n : Nat) : String :=
  let alphabet := "abcdefghijklmnopqrstuvwxyzABCDEFGHIJKLMNOPQRSTUVWXYZ0123456789".toList
  String.ofList ((List.range count).map fun place =>
    (alphabet[(n * 7919 + n / 62 + place * 31 + place * place * n) % 62]?).getD 'x')

def main (args : List String) : WorkM Unit := do
  let line ← commandLine known args
  let suffix := (line.last? "suffix").getD ""
  let given := line.operands.head?
  match line.operands with
  | _ :: _ :: _ => do
      complain "too many templates"
      pointToHelp
  | _ => pure ()
  let template := given.getD "tmp.XXXXXXXXXX"
  let environment := (← get).environment
  let directory? : Option String :=
    match line.last? "p" with
    | some directory => some (if directory.isEmpty then "/tmp" else directory)
    | none =>
        if given.isNone || line.has "t" then
          some (((environment.lookup "TMPDIR").filter (!·.isEmpty)).getD "/tmp")
        else none
  let chars := template.toList
  let tail := (chars.reverse.takeWhile (· ≠ 'X')).reverse
  let stem := chars.take (chars.length - tail.length)
  let marks := (stem.reverse.takeWhile (· = 'X')).length
  if marks < 3 then die ("too few X's in template " ++ cited template)
  let view ← request .view
  let stem := String.ofList (stem.take (stem.length - marks))
  let path (n : Nat) : String :=
    let name := stem ++ letters marks n ++ String.ofList tail ++ suffix
    match directory? with
    | some directory => joined directory name
    | none => name
  let isFree (n : Nat) : Bool := !(view.status (path n) false).isOk
  let start := view.now / 1000 + view.pid * 101
  let path := path (((List.range 1000).find? fun n => isFree (start + n)).getD 0 + start)
  unless line.has "u" do
    let directory := line.has "d"
    let result ← change fun view =>
      if directory then
        view.tree.makeDirectory view.cwd (Octets.toText path) 0o700 view.fileTime
      else
        view.tree.make view.cwd (Octets.toText path) (.file .empty) 0o600 view.fileTime
    match result with
    | .ok _ => pure ()
    | .error error => do
        if line.has "q" then throw 1
        die ("failed to create " ++ (if directory then "directory" else "file") ++
          " via template " ++ quoted (match directory? with
            | some directory => joined directory template
            | none => template) ++ ": " ++ reason error)
  emit (path ++ "\n")

end MakeTemporary

namespace Truncate

def known : List Known :=
  [⟨"c", "no-create", .none⟩, ⟨"o", "io-blocks", .none⟩, ⟨"r", "reference", .required⟩,
    ⟨"s", "size", .required⟩]

def size? (text : List Char) : Option Nat :=
  let digits := text.takeWhile Char.isDigit
  let n := ((String.ofList digits).toNat?).getD 0
  let unit? := match String.ofList (text.drop digits.length) with
    | "" => some 1
    | "K" | "KiB" => some 1024
    | "KB" => some 1000
    | "M" | "MiB" => some (1024 * 1024)
    | "MB" => some 1000000
    | "G" | "GiB" => some (1024 * 1024 * 1024)
    | _ => none
  if digits.isEmpty then none else unit?.map (n * ·)

def main (args : List String) : WorkM Unit := do
  let line ← commandLine known args
  let view ← request .view
  let newSize : Nat → Nat ← match line.last? "s", line.last? "r" with
    | none, none => misuse "you must specify either '--size' or '--reference'"
    | some text, _ => do
        let chars := text.toList.dropWhile (· = ' ')
        let bad : WorkM (Nat → Nat) := die ("Invalid number: " ++ cited text)
        let (op, rest) := match chars with
          | c :: rest => if "+-<>/%".toList.contains c then (c, rest) else ('=', chars)
          | [] => ('=', [])
        match size? rest with
        | none => bad
        | some n => pure (match op with
            | '+' => fun size => size + n
            | '-' => fun size => size - n
            | '<' => fun size => min size n
            | '>' => fun size => max size n
            | '/' => fun size => size / n * n
            | '%' => fun size => (size + n - 1) / n * n
            | _ => fun _ => n)
    | none, some path =>
        match view.status path with
        | .ok status => pure fun _ => status.size
        | .error error => die ("cannot stat " ++ quoted path ++ ": " ++ reason error)
  if line.operands.isEmpty then misuse "missing file operand"
  for path in line.operands do
    let result ← change fun view => do
      let location ← view.tree.locateForCreation view.cwd (Octets.toText path)
      match location.node? with
      | none =>
          if line.has "c" then return view.tree
          return (view.tree.add location.directory location.name
            (.file ⟨Array.replicate (newSize 0) 0⟩) (Permissions.without 0o666 view.mask)
            view.fileTime).2
      | some index =>
          match view.tree.content? index with
          | some (.file bytes) =>
              let size := newSize bytes.size
              let bytes := bytes.extract 0 size ++ ⟨Array.replicate (size - bytes.size) 0⟩
              return view.tree.setContent index (.file bytes) view.fileTime
          | some (.directory _ _) => throw .isADirectory
          | _ => throw .invalidArgument
    match result with
    | .ok _ => pure ()
    | .error error =>
        grumble ("cannot open " ++ quoted path ++ " for writing: " ++ reason error)

end Truncate

end Bundler.Machine.Utility
