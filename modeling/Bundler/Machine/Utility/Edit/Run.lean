import Bundler.Machine.Utility.Edit.Parser
import Bundler.Machine.Utility.Options

/-! The program `sed`: the commands of a script, carried out line by line. -/

namespace Bundler.Machine.Utility.Edit

inductive Addition
  | text (chars : List Char)
  | file (path : String)
  | lineOf (path : String)

inductive Range
  | closed
  | opened
  | upTo (number : Nat)
  deriving DecidableEq, Repr

structure Options where
  quiet : Bool := false
  separate : Bool := false
  inPlace? : Option String := none
  unbuffered : Bool := false
  mark : Char := '\n'
  width : Nat := 70

structure Editor where
  options : Options
  commands : Array Command
  files : List String
  current? : Option (Nat × String) := none
  lineNumber : Nat := 0
  pattern : List Char := []
  ended : Bool := true
  hold : List Char := []
  ranges : Array Range
  additions : List Addition := []
  replaced : Bool := false
  last? : Option (Regex × Bool × Bool) := none
  outputs : List (String × Nat) := []
  unended : List String := []
  result? : Option ByteArray := none
  lineFiles : List (String × List (List Char)) := []
  status : Nat := 0

abbrev EditM := StateT Editor WorkM

inductive Flow
  | goOn
  | finish (prints : Bool)
  | again
  | quit (prints : Bool) (status : Nat)

/-! Output. -/

def standard : String :=
  "/dev/stdout"

def put (output : String) (bytes : ByteArray) : EditM Unit := do
  let editor ← get
  if output = standard then
    match editor.result? with
    | some result => set { editor with result? := some (result ++ bytes) }
    | none => do
        emitBytes bytes
        if editor.options.unbuffered then flush
  else if output = "/dev/stderr" then
    flush
    let _ ← request (.write 2 bytes)
  else
    match editor.outputs.lookup output with
    | some descriptor =>
        let _ ← request (.write descriptor bytes)
    | none => return

def endLine (output : String) : EditM Unit := do
  let editor ← get
  if editor.unended.contains output then
    set { editor with unended := editor.unended.filter (· ≠ output) }
    put output (Octets.bytes editor.options.mark.toString)

def putText (output : String) (chars : List Char) : EditM Unit := do
  endLine output
  put output (Octets.toBytes chars)

def putLine (output : String) (chars : List Char) : EditM Unit := do
  let editor ← get
  if editor.ended then putText output (chars ++ [editor.options.mark])
  else do
    putText output chars
    modify fun editor => { editor with unended := output :: editor.unended }

def putAdditions : EditM Unit := do
  let editor ← get
  set { editor with additions := [] }
  for addition in editor.additions do
    match addition with
    | .text chars => putText standard chars
    | .file path =>
        match ← contentOf (if path = "/dev/stdin" then "-" else path) with
        | .ok content =>
            unless content.isEmpty do
              endLine standard
              put standard content
        | .error _ => pure ()
    | .lineOf path => do
        let lines ← match (← get).lineFiles.lookup path with
          | some lines => pure lines
          | none => do
              match ← contentOf path with
              | .ok content => pure (linesOf (Octets.ofBytes content)).1
              | .error _ => pure []
        match lines with
        | [] => modify fun editor => { editor with lineFiles := (path, []) :: editor.lineFiles }
        | line :: rest => do
            modify fun editor => { editor with lineFiles := (path, rest) :: editor.lineFiles }
            putText standard (line ++ ['\n'])

/-! Input. -/

def replaceFile (path suffix : String) (result : ByteArray) : WorkM Unit := do
  let backup := if suffix.toList.contains '*' then
      String.intercalate path (suffix.splitOn "*")
    else path ++ suffix
  let _ ← request (.change fun view => do
    let node ← view.tree.node view.cwd (Octets.toText path)
    let time := view.fileTime
    let tree ← if suffix.isEmpty then view.tree.remove view.cwd (Octets.toText path) time
      else view.tree.rename view.cwd (Octets.toText path) (Octets.toText backup) time
    tree.make view.cwd (Octets.toText path) (.file result) node.mode time)

def closeFile : EditM Unit := do
  let editor ← get
  match editor.current?, editor.result?, editor.options.inPlace? with
  | some (descriptor, path), some result, some suffix => do
      closeInput descriptor
      replaceFile path suffix result
  | some (descriptor, _), _, _ => closeInput descriptor
  | none, _, _ => pure ()
  set { editor with current? := none, result? := none }

def grumbleOf (text : String) (status : Nat) : EditM Unit := do
  complain text
  modify fun editor => { editor with status }

/-- Opens the next file that can be read. `fuel` is more than the number of files. -/
def openNext : (fuel : Nat) → EditM Bool
  | 0 => return false
  | fuel + 1 => do
      let editor ← get
      match editor.files with
      | [] => return false
      | path :: files => do
          set { editor with files }
          let edits := editor.options.inPlace?.isSome
          let view ← request .view
          if edits && (view.status path).isOk && !(view.has path (·.kind = .file)) then
            grumbleOf ("couldn't edit " ++ path ++ ": not a regular file") 4
            openNext fuel
          else
            match ← openInput path with
            | .error error => do
                grumbleOf ("can't read " ++ path ++ ": " ++ reason error) 2
                openNext fuel
            | .ok descriptor => do
                if view.isDirectory path then
                  complain ("read error on " ++ path ++ ": " ++ reason .isADirectory)
                  closeInput descriptor
                  throw 4
                startInput
                modify fun editor =>
                  { editor with
                    current? := some (descriptor, path)
                    result? := if edits then some .empty else none
                    lineNumber :=
                      if edits || editor.options.separate then 0 else editor.lineNumber }
                return true

def anyData (files : List String) : WorkM Bool := do
  let view ← request .view
  return files.any fun path =>
    path = "-" || view.has path fun status =>
      status.kind = .fifo || status.kind = .device || (status.kind = .file && status.size ≠ 0)

def isLast : EditM Bool := do
  let editor ← get
  let more ← match editor.current? with
    | some (descriptor, _) => hasMore descriptor
    | none => pure false
  if more then return false
  else if editor.options.separate || editor.options.inPlace?.isSome then return true
  else return !(← anyData editor.files)

/-- The next line of the input. `fuel` is more than the number of files. -/
def readNext : (fuel : Nat) → EditM (Option (List Char))
  | 0 => return none
  | fuel + 1 => do
      let editor ← get
      match editor.current? with
      | none => do
          if ← openNext (editor.files.length + 1) then readNext fuel else return none
      | some (descriptor, _) => do
          match ← readLine descriptor (UInt8.ofNat editor.options.mark.toNat) with
          | .error error => do
              complain ("read error on " ++ (editor.current?.map (·.2)).getD "-" ++ ": " ++
                reason error)
              throw 4
          | .ok none => do
              closeFile
              readNext fuel
          | .ok (some bytes) => do
              request (.pass pieceTime)
              modify fun editor =>
                { editor with lineNumber := editor.lineNumber + 1 }
              let ended := (← getThe Work).lineEnded
              modify fun editor => { editor with ended }
              return some (Octets.ofBytes bytes)

def nextLine : EditM (Option (List Char)) := do
  readNext (2 * (← get).files.length + 3)

/-! Selection of lines. -/

def regexOf (pattern : Pattern) : EditM (Regex × Bool × Bool) := do
  match pattern with
  | some found => do
      modify fun editor => { editor with last? := some found }
      return found
  | none =>
      match (← get).last? with
      | some found => return found
      | none => do
          complain "-e expression #1, char 0: no previous regular expression"
          throw 1

def subjectOf (chars : List Char) (folds lines : Bool) : Regex.Subject :=
  { text := chars.toArray, folds, lines }

def holds (address : Address) : EditM Bool := do
  let editor ← get
  let n := editor.lineNumber
  match address with
  | .line number => return n = number
  | .step first step => return decide (first ≤ n) && (n - first) % step = 0
  | .last => isLast
  | .fitting pattern => do
      let (regex, folds, lines) ← regexOf pattern
      return (regex.find? (subjectOf (← get).pattern folds lines) 0).isSome
  | .plus _ | .multiple _ => return false

def setRange (place : Nat) (range : Range) : EditM Unit :=
  modify fun editor => { editor with ranges := editor.ranges.setIfInBounds place range }

def selects (place : Nat) (selection : Selection) : EditM Bool := do
  let n := (← get).lineNumber
  match selection.start?, selection.stop? with
  | none, _ => return true
  | some start, none => holds start
  | some start, some stop => do
      let opened (start : Nat) : EditM Bool := do
        let upTo (last : Nat) : EditM Bool := do
          if start < last then setRange place (.upTo last)
          return true
        match stop with
        | .line last => upTo last
        | .plus count => upTo (start + count)
        | .multiple factor => upTo (if factor = 0 then start
            else (start / factor + 1) * factor)
        | _ => do
            setRange place .opened
            return true
      match ((← get).ranges[place]?).getD .closed with
      | .closed => if ← holds start then opened n else return false
      | .upTo last => do
          if last ≤ n then setRange place .closed
          if n ≤ last then return true
          else if ← holds start then opened n
          else return false
      | .opened => do
          if ← holds stop then setRange place .closed
          return true

def isInside (place : Nat) : EditM Bool := do
  return ((← get).ranges[place]?).getD .closed ≠ .closed

/-! Commands. -/

/-- Changes letters as cases tell. `single?` is for the next letter alone. -/
def cased (case : Case) (single? : Option Case) (chars : List Char) : List Char × Option Case :=
  let all (chars : List Char) : List Char := match case with
    | .upper => chars.map Char.toUpper
    | .lower => chars.map Char.toLower
    | _ => chars
  match chars, single? with
  | [], _ => ([], single?)
  | c :: rest, some .upperNext => (c.toUpper :: all rest, none)
  | c :: rest, some .lowerNext => (c.toLower :: all rest, none)
  | chars, _ => (all chars, none)

def replacement (subject : Regex.Subject) (start : Nat) (fit : Regex.Fit) (pieces : List Piece) :
    List Char :=
  (pieces.foldl (fun (text, case, single?) piece =>
    let add (chars : List Char) : List Char × Case × Option Case :=
      let (chars, single?) := cased case single? chars
      (text ++ chars, case, single?)
    match piece with
    | .text chars => add chars
    | .group 0 => add (subject.part start fit.place)
    | .group n => match fit.groups.lookup n with
        | some (start, stop) => add (subject.part start stop)
        | none => add []
    | .case .plain => (text, .plain, none)
    | .case .upperNext => (text, case, some .upperNext)
    | .case .lowerNext => (text, case, some .lowerNext)
    | .case case => (text, case, none)) (([] : List Char), Case.plain, (none : Option Case))).1

/-- The text behind a place with matches replaced, and whether there were any. `count` is the number
of matches before, and `barred?` the place where no empty match may be. `fuel` is more than the
number of places left. -/
def substituted (regex : Regex) (subject : Regex.Subject) (substitution : Substitution) :
    (fuel : Nat) → (count place : Nat) → (barred? : Option Nat) → List Char × Bool
  | 0, _, place, _ => (subject.part place subject.text.size, false)
  | fuel + 1, count, place, barred? =>
      match regex.find? subject place with
      | none => (subject.part place subject.text.size, false)
      | some (start, fit) =>
          let before := subject.part place start
          let isEmpty := fit.place = start
          let isBarred := isEmpty && barred? = some start
          let count := if isBarred then count else count + 1
          let chosen := !isBarred && substitution.number ≤ count
          let new := if chosen then replacement subject start fit substitution.pieces
            else subject.part start fit.place
          let behind := fit.place
          if chosen && !substitution.everywhere then
            (before ++ new ++ subject.part behind subject.text.size, true)
          else if isEmpty then
            if subject.text.size ≤ behind then (before ++ new, chosen)
            else
              let (rest, more) :=
                substituted regex subject substitution fuel count (behind + 1) none
              (before ++ new ++ subject.part behind (behind + 1) ++ rest, chosen || more)
          else
            let (rest, more) :=
              substituted regex subject substitution fuel count behind (some behind)
            (before ++ new ++ rest, chosen || more)

def visible (width : Nat) (chars : List Char) : List Char :=
  let shown (c : Char) : List Char := match c with
    | '\\' => ['\\', '\\']
    | '\x07' => ['\\', 'a']
    | '\x08' => ['\\', 'b']
    | '\x0c' => ['\\', 'f']
    | '\n' => ['\\', 'n']
    | '\r' => ['\\', 'r']
    | '\t' => ['\\', 't']
    | '\x0b' => ['\\', 'v']
    | c => if c.toNat < 32 || 127 ≤ c.toNat then (octalEscape c).toList else [c]
  let (text, _) := chars.foldl (fun (text, place) c =>
    let part := shown c
    if width ≠ 0 && width - 1 < place + part.length then
      (part.reverse ++ ['\n', '\\'] ++ text, part.length)
    else (part.reverse ++ text, place + part.length)) (([] : List Char), 0)
  text.reverse ++ ['$', '\n']

def firstLine (chars : List Char) : List Char :=
  chars.takeWhile (· ≠ '\n')

def setPattern (pattern : List Char) : EditM Unit :=
  modify fun editor => { editor with pattern }

/-- Carries a command out that was selected. Gives the place of the next one. -/
def perform (place : Nat) (command : Command) : EditM (Except Flow Nat) := do
  let editor ← get
  let next := place + 1
  let goTo (name : String) : EditM (Except Flow Nat) := do
    match target? editor.commands name with
    | some place => return .ok place
    | none => return .ok editor.commands.size
  match command.action with
  | .enter _ | .nothing | .label _ => return .ok next
  | .jump name => goTo name
  | .jumpIfReplaced name =>
      if editor.replaced then
        set { editor with replaced := false }
        goTo name
      else return .ok next
  | .jumpUnlessReplaced name =>
      if editor.replaced then
        set { editor with replaced := false }
        return .ok next
      else goTo name
  | .append text => do
      set { editor with additions := editor.additions ++ [Addition.text text] }
      return .ok next
  | .insert text => do
      putText standard text
      return .ok next
  | .change text => do
      if command.selection.stop?.isNone || command.selection.negated || !(← isInside place) then
        putText standard text
      return .error (.finish false)
  | .delete => return .error (.finish false)
  | .deleteFirst => do
      match editor.pattern.dropWhile (· ≠ '\n') with
      | [] => return .error (.finish false)
      | _ :: rest => do
          setPattern rest
          return .error .again
  | .showName => do
      let name := (editor.current?.map (·.2)).getD "-"
      putText standard (name.toList ++ ['\n'])
      return .ok next
  | .take => do
      setPattern editor.hold
      return .ok next
  | .takeMore => do
      setPattern (editor.pattern ++ '\n' :: editor.hold)
      return .ok next
  | .keep => do
      set { editor with hold := editor.pattern }
      return .ok next
  | .keepMore => do
      set { editor with hold := editor.hold ++ '\n' :: editor.pattern }
      return .ok next
  | .exchange => do
      set { editor with hold := editor.pattern, pattern := editor.hold }
      return .ok next
  | .list width? => do
      putText standard (visible (width?.getD editor.options.width) editor.pattern)
      return .ok next
  | .next => do
      if ← isLast then return .error (.quit true editor.status)
      unless editor.options.quiet do putLine standard editor.pattern
      putAdditions
      match ← nextLine with
      | some line => do
          setPattern line
          return .ok next
      | none => return .error (.quit false (← get).status)
  | .nextMore => do
      putAdditions
      if ← isLast then return .error (.quit true (← get).status)
      match ← nextLine with
      | some line => do
          setPattern (editor.pattern ++ '\n' :: line)
          return .ok next
      | none => return .error (.quit true (← get).status)
  | .print => do
      putLine standard editor.pattern
      return .ok next
  | .printFirst => do
      putText standard (firstLine editor.pattern ++ ['\n'])
      return .ok next
  | .quit status => return .error (.quit true status)
  | .quitSilently status => return .error (.quit false status)
  | .readFile path => do
      set { editor with additions := editor.additions ++ [Addition.file path] }
      return .ok next
  | .readLine path => do
      set { editor with additions := editor.additions ++ [Addition.lineOf path] }
      return .ok next
  | .write path => do
      putLine path editor.pattern
      return .ok next
  | .writeFirst path => do
      putText path (firstLine editor.pattern ++ ['\n'])
      return .ok next
  | .substitute substitution => do
      let (regex, folds, lines) ← regexOf substitution.pattern
      let subject := subjectOf editor.pattern folds lines
      let (text, changed) :=
        substituted regex subject substitution (subject.text.size + 2) 0 0 none
      if changed then
        modify fun editor => { editor with pattern := text, replaced := true }
        if substitution.prints then putLine standard text
        match substitution.output? with
        | some output => putLine output text
        | none => pure ()
      return .ok next
  | .translate pairs => do
      setPattern (editor.pattern.map fun c => (pairs.lookup c).getD c)
      return .ok next
  | .number => do
      putText standard ((toString editor.lineNumber).toList ++ ['\n'])
      return .ok next
  | .clear => do
      setPattern []
      return .ok next

def runFrom : (fuel : Nat) → (place : Nat) → EditM Flow
  | 0, _ => return .goOn
  | fuel + 1, place => do
      match (← get).commands[place]? with
      | none => return .finish true
      | some command => do
          let selected ← selects place command.selection
          if selected != command.selection.negated then
            match ← perform place command with
            | .ok place => runFrom fuel place
            | .error flow => return flow
          else
            match command.action with
            | .enter behind => runFrom fuel behind
            | _ => runFrom fuel (place + 1)

/-- Goes through all lines. `reads` tells whether another line is read first. -/
def cycles : (fuel : Nat) → (reads : Bool) → EditM Nat
  | 0, _ => return 0
  | fuel + 1, reads => do
      let more ← if reads then do
          match ← nextLine with
          | some line => do
              setPattern line
              pure true
          | none => pure false
        else pure true
      if !more then return (← get).status
      if reads then modify fun editor => { editor with replaced := false }
      let flow ← runFrom Act.endless 0
      let finish (prints : Bool) : EditM Unit := do
        let editor ← get
        if prints && !editor.options.quiet then putLine standard editor.pattern
        putAdditions
      match flow with
      | .goOn => return (← get).status
      | .finish prints => do
          finish prints
          cycles fuel true
      | .again => do
          finish false
          cycles fuel false
      | .quit prints status => do
          if prints then finish true
          match (← get).current? with
          | some (descriptor, _) =>
              if (← get).result?.isSome then copyRest Act.endless
              giveBack descriptor
          | none => pure ()
          closeFile
          return status
where
  copyRest : (fuel : Nat) → EditM Unit
    | 0 => return
    | fuel + 1 => do
        match (← get).current? with
        | none => return
        | some (descriptor, _) =>
            if ← hasMore descriptor then
              match ← nextLine with
              | some line => do
                  putLine standard line
                  copyRest fuel
              | none => return

/-! The command line. -/

def usage : String :=
  "Usage: sed [OPTION]... \x7bscript-only-if-no-other-script\x7d [input-file]...\n\n" ++
  "  -n, --quiet, --silent\n" ++
  "                 suppress automatic printing of pattern space\n" ++
  "      --debug\n" ++
  "                 annotate program execution\n" ++
  "  -e script, --expression=script\n" ++
  "                 add the script to the commands to be executed\n" ++
  "  -f script-file, --file=script-file\n" ++
  "                 add the contents of script-file to the commands to be executed\n" ++
  "  --follow-symlinks\n" ++
  "                 follow symlinks when processing in place\n" ++
  "  -i[SUFFIX], --in-place[=SUFFIX]\n" ++
  "                 edit files in place (makes backup if SUFFIX supplied)\n" ++
  "  -l N, --line-length=N\n" ++
  "                 specify the desired line-wrap length for the `l' command\n" ++
  "  --posix\n" ++
  "                 disable all GNU extensions.\n" ++
  "  -E, -r, --regexp-extended\n" ++
  "                 use extended regular expressions in the script\n" ++
  "                 (for portability use POSIX -E).\n" ++
  "  -s, --separate\n" ++
  "                 consider files as separate rather than as a single,\n" ++
  "                 continuous long stream.\n" ++
  "      --sandbox\n" ++
  "                 operate in sandbox mode (disable e/r/w commands).\n" ++
  "  -u, --unbuffered\n" ++
  "                 load minimal amounts of data from the input files and flush\n" ++
  "                 the output buffers more often\n" ++
  "  -z, --null-data\n" ++
  "                 separate lines by NUL characters\n" ++
  "      --help     display this help and exit\n" ++
  "      --version  output version information and exit\n\n" ++
  "If no -e, --expression, -f, or --file option is given, then the first\n" ++
  "non-option argument is taken as the sed script to interpret.  All\n" ++
  "remaining arguments are names of input files; if no input files are\n" ++
  "specified, then the standard input is read.\n"

def known : List Known :=
  [⟨"n", "quiet", .none⟩, ⟨"n", "silent", .none⟩, ⟨"e", "expression", .required⟩,
    ⟨"f", "file", .required⟩, ⟨"E", "regexp-extended", .none⟩, ⟨"r", "", .none⟩,
    ⟨"i", "in-place", .optional⟩, ⟨"l", "line-length", .required⟩, ⟨"s", "separate", .none⟩,
    ⟨"u", "unbuffered", .none⟩, ⟨"z", "null-data", .none⟩, ⟨"", "posix", .none⟩,
    ⟨"", "debug", .none⟩, ⟨"", "sandbox", .none⟩, ⟨"", "follow-symlinks", .none⟩]

def scriptParts (line : CommandLine) : WorkM (List ((List Char → Nat → String) × List Char)) := do
  let given := line.options.filter fun (key, _) => key = "e" || key = "f"
  let expression (index : Nat) : List Char → Nat → String := fun _ place =>
    "-e expression #" ++ toString index ++ ", char " ++ toString place ++ ": "
  let mut parts := []
  let mut index := 0
  for (key, value) in given do
    if key = "e" then
      index := index + 1
      parts := parts ++ [(expression index, value.toList)]
    else
      match ← contentOf value with
      | .error error => die ("couldn't open file " ++ value ++ ": " ++ reason error) 4
      | .ok content =>
          let chars := Octets.ofBytes content
          parts := parts ++ [((fun (chars : List Char) place =>
            "file " ++ value ++ " line " ++
              toString (((chars.take (place - 1)).filter (· = '\n')).length + 1) ++ ": "), chars)]
  if parts.isEmpty then return [(expression 1, (line.operands.headD "").toList)]
  return parts

def joinParts : List ((List Char → Nat → String) × List Char) →
    List ((List Char → Nat → String) × List Char)
  | (front, text) :: (other, next) :: rest =>
      if text.getLast? = some '\\' then joinParts ((front, text ++ '\n' :: next) :: rest)
      else (front, text) :: joinParts ((other, next) :: rest)
  | parts => parts
termination_by parts => parts.length

def outputsOf (commands : Array Command) : List String :=
  (commands.toList.filterMap fun command =>
    match command.action with
    | .write path | .writeFirst path => some path
    | .substitute substitution => substitution.output?
    | _ => none).eraseDups

def main (args : List String) : WorkM Unit := do
  modify fun work => { work with usage? := some usage }
  onWriteFailure 4
  setWriteFault fun reason => "couldn't flush stdout: " ++ reason
  let line ← commandLine known args
  let hasScript := line.has "e" || line.has "f"
  if !hasScript && line.operands.isEmpty then pointToHelp
  let extended := line.has "E" || line.has "r"
  let mut parsing : Parsing := { rest := [], size := 0, extended }
  for (front, text) in joinParts (← scriptParts line) do
    match readBehind parsing text with
    | .ok next => parsing := next
    | .error defect => die (front text defect.place ++ defect.message)
  unless parsing.blocks.isEmpty do die "-e expression #1, char 0: unmatched `\x7b'"
  for command in parsing.commands do
    let name? := match command.action with
      | .jump name | .jumpIfReplaced name | .jumpUnlessReplaced name => some name
      | _ => none
    match name? with
    | some name =>
        if (target? parsing.commands name).isNone then
          die ("can't find label for jump to `" ++ name ++ "'") 4
    | none => pure ()
  let mut outputs := []
  for path in outputsOf parsing.commands do
    unless path = "/dev/stdout" || path = "/dev/stderr" do
      match ← request (.openFile path .forWriting 0o666) with
      | .ok descriptor => outputs := (path, descriptor) :: outputs
      | .error error => die ("couldn't open file " ++ path ++ ": " ++ reason error) 4
  let operands := if hasScript then line.operands else line.operands.tail
  let inPlace? := line.last? "i"
  if operands.isEmpty && inPlace?.isSome then die "no input files" 4
  let options : Options :=
    { quiet := line.has "n" || parsing.quiet
      separate := line.has "s"
      inPlace?
      unbuffered := line.has "u"
      mark := if line.has "z" then '\x00' else '\n'
      width := ((line.last? "l").bind String.toNat?).getD 70 }
  let ranges := parsing.commands.map fun command =>
    match command.selection.start? with
    | some (.line 0) => Range.opened
    | _ => .closed
  let editor : Editor :=
    { options, commands := parsing.commands
      files := if operands.isEmpty then ["-"] else operands
      ranges, outputs }
  let (status, _) ← (cycles Act.endless true).run editor
  setStatus status

end Bundler.Machine.Utility.Edit
