import Bundler.Machine.Shell.Pattern
import Bundler.Machine.Utility.Files
import Bundler.Machine.Utility.Select.Basic

/-! The program `grep`: the lines of files that fit patterns. -/

namespace Bundler.Machine.Utility.Select

inductive Form
  | basic
  | extended
  | fixed
  | perl
  deriving DecidableEq, Repr

namespace Form

def style : Form → Regex.Style
  | extended => { extended := true, lenient := true, bareClasses := false }
  | perl => { extended := true, lenient := true, digits := true }
  | _ => { lenient := true, bareClasses := false }

end Form

inductive Directories
  | read
  | recurse
  | skip
  deriving DecidableEq, Repr

structure Scope where
  directories : Directories := .read
  follows : Bool := false
  rules : List (Bool × String) := []
  skippedDirectories : List String := []

namespace Scope

def fitsName (pattern path : String) : Bool :=
  let pattern := pattern.toList
  Shell.Pattern.fits pattern path.toList || Shell.Pattern.fits pattern (lastName path).toList

/-- Whether a file is gone through. The last rule that its name fits decides. -/
def takes (scope : Scope) (path : String) : Bool :=
  match scope.rules.reverse.find? fun (_, pattern) => fitsName pattern path with
  | some (takes, _) => takes
  | none => !scope.rules.head?.any (·.1)

def entersDirectory (scope : Scope) (path : String) : Bool :=
  !scope.skippedDirectories.any fun pattern => fitsName (withoutSlashes pattern) path

end Scope

structure Search where
  options : Options
  matcher : Matcher
  scope : Scope := {}
  names? : Option Bool := none
  several : Bool := false
  label : String := "(standard input)"

structure Tally where
  found : Bool := false
  trouble : Bool := false
  wrote : Bool := false

abbrev SelectM := StateT Tally WorkM

def trouble (search : Search) (text : String) (isFailure : Bool := true) : SelectM Unit := do
  unless isFailure && search.options.silent do complain text
  modify fun tally => { tally with trouble := true }

def conclude (search : Search) (name : String) (isNamed : Bool) (progress : Progress) :
    SelectM Unit := do
  let options := search.options
  let isFound := progress.selected ≠ 0
  let shown := painted options "35" name
  match options.report with
  | .count => do
      if isNamed then emit (shown ++ (if options.zeros then "\x00" else sign options ":"))
      emit (toString progress.selected ++ "\n")
  | .name selected =>
      if isFound = selected then emit (shown ++ (if options.zeros then "\x00" else "\n"))
  | .lines =>
      if progress.binary && isFound && !options.silent then
        complain (name ++ ": binary file matches")
  | .nothing => pure ()
  modify fun tally =>
    { tally with found := tally.found || isFound, wrote := tally.wrote || progress.wrote }

def isOutput (descriptor : Nat) : WorkM Bool := do
  let view ← request .view
  match view.descriptorStatus descriptor, view.descriptorStatus 1 with
  | .ok input, .ok output => return input.kind = .file && input.identity = output.identity
  | _, _ => return false

def searchOpen (search : Search) (name : String) (isNamed : Bool) (descriptor : Nat) :
    SelectM Unit := do
  let options := search.options
  startInput
  let isCopied := options.report = .lines && options.most?.all (1 < ·)
  if isCopied && (← isOutput descriptor) then
    trouble search (name ++ ": input file is also the output") false
  else
    let start : Progress := { wrote := (← get).wrote }
    match ← readThrough options search.matcher (if isNamed then some name else none) descriptor
        Act.endless start with
    | .error error => trouble search (name ++ ": " ++ reason error)
    | .ok progress => do
        if descriptor = 0 then
          if options.most?.any (· ≤ progress.selected) then
            let work ← getThe Work
            let left := work.input.size - work.used + progress.since
            if left ≠ 0 then
              let _ ← request (.seek 0 (-(left : Int)) .current)
          else
            let _ ← request (.seek 0 0 .finish)
        startInput
        conclude search name isNamed progress

def searchPath (search : Search) : (fuel : Nat) → (isGiven : Bool) → (isNamed : Bool) →
    (path : String) → SelectM Unit
  | 0, _, _, _ => return
  | fuel + 1, isGiven, isNamed, path => do
      let view ← request .view
      let recurses := search.scope.directories = .recurse
      match view.status path (isGiven || search.scope.follows || !recurses) with
      | .error error => trouble search (path ++ ": " ++ reason error)
      | .ok status =>
          if status.kind = .directory then
            match search.scope.directories with
            | .skip => return
            | .read => trouble search (path ++ ": " ++ reason .isADirectory)
            | .recurse =>
                if search.scope.entersDirectory path then
                  for name in entriesOf view path do
                    searchPath search fuel false (search.names?.getD true)
                      (joined path (Octets.ofText (Octets.toText name)))
          else if !search.scope.takes path then return
          else if !isGiven && status.kind ≠ .file then return
          else
            match ← openInput path false with
            | .error error => trouble search (path ++ ": " ++ reason error)
            | .ok descriptor => do
                searchOpen search path isNamed descriptor
                closeInput descriptor

def searchGiven (search : Search) (path : String) : SelectM Unit := do
  let isNamed := search.names?.getD search.several
  if path = "-" then searchOpen search search.label isNamed 0
  else searchPath search Act.endless true isNamed path

/-! The command line. -/

def usage : String :=
  "Usage: grep [OPTION]... PATTERNS [FILE]...\n" ++
  "Try 'grep --help' for more information.\n"

def known : List Known :=
  ofLetters "0123456789yhHILU".toList ++
  [⟨"A", "after-context", .required⟩, ⟨"B", "before-context", .required⟩,
    ⟨"C", "context", .required⟩, ⟨"D", "devices", .required⟩, ⟨"E", "extended-regexp", .none⟩,
    ⟨"F", "fixed-strings", .none⟩, ⟨"G", "basic-regexp", .none⟩, ⟨"P", "perl-regexp", .none⟩,
    ⟨"a", "text", .none⟩, ⟨"b", "byte-offset", .none⟩, ⟨"", "binary-files", .required⟩,
    ⟨"c", "count", .none⟩, ⟨"", "color", .optional⟩, ⟨"color", "colour", .optional⟩,
    ⟨"d", "directories", .required⟩, ⟨"e", "regexp", .required⟩, ⟨"f", "file", .required⟩,
    ⟨"", "exclude", .required⟩, ⟨"", "exclude-from", .required⟩, ⟨"", "exclude-dir", .required⟩,
    ⟨"", "include", .required⟩, ⟨"i", "ignore-case", .none⟩, ⟨"", "no-ignore-case", .none⟩,
    ⟨"T", "initial-tab", .none⟩, ⟨"", "label", .required⟩, ⟨"", "line-buffered", .none⟩,
    ⟨"n", "line-number", .none⟩, ⟨"x", "line-regexp", .none⟩, ⟨"m", "max-count", .required⟩,
    ⟨"h", "no-filename", .none⟩, ⟨"s", "no-messages", .none⟩, ⟨"H", "with-filename", .none⟩,
    ⟨"Z", "null", .none⟩, ⟨"z", "null-data", .none⟩, ⟨"o", "only-matching", .none⟩,
    ⟨"q", "quiet", .none⟩, ⟨"q", "silent", .none⟩, ⟨"r", "recursive", .none⟩,
    ⟨"R", "dereference-recursive", .none⟩, ⟨"v", "invert-match", .none⟩,
    ⟨"w", "word-regexp", .none⟩, ⟨"l", "files-with-matches", .none⟩,
    ⟨"L", "files-without-match", .none⟩, ⟨"U", "binary", .none⟩,
    ⟨"", "group-separator", .required⟩, ⟨"", "no-group-separator", .none⟩]

def patternsOf (text : List Char) : List (List Char) :=
  text.splitOn '\n'

def regexOf (form : Form) (pattern : List Char) : Except Regex.Defect Regex :=
  match form with
  | .fixed => .ok (Regex.literal pattern)
  | form => Regex.parse form.style pattern

def idleSigns (form : Form) (pattern : List Char) : List String :=
  if form = .extended then go true pattern else []
where
  go (isStart : Bool) : List Char → List String
    | '\\' :: _ :: rest => go false rest
    | '[' :: rest => go false rest
    | '(' :: rest | '|' :: rest => go true rest
    | '^' :: rest => go isStart rest
    | '\x7b' :: rest =>
        if isStart && rest.head?.any Char.isDigit && rest.contains '\x7d' then
          "\x7b...\x7d" :: go false rest
        else go false rest
    | c :: rest =>
        if isStart && ['*', '+', '?'].contains c then c.toString :: go true rest
        else go false rest
    | [] => []

def contextLength (text : String) : WorkM Nat := do
  match text.toNat? with
  | some length => return length
  | none => die (text ++ ": invalid context length argument") 2

def givenPatterns (line : CommandLine) : WorkM (List (String × List Char)) := do
  let mut patterns := []
  for (key, value) in line.options do
    if key = "e" then patterns := patterns ++ (patternsOf value.toList).map fun text => ("", text)
    else if key = "f" then
      match ← contentOf value with
      | .error error => die (value ++ ": " ++ reason error) 2
      | .ok content =>
          let (texts, _) := linesOf (Octets.ofBytes content)
          patterns := patterns ++ texts.zipIdx.map fun (text, index) =>
            (value ++ ":" ++ toString (index + 1) ++ ": ", text)
  return patterns

def formOf (line : CommandLine) : WorkM Form := do
  let forms := ["E", "F", "G", "P"].filter line.has
  match forms with
  | [] | ["G"] => return .basic
  | ["E"] => return .extended
  | ["F"] => return .fixed
  | ["P"] => return .perl
  | _ => die "conflicting matchers specified" 2

/-- Patterns as one expression. Complains of all that are none. -/
def compiled (form : Form) (patterns : List (String × List Char)) : WorkM (Option Regex) := do
  let mut regexes := []
  let mut isRight := true
  for (place, pattern) in patterns do
    match regexOf form pattern with
    | .ok regex => regexes := regexes ++ [regex]
    | .error defect => do
        complain (place ++ defect.message)
        isRight := false
  unless isRight do throw 2
  for (_, pattern) in patterns do
    for mark in idleSigns form pattern do
      complain ("warning: " ++ mark ++ " at start of expression")
  match regexes with
  | [] => return none
  | first :: rest => return some (rest.foldl Regex.alt first)

def directoriesOf (line : CommandLine) : WorkM Directories := do
  match line.options.reverse.find? fun (key, _) => ["d", "r", "R"].contains key with
  | some ("d", "read") | none => return .read
  | some ("d", "recurse") => return .recurse
  | some ("d", "skip") => return .skip
  | some ("d", action) => do
      complain ("invalid argument " ++ quoted action ++ " for '--directories'")
      remark ("Valid arguments are:\n  - 'read'\n  - 'recurse'\n  - 'skip'\n" ++ usage)
      throw 1
  | some _ => return .recurse

def binariesOf (line : CommandLine) : WorkM Binaries := do
  match line.options.reverse.find? fun (key, _) => ["a", "I", "binary-files"].contains key with
  | none => return .told
  | some ("a", _) => return .asText
  | some ("I", _) => return .skipped
  | some (_, "binary") => return .told
  | some (_, "text") => return .asText
  | some (_, "without-match") => return .skipped
  | some _ => die "unknown binary-files type" 2

def mostOf (line : CommandLine) : WorkM (Option Nat) := do
  match line.last? "m" with
  | none => return none
  | some text =>
      match text.toInt? with
      | some most => return if most < 0 then none else some most.toNat
      | none => die "invalid max count" 2

def contextOf (line : CommandLine) : WorkM (Option Nat × Option Nat) := do
  let lengthOf (key : String) : WorkM (Option Nat) := do
    match line.last? key with
    | some text => return some (← contextLength text)
    | none => return none
  for (key, value) in line.options do
    if ["A", "B", "C"].contains key then let _ ← contextLength value
  let digits := String.join ((line.options.map (·.1)).filter fun key =>
    key.toList.all Char.isDigit && !key.isEmpty)
  let both ← lengthOf "C"
  let both := match digits.toNat? with
    | some length => some length
    | none => both
  let before ← lengthOf "B"
  let after ← lengthOf "A"
  return (before.or both, after.or both)

def main (args : List String) : WorkM Unit := do
  modify fun work => { work with usage? := some usage }
  onWriteFailure 2
  let line ← commandLine known args true 2
  let form ← formOf line
  let isGiven := line.has "e" || line.has "f"
  if !isGiven && line.operands.isEmpty then pointToHelp 2
  let patterns ← if isGiven then givenPatterns line
    else pure ((patternsOf (line.operands.headD "").toList).map fun text => ("", text))
  let operands := if isGiven then line.operands else line.operands.tail
  let directories ← directoriesOf line
  let most? ← mostOf line
  let (before?, after?) ← contextOf line
  let binaries ← binariesOf line
  if (line.last? "D").any fun action => action ≠ "read" && action ≠ "skip" then
    die "unknown devices method" 2
  let report : Report :=
    if line.has "q" then .nothing
    else
      match line.lastOf? ["l", "L"] with
      | some "l" => .name true
      | some _ => .name false
      | none => if line.has "c" then .count else .lines
  let hasContext := before?.isSome || after?.isSome
  let separator? := match line.lastOf? ["group-separator", "no-group-separator"] with
    | some "no-group-separator" => none
    | some _ => line.last? "group-separator"
    | none => some "--"
  let options : Options :=
    { report, inverted := line.has "v", partsOnly := line.has "o", showsNumbers := line.has "n"
      showsOffsets := line.has "b", tabs := line.has "T", zeros := line.has "Z"
      mark := if line.has "z" then '\x00' else '\n'
      most?, before := before?.getD 0, after := after?.getD 0
      separator? := if hasContext then separator? else none
      silent := line.has "s", binaries
      colored := (line.last? "color").any fun choice => ["always", "yes", "force"].contains choice
      flushes := line.has "line-buffered" }
  let matcher : Matcher :=
    { regex? := ← compiled form patterns
      folds := (line.lastOf? ["i", "y", "no-ignore-case"]).any (· ≠ "no-ignore-case")
      words := line.has "w", whole := line.has "x" }
  if most? = some 0 then throw 1
  let scope : Scope :=
    { directories, follows := line.lastOf? ["r", "R"] = some "R"
      rules := line.options.filterMap fun (key, value) =>
        if key = "include" then some (true, value)
        else if key = "exclude" then some (false, value)
        else none
      skippedDirectories := line.all "exclude-dir" }
  let names? := match line.lastOf? ["h", "H"] with
    | some key => some (key = "H")
    | none => none
  let search : Search :=
    { options, matcher, scope, names?, several := 2 ≤ operands.length
      label := (line.last? "label").getD "(standard input)" }
  let run : SelectM Unit :=
    if operands.isEmpty && directories = .recurse then do
      for name in entriesOf (← request .view) "." do
        searchPath search Act.endless false (names?.getD true) name
    else
      for path in if operands.isEmpty then ["-"] else operands do searchGiven search path
  let (_, tally) ← run.run {}
  setStatus (if tally.trouble then 2 else if tally.found then 0 else 1)

def mainIn (form : String) (args : List String) : WorkM Unit := do
  modify fun work => { work with name := "grep" }
  main (form :: args)

end Bundler.Machine.Utility.Select
