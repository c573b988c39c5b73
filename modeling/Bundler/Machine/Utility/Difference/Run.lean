import Bundler.Machine.Shell.Pattern
import Bundler.Machine.Utility.Difference.Script
import Bundler.Machine.Utility.Listing

/-! The program `diff`, which shows what differs between files or directories. -/

namespace Bundler.Machine.Utility.Difference

inductive Style
  | normal
  | unified (context : Nat)
  | context (context : Nat)
  | commands
  | forwardCommands
  | counts
  | sides
  | brief
  deriving DecidableEq, Repr

structure Tolerance where
  letterCase : Bool := false
  amountOfSpace : Bool := false
  space : Bool := false
  trailingSpace : Bool := false
  blankLines : Bool := false
  tabs : Bool := false

structure Choice where
  style : Style := .normal
  tolerance : Tolerance := {}
  labels : List String := []
  recursive : Bool := false
  newFiles : Bool := false
  oldFiles : Bool := false
  tellsIdentical : Bool := false
  text : Bool := false
  initialTab : Bool := false
  expandsTabs : Bool := false
  width : Nat := 130
  leftColumn : Bool := false
  onlyChanges : Bool := false
  excluded : List String := []
  switches : String := ""

def Choice.titles (choice : Choice) (first second between : String) : String :=
  choice.labels[0]?.getD first ++ between ++ choice.labels[1]?.getD second

structure Side where
  name : String
  content : ByteArray
  modified : Nat
  lines : Array (List Char)
  ended : Bool

def isSpace (c : Char) : Bool :=
  c = ' ' || (9 ≤ c.toNat && c.toNat ≤ 13)

def withTabsExpanded : (column : Nat) → List Char → List Char
  | _, [] => []
  | column, '\t' :: rest =>
      let width := 8 - column % 8
      List.replicate width ' ' ++ withTabsExpanded (column + width) rest
  | column, c :: rest => c :: withTabsExpanded (column + 1) rest

def withSingleBlanks : List Char → Bool → List Char
  | [], _ => []
  | c :: rest, inside =>
      if isSpace c then (if inside then [] else [' ']) ++ withSingleBlanks rest true
      else c :: withSingleBlanks rest false

def withoutEndSpace (line : List Char) : List Char :=
  (line.reverse.dropWhile isSpace).reverse

namespace Tolerance

def form (tolerance : Tolerance) (line : List Char) : List Char :=
  let line := if tolerance.letterCase then line.map Char.toLower else line
  if tolerance.space then line.filter (!isSpace ·)
  else if tolerance.amountOfSpace then withSingleBlanks (withoutEndSpace line) false
  else
    let line := if tolerance.tabs then withTabsExpanded 0 line else line
    if tolerance.trailingSpace then withoutEndSpace line else line

def ignoresEnd (tolerance : Tolerance) : Bool :=
  tolerance.space || tolerance.amountOfSpace || tolerance.trailingSpace

def isBlank (tolerance : Tolerance) (line : List Char) : Bool :=
  if tolerance.ignoresEnd then line.all isSpace else line.isEmpty

end Tolerance

def sideOf (name : String) (content : ByteArray) (modified : Nat) : Side :=
  let (lines, ended) := linesOf (Octets.ofBytes content)
  { name, content, modified, lines := lines.toArray, ended }

def keysOf (tolerance : Tolerance) (completes : Bool) (first second : Side) :
    Array Nat × Array Nat :=
  let forms (side : Side) : List (List Char × Bool) :=
    side.lines.toList.zipIdx.map fun (line, i) =>
      (tolerance.form line, completes || tolerance.ignoresEnd || side.ended ||
        i + 1 ≠ side.lines.size)
  let number (known : List (List Char × Bool)) (form : List Char × Bool) :
      List (List Char × Bool) × Nat :=
    match known.idxOf? form with
    | some index => (known, index)
    | none => (known ++ [form], known.length)
  let go (state : List (List Char × Bool) × Array Nat) (form : List Char × Bool) :
      List (List Char × Bool) × Array Nat :=
    let (known, n) := number state.1 form
    (known, state.2.push n)
  let (known, firstKeys) := (forms first).foldl go ([], #[])
  let (_, secondKeys) := (forms second).foldl go (known, #[])
  (firstKeys, secondKeys)

def Style.contextSize : Style → Nat
  | .unified size => size
  | .context size => size
  | _ => 0

def commonLength [BEq α] : List α → List α → Nat
  | x :: xs, y :: ys => if x == y then commonLength xs ys + 1 else 0
  | _, _ => 0

/-- The changes from one side to the other. The same lines at both ends, but for those that are
shown around changes, are left out of the search. -/
def changesBetween (choice : Choice) (completes : Bool) (first second : Side) : List Change :=
  let whole (side : Side) : List (List Char × Bool) :=
    side.lines.toList.zipIdx.map fun (line, i) =>
      (line, completes || side.ended || i + 1 ≠ side.lines.size)
  let context := choice.style.contextSize
  let lead := commonLength (whole first) (whole second) - context
  let rest (side : Side) : List (List Char × Bool) := ((whole side).drop lead).reverse
  let trail := if completes || first.ended = second.ended then
      commonLength (rest first) (rest second) - context
    else 0
  let (firstKeys, secondKeys) := keysOf choice.tolerance completes first second
  (changes (firstKeys.extract lead (firstKeys.size - trail))
    (secondKeys.extract lead (secondKeys.size - trail))).map fun change =>
      { change with place := change.place + lead, goal := change.goal + lead }

def Choice.gap (choice : Choice) : String :=
  if choice.initialTab then "\t" else " "

def showLine (choice : Choice) (side : Side) (lead : String) (index : Nat) : WorkM Unit := do
  let line := side.lines.getD index []
  emit lead
  emitChars (if choice.expandsTabs then withTabsExpanded 0 line else line)
  emit (if index + 1 = side.lines.size && !side.ended then "\n\\ No newline at end of file\n"
    else "\n")

def rangeText (start count : Nat) (separator : String := ",") : String :=
  if count ≤ 1 then toString (start + count)
  else toString (start + 1) ++ separator ++ toString (start + count)

namespace Change

def letter (change : Change) : String :=
  if change.inserted = 0 then "d" else if change.deleted = 0 then "a" else "c"

end Change

def isTrivial (choice : Choice) (first second : Side) (change : Change) : Bool :=
  choice.tolerance.blankLines &&
    (List.range' change.place change.deleted).all (fun i =>
      choice.tolerance.isBlank (first.lines.getD i [])) &&
    (List.range' change.goal change.inserted).all fun i =>
      choice.tolerance.isBlank (second.lines.getD i [])

def showNormal (choice : Choice) (first second : Side) (changes : List Change) : WorkM Unit := do
  for change in changes do
    emit (rangeText change.place change.deleted ++ change.letter ++
      rangeText change.goal change.inserted ++ "\n")
    for i in List.range' change.place change.deleted do showLine choice first ("<" ++ choice.gap) i
    if change.letter = "c" then emit "---\n"
    for i in List.range' change.goal change.inserted do showLine choice second (">" ++ choice.gap) i

def groups (context : Nat) : List Change → List (List Change)
  | [] => []
  | change :: rest =>
      match groups context rest with
      | (next :: more) :: others =>
          if next.place - (change.place + change.deleted) < 2 * context + 1 then
            (change :: next :: more) :: others
          else [change] :: (next :: more) :: others
      | others => [change] :: others

def extentOf (context : Nat) (first second : Side) (group : List Change) :
    (Nat × Nat) × (Nat × Nat) :=
  match group.head?, group.getLast? with
  | some start, some stop =>
      let lead := min context start.place
      let goalLead := min context start.goal
      ((start.place - lead, min first.lines.size (stop.place + stop.deleted + context)),
        (start.goal - goalLead, min second.lines.size (stop.goal + stop.inserted + context)))
  | _, _ => ((0, 0), (0, 0))

/-- A range as it is shown over a group: where it starts and how many lines it has. -/
def unifiedRange (start stop : Nat) : String :=
  if stop = start + 1 then toString stop
  else if stop = start then toString stop ++ ",0"
  else toString (start + 1) ++ "," ++ toString (stop - start)

def contextRange (start stop : Nat) : String :=
  if stop ≤ start + 1 then toString stop else toString (start + 1) ++ "," ++ toString stop

def isoTime (time : Nat) : String :=
  (momentOf time).text (time % billion) 100 "%Y-%m-%d %H:%M:%S.%N +0000".toList

def plainTime (time : Nat) : String :=
  (momentOf time).text 0 100 "%a %b %e %H:%M:%S %Y".toList

/-- The lines over all groups: the names, and when the files were changed. -/
def showHeader (choice : Choice) (marks : String × String) (timeText : Nat → String)
    (first second : Side) : WorkM Unit := do
  let title (label? : Option String) (side : Side) : String :=
    label?.getD (side.name ++ "\t" ++ timeText side.modified)
  emit (marks.1 ++ " " ++ title choice.labels[0]? first ++ "\n")
  emit (marks.2 ++ " " ++ title choice.labels[1]? second ++ "\n")

def showUnified (choice : Choice) (context : Nat) (first second : Side) (changes : List Change) :
    WorkM Unit := do
  showHeader choice ("---", "+++") isoTime first second
  for group in groups context changes do
    unless group.all (isTrivial choice first second) do
      let ((start, stop), (goalStart, goalStop)) := extentOf context first second group
      emit ("@@ -" ++ unifiedRange start stop ++ " +" ++ unifiedRange goalStart goalStop ++
        " @@\n")
      let tab := if choice.initialTab then "\t" else ""
      let place ← group.foldlM (fun place change => do
        for i in List.range' place (change.place - place) do showLine choice first choice.gap i
        for i in List.range' change.place change.deleted do showLine choice first ("-" ++ tab) i
        for i in List.range' change.goal change.inserted do showLine choice second ("+" ++ tab) i
        return change.place + change.deleted) start
      for i in List.range' place (stop - place) do showLine choice first choice.gap i

/-- How a line of a side is marked in a context. `goes` tells the extent of a change on this side,
and `sign` stands for a change that only this side has. -/
def contextMark (group : List Change) (extent : Change → Nat × Nat) (others : Change → Nat)
    (sign : String) (i : Nat) : String :=
  match group.find? fun change => (extent change).1 ≤ i &&
      i < (extent change).1 + (extent change).2 with
  | some change => if others change = 0 then sign else "!"
  | none => " "

def showContext (choice : Choice) (context : Nat) (first second : Side) (changes : List Change) :
    WorkM Unit := do
  showHeader choice ("***", "---") plainTime first second
  for group in groups context changes do
    unless group.all (isTrivial choice first second) do
      let ((start, stop), (goalStart, goalStop)) := extentOf context first second group
      emit ("***************\n*** " ++ contextRange start stop ++ " ****\n")
      if group.any (0 < ·.deleted) then
        for i in List.range' start (stop - start) do
          let mark := contextMark group (fun change => (change.place, change.deleted))
            (·.inserted) "-" i
          showLine choice first (mark ++ choice.gap) i
      emit ("--- " ++ contextRange goalStart goalStop ++ " ----\n")
      if group.any (0 < ·.inserted) then
        for i in List.range' goalStart (goalStop - goalStart) do
          let mark := contextMark group (fun change => (change.goal, change.inserted))
            (·.deleted) "+" i
          showLine choice second (mark ++ choice.gap) i

def scriptLine (side : Side) (index : Nat) : WorkM Unit := do
  emitChars (side.lines.getD index [])
  emit "\n"

/-- A script for the editor `ed`, from the end to the start. A line that is a single dot is written
twice and mended. -/
def showCommands (second : Side) (changes : List Change) : WorkM Unit := do
  for change in changes.reverse do
    emit (rangeText change.place change.deleted ++ change.letter ++ "\n")
    if change.inserted ≠ 0 then
      let mut inserting := true
      for i in List.range' change.goal change.inserted do
        unless inserting do
          emit "a\n"
          inserting := true
        if second.lines.getD i [] = ['.'] then
          emit "..\n.\ns/.//\n"
          inserting := false
        else scriptLine second i
      if inserting then emit ".\n"

def showForward (second : Side) (changes : List Change) : WorkM Unit := do
  for change in changes do
    emit (change.letter ++ rangeText change.place change.deleted " " ++ "\n")
    if change.inserted ≠ 0 then
      for i in List.range' change.goal change.inserted do scriptLine second i
      emit ".\n"

def showCounts (second : Side) (changes : List Change) : WorkM Unit := do
  for change in changes do
    if change.deleted ≠ 0 then
      emit ("d" ++ toString (change.place + 1) ++ " " ++ toString change.deleted ++ "\n")
    if change.inserted ≠ 0 then
      emit ("a" ++ toString (change.place + change.deleted) ++ " " ++ toString change.inserted ++
        "\n")
      for i in List.range' change.goal change.inserted do
        emitChars (second.lines.getD i [])
        unless i + 1 = second.lines.size && !second.ended do emit "\n"

/-! Both files side by side. -/

def tabsBetween (expands : Bool) : (fuel : Nat) → (start stop : Nat) → String
  | 0, _, _ => ""
  | fuel + 1, start, stop =>
      let next := start + 8 - start % 8
      if !expands && next ≤ stop then "\t" ++ tabsBetween expands fuel next stop
      else "".pushn ' ' (stop - start)

/-- The part of a line that fits into a width, and the column behind it. `shown` is the column of
what is shown and `column` that of what has been looked at. -/
def fitting (expands : Bool) (limit : Nat) : List Char → (shown column : Nat) → List Char × Nat
  | [], shown, _ => ([], shown)
  | c :: rest, shown, column =>
      if c = '\t' then
        let next := column + 8 - column % 8
        if shown = column && expands then
          let stop := min next limit
          let (chars, last) := fitting expands limit rest (max stop shown) next
          (List.replicate (stop - shown) ' ' ++ chars, last)
        else if shown = column && next < limit then
          let (chars, last) := fitting expands limit rest next next
          (c :: chars, last)
        else fitting expands limit rest shown next
      else if column < limit then
        let (chars, last) := fitting expands limit rest (column + 1) (column + 1)
        (c :: chars, last)
      else fitting expands limit rest shown (column + 1)

def halves (choice : Choice) : Nat × Nat :=
  let tab := if choice.expandsTabs then 1 else 8
  let start := (choice.width + tab + 3) / (2 * tab) * tab
  let half := min (start - 3) (choice.width - start)
  (half, if half = 0 then choice.width else start)

def showPair (choice : Choice) (first second : Side) (left? right? : Option Nat) (sign : Char) :
    WorkM Unit := do
  let (half, start) := halves choice
  let hasEnd (side : Side) (i : Nat) : Bool := i + 1 ≠ side.lines.size || side.ended
  let leftEnd := left?.any (hasEnd first)
  let rightEnd := right?.any (hasEnd second)
  let mut column := 0
  if let some i := left? then
    let (chars, last) := fitting choice.expandsTabs half (first.lines.getD i []) 0 0
    emitChars chars
    column := last
  if sign ≠ ' ' then
    let goal := (half + start - 1) / 2
    emit (tabsBetween choice.expandsTabs (goal + 1) column goal)
    column := max column goal + 1
    emit (if sign = '|' && leftEnd ≠ rightEnd then (if leftEnd then "/" else "\\")
      else sign.toString)
  if let some i := right? then
    let line := second.lines.getD i []
    unless line.isEmpty && rightEnd do
      emit (tabsBetween choice.expandsTabs (start + 1) column start)
      emitChars (fitting choice.expandsTabs half line 0 0).1
  if leftEnd || rightEnd then emit "\n"

def showSides (choice : Choice) (first second : Side) (changes : List Change) : WorkM Unit := do
  let common (place goal count : Nat) : WorkM Unit := do
    unless choice.onlyChanges do
      for i in List.range count do
        if choice.leftColumn then showPair choice first second (some (place + i)) none '('
        else showPair choice first second (some (place + i)) (some (goal + i)) ' '
  let (place, goal) ← changes.foldlM (fun (place, goal) change => do
    common place goal (change.place - place)
    let both := min change.deleted change.inserted
    for i in List.range both do
      showPair choice first second (some (change.place + i)) (some (change.goal + i)) '|'
    for i in List.range' both (change.inserted - both) do
      showPair choice first second none (some (change.goal + i)) '>'
    for i in List.range' both (change.deleted - both) do
      showPair choice first second (some (change.place + i)) none '<'
    return (change.place + change.deleted, change.goal + change.inserted)) (0, 0)
  common place goal (first.lines.size - place)

/-- Compares two files. Gives 0 if they are equal, 1 if they differ, and 2 if there is trouble. -/
def compareSides (choice : Choice) (above : WorkM Unit) (first second : Side) : WorkM Nat := do
  let isBinary (content : ByteArray) : Bool := (content.extract 0 4096).toList.any (· == 0)
  let both := choice.titles first.name second.name
  let identical : WorkM Nat := do
    if choice.tellsIdentical then emit ("Files " ++ both " and " ++ " are identical\n")
    return 0
  if first.content.data = second.content.data && choice.style ≠ .sides then identical
  else if !choice.text && (isBinary first.content || isBinary second.content) then
    if first.content.data = second.content.data then return 0
    emit ((if choice.style = .brief then "Files " else "Binary files ") ++ both " and " ++
      " differ\n")
    return 1
  else
    let completes := choice.style = .commands || choice.style = .forwardCommands
    let all := changesBetween choice completes first second
    let shown := all.filter fun change => !isTrivial choice first second change
    if shown.isEmpty && choice.style ≠ .sides && !completes then identical
    else
      unless shown.isEmpty do above
      match choice.style with
      | .brief => emit ("Files " ++ both " and " ++ " differ\n")
      | .normal => showNormal choice first second shown
      | .unified context => showUnified choice context first second all
      | .context context => showContext choice context first second all
      | .commands => showCommands second shown
      | .forwardCommands => showForward second shown
      | .counts => showCounts second shown
      | .sides => showSides choice first second all
      if completes && !(first.ended && second.ended) then
        for (side, label?) in [(first, choice.labels[0]?), (second, choice.labels[1]?)] do
          unless side.ended do
            complain (label?.getD side.name ++ ": No newline at end of file\n")
        return 2
      else if shown.isEmpty then identical
      else return 1

def found (choice : Choice) (missingIsEmpty : Bool) (path : String) :
    WorkM (Option (Except IoError (Option FileStatus))) := do
  if path = "-" then
    match (← request .view).descriptorStatus 0 with
    | .ok status => return some (.ok (some status))
    | .error error => return some (.error error)
  else
    match (← request .view).status path with
    | .ok status => return some (.ok (some status))
    | .error error =>
        if error = .noSuchFile && (choice.newFiles || missingIsEmpty) then
          return some (.ok none)
        else return some (.error error)

/-- The content of a file and when it was changed; one that is missing is empty. -/
def load (path : String) (status? : Option FileStatus) : WorkM (Except IoError Side) := do
  match status? with
  | none => return .ok (sideOf path .empty 0)
  | some status =>
      match ← contentOf path with
      | .error error => return .error error
      | .ok content =>
          let view ← request .view
          return .ok (sideOf path content (if path = "-" then view.now else status.modified))

def kindText (status : FileStatus) : String :=
  Stat.kindText status

/-- Compares two files that are no directories. Gives the status: 0 if they are equal, 1 if they
differ, 2 if there is trouble. -/
def compareFiles (choice : Choice) (above : WorkM Unit) (firstPath secondPath : String)
    (first? second? : Option FileStatus) : WorkM Nat := do
  let isSame := match first?, second? with
    | some first, some second => first.identity = second.identity
    | _, _ => false
  if isSame && choice.style ≠ .sides then
    if choice.tellsIdentical then
      emit ("Files " ++ choice.titles firstPath secondPath " and " ++ " are identical\n")
    return 0
  match ← load firstPath first? with
  | .error error => do
      complain (firstPath ++ ": " ++ reason error)
      return 2
  | .ok first =>
      let other ← if isSame then pure (.ok { first with name := secondPath })
        else load secondPath second?
      match other with
      | .error error => do
          complain (secondPath ++ ": " ++ reason error)
          return 2
      | .ok second =>
          request (.pass pieceTime)
          compareSides choice above first second

/-- Compares what is under two names. `depth` tells how far below the operands they are. -/
def compare (choice : Choice) : (fuel : Nat) → (depth : Nat) → (first second : String) → WorkM Nat
  | 0, _, _, _ => return 2
  | fuel + 1, depth, firstPath, secondPath => do
      match (← found choice choice.oldFiles firstPath), (← found choice false secondPath) with
      | some (.ok first?), some (.ok second?) =>
          let directory (status? : Option FileStatus) : Bool :=
            status?.any (·.kind = .directory)
          if first?.isNone && second?.isNone then
            complain (firstPath ++ ": " ++ reason .noSuchFile)
            complain (secondPath ++ ": " ++ reason .noSuchFile)
            return 2
          if depth = 0 && directory first? && (second?.any (·.kind ≠ .directory)) then
            if secondPath = "-" then
              complain "cannot compare '-' to a directory"
              return 2
            let inside := joined firstPath (lastName secondPath)
            match ← found choice choice.oldFiles inside with
            | some (.ok inner?) => compareFiles choice (pure ()) inside secondPath inner? second?
            | some (.error error) => do
                complain (inside ++ ": " ++ reason error)
                return 2
            | none => return 2
          else if depth = 0 && directory second? && (first?.any (·.kind ≠ .directory)) then
            if firstPath = "-" then
              complain "cannot compare '-' to a directory"
              return 2
            let inside := joined secondPath (lastName firstPath)
            match ← found choice false inside with
            | some (.ok inner?) => compareFiles choice (pure ()) firstPath inside first? inner?
            | some (.error error) => do
                complain (inside ++ ": " ++ reason error)
                return 2
            | none => return 2
          else if directory first? || directory second? then
            match first?, second? with
            | some first, some second =>
                if first.kind ≠ second.kind then
                  emit ("File " ++ firstPath ++ " is a " ++ kindText first ++ " while file " ++
                    secondPath ++ " is a " ++ kindText second ++ "\n")
                  return 1
                if first.identity = second.identity then return 0
                if depth ≠ 0 && !choice.recursive then
                  emit ("Common subdirectories: " ++ firstPath ++ " and " ++ secondPath ++ "\n")
                  return 0
                entries fuel depth firstPath secondPath
            | _, _ => entries fuel depth firstPath secondPath
          else
            let above := if depth = 0 || choice.style = .brief then pure ()
              else emit ("diff" ++ choice.switches ++ " " ++
                choice.titles firstPath secondPath " " ++ "\n")
            compareFiles choice above firstPath secondPath first? second?
      | first, second => do
          for (path, result) in [(firstPath, first), (secondPath, second)] do
            match result with
            | some (.error error) => complain (path ++ ": " ++ reason error)
            | _ => pure ()
          return 2
where
  entries (fuel depth : Nat) (firstPath secondPath : String) : WorkM Nat := do
    let view ← request .view
    let isExcluded (name : String) : Bool :=
      choice.excluded.any fun text =>
        Shell.Pattern.fits text.toList name.toList
    let inside (path : String) : List String :=
      (entriesOf view path).filter (!isExcluded ·)
    let names := (inside firstPath ++ inside secondPath).eraseDups.mergeSort (· ≤ ·)
    names.foldlM (fun status name => do
      let isFirst := (inside firstPath).contains name
      let isSecond := (inside secondPath).contains name
      if (isFirst && isSecond) || choice.newFiles || (choice.oldFiles && isSecond) then
        return max status
          (← compare choice fuel (depth + 1) (joined firstPath name) (joined secondPath name))
      else
        emit ("Only in " ++ (if isFirst then firstPath else secondPath) ++ ": " ++ name ++ "\n")
        return max status 1) 0

/-! The command line. -/

def known : List Known :=
  [⟨"a", "text", .none⟩, ⟨"b", "ignore-space-change", .none⟩, ⟨"B", "ignore-blank-lines", .none⟩,
    ⟨"c", "", .none⟩, ⟨"C", "", .required⟩, ⟨"", "context", .optional⟩, ⟨"d", "minimal", .none⟩,
    ⟨"e", "ed", .none⟩, ⟨"E", "ignore-tab-expansion", .none⟩, ⟨"f", "forward-ed", .none⟩,
    ⟨"H", "speed-large-files", .none⟩, ⟨"i", "ignore-case", .none⟩, ⟨"L", "label", .required⟩,
    ⟨"n", "rcs", .none⟩, ⟨"N", "new-file", .none⟩, ⟨"P", "unidirectional-new-file", .none⟩,
    ⟨"q", "brief", .none⟩, ⟨"r", "recursive", .none⟩, ⟨"s", "report-identical-files", .none⟩,
    ⟨"t", "expand-tabs", .none⟩, ⟨"T", "initial-tab", .none⟩, ⟨"u", "", .none⟩,
    ⟨"U", "", .required⟩, ⟨"", "unified", .optional⟩, ⟨"w", "ignore-all-space", .none⟩,
    ⟨"W", "width", .required⟩, ⟨"x", "exclude", .required⟩, ⟨"y", "side-by-side", .none⟩,
    ⟨"Z", "ignore-trailing-space", .none⟩, ⟨"", "normal", .none⟩, ⟨"", "left-column", .none⟩,
    ⟨"", "suppress-common-lines", .none⟩, ⟨"", "color", .optional⟩,
    ⟨"", "no-dereference", .none⟩] ++ "0123456789".toList.map fun c => ⟨c.toString, "", .none⟩

def contextLength (text : String) : WorkM Nat := do
  match digits? text with
  | some n => return n
  | none => misuse ("invalid context length '" ++ text ++ "'") 2

def styleOf (line : CommandLine) : WorkM Style := do
  let digits := String.join ((line.options.filter fun (key, _) =>
    key.length = 1 && key.toList.all Char.isDigit).map (·.1))
  let mut kind? : Option String := none
  let mut context? : Option Nat := digits.toNat?
  for (key, value) in line.options do
    let kind := match key with
      | "u" | "U" | "unified" => "u"
      | "c" | "C" | "context" => "c"
      | "e" | "f" | "n" | "y" | "normal" => key
      | _ => ""
    unless kind.isEmpty do
      if kind?.any (· ≠ kind) then misuse "conflicting output style options" 2
      kind? := some kind
    if ["U", "unified", "C", "context"].contains key && (key.length = 1 || !value.isEmpty) then
      let n ← contextLength value
      context? := some (max n (context?.getD 0))
    if key = "u" || key = "c" || (value.isEmpty && (key = "unified" || key = "context")) then
      if digits.isEmpty then context? := some (max 3 (context?.getD 0))
  if line.has "q" then return .brief
  return match kind? with
    | some "u" => .unified (context?.getD 3)
    | some "c" => .context (context?.getD 3)
    | some "e" => .commands
    | some "f" => .forwardCommands
    | some "n" => .counts
    | some "y" => .sides
    | _ => .normal

def switchesOf (known : List Known) : List String → String
  | [] | "--" :: _ => ""
  | arg :: rest =>
      match arg.toList with
      | '-' :: '-' :: name =>
          let takes := known.any fun option =>
            option.arity = .required && option.name.toList = name
          " " ++ quotedIfNeeded arg ++
            (match takes, rest with
              | true, value :: rest => " " ++ quotedIfNeeded value ++ switchesOf known rest
              | _, rest => switchesOf known rest)
      | '-' :: c :: letters =>
          let takes := match (c :: letters).getLast? with
            | some last => (c :: letters).dropLast.all (fun c => !(isRequired c)) && isRequired last
            | none => false
          " " ++ quotedIfNeeded arg ++
            (match takes, rest with
              | true, value :: rest => " " ++ quotedIfNeeded value ++ switchesOf known rest
              | _, rest => switchesOf known rest)
      | _ => switchesOf known rest
where
  isRequired (c : Char) : Bool :=
    known.any fun option => option.arity = .required && option.letter = c.toString

def main (args : List String) : WorkM Unit := do
  modify fun work =>
    { work with usage? := some "diff: Try 'diff --help' for more information.\n", unwritten := 2 }
  let line ← commandLine known args true 2
  let style ← styleOf line
  let width ← match line.last? "W" with
    | none => pure 130
    | some text =>
        match digits? text with
        | some 0 | none => misuse ("invalid width '" ++ text ++ "'") 2
        | some width => pure width
  let choice : Choice :=
    { style
      tolerance :=
        { letterCase := line.has "i"
          amountOfSpace := line.has "b"
          space := line.has "w"
          trailingSpace := line.has "Z"
          blankLines := line.has "B"
          tabs := line.has "E" }
      labels := line.all "L"
      recursive := line.has "r"
      newFiles := line.has "N"
      oldFiles := line.has "N" || line.has "P"
      tellsIdentical := line.has "s"
      text := line.has "a"
      initialTab := line.has "T"
      expandsTabs := line.has "t"
      width
      leftColumn := line.has "left-column"
      onlyChanges := line.has "suppress-common-lines"
      excluded := line.all "x"
      switches := switchesOf known args }
  match line.operands with
  | [first, second] => setStatus (← compare choice 1000 0 first second)
  | _ :: _ :: extra :: _ => misuse ("extra operand '" ++ extra ++ "'") 2
  | operands =>
      let last := (operands.getLast?.or args.getLast?).getD "diff"
      misuse ("missing operand after '" ++ last ++ "'") 2

end Bundler.Machine.Utility.Difference
