import Bundler.Machine.Utility.Calendar
import Bundler.Machine.Utility.Copy
import Bundler.Machine.Utility.Order

/-! Programs that tell what files there are and what they are like: `ls`, `stat`. -/

namespace Bundler.Machine.Utility

def kindLetter : FileKind → String
  | .file => "-"
  | .directory => "d"
  | .link => "l"
  | .fifo => "p"
  | .device => "c"

def momentOf (nanoseconds : Nat) : Moment :=
  Moment.ofSeconds (nanoseconds / 1000000000 : Nat)

def spaceOf (status : FileStatus) : Nat :=
  match status.kind with
  | .file | .directory => (status.size + 4095) / 4096 * 4
  | _ => 0

namespace Directory

structure Entry where
  name : String
  path : String
  status : FileStatus
  target? : Option String := none
  links : Nat := 1

def known : List Known :=
  [⟨"a", "all", .none⟩, ⟨"A", "almost-all", .none⟩, ⟨"b", "escape", .none⟩,
    ⟨"B", "ignore-backups", .none⟩, ⟨"c", "", .none⟩, ⟨"C", "", .none⟩, ⟨"", "color", .optional⟩,
    ⟨"d", "directory", .none⟩, ⟨"f", "", .none⟩, ⟨"F", "classify", .optional⟩,
    ⟨"", "file-type", .none⟩, ⟨"", "format", .required⟩, ⟨"", "full-time", .none⟩,
    ⟨"g", "", .none⟩, ⟨"", "group-directories-first", .none⟩, ⟨"G", "no-group", .none⟩,
    ⟨"h", "human-readable", .none⟩, ⟨"H", "", .none⟩, ⟨"", "hide", .required⟩,
    ⟨"i", "inode", .none⟩, ⟨"I", "ignore", .required⟩, ⟨"k", "kibibytes", .none⟩,
    ⟨"l", "", .none⟩, ⟨"L", "dereference", .none⟩, ⟨"m", "", .none⟩,
    ⟨"n", "numeric-uid-gid", .none⟩, ⟨"N", "literal", .none⟩, ⟨"o", "", .none⟩, ⟨"p", "", .none⟩,
    ⟨"q", "hide-control-chars", .none⟩, ⟨"Q", "quote-name", .none⟩, ⟨"r", "reverse", .none⟩,
    ⟨"R", "recursive", .none⟩, ⟨"s", "size", .none⟩, ⟨"S", "", .none⟩, ⟨"", "sort", .required⟩,
    ⟨"t", "", .none⟩, ⟨"", "time", .required⟩, ⟨"", "time-style", .required⟩,
    ⟨"T", "tabsize", .required⟩, ⟨"u", "", .none⟩, ⟨"U", "", .none⟩, ⟨"v", "", .none⟩,
    ⟨"w", "width", .required⟩, ⟨"x", "", .none⟩, ⟨"X", "", .none⟩, ⟨"1", "", .none⟩,
    ⟨"", "zero", .none⟩]

structure Choice where
  line : CommandLine
  /-- The letter of the layout: `l`, `1`, `C`, `x` or `m`. -/
  layout : String
  ending : String

def Choice.has (choice : Choice) (key : String) : Bool :=
  choice.line.has key

def choiceOf (line : CommandLine) : Choice :=
  let layouts := ["l", "g", "o", "n", "C", "x", "m", "1", "full-time", "format"]
  let layout := match line.lastOf? layouts with
    | some "C" => "C"
    | some "x" => "x"
    | some "m" => "m"
    | some "1" =>
        if ["l", "g", "o", "n", "full-time"].any line.has then "l" else "1"
    | some "format" => match line.last? "format" with
        | some "long" | some "verbose" => "l"
        | some "commas" => "m"
        | some "across" | some "horizontal" => "x"
        | some "vertical" => "C"
        | _ => "1"
    | some _ => "l"
    | none => "1"
  { line, layout, ending := if line.has "zero" then "\x00" else "\n" }

def mark (choice : Choice) (status : FileStatus) : String :=
  let all := choice.has "F"
  if !(all || choice.has "p" || choice.has "file-type") then ""
  else match status.kind with
    | .directory => "/"
    | .link => if choice.has "p" && !all then "" else "@"
    | .fifo => if choice.has "p" && !all then "" else "|"
    | .file => if all && status.mode &&& 0o111 ≠ 0 then "*" else ""
    | .device => ""

def shownName (choice : Choice) (name : String) : String :=
  if choice.has "Q" then
    "\"" ++ String.join (name.toList.map fun c =>
      if c = '"' || c = '\\' then "\\" ++ c.toString
      else if c = '\n' then "\\n"
      else if c.toNat < 32 || 127 ≤ c.toNat then octalEscape c
      else c.toString) ++ "\""
  else if choice.has "b" then
    String.join (name.toList.map fun c =>
      if c = ' ' then "\\ " else if c = '\\' then "\\\\"
      else if c = '\n' then "\\n" else if c = '\t' then "\\t"
      else if c.toNat < 32 || 127 ≤ c.toNat then octalEscape c
      else c.toString)
  else if choice.has "q" then name.map fun c => if c.toNat < 32 || 127 ≤ c.toNat then '?' else c
  else name

def humanSize (size : Nat) : String :=
  go 8 size 1 ["", "K", "M", "G", "T", "P", "E"]
where
  go : (fuel : Nat) → (size unit : Nat) → List String → String
    | 0, size, _, _ => toString size
    | fuel + 1, size, unit, letters =>
        let letter := letters.headD ""
        if size < 1024 * unit || letters.length ≤ 1 then
          if unit = 1 then toString size
          else
            let tenths := (size * 10 + unit - 1) / unit
            if tenths < 100 then toString (tenths / 10) ++ "." ++ toString (tenths % 10) ++ letter
            else
              let whole := (size + unit - 1) / unit
              if whole = 1024 && 1 < letters.length then "1.0" ++ letters.tail.headD ""
              else toString whole ++ letter
        else go fuel size (unit * 1024) letters.tail

/-- The time in a long listing. Those half a year back or in the future show the year. -/
def timeText (choice : Choice) (now modified : Nat) : String :=
  let moment := momentOf modified
  let style := (choice.line.last? "time-style").getD ""
  if choice.has "full-time" || style = "full-iso" then
    moment.dateText ++ " " ++ moment.clockText ++ "." ++
      padded 9 '0' (modified % 1000000000) ++ " +0000"
  else if style = "long-iso" then moment.dateText ++ " " ++ moment.text 0 6 "%H:%M".toList
  else if style.toList.head? = some '+' then
    moment.text modified (style.length + 1) style.toList.tail
  else
    let recent := modified ≤ now && now < modified + 15778476 * 1000000000
    moment.text 0 20 (if recent then "%b %e %H:%M" else "%b %e  %Y").toList

def rightAligned (width : Nat) (text : String) : String :=
  String.ofList (List.replicate (width - text.length) ' ') ++ text

def widthOf (texts : List String) : Nat :=
  texts.foldl (fun width text => max width text.length) 0

def front (choice : Choice) (entries : List Entry) : List String :=
  let numbers := entries.map fun entry => toString ((entry.status.index?.getD 0) + 2)
  let spaces := entries.map fun entry =>
    if choice.has "h" then humanSize (spaceOf entry.status * 1024)
    else toString (spaceOf entry.status)
  let aligned := choice.layout ≠ "m"
  (numbers.zip spaces).map fun (number, space) =>
    (if choice.has "i" then rightAligned (if aligned then widthOf numbers else 0) number ++ " "
      else "") ++
    (if choice.has "s" then rightAligned (if aligned then widthOf spaces else 0) space ++ " "
      else "")

def longLines (choice : Choice) (now : Nat) (entries : List Entry) : List String :=
  let sizes := entries.map fun entry =>
    if choice.has "h" then humanSize entry.status.size else toString entry.status.size
  let links := entries.map fun entry => toString entry.links
  let owner := if choice.has "n" then "0" else "root"
  (entries.zip ((front choice entries).zip (sizes.zip links))).map
    fun (entry, front, size, count) =>
      front ++ kindLetter entry.status.kind ++ Permissions.letters entry.status.mode ++ " " ++
        rightAligned (widthOf links) count ++ " " ++
        (if choice.has "g" then "" else owner ++ " ") ++
        (if choice.has "o" || choice.has "G" then "" else owner ++ " ") ++
        rightAligned (widthOf sizes) size ++ " " ++ timeText choice now entry.status.modified ++
        " " ++ shownName choice entry.name ++
        (match entry.target? with
          | some target => " -> " ++ target
          | none => mark choice entry.status)

def columns (across : Bool) (width : Nat) (names : List String) : List String :=
  let count := names.length
  let lengths := names.map (·.length)
  let rowsFor (columns : Nat) : Nat := (count + columns - 1) / columns
  let columnOf (columns index : Nat) : Nat :=
    if across then index % columns else index / rowsFor columns
  let widths (columns : Nat) : List Nat :=
    (List.range columns).map fun column =>
      ((lengths.zipIdx.filter fun (_, index) => columnOf columns index = column).map fun (n, _) =>
        n + if column + 1 = columns then 0 else 2).foldl max 0
  let fitting := (List.range (count + 1)).reverse.find? fun columns =>
    columns ≠ 0 && ((widths columns).foldl (· + ·) 0 < width || columns = 1) &&
      (across || rowsFor columns * (columns - 1) < count || columns = 1)
  let columns := fitting.getD 1
  let rows := rowsFor columns
  let widths := widths columns
  (List.range rows).map fun row =>
    let cells := (List.range columns).filterMap fun column =>
      names[if across then row * columns + column else column * rows + row]?
    (cells.zipIdx.foldl (fun (line, place) (cell, column) =>
      let line := line ++ cell
      let place := place + cell.length
      if column + 1 = cells.length then (line, place)
      else
        let goal := (widths.take (column + 1)).foldl (· + ·) 0
        (line ++ indent place goal, goal)) ("", 0)).1
where
  indent (place goal : Nat) : String :=
    go (goal + 1) place goal
  go : (fuel : Nat) → (place goal : Nat) → String
    | 0, _, _ => ""
    | fuel + 1, place, goal =>
        if goal ≤ place then ""
        else if (place + 1) / 8 < goal / 8 then "\t" ++ go fuel ((place / 8 + 1) * 8) goal
        else " " ++ go fuel (place + 1) goal

def commas (width : Nat) (names : List String) : List String :=
  match names with
  | [] => []
  | first :: rest =>
      let (lines, line) := rest.foldl (fun (lines, line) (name : String) =>
        if line.length + 2 + name.length + 2 ≤ width then (lines, line ++ ", " ++ name)
        else ((line ++ ",") :: lines, name)) (([] : List String), first)
      (line :: lines).reverse

def compareEntries (choice : Choice) (a b : Entry) : Ordering :=
  let byName := Comparison.compareTexts a.name.toList b.name.toList
  let key := match choice.line.lastOf? ["S", "t", "U", "f", "v", "X", "sort", "c", "u"] with
    | some "S" => "size"
    | some "t" => "time"
    | some "v" => "version"
    | some "X" => "extension"
    | some "sort" => (choice.line.last? "sort").getD ""
    | some "c" | some "u" =>
        if ["l", "g", "o", "n"].any choice.has && !(choice.has "t") then "" else "time"
    | _ => ""
  let extension (name : String) : List Char :=
    let chars := name.toList.reverse.takeWhile (· ≠ '.')
    if chars.length = name.length then [] else chars.reverse
  let order := match key with
    | "size" => compare b.status.size a.status.size
    | "time" => compare b.status.modified a.status.modified
    | "version" =>
        Comparison.compareVersions (a.name.length + b.name.length + 1) a.name.toList b.name.toList
    | "extension" => Comparison.compareTexts (extension a.name) (extension b.name)
    | _ => .eq
  let order := order.then byName
  let order := if choice.has "r" then order.swap else order
  let rank (entry : Entry) : Nat := if entry.status.kind = .directory then 0 else 1
  if choice.has "group-directories-first" then (compare (rank a) (rank b)).then order else order

def sorted (choice : Choice) (entries : List Entry) : List Entry :=
  if choice.has "U" || choice.has "f" || choice.line.last? "sort" = some "none" then
    if choice.has "r" then entries.reverse else entries
  else entries.mergeSort fun a b => (compareEntries choice a b).isLE

/-- The file under a name. A link is followed if it is asked for and, unless `strict` is given, it
leads somewhere. -/
def entryOf (view : View) (follow strict : Bool) (name path : String) : Except IoError Entry := do
  let status ← match view.status path follow with
    | .ok status => pure status
    | .error error =>
        if follow && !strict && error = .noSuchFile then view.status path false else throw error
  let target? := match status.kind, status.index? with
    | .link, some index => match view.tree.content? index with
        | some (.link target) => some (Octets.ofText target)
        | _ => none
    | _, _ => none
  let links := (status.index?.map view.tree.linkCount).getD 1
  return { name, path, status, target?, links }

def present (choice : Choice) (now : Nat) (entries : List Entry) : WorkM Unit := do
  let names := ((front choice entries).zip entries).map fun (front, entry) =>
    front ++ shownName choice entry.name ++ mark choice entry.status
  let width := ((choice.line.last? "w").bind String.toNat?).getD 80
  let lines := match choice.layout with
    | "l" => longLines choice now entries
    | "C" => columns false (if width = 0 then 1000000 else width) names
    | "x" => columns true (if width = 0 then 1000000 else width) names
    | "m" => commas (if width = 0 then 1000000 else width) names
    | _ => names
  for line in lines do emit (line ++ choice.ending)

def isHidden (choice : Choice) (name : String) : Bool :=
  let fits (pattern : String) : Bool := match pattern.toList.reverse with
    | '*' :: back => back.reverse.isPrefixOf name.toList
    | _ => match pattern.toList with
        | '*' :: rest => rest.isSuffixOf name.toList
        | _ => pattern = name
  (name.toList.head? = some '.' && !(choice.has "a" || choice.has "A" || choice.has "f")) ||
    (choice.has "B" && name.toList.getLast? = some '~') ||
    (choice.line.all "I").any fits ||
    (!(choice.has "a" || choice.has "A") && (choice.line.all "hide").any fits)

/-- Lists a directory, and those below it if that is asked for. `fuel` bounds the depth. -/
def directory (choice : Choice) (headed : Bool) :
    (fuel : Nat) → (isFirst : Bool) → (path : String) → WorkM Unit
  | 0, _, _ => return
  | fuel + 1, isFirst, path => do
      let view ← request .view
      let names := (latestEntriesOf view path).filter (!isHidden choice ·)
      let dots := if choice.has "a" || choice.has "f" then [".", ".."] else []
      let entries := (dots ++ names).filterMap fun name =>
        match entryOf view (choice.has "L") false name (joined path name) with
        | .ok entry => some entry
        | .error _ => none
      let entries := sorted choice entries
      if headed then emit ((if isFirst then "" else "\n") ++ quotedHeading path ++ ":\n")
      if choice.layout = "l" || choice.has "s" then
        let total := (entries.map fun entry => spaceOf entry.status).foldl (· + ·) 0
        emit ("total " ++ (if choice.has "h" then humanSize (total * 1024) else toString total) ++
          choice.ending)
      present choice view.now entries
      if choice.has "R" then
        for entry in entries do
          if entry.status.kind = .directory && entry.name ≠ "." && entry.name ≠ ".." then
            directory choice headed fuel false entry.path
where
  quotedHeading (path : String) : String :=
    shownName choice path

def main (args : List String) : WorkM Unit := do
  onWriteFailure 2
  let line ← commandLine known args true 2
  let choice := choiceOf line
  let operands := if line.operands.isEmpty then ["."] else line.operands
  let view ← request .view
  let follows := line.has "L" || line.has "H" ||
    !(line.has "d" || line.has "F" || choice.layout = "l")
  let mut files : List Entry := []
  let mut directories : List Entry := []
  for path in operands do
    match entryOf view follows (line.has "L") path path with
    | .error error => grumble ("cannot access " ++ quoted path ++ ": " ++ reason error) 2
    | .ok entry =>
        if entry.status.kind = .directory && !(line.has "d") then
          directories := directories ++ [entry]
        else files := files ++ [entry]
  let shown := sorted choice files
  present choice view.now shown
  let headed := 1 < operands.length || line.has "R"
  let mut isFirst := shown.isEmpty
  for entry in sorted choice directories do
    directory choice headed 1000 isFirst entry.path
    isFirst := false

end Directory

namespace Stat

def known : List Known :=
  [⟨"c", "format", .required⟩, ⟨"", "printf", .required⟩, ⟨"L", "dereference", .none⟩,
    ⟨"f", "file-system", .none⟩, ⟨"t", "terse", .none⟩]

def kindText (status : FileStatus) : String :=
  match status.kind with
  | .file => if status.size = 0 then "regular empty file" else "regular file"
  | .directory => "directory"
  | .link => "symbolic link"
  | .fifo => "fifo"
  | .device => "character special file"

def timeText (nanoseconds : Nat) : String :=
  let moment := momentOf nanoseconds
  moment.dateText ++ " " ++ moment.clockText ++ "." ++ padded 9 '0' (nanoseconds % 1000000000) ++
    " +0000"

def fieldText (entry : Directory.Entry) (c : Char) : Option String :=
  let status := entry.status
  let octal (n : Nat) : String := String.ofList (Nat.toDigits 8 n)
  let seconds := toString (status.modified / 1000000000)
  match c with
  | 'a' => some (octal status.mode)
  | 'A' => some (kindLetter status.kind ++ Permissions.letters status.mode)
  | 'b' => some (toString (spaceOf status * 2))
  | 'B' => some "512"
  | 'F' => some (kindText status)
  | 'f' =>
      let kindBits := match status.kind with
        | .file => 0o100000
        | .directory => 0o040000
        | .link => 0o120000
        | .fifo => 0o010000
        | .device => 0o020000
      some (String.ofList (Nat.toDigits 16 (kindBits + status.mode)))
  | 'g' | 'u' => some "0"
  | 'G' | 'U' => some "root"
  | 'h' => some (toString entry.links)
  | 'i' => some (toString (status.index?.getD 0 + 2))
  | 'n' => some entry.name
  | 'N' =>
      some (quoted entry.name ++ match entry.target? with
        | some target => " -> " ++ quoted target
        | none => "")
  | 'o' => some "4096"
  | 's' => some (toString status.size)
  | 't' | 'T' => some "0"
  | 'x' | 'y' | 'z' => some (timeText status.modified)
  | 'w' => some (timeText status.modified)
  | 'X' | 'Y' | 'Z' | 'W' => some seconds
  | '%' => some "%"
  | _ => none

def formatted (entry : Directory.Entry) (escapes : Bool) : (fuel : Nat) → List Char → String
  | 0, _ => ""
  | fuel + 1, chars =>
      match chars with
      | '%' :: rest =>
          let spec := rest.takeWhile fun c => c.isDigit || c = '-' || c = '.'
          match rest.drop spec.length with
          | c :: rest =>
              let text := (fieldText entry c).getD "?"
              let left := spec.head? = some '-'
              let width := ((String.ofList (spec.filter Char.isDigit)).toNat?).getD 0
              let missing := String.ofList (List.replicate (width - text.length) ' ')
              (if left then text ++ missing else missing ++ text) ++
                formatted entry escapes fuel rest
          | [] => "%"
      | '\\' :: c :: rest =>
          if escapes then
            (match c with
              | 'n' => "\n"
              | 't' => "\t"
              | '\\' => "\\"
              | c => c.toString) ++ formatted entry escapes fuel rest
          else "\\" ++ formatted entry escapes fuel (c :: rest)
      | c :: rest => c.toString ++ formatted entry escapes fuel rest
      | [] => ""

def main (args : List String) : WorkM Unit := do
  let line ← commandLine known args
  for path in ← someOperands line do
    let view ← request .view
    match Directory.entryOf view (line.has "L") true path path with
    | .error error => grumble ("cannot statx " ++ quoted path ++ ": " ++ reason error)
    | .ok entry =>
        match line.last? "c", line.last? "printf" with
        | some format, _ => emit (formatted entry false (format.length + 1) format.toList ++ "\n")
        | none, some format => emit (formatted entry true (format.length + 1) format.toList)
        | none, none => do
            let status := entry.status
            emit ("  File: " ++ (match entry.target? with
              | some target => path ++ " -> " ++ target
              | none => path) ++ "\n")
            emit ("  Size: " ++ leftAligned 10 (toString status.size) ++ "\tBlocks: " ++
              leftAligned 10 (toString (spaceOf status * 2)) ++ " IO Block: 4096   " ++
              kindText status ++ "\n")
            emit ("Device: 0,1\tInode: " ++
              leftAligned 11 (toString (status.index?.getD 0 + 2)) ++ " Links: " ++
              toString entry.links ++ "\n")
            emit ("Access: (" ++ Permissions.octal status.mode ++ "/" ++ kindLetter status.kind ++
              Permissions.letters status.mode ++
              ")  Uid: (    0/    root)   Gid: (    0/    root)\n")
            for label in ["Access", "Modify", "Change"] do
              emit (label ++ ": " ++ timeText status.modified ++ "\n")
            emit (" Birth: " ++ timeText status.modified ++ "\n")
where
  leftAligned (width : Nat) (text : String) : String :=
    text ++ String.ofList (List.replicate (width - text.length) ' ')

end Stat

end Bundler.Machine.Utility
