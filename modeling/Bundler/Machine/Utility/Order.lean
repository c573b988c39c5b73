import Bundler.Machine.Double
import Bundler.Machine.Utility.Columns

/-! Programs about the order of lines: `sort`, `uniq`, `comm`. -/

namespace Bundler.Machine.Utility

inductive Manner
  | text
  | numeric
  | general
  | human
  | month
  | version
  deriving DecidableEq, Repr

structure Comparison where
  manner : Manner := .text
  reverse : Bool := false
  fold : Bool := false
  skipsBlanks : Bool := false
  dictionary : Bool := false
  printing : Bool := false
  deriving DecidableEq, Repr

namespace Comparison

def withLetter? (comparison : Comparison) (c : Char) : Option Comparison :=
  match c with
  | 'b' => some { comparison with skipsBlanks := true }
  | 'd' => some { comparison with dictionary := true }
  | 'f' => some { comparison with fold := true }
  | 'g' => some { comparison with manner := .general }
  | 'h' => some { comparison with manner := .human }
  | 'i' => some { comparison with printing := true }
  | 'M' => some { comparison with manner := .month }
  | 'n' => some { comparison with manner := .numeric }
  | 'R' => some comparison
  | 'r' => some { comparison with reverse := true }
  | 'V' => some { comparison with manner := .version }
  | _ => none

def isBlank (c : Char) : Bool :=
  c = ' ' || c = '\t' || c = '\n'

/-- The number at the front of a text: its digits as an integer, how many of them are behind the
point, and what follows. -/
def leading (text : List Char) : Int × Nat × List Char :=
  let text := text.dropWhile isBlank
  let (negative, text) := match text with
    | '-' :: rest => (true, rest)
    | text => (false, text)
  let whole := text.takeWhile Char.isDigit
  let rest := text.drop whole.length
  let fraction := match rest with
    | '.' :: rest => rest.takeWhile Char.isDigit
    | _ => []
  let rest := match rest with
    | '.' :: rest => rest.drop fraction.length
    | rest => rest
  let n : Nat := (whole ++ fraction).foldl (fun n c => n * 10 + (c.toNat - '0'.toNat)) 0
  (if negative then -(n : Int) else n, fraction.length, rest)

def compareNumbers (a b : Int × Nat × List Char) : Ordering :=
  compare (a.1 * Nat.pow 10 b.2.1) (b.1 * Nat.pow 10 a.2.1)

def unitRank (a : Int × Nat × List Char) : Int :=
  let rank : Nat := match a.2.2 with
    | c :: _ => match "KMGTPEZYRQ".toList.findIdx? (· = if c = 'k' then 'K' else c) with
        | some index => index + 1
        | none => 0
    | [] => 0
  if a.1 < 0 then -rank else if a.1 = 0 then 0 else rank

def monthRank (text : List Char) : Nat :=
  let head := ((text.dropWhile isBlank).take 3).map Char.toUpper
  match ["JAN", "FEB", "MAR", "APR", "MAY", "JUN", "JUL", "AUG", "SEP", "OCT", "NOV",
    "DEC"].findIdx? (· = String.ofList head) with
  | some index => index + 1
  | none => 0

/-- A number of double precision as something that can be compared. What is no number comes
first. -/
def compareDoubles (a b : List Char) : Ordering :=
  let rank (text : List Char) : Nat × Int × Nat × Nat :=
    let (x, _, rest) := Double.read text
    if rest.length = text.length then (0, 0, 1, 0)
    else match x with
      | .nan _ => (1, 0, 1, 0)
      | .infinite negative => (if negative then 2 else 4, 0, 1, 0)
      | .finite negative m e =>
          let (num, den) := Double.ratio m e
          (3, if negative then -(num : Int) else num, den, 0)
  let (i, n, d, _) := rank a
  let (j, m, e, _) := rank b
  (compare i j).then (compare (n * (e : Int)) (m * (d : Int)))

/-- Compares texts in which numbers count as such. `fuel` is more than both lengths. -/
def compareVersions : (fuel : Nat) → List Char → List Char → Ordering
  | 0, _, _ => .eq
  | fuel + 1, a, b =>
      if a.isEmpty && b.isEmpty then .eq
      else
        let rank (c? : Option Char) : Int := match c? with
          | none => 0
          | some c =>
              if c.isDigit then 0 else if c = '~' then -1 else if c.isAlpha then c.toNat
              else c.toNat + 256
        let isWord (c? : Option Char) : Bool := c?.any (!·.isDigit)
        if isWord a.head? || isWord b.head? then
          (compare (rank a.head?) (rank b.head?)).then (compareVersions fuel
            (if isWord a.head? then a.tail else a) (if isWord b.head? then b.tail else b))
        else
          let digits (text : List Char) : List Char := text.takeWhile Char.isDigit
          let n (text : List Char) : Nat := ((String.ofList (digits text)).toNat?).getD 0
          (compare (n a) (n b)).then
            (compareVersions fuel (a.drop (digits a).length) (b.drop (digits b).length))

def compareTexts : List Char → List Char → Ordering
  | [], [] => .eq
  | [], _ => .lt
  | _, [] => .gt
  | a :: as, b :: bs => (compare a.toNat b.toNat).then (compareTexts as bs)

def run (comparison : Comparison) (a b : List Char) : Ordering :=
  let order := match comparison.manner with
    | .numeric => compareNumbers (leading a) (leading b)
    | .general => compareDoubles a b
    | .human =>
        let (a, b) := (leading a, leading b)
        (compare (unitRank a) (unitRank b)).then (compareNumbers a b)
    | .month => compare (monthRank a) (monthRank b)
    | .version => compareVersions (a.length + b.length + 1) a b
    | .text =>
        let view (text : List Char) : List Char :=
          let text := if comparison.dictionary then
              text.filter fun c => c.isAlphanum || isBlank c
            else text
          let text := if comparison.printing then
              text.filter fun c => 32 ≤ c.toNat && c.toNat ≤ 126
            else text
          if comparison.fold then text.map Char.toUpper else text
        compareTexts (view a) (view b)
  if comparison.reverse then order.swap else order

end Comparison

namespace Arrange

/-- A place in a line: a field, a character in it, and whether blanks are passed over. -/
structure Place where
  field : Nat
  char : Nat
  skipsBlanks : Bool := false
  deriving DecidableEq, Repr

structure Key where
  start : Place
  stop? : Option Place := none
  comparison? : Option Comparison := none
  deriving DecidableEq, Repr

def fromField (separator? : Option Char) : (skipped : Nat) → List Char → List Char
  | 0, line => line
  | skipped + 1, line =>
      match separator? with
      | some separator => fromField separator? skipped ((line.dropWhile (· ≠ separator)).drop 1)
      | none => fromField separator? skipped
          ((line.dropWhile Comparison.isBlank).dropWhile (!Comparison.isBlank ·))

def behindField (separator? : Option Char) (fields : Nat) (line : List Char) : List Char :=
  match separator?, fields with
  | some separator, fields + 1 =>
      (fromField separator? fields line).dropWhile (· ≠ separator)
  | none, fields + 1 => fromField none (fields + 1) line
  | _, 0 => line

def part (separator? : Option Char) (key : Key) (line : List Char) : List Char :=
  let skip (place : Place) (text : List Char) : List Char :=
    if place.skipsBlanks then text.dropWhile Comparison.isBlank else text
  let start := (skip key.start (fromField separator? key.start.field line)).drop key.start.char
  match key.stop? with
  | none => start
  | some stop =>
      let left := if stop.char = 0 then behindField separator? (stop.field + 1) line
        else (skip stop (fromField separator? stop.field line)).drop stop.char
      start.take (start.length - left.length)

def count (text : List Char) : Option (Nat × List Char) :=
  let digits := text.takeWhile Char.isDigit
  if digits.isEmpty then none
  else some (((String.ofList digits).toNat?).getD 0, text.drop digits.length)

def place (spec : String) (isStart : Bool) (text : List Char) : WorkM (Place × List Char) := do
  let position := if isStart then "number at field start" else "number after ','"
  match count text with
  | none =>
      die ("invalid " ++ position ++ ": invalid count at start of " ++
        cited (String.ofList text)) 2
  | some (field, rest) => do
      if field = 0 then
        die ("field number is zero: invalid field specification " ++ cited spec) 2
      match rest with
      | '.' :: rest =>
          match count rest with
          | none =>
              die ("invalid number after '.': invalid count at start of " ++
                cited (String.ofList rest)) 2
          | some (char, rest) => do
              if char = 0 && isStart then
                die ("character offset is zero: invalid field specification " ++ cited spec) 2
              return ({ field := field - 1, char := if isStart then char - 1 else char }, rest)
      | rest => return ({ field := field - 1, char := 0 }, rest)

def letters (comparison? : Option Comparison) :
    List Char → Bool × Option Comparison × List Char
  | c :: rest =>
      match (comparison?.getD {}).withLetter? c with
      | some comparison =>
          let (skips, comparison?, rest) := letters
            (some { comparison with skipsBlanks := false }) rest
          (skips || c = 'b', comparison?, rest)
      | none => (false, comparison?, c :: rest)
  | [] => (false, comparison?, [])

def keyOf (spec : String) : WorkM Key := do
  let stray : WorkM Key :=
    die ("stray character in field spec: invalid field specification " ++ cited spec) 2
  let (start, rest) ← place spec true spec.toList
  let (skips, comparison?, rest) := letters none rest
  let start := { start with skipsBlanks := skips }
  match rest with
  | [] => return { start, comparison? }
  | ',' :: rest => do
      let (stop, rest) ← place spec false rest
      let (skips, comparison?, rest) := letters comparison? rest
      unless rest.isEmpty do return ← stray
      return { start, stop? := some { stop with skipsBlanks := skips }, comparison? }
  | _ => stray

def known : List Known :=
  [⟨"b", "ignore-leading-blanks", .none⟩, ⟨"c", "check", .optional⟩, ⟨"C", "", .none⟩,
    ⟨"d", "dictionary-order", .none⟩, ⟨"f", "ignore-case", .none⟩,
    ⟨"g", "general-numeric-sort", .none⟩, ⟨"h", "human-numeric-sort", .none⟩,
    ⟨"i", "ignore-nonprinting", .none⟩, ⟨"k", "key", .required⟩, ⟨"M", "month-sort", .none⟩,
    ⟨"m", "merge", .none⟩, ⟨"n", "numeric-sort", .none⟩, ⟨"o", "output", .required⟩,
    ⟨"R", "random-sort", .none⟩, ⟨"r", "reverse", .none⟩, ⟨"S", "buffer-size", .required⟩,
    ⟨"s", "stable", .none⟩, ⟨"t", "field-separator", .required⟩,
    ⟨"T", "temporary-directory", .required⟩, ⟨"u", "unique", .none⟩,
    ⟨"V", "version-sort", .none⟩, ⟨"z", "zero-terminated", .none⟩, ⟨"", "parallel", .required⟩]

def linesIn (mark : Char) (file : String) : WorkM (List (List Char)) := do
  match ← openInput file with
  | .error error => die ("cannot read: " ++ quotedIfNeeded file ++ ": " ++ reason error) 2
  | .ok descriptor => do
      match ← readAll descriptor with
      | .error error => die ("read failed: " ++ quotedIfNeeded file ++ ": " ++ reason error) 2
      | .ok content => do
          closeInput descriptor
          return (linesOf (Octets.ofBytes content) mark).1

def disorder? (isOrdered : List Char → List Char → Bool) :
    Nat → List (List Char) → Option (Nat × List Char)
  | n, a :: b :: rest =>
      if isOrdered a b then disorder? isOrdered (n + 1) (b :: rest) else some (n + 1, b)
  | _, _ => none

def unique (isEqual : List Char → List Char → Bool) : List (List Char) → List (List Char)
  | [] => []
  | line :: rest => line :: go line rest
where
  go (last : List Char) : List (List Char) → List (List Char)
    | [] => []
    | line :: rest => if isEqual last line then go last rest else line :: go line rest

/-- The smaller one of the first lines of some lists, before all others. `fuel` is at least the
number of all lines. -/
def merged (isOrdered : List Char → List Char → Bool) :
    (fuel : Nat) → List (List (List Char)) → List (List Char)
  | 0, _ => []
  | fuel + 1, lists =>
      let heads := lists.zipIdx.filterMap fun (lines, index) => lines.head?.map (·, index)
      match heads with
      | [] => []
      | first :: rest =>
          let (line, chosen) := rest.foldl (fun best other =>
            if isOrdered best.1 other.1 then best else other) first
          line :: merged isOrdered fuel (lists.zipIdx.map fun (lines, index) =>
            if index = chosen then lines.tail else lines)

def modern : List String → List String
  | arg :: next :: rest =>
      match startOf? arg, stopOf? next with
      | some start, some stop => "-k" :: (start ++ "," ++ stop) :: modern rest
      | some start, none => "-k" :: start :: modern (next :: rest)
      | none, _ => arg :: modern (next :: rest)
  | [arg] =>
      match startOf? arg with
      | some start => ["-k", start]
      | none => [arg]
  | [] => []
where
  position? (text : List Char) : Option (Nat × Option Nat × String) :=
    (count text).map fun (field, rest) =>
      match rest with
      | '.' :: rest =>
          match count rest with
          | some (char, rest) => (field, some char, String.ofList rest)
          | none => (field, none, String.ofList ('.' :: rest))
      | rest => (field, none, String.ofList rest)
  startOf? (arg : String) : Option String :=
    match arg.toList with
    | '+' :: rest =>
        (position? rest).map fun (field, char?, letters) =>
          toString (field + 1) ++
            (match char? with
              | some char => "." ++ toString (char + 1)
              | none => "") ++ letters
    | _ => none
  stopOf? (arg : String) : Option String :=
    match arg.toList with
    | '-' :: rest =>
        (position? rest).map fun (field, char?, letters) =>
          match char? with
          | some char => toString (field + 1) ++ "." ++ toString char ++ letters
          | none => toString field ++ letters
    | _ => none

def main (args : List String) : WorkM Unit := do
  onWriteFailure 2
  setWriteFault fun reason =>
    "fflush failed: 'standard output': " ++ reason ++ "\nsort: write error"
  let line ← commandLine known (modern args) true 2
  let manners := ["g", "h", "M", "n", "V"].filter line.has
  if 1 < manners.length then
    die ("options '-" ++ String.join manners ++ "' are incompatible") 2
  let common := line.options.foldl (fun (comparison : Comparison) (key, _) =>
    ((key.toList.head?).bind comparison.withLetter?).getD comparison) {}
  let separator? ← match line.last? "t" with
    | none => pure none
    | some text =>
        match text.toList with
        | [] => die "empty tab" 2
        | [c] => pure (some c)
        | ['\\', '0'] => pure (some '\x00')
        | _ => die ("multi-character tab " ++ cited text) 2
  let keys ← (line.all "k").mapM keyOf
  let keys := if keys.isEmpty then
      if common.skipsBlanks || common.manner ≠ .text then
        [({ start := { field := 0, char := 0, skipsBlanks := common.skipsBlanks } } : Key)]
      else []
    else keys.map fun key =>
      if key.comparison?.isSome || key.start.skipsBlanks then key
      else
        { key with
          start := { key.start with skipsBlanks := common.skipsBlanks }
          stop? := key.stop?.map fun stop =>
            { stop with skipsBlanks := stop.skipsBlanks || common.skipsBlanks } }
  let byKeys (a b : List Char) : Ordering :=
    if keys.isEmpty then common.run a b
    else keys.foldl (fun order key =>
      order.then ((key.comparison?.getD common).run (part separator? key a)
        (part separator? key b))) .eq
  let isPlain := keys.isEmpty && !common.fold && !common.dictionary && !common.printing
  let isUnique := line.has "u"
  let order (a b : List Char) : Ordering :=
    if isPlain || isUnique || line.has "s" then byKeys a b
    else
      let last := Comparison.compareTexts a b
      (byKeys a b).then (if common.reverse then last.swap else last)
  let mark := if line.has "z" then '\x00' else '\n'
  let files := if line.operands.isEmpty then ["-"] else line.operands
  let checks := line.has "c" || line.has "C"
  if checks then
    match files with
    | _ :: extra :: _ =>
        die ("extra operand " ++ quoted extra ++ " not allowed with -c") 2
    | _ => pure ()
    let file := files.headD "-"
    let lines ← linesIn mark file
    let isOrdered (a b : List Char) : Bool :=
      let order := order a b
      order = .lt || (order = .eq && !isUnique)
    match disorder? isOrdered 1 lines with
    | none => return
    | some (n, text) => do
        let silent := line.has "C" || (line.last? "c").any fun mode =>
          mode = "quiet" || mode = "silent"
        unless silent do
          complain (file ++ ":" ++ toString n ++ ": disorder: " ++ String.ofList text)
        throw 1
  else
    let lists ← files.mapM (linesIn mark)
    let lines := lists.flatten
    request (.pass (pieceTime * lines.length))
    let isOrdered (a b : List Char) : Bool := (order a b).isLE
    let sorted := if line.has "m" then merged isOrdered lines.length lists
      else lines.mergeSort isOrdered
    let sorted := if isUnique then unique (fun a b => byKeys a b = .eq) sorted else sorted
    match line.last? "o" with
    | some path => do
        match ← request (.openFile path .forWriting 0o666) with
        | .error error => die ("open failed: " ++ quotedIfNeeded path ++ ": " ++ reason error) 2
        | .ok descriptor => do
            let _ ← request (.replace descriptor 1)
    | none => pure ()
    for text in sorted do
      emitChars text
      emit mark.toString

end Arrange

namespace Unique

def known : List Known :=
  [⟨"c", "count", .none⟩, ⟨"d", "repeated", .none⟩, ⟨"D", "", .none⟩,
    ⟨"f", "skip-fields", .required⟩, ⟨"i", "ignore-case", .none⟩, ⟨"s", "skip-chars", .required⟩,
    ⟨"u", "unique", .none⟩, ⟨"w", "check-chars", .required⟩, ⟨"z", "zero-terminated", .none⟩]

def runs (key : List Char → List Char) : List (List Char) → List (List (List Char))
  | [] => []
  | line :: rest =>
      match runs key rest with
      | (next :: more) :: others =>
          if key line = key next then (line :: next :: more) :: others
          else [line] :: (next :: more) :: others
      | others => [line] :: others

def number (text : String) (what : String) : WorkM Nat := do
  match text.toNat? with
  | some n => return n
  | none => die (text ++ ": invalid number of " ++ what)

def modern (arg : String) : List String :=
  match arg.toList with
  | '-' :: c :: rest =>
      if (c :: rest).all Char.isDigit then ["-f", String.ofList (c :: rest)] else [arg]
  | '+' :: c :: rest =>
      if (c :: rest).all Char.isDigit then ["-s", String.ofList (c :: rest)] else [arg]
  | _ => [arg]

def main (args : List String) : WorkM Unit := do
  let line ← commandLine known (args.flatMap modern)
  let fields ← number ((line.last? "f").getD "0") "fields to skip"
  let chars ← number ((line.last? "s").getD "0") "bytes to skip"
  let width? ← (line.last? "w").mapM (number · "bytes to compare")
  let (input, output?) ← match line.operands with
    | [] => pure ("-", none)
    | [input] => pure (input, none)
    | [input, output] => pure (input, some output)
    | _ :: _ :: extra :: _ => extraOperand extra
  let descriptor ← match ← openInput input with
    | .ok descriptor => pure descriptor
    | .error error => die (quotedIfNeeded input ++ ": " ++ reason error)
  match output? with
  | some path =>
      unless path = "-" do
        match ← request (.openFile path .forWriting 0o666) with
        | .error error => die (quotedIfNeeded path ++ ": " ++ reason error)
        | .ok descriptor => do
            let _ ← request (.replace descriptor 1)
  | none => pure ()
  let content ← match ← readAll descriptor with
    | .ok content => pure content
    | .error error => die ("error reading " ++ quoted input ++ ": " ++ reason error)
  let mark := if line.has "z" then '\x00' else '\n'
  let key (text : List Char) : List Char :=
    let rest := (Arrange.fromField none fields text).drop chars
    let rest := match width? with
      | some width => rest.take width
      | none => rest
    if line.has "i" then rest.map Char.toUpper else rest
  for run in runs key (linesOf (Octets.ofBytes content) mark).1 do
    let count := run.length
    let shown := if line.has "D" then count ≠ 1
      else !(line.has "d" && count = 1) && !(line.has "u" && count ≠ 1)
    if shown then
      for text in if line.has "D" then run else run.take 1 do
        if line.has "c" then emit (numbered 7 count ++ " ")
        emitChars text
        emit mark.toString

end Unique

namespace Common

def known : List Known :=
  [⟨"1", "", .none⟩, ⟨"2", "", .none⟩, ⟨"3", "", .none⟩, ⟨"i", "", .none⟩,
    ⟨"", "check-order", .none⟩, ⟨"", "nocheck-order", .none⟩,
    ⟨"", "output-delimiter", .required⟩, ⟨"", "total", .none⟩, ⟨"z", "zero-terminated", .none⟩]

/-- The lines of two sorted lists in order, with the column that each belongs to. `fuel` is at least
the number of all lines. -/
def merged : (fuel : Nat) → List (List Char) → List (List Char) → List (Nat × List Char)
  | 0, _, _ => []
  | fuel + 1, first, second =>
      match first, second with
      | [], [] => []
      | a :: first, [] => (1, a) :: merged fuel first []
      | [], b :: second => (2, b) :: merged fuel [] second
      | a :: first, b :: second =>
          match Comparison.compareTexts a b with
          | .lt => (1, a) :: merged fuel first (b :: second)
          | .gt => (2, b) :: merged fuel (a :: first) second
          | .eq => (3, a) :: merged fuel first second

def main (args : List String) : WorkM Unit := do
  let line ← commandLine known args
  let (first, second) ← match line.operands with
    | [] => misuse "missing operand"
    | [one] => misuse ("missing operand after " ++ cited one)
    | [first, second] => pure (first, second)
    | _ :: _ :: extra :: _ => extraOperand extra
  let linesIn (file : String) : WorkM (List (List Char)) := do
    match ← contentOf file with
    | .ok content => return (linesOf (Octets.ofBytes content)).1
    | .error error => die (quotedIfNeeded file ++ ": " ++ reason error)
  let a ← linesIn first
  let b ← linesIn second
  let delimiter := (line.last? "output-delimiter").getD "\t"
  let shows (column : Nat) : Bool := !(line.has (toString column))
  for (column, text) in merged (a.length + b.length) a b do
    if shows column then
      let before := ((List.range column).filter fun n => n ≠ 0 && shows n).length
      emit (String.join (List.replicate before delimiter))
      emitChars text
      emit "\n"
  let isSorted (lines : List (List Char)) : Bool :=
    (Arrange.disorder? (fun a b => (Comparison.compareTexts a b).isLE) 1 lines).isNone
  unless line.has "nocheck-order" do
    for (number, lines) in [("1", a), ("2", b)] do
      unless isSorted lines do
        grumble ("file " ++ number ++ " is not in sorted order")
    if (← get).status ≠ 0 then complain "input is not in sorted order"

end Common

end Bundler.Machine.Utility
