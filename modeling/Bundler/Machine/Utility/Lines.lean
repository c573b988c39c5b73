import Bundler.Machine.Utility.Options

/-! Programs that show the first or last part of files, or count what is in them: `head`, `tail`,
`wc`. -/

namespace Bundler.Machine.Utility

def amount? (text : List Char) : Option Nat :=
  let digits := text.takeWhile Char.isDigit
  let n := ((String.ofList digits).toNat?).getD 0
  let power? (letter : Char) : Option Nat :=
    match "KMGTPEZYRQ".toList.findIdx? (· = letter.toUpper) with
    | some index =>
      if letter = 'k' || letter.isUpper || letter = 'm' then some (index + 1) else none
    | none => none
  let unit? : Option Nat := match text.drop digits.length with
    | [] => some 1
    | ['b'] => some 512
    | [letter] => (power? letter).map (Nat.pow 1024 ·)
    | [letter, 'B'] => (power? letter).map (Nat.pow 1000 ·)
    | [letter, 'i', 'B'] => (power? letter).map (Nat.pow 1024 ·)
    | _ => none
  if digits.isEmpty then none else unit?.map (n * ·)

structure Portion where
  bytes : Bool := false
  /-- Whether it is counted from the other end: all but so many for `head`, from the one of that
  number on for `tail`. -/
  reversed : Bool := false
  count : Nat := 10
  zeros : Bool := false

namespace Portion

def unitName (portion : Portion) : String :=
  if portion.bytes then "bytes" else "lines"

def mark (portion : Portion) : UInt8 :=
  if portion.zeros then 0 else 10

def withCount (portion : Portion) (sign : Char) (text : String) : WorkM Portion := do
  let bad (text tail : String) : WorkM Portion :=
    die ("invalid number of " ++ portion.unitName ++ ": " ++ cited text ++ tail)
  let (reversed, rest) : Bool × List Char := match text.toList with
    | c :: rest =>
        if c = sign then (true, rest)
        else if sign = '+' && c = '-' then (false, rest)
        else (false, text.toList)
    | [] => (false, [])
  match amount? rest with
  | none => bad (if sign = '-' then String.ofList rest else text) ""
  | some count =>
      if Nat.pow 2 64 ≤ count then
        bad (if sign = '-' then String.ofList rest else text)
          ": Value too large for defined data type"
      else return { portion with reversed, count }

end Portion

def showsNames (line : CommandLine) : Bool :=
  match line.lastOf? ["q", "v"] with
  | some "q" => false
  | some _ => true
  | none => 1 < line.operands.length

def nameLine (first : Bool) (file : String) : String :=
  (if first then "" else "\n") ++ "==> " ++ (if file = "-" then "standard input" else file) ++
    " <==\n"

def endsOf (mark : UInt8) (content : ByteArray) : Array Nat :=
  go content.size content 0 #[]
where
  go : (fuel : Nat) → ByteArray → Nat → Array Nat → Array Nat
    | 0, _, _, ends => ends
    | fuel + 1, content, start, ends =>
        match findByte content mark (content.size + 1) start with
        | some place => go fuel content (place + 1) (ends.push (place + 1))
        | none => ends

namespace Head

def known : List Known :=
  [⟨"c", "bytes", .required⟩, ⟨"n", "lines", .required⟩, ⟨"q", "quiet", .none⟩,
    ⟨"q", "silent", .none⟩, ⟨"v", "verbose", .none⟩, ⟨"z", "zero-terminated", .none⟩]

def kept (portion : Portion) (content : ByteArray) : ByteArray :=
  if portion.bytes then content.extract 0 (content.size - portion.count)
  else
    let ends := endsOf portion.mark content
    let ends := if ends.back?.getD 0 < content.size then ends.push content.size else ends
    if portion.count < ends.size then
      content.extract 0 ((ends[ends.size - portion.count - 1]?).getD 0)
    else .empty

def copyBytes (descriptor : Nat) : (fuel : Nat) → Nat → WorkM (Except IoError Unit)
  | 0, _ => return .ok ()
  | fuel + 1, count => do
      if count = 0 then return .ok ()
      match ← readSome descriptor (min count 8192) Act.endless with
      | .error error => return .error error
      | .ok bytes => do
          if bytes.isEmpty then return .ok ()
          emitBytes bytes
          flush
          copyBytes descriptor fuel (count - bytes.size)

/-- Passes lines on until there are enough. What was read too far is given back if that is
possible. -/
def copyLines (mark : UInt8) (descriptor : Nat) : (fuel : Nat) → Nat → WorkM (Except IoError Unit)
  | 0, _ => return .ok ()
  | fuel + 1, count => do
      if count = 0 then return .ok ()
      match ← readSome descriptor 8192 Act.endless with
      | .error error => return .error error
      | .ok bytes => do
          if bytes.isEmpty then return .ok ()
          let ends := endsOf mark bytes
          match ends[count - 1]? with
          | some stop => do
              let _ ← request (.seek descriptor (-((bytes.size - stop : Nat) : Int)) .current)
              emitBytes (bytes.extract 0 stop)
              return .ok ()
          | none => do
              emitBytes bytes
              flush
              copyLines mark descriptor fuel (count - ends.size)

def present (portion : Portion) (descriptor : Nat) : WorkM (Except IoError Unit) := do
  if portion.reversed then
    match ← readAll descriptor with
    | .error error => return .error error
    | .ok content => do
        emitBytes (kept portion content)
        return .ok ()
  else if portion.bytes then copyBytes descriptor Act.endless portion.count
  else copyLines portion.mark descriptor Act.endless portion.count

def modern (args : List String) : List String :=
  match args with
  | arg :: rest =>
      match arg.toList with
      | '-' :: c :: more =>
          if c.isDigit then
            let digits := c :: more.takeWhile Char.isDigit
            let letters := (c :: more).drop digits.length
            let units := letters.filter fun c => c = 'b' || c = 'k' || c = 'm'
            let count := String.ofList (digits ++ units.reverse.take 1)
            let others := letters.filter fun c => c = 'q' || c = 'v' || c = 'z'
            (if letters.contains 'c' || !units.isEmpty then "-c" else "-n") :: count ::
              others.map (fun c => "-" ++ c.toString) ++ rest
          else args
      | _ => args
  | [] => []

def main (args : List String) : WorkM Unit := do
  let line ← commandLine known (modern args)
  let portion ← line.options.foldlM (fun (portion : Portion) (key, value) => do
    match key with
    | "c" => ({ portion with bytes := true } : Portion).withCount '-' value
    | "n" => ({ portion with bytes := false } : Portion).withCount '-' value
    | "z" => return { portion with zeros := true }
    | _ => return portion) {}
  let shows := showsNames line
  let files := if line.operands.isEmpty then ["-"] else line.operands
  let mut first := true
  for file in files do
    match ← openInput file with
    | .error error => grumble ("cannot open " ++ quoted file ++ " for reading: " ++ reason error)
    | .ok descriptor => do
        if shows then emit (nameLine first file)
        first := false
        match ← present portion descriptor with
        | .ok _ => pure ()
        | .error error =>
            grumble ("error reading " ++ quoted (if file = "-" then "standard input" else file) ++
              ": " ++ reason error)
        closeInput descriptor

end Head

namespace Tail

def known : List Known :=
  [⟨"c", "bytes", .required⟩, ⟨"f", "follow", .optional⟩, ⟨"F", "", .none⟩,
    ⟨"n", "lines", .required⟩, ⟨"q", "quiet", .none⟩, ⟨"q", "silent", .none⟩,
    ⟨"s", "sleep-interval", .required⟩, ⟨"v", "verbose", .none⟩, ⟨"", "pid", .required⟩,
    ⟨"", "retry", .none⟩, ⟨"z", "zero-terminated", .none⟩]

def kept (portion : Portion) (content : ByteArray) : ByteArray :=
  let size := content.size
  if portion.bytes then
    content.extract (if portion.reversed then portion.count - 1 else size - portion.count) size
  else
    let ends := endsOf portion.mark content
    let ends := if ends.back?.getD 0 < size then ends.push size else ends
    let skipped := if portion.reversed then portion.count - 1 else ends.size - portion.count
    let start := if skipped = 0 then 0 else (ends[skipped - 1]?).getD size
    content.extract start size

def follow (descriptor : Nat) (pause : Nat) : (fuel : Nat) → WorkM Unit
  | 0 => return
  | fuel + 1 => do
      match ← readAll descriptor with
      | .error _ => return
      | .ok bytes => do
          emitBytes bytes
          flush
          let _ ← request (.sleep pause)
          follow descriptor pause fuel

def modern (args : List String) : List String :=
  match args with
  | arg :: rest =>
      let parts (sign : Char) (digits letters : List Char) : List String :=
        let unit := if letters.contains 'c' then "-c" else "-n"
        let count := if digits.isEmpty then "10" else String.ofList digits
        let count := if letters.contains 'b' then
            toString ((count.toNat?.getD 0) * 512) else count
        unit :: ((if sign = '+' then "+" else "") ++ count) ::
          (if letters.contains 'f' then ["-f"] else []) ++ rest
      let isOld (letters : List Char) : Bool :=
        ["", "c", "l", "b", "f", "cf", "lf", "bf"].contains (String.ofList letters)
      match arg.toList with
      | '-' :: c :: more =>
          let digits := (c :: more).takeWhile Char.isDigit
          let letters := (c :: more).drop digits.length
          if !digits.isEmpty && isOld letters then parts '-' digits letters else args
      | '+' :: more =>
          let digits := more.takeWhile Char.isDigit
          let letters := more.drop digits.length
          if rest.length ≤ 1 && (!digits.isEmpty || !letters.isEmpty) && isOld letters then
            parts '+' digits letters
          else args
      | _ => args
  | [] => []

def main (args : List String) : WorkM Unit := do
  let line ← commandLine known (modern args)
  let portion ← line.options.foldlM (fun (portion : Portion) (key, value) => do
    match key with
    | "c" => ({ portion with bytes := true } : Portion).withCount '+' value
    | "n" => ({ portion with bytes := false } : Portion).withCount '+' value
    | "z" => return { portion with zeros := true }
    | _ => return portion) {}
  let shows := showsNames line
  let follows := line.has "f" || line.has "F"
  let pause := ((line.last? "s").bind String.toNat?).getD 1 * 1000000000
  let files := if line.operands.isEmpty then ["-"] else line.operands
  let mut first := true
  for file in files do
    match ← openInput file with
    | .error error => grumble ("cannot open " ++ quoted file ++ " for reading: " ++ reason error)
    | .ok descriptor => do
        if shows then emit (nameLine first file)
        first := false
        match ← readAll descriptor with
        | .ok content => do
            emitBytes (kept portion content)
            if follows && file ≠ "-" then
              flush
              follow descriptor pause Act.endless
        | .error error =>
            grumble ("error reading " ++ quoted (if file = "-" then "standard input" else file) ++
              ": " ++ reason error)
        closeInput descriptor
  if follows && (← get).status ≠ 0 then complain "no files remaining"

end Tail

namespace Count

structure Tally where
  lines : Nat := 0
  words : Nat := 0
  bytes : Nat := 0
  widest : Nat := 0
  width : Nat := 0
  inWord : Bool := false

namespace Tally

def step (tally : Tally) (byte : UInt8) : Tally :=
  let tally := { tally with bytes := tally.bytes + 1 }
  let wider (width : Nat) : Tally := { tally with width, inWord := false }
  if byte == 10 then
    { tally with
      lines := tally.lines + 1
      widest := max tally.widest tally.width
      width := 0
      inWord := false }
  else if byte == 13 || byte == 12 then
    { tally with widest := max tally.widest tally.width, width := 0, inWord := false }
  else if byte == 9 then wider (tally.width + 8 - tally.width % 8)
  else if byte == 32 then wider (tally.width + 1)
  else if byte == 11 then { tally with inWord := false }
  else if 32 < byte.toNat && byte.toNat < 127 then
    { tally with
      width := tally.width + 1
      words := if tally.inWord then tally.words else tally.words + 1
      inWord := true }
  else tally

def finish (tally : Tally) : Tally :=
  { tally with widest := max tally.widest tally.width }

def add (a b : Tally) : Tally where
  lines := a.lines + b.lines
  words := a.words + b.words
  bytes := a.bytes + b.bytes
  widest := max a.widest b.widest

end Tally

def known : List Known :=
  [⟨"c", "bytes", .none⟩, ⟨"m", "chars", .none⟩, ⟨"l", "lines", .none⟩, ⟨"w", "words", .none⟩,
    ⟨"L", "max-line-length", .none⟩, ⟨"", "files0-from", .required⟩, ⟨"", "total", .required⟩]

def widthOf (view : View) (columns : Nat) (files : List String) : Nat :=
  let status (file : String) : Except IoError FileStatus :=
    if file = "-" then view.descriptorStatus 0 else view.status file
  if files.length = 1 && columns = 1 then 1
  else
    let found := files.filterMap fun file => match status file with
      | .ok status => some status
      | .error _ => none
    let total := (found.filter (·.kind = .file)).foldl (fun sum status => sum + status.size) 0
    let least := if found.all (·.kind = .file) then 1 else 7
    max least (toString total).length

def tallyOf (descriptor : Nat) : (fuel : Nat) → Tally → WorkM (Tally × Option IoError)
  | 0, tally => return (tally, none)
  | fuel + 1, tally => do
      match ← readSome descriptor 16384 Act.endless with
      | .error error => return (tally, some error)
      | .ok bytes =>
          if bytes.isEmpty then return (tally, none)
          else tallyOf descriptor fuel (bytes.foldl Tally.step tally)

def main (args : List String) : WorkM Unit := do
  setWriteFault fun _ => "write error"
  let line ← commandLine known args
  let chosen := ["l", "w", "m", "c", "L"].filter line.has
  let chosen := if chosen.isEmpty then ["l", "w", "c"] else chosen
  let named := !line.operands.isEmpty
  let files := if named then line.operands else ["-"]
  let width := widthOf (← request .view) chosen.length files
  let row (tally : Tally) (name : String) : String :=
    let numbers := chosen.map fun column =>
      let text := toString (match column with
        | "l" => tally.lines
        | "w" => tally.words
        | "L" => tally.widest
        | _ => tally.bytes)
      String.ofList (List.replicate (width - text.length) ' ') ++ text
    String.intercalate " " numbers ++ (if name.isEmpty then "" else " " ++ name) ++ "\n"
  let total := (line.last? "total").getD "auto"
  let mut sum : Tally := {}
  for file in files do
    match ← openInput file with
    | .error error => grumble (quotedIfNeeded file ++ ": " ++ reason error)
    | .ok descriptor => do
        let (tally, fault?) ← tallyOf descriptor Act.endless {}
        match fault? with
        | some error => grumble (quotedIfNeeded file ++ ": " ++ reason error)
        | none => pure ()
        let tally := tally.finish
        sum := sum.add tally
        if total ≠ "only" then emit (row tally (if named then file else ""))
        closeInput descriptor
  if total = "always" || total = "only" || (total = "auto" && 1 < files.length) then
    emit (row sum (if total = "only" then "" else "total"))

end Count

end Bundler.Machine.Utility
