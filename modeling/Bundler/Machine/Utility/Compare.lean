import Bundler.Machine.Utility.Options

/-! The program `cmp`, which tells where two files differ first. -/

namespace Bundler.Machine.Utility.Compare

def known : List Known :=
  [⟨"b", "print-bytes", .none⟩, ⟨"i", "ignore-initial", .required⟩, ⟨"l", "verbose", .none⟩,
    ⟨"n", "bytes", .required⟩, ⟨"s", "quiet", .none⟩, ⟨"s", "silent", .none⟩]

def size? (text : String) : Option Nat :=
  let digits := text.toList.takeWhile Char.isDigit
  let n := ((String.ofList digits).toNat?).getD 0
  let power (c : Char) : Option Nat :=
    ("KMGTPEZY".toList.findIdx? (· = (if c = 'k' then 'K' else c))).map (· + 1)
  if digits.isEmpty then none
  else
    match text.toList.drop digits.length with
    | [] => some n
    | [c] => (power c).map fun power => n * Nat.pow 1024 power
    | [c, 'B'] => (power c).map fun power => n * Nat.pow 1000 power
    | [c, 'i', 'B'] => (power c).map fun power => n * Nat.pow 1024 power
    | _ => none

def sizes? (text : String) : Option (Nat × Nat) :=
  match text.splitOn ":" with
  | [both] => (size? both).map fun n => (n, n)
  | [first, second] => (size? first).bind fun m => (size? second).map (m, ·)
  | _ => none

/-- A byte as it is shown: marks stand for control characters and for high bytes. -/
def shown (byte : UInt8) : String :=
  let n := byte.toNat
  let low := n % 128
  (if 128 ≤ n then "M-" else "") ++
    (if low < 32 then "^" ++ (Char.ofNat (low + 64)).toString
    else if low = 127 then "^?"
    else (Char.ofNat low).toString)

def octal (byte : UInt8) : String :=
  let digits := String.ofList (Nat.toDigits 8 byte.toNat)
  "".pushn ' ' (3 - digits.length) ++ digits

def firstDifference (a b : ByteArray) : (fuel : Nat) → (place : Nat) → Nat
  | 0, place => place
  | fuel + 1, place =>
      match a[place]?, b[place]? with
      | some x, some y => if x == y then firstDifference a b fuel (place + 1) else place
      | _, _ => place

def lineEnds (content : ByteArray) (place : Nat) : Nat :=
  ((content.extract 0 place).toList.filter (· == 10)).length

def endText (name : String) (shorter : ByteArray) (withLine : Bool) : String :=
  if shorter.isEmpty then "EOF on " ++ name ++ " which is empty"
  else
    let lines := lineEnds shorter shorter.size
    "EOF on " ++ name ++ " after byte " ++ toString shorter.size ++
      (if !withLine then ""
      else if shorter[shorter.size - 1]? == some 10 then ", line " ++ toString lines
      else ", in line " ++ toString (lines + 1))

def present (line : CommandLine) (firstName secondName : String) (a b : ByteArray) :
    WorkM Unit := do
  let bytes := line.has "b"
  let place := firstDifference a b (a.size + 1) 0
  let common := min a.size b.size
  if place = a.size && place = b.size then return
  setStatus 1
  if line.has "s" then return
  if line.has "l" then
    let width := (toString (max a.size b.size)).length
    for i in List.range' place (common - place) do
      match a[i]?, b[i]? with
      | some x, some y =>
          if x != y then
            let number := toString (i + 1)
            emit ("".pushn ' ' (width - number.length) ++ number ++ " ")
            if bytes then
              emit (octal x ++ " " ++ shown x ++ "".pushn ' ' (4 - (shown x).length) ++ " " ++
                octal y ++ " " ++ shown y ++ "\n")
            else emit (octal x ++ " " ++ octal y ++ "\n")
      | _, _ => pure ()
  else if place < common then
    emit (firstName ++ " " ++ secondName ++ " differ: " ++ (if bytes then "byte " else "char ") ++
      toString (place + 1) ++ ", line " ++ toString (lineEnds a place + 1))
    match a[place]?, b[place]? with
    | some x, some y =>
        if bytes then
          emit (" is " ++ octal x ++ " " ++ shown x ++ " " ++ octal y ++ " " ++ shown y)
    | _, _ => pure ()
    emit "\n"
  if a.size ≠ b.size && (line.has "l" || place = common) then
    let (name, shorter) := if a.size < b.size then (firstName, a) else (secondName, b)
    complain (endText name shorter !(line.has "l"))

def part (content : ByteArray) (skipped : Nat) (limit? : Option Nat) : ByteArray :=
  content.extract skipped (match limit? with
    | some limit => min content.size (skipped + limit)
    | none => content.size)

def main (args : List String) : WorkM Unit := do
  modify fun work =>
    { work with usage? := some "cmp: Try 'cmp --help' for more information.\n" }
  let line ← commandLine known args true 2
  let mut skips : Nat × Nat := (0, 0)
  let mut limit? : Option Nat := none
  for (key, value) in line.options do
    if key = "i" then
      match sizes? value with
      | some (m, n) => skips := (max skips.1 m, max skips.2 n)
      | none => misuse ("invalid --ignore-initial value '" ++ value ++ "'") 2
    if key = "n" then
      match size? value with
      | some n => limit? := some (min n (limit?.getD n))
      | none => misuse ("invalid --bytes value '" ++ value ++ "'") 2
  if line.has "l" && line.has "s" then misuse "options -l and -s are incompatible" 2
  let (first, second, more) ← match line.operands with
    | [] => misuse "missing operand after 'cmp'" 2
    | [first] => pure (first, "-", [])
    | first :: second :: more => pure (first, second, more)
  for (text, index) in more.zipIdx do
    match size? text with
    | some n =>
        if index = 0 then skips := (max skips.1 n, skips.2)
        else if index = 1 then skips := (skips.1, max skips.2 n)
    | none => misuse ("invalid --ignore-initial value '" ++ text ++ "'") 2
    if index = 2 then misuse ("extra operand '" ++ text ++ "'") 2
  let order := if second = "-" then [second, first] else [first, second]
  let mut found : List (String × Nat) := []
  for path in order do
    unless first = second && found.length = 1 && skips.1 = skips.2 do
      match ← openInput path with
      | .ok descriptor => found := found ++ [(path, descriptor)]
      | .error error =>
          if line.has "s" then throw 2 else die (path ++ ": " ++ reason error) 2
  match found with
  | [one, other] => do
      let (a, b) := if second = "-" then (other, one) else (one, other)
      match ← readAll a.2 with
      | .error error => die (a.1 ++ ": " ++ reason error) 2
      | .ok firstContent =>
          match ← readAll b.2 with
          | .error error => die (b.1 ++ ": " ++ reason error) 2
          | .ok secondContent =>
              present line first second (part firstContent skips.1 limit?)
                (part secondContent skips.2 limit?)
  | _ => return

end Bundler.Machine.Utility.Compare
