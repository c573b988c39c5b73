import Bundler.Machine.Utility.Options

/-! The program `od`: bytes as numbers or characters, in lines that start with their places. -/

namespace Bundler.Machine.Utility.Dump

inductive Kind
  | signed
  | unsigned
  | octal
  | hexadecimal
  | char
  | named
  deriving DecidableEq, Repr

structure Form where
  kind : Kind
  size : Nat := 1
  trails : Bool := false

namespace Form

def width (form : Form) : Nat :=
  match form.kind, form.size with
  | .char, _ | .named, _ => 3
  | .hexadecimal, size => 2 * size
  | .octal, 1 => 3
  | .octal, 2 => 6
  | .octal, 4 => 11
  | .octal, _ => 22
  | .unsigned, 1 => 3
  | .unsigned, 2 => 5
  | .unsigned, 4 => 10
  | .unsigned, _ => 20
  | .signed, 1 => 4
  | .signed, 2 => 6
  | .signed, 4 => 11
  | .signed, _ => 20

end Form

def controlNames : List String :=
  ["nul", "soh", "stx", "etx", "eot", "enq", "ack", "bel", "bs", "ht", "nl", "vt", "ff", "cr", "so",
    "si", "dle", "dc1", "dc2", "dc3", "dc4", "nak", "syn", "etb", "can", "em", "sub", "esc", "fs",
    "gs", "rs", "us", "sp"]

def octalText (width n : Nat) : String :=
  let digits := String.ofList (Nat.toDigits 8 n)
  String.ofList (List.replicate (width - digits.length) '0') ++ digits

def hexText (width n : Nat) : String :=
  let digits := String.ofList (Nat.toDigits 16 n)
  String.ofList (List.replicate (width - digits.length) '0') ++ digits

def charText (n : Nat) : String :=
  match n with
  | 0 => "\\0"
  | 7 => "\\a"
  | 8 => "\\b"
  | 9 => "\\t"
  | 10 => "\\n"
  | 11 => "\\v"
  | 12 => "\\f"
  | 13 => "\\r"
  | n => if 32 ≤ n && n < 127 then (Char.ofNat n).toString else octalText 3 n

def nameText (n : Nat) : String :=
  let n := n % 128
  if n = 127 then "del" else (controlNames[n]?).getD (Char.ofNat n).toString

def numberOf (bigEndian : Bool) (bytes : List Nat) : Nat :=
  (if bigEndian then bytes else bytes.reverse).foldl (fun n byte => n * 256 + byte) 0

def shown (form : Form) (bigEndian : Bool) (bytes : List Nat) : String :=
  let n := numberOf bigEndian bytes
  match form.kind with
  | .signed =>
      let bits := 8 * form.size
      if Nat.pow 2 (bits - 1) ≤ n then toString ((n : Int) - Nat.pow 2 bits) else toString n
  | .unsigned => toString n
  | .octal => octalText form.width n
  | .hexadecimal => hexText form.width n
  | .char => charText n
  | .named => nameText n

/-- Parts of a size. The last one is filled with zeros. -/
def parts (size : Nat) : (fuel : Nat) → List Nat → List (List Nat)
  | 0, _ => []
  | fuel + 1, bytes =>
      if bytes.isEmpty then []
      else
        let part := bytes.take size
        (part ++ List.replicate (size - part.length) 0) :: parts size fuel (bytes.drop size)

structure Layout where
  forms : List Form
  radix? : Option Nat := some 8
  block : Nat := 16
  repeats : Bool := false
  bigEndian : Bool := false

namespace Layout

def place (layout : Layout) (n : Nat) : String :=
  match layout.radix? with
  | none => ""
  | some 16 => hexText 6 n
  | some 10 =>
      let digits := toString n
      String.ofList (List.replicate (7 - digits.length) '0') ++ digits
  | some _ => octalText 7 n

def lineWidth (layout : Layout) : Nat :=
  layout.forms.foldl (fun width form => max width ((form.width + 1) * (layout.block / form.size))) 0

/-- What one form makes of the bytes of a line. The blanks that fill it up are spread over it. -/
def row (layout : Layout) (form : Form) (bytes : List Nat) : String :=
  let count := layout.block / form.size
  let spare := layout.lineWidth - form.width * count
  let (text, _, _) := (parts form.size (bytes.length + 1) bytes).foldl
    (fun (text, left, index) part =>
      let next := spare * (index - 1) / count
      let shown := shown form layout.bigEndian part
      let width := left - next + form.width
      (text ++ String.ofList (List.replicate (width - shown.length) ' ') ++ shown, next, index - 1))
    ("", spare, count)
  if form.trails then
    let missing := layout.lineWidth - text.length
    let printed := bytes.map fun byte =>
      if 32 ≤ byte && byte < 127 then Char.ofNat byte else '.'
    text ++ String.ofList (List.replicate missing ' ') ++ "  >" ++ String.ofList printed ++ "<"
  else text

def line (layout : Layout) (start : Nat) (bytes : List Nat) : String :=
  let place := layout.place start
  let blank := String.ofList (List.replicate place.length ' ')
  String.join (layout.forms.zipIdx.map fun (form, index) =>
    (if index = 0 then place else blank) ++ layout.row form bytes ++ "\n")

def lines (layout : Layout) : (fuel : Nat) → (start : Nat) → (before? : Option (List Nat)) →
    (starred : Bool) → List Nat → List String
  | 0, _, _, _, _ => []
  | fuel + 1, start, before?, starred, bytes =>
      if bytes.isEmpty then []
      else
        let part := bytes.take layout.block
        let rest := bytes.drop layout.block
        let next := start + part.length
        let isEqual := !layout.repeats && before? = some part && part.length = layout.block
        if isEqual then
          (if starred then [] else ["*\n"]) ++ layout.lines fuel next before? true rest
        else layout.line start part :: layout.lines fuel next (some part) false rest

end Layout

def forms : (fuel : Nat) → List Char → Except String (List Form)
  | 0, _ => .ok []
  | fuel + 1, chars => do
      match chars with
      | [] => return []
      | c :: rest =>
          let trailing (kind : Kind) (size : Nat) (rest : List Char) :
              Except String (List Form) := do
            match rest with
            | 'z' :: rest => return { kind, size, trails := true } :: (← forms fuel rest)
            | rest => return { kind, size } :: (← forms fuel rest)
          let sized (kind : Kind) : Except String (List Form) := do
            let digits := rest.takeWhile Char.isDigit
            match (String.ofList digits).toNat? with
            | some size =>
                if [1, 2, 4, 8].contains size then trailing kind size (rest.drop digits.length)
                else
                  throw ("invalid type string '" ++ String.ofList chars ++ "';\n" ++
                    "this system doesn't provide a " ++ toString size ++ "-byte integral type")
            | none =>
                match rest with
                | 'C' :: rest => trailing kind 1 rest
                | 'S' :: rest => trailing kind 2 rest
                | 'I' :: rest => trailing kind 4 rest
                | 'L' :: rest => trailing kind 8 rest
                | rest => trailing kind 4 rest
          match c with
          | 'a' => trailing .named 1 rest
          | 'c' => trailing .char 1 rest
          | 'd' => sized .signed
          | 'u' => sized .unsigned
          | 'o' => sized .octal
          | 'x' => sized .hexadecimal
          | c =>
              throw ("invalid character '" ++ c.toString ++ "' in type string " ++
                quoted (String.ofList chars))

def oldForm? (letter : String) : Option String :=
  [("a", "a"), ("b", "o1"), ("c", "c"), ("d", "u2"), ("D", "u4"), ("h", "x2"), ("H", "x4"),
    ("i", "dI"), ("I", "dL"), ("l", "dL"), ("L", "dL"), ("o", "o2"), ("O", "o4"), ("B", "o2"),
    ("s", "d2"), ("x", "x2"), ("X", "x4")].lookup letter

def known : List Known :=
  ofLetters "abcdDhHiIlLoOBsxX".toList ++
  [⟨"A", "address-radix", .required⟩, ⟨"j", "skip-bytes", .required⟩,
    ⟨"N", "read-bytes", .required⟩, ⟨"t", "format", .required⟩,
    ⟨"v", "output-duplicates", .none⟩, ⟨"w", "width", .optional⟩, ⟨"", "endian", .required⟩]

def bytes? (text : String) : Option Nat :=
  let (base, chars) := match text.toList with
    | '0' :: 'x' :: rest | '0' :: 'X' :: rest => (16, rest)
    | '0' :: rest => (8, '0' :: rest)
    | chars => (10, chars)
  let value (c : Char) : Option Nat :=
    let n := if c.isDigit then c.toNat - '0'.toNat
      else if 'a' ≤ c.toLower && c.toLower ≤ 'f' then c.toLower.toNat - 'a'.toNat + 10
      else 99
    if n < base then some n else none
  let digits := chars.takeWhile fun c => (value c).isSome
  let n := digits.foldl (fun n c => n * base + (value c).getD 0) 0
  if digits.isEmpty then none
  else
    match String.ofList (chars.drop digits.length) with
    | "" => some n
    | "b" => some (n * 512)
    | "k" | "K" => some (n * 1024)
    | "m" | "M" => some (n * 1048576)
    | "kB" | "KB" => some (n * 1000)
    | "MB" => some (n * 1000000)
    | _ => none

def main (args : List String) : WorkM Unit := do
  let line ← commandLine known args
  let texts := line.options.filterMap fun (key, value) =>
    if key = "t" then some value else oldForm? key
  let found ← (if texts.isEmpty then ["oS"] else texts).mapM fun text => do
    match forms (text.length + 1) text.toList with
    | .ok forms => return forms
    | .error fault => die fault
  let radix? ← match line.last? "A" with
    | none | some "o" => pure (some 8)
    | some "d" => pure (some 10)
    | some "x" => pure (some 16)
    | some "n" => pure none
    | some text =>
        die ("invalid output address radix '" ++ String.ofList (text.toList.take 1) ++
          "'; it must be one character from [doxn]")
  let number (key name : String) : WorkM (Option Nat) := do
    match line.last? key with
    | none => return none
    | some text =>
        match bytes? text with
        | some n => return some n
        | none => die ("invalid -" ++ name ++ " argument " ++ quoted text)
  let skip := (← number "j" "j").getD 0
  let most? ← number "N" "N"
  let block := match line.last? "w" with
    | none => 16
    | some text => (text.toNat?).getD 32
  let layout : Layout :=
    { forms := found.flatten, radix?, block, repeats := line.has "v"
      bigEndian := line.last? "endian" = some "big" }
  let mut content := ByteArray.empty
  let mut isRead := line.operands.isEmpty
  for path in if line.operands.isEmpty then ["-"] else line.operands do
    match ← contentOf path with
    | .error error => grumble (quotedIfNeeded path ++ ": " ++ reason error)
    | .ok bytes =>
        content := content ++ bytes
        isRead := true
  if isRead then
    if content.size < skip then die "cannot skip past end of combined input"
    let bytes := (content.toList.drop skip).map UInt8.toNat
    let bytes := match most? with
      | some most => bytes.take most
      | none => bytes
    request (.pass pieceTime)
    for text in layout.lines (bytes.length + 1) skip none false bytes do emit text
    unless layout.radix?.isNone do emit (layout.place (skip + bytes.length) ++ "\n")

end Bundler.Machine.Utility.Dump
