import Bundler.Machine.Utility.Cat

/-! Programs that pick columns out of lines or put lines side by side: `cut`, `paste`, `fold`,
`nl`. -/

namespace Bundler.Machine.Utility

def eachLine (files : List String) (excuse : String → IoError → String) (mark : UInt8)
    (value : β) (step : β → List Char → WorkM β) : WorkM β := do
  let mut value := value
  for file in if files.isEmpty then ["-"] else files do
    match ← openInput file with
    | .error error => grumble (excuse file error)
    | .ok descriptor => do
        match ← foldLines descriptor mark value fun value line => do
            return (← step value line, true) with
        | .ok result => value := result
        | .error error => grumble (excuse file error)
        closeInput descriptor
  return value

def plainExcuse (file : String) (error : IoError) : String :=
  quotedIfNeeded file ++ ": " ++ reason error

namespace Cut

abbrev Range := Nat × Option Nat

def contains (ranges : List Range) (n : Nat) : Bool :=
  ranges.any fun (first, last?) => first ≤ n && last?.all (n ≤ ·)

def starts (ranges : List Range) (n : Nat) : Bool :=
  contains ranges n && (n = 1 || !contains ranges (n - 1) ||
    (ranges.any (·.1 = n) && !ranges.any fun (first, last?) => first < n && last?.all (n ≤ ·)))

inductive Kind
  | field
  | position
  deriving DecidableEq

def rangeOf (kind : Kind) (text : String) : WorkM Range := do
  let number (digits : String) : WorkM Nat := do
    match digits.toNat? with
    | some n =>
        if Nat.pow 2 64 - 1 ≤ n then
          misuse ((if kind = .field then "field number " else "byte/character offset ") ++
            cited digits ++ " is too large")
        else if n = 0 then zero
        else return n
    | none => invalid text
  match text.splitOn "-" with
  | [""] => zero
  | [single] => do
      unless single.toList.all Char.isDigit do invalid single
      let n ← number single
      return (n, some n)
  | [first, last] => do
      unless first.toList.all Char.isDigit do invalid first
      unless last.toList.all Char.isDigit do invalid last
      if first.isEmpty && last.isEmpty then misuse ("invalid range with no endpoint: -")
      let start ← if first.isEmpty then pure 1 else number first
      if last.isEmpty then return (start, none)
      match last.toNat? with
      | some stop =>
          if stop < start then misuse "invalid decreasing range"
          return (start, some stop)
      | none => invalid last
  | _ => misuse (if kind = .field then "invalid field range" else "invalid byte or character range")
where
  zero {α : Type} : WorkM α :=
    misuse (if kind = .field then "fields are numbered from 1"
      else "byte/character positions are numbered from 1")
  invalid {α : Type} (text : String) : WorkM α :=
    misuse ((if kind = .field then "invalid field value "
        else "invalid byte/character position ") ++
      cited (String.ofList (text.toList.dropWhile Char.isDigit)))

def known : List Known :=
  [⟨"b", "bytes", .required⟩, ⟨"c", "characters", .required⟩, ⟨"d", "delimiter", .required⟩,
    ⟨"f", "fields", .required⟩, ⟨"n", "", .none⟩, ⟨"s", "only-delimited", .none⟩,
    ⟨"z", "zero-terminated", .none⟩, ⟨"", "complement", .none⟩,
    ⟨"", "output-delimiter", .required⟩]

def main (args : List String) : WorkM Unit := do
  let line ← commandLine known args
  let lists := line.options.filter fun (key, _) => key = "b" || key = "c" || key = "f"
  if (line.all "d").any (1 < ·.length) then misuse "the delimiter must be a single character"
  match lists with
  | [] => misuse "you must specify a list of bytes, characters, or fields"
  | _ :: _ :: _ => misuse "only one list may be specified"
  | [(key, text)] => do
      let kind := if key = "f" then Kind.field else .position
      if kind = .position && line.has "d" then
        misuse "an input delimiter may be specified only when operating on fields"
      if kind = .position && line.has "s" then
        misuse "suppressing non-delimited lines makes sense\n\tonly when operating on fields"
      let ranges ← ((text.map fun c => if c = ' ' || c = '\t' then ',' else c).splitOn ",").mapM
        (rangeOf kind)
      let complement := line.has "complement"
      let isKept (n : Nat) : Bool := complement != contains ranges n
      let mark : UInt8 := if line.has "z" then 0 else 10
      let ending := if line.has "z" then "\x00" else "\n"
      let delimiter := ((line.last? "d").bind (·.toList.head?)).getD
        (if line.has "d" then '\x00' else '\t')
      let output? := line.last? "output-delimiter"
      eachLine line.operands plainExcuse mark () fun _ chars => do
        match kind with
        | .field =>
            let parts := chars.splitOn delimiter
            if parts.length ≤ 1 then
              unless line.has "s" do
                emitChars chars
                emit ending
            else
              let kept := (parts.zipIdx.filter fun (_, index) => isKept (index + 1)).map (·.1)
              emitChars ((((output?.map String.toList).getD [delimiter]).intercalate kept))
              emit ending
        | .position =>
            let kept := chars.zipIdx.filter fun (_, index) => isKept (index + 1)
            let text := match output? with
              | none => kept.map (·.1)
              | some output => (kept.zipIdx.map fun ((c, index), place) =>
                  let begins := if complement then !isKept index else starts ranges (index + 1)
                  if place ≠ 0 && begins then output.toList ++ [c] else [c]).flatten
            emitChars text
            emit ending

end Cut

namespace Paste

def unescape : List Char → List (List Char)
  | '\\' :: c :: rest =>
      (match c with
        | 'n' => ['\n']
        | 't' => ['\t']
        | 'r' => ['\r']
        | 'b' => ['\x08']
        | 'f' => ['\x0c']
        | 'v' => ['\x0b']
        | '0' => []
        | c => [c]) :: unescape rest
  | c :: rest => [c] :: unescape rest
  | [] => []

def known : List Known :=
  [⟨"d", "delimiters", .required⟩, ⟨"s", "serial", .none⟩, ⟨"z", "zero-terminated", .none⟩]

def joinWith (delimiters : List (List Char)) (parts : List (List Char)) : List Char :=
  match parts with
  | [] => []
  | first :: rest =>
      first ++ (rest.zipIdx.map fun (part, index) =>
        ((delimiters[index % delimiters.length]?).getD []) ++ part).flatten

def main (args : List String) : WorkM Unit := do
  let line ← commandLine known args
  let text := (line.last? "d").getD "\t"
  let delimiters := if text.isEmpty then [[]] else unescape text.toList
  let mark := if line.has "z" then '\x00' else '\n'
  let files := if line.operands.isEmpty then ["-"] else line.operands
  let dashes := (files.filter (· = "-")).length
  let mut contents : List (List (List Char)) := []
  let mut dash := 0
  let input ← if dashes = 0 then pure (.ok .empty) else readAll 0
  for file in files do
    let content ← if file = "-" then pure input else contentOf file
    match content with
    | .error error =>
        if line.has "s" then grumble (plainExcuse file error) else die (plainExcuse file error)
    | .ok bytes =>
        let lines := (linesOf (Octets.ofBytes bytes) mark).1
        if file = "-" && !(line.has "s") then
          let turn := dash
          contents := ((lines.zipIdx.filter fun (_, index) => index % dashes = turn).map (·.1)) ::
            contents
          dash := dash + 1
        else contents := (if file = "-" && dash ≠ 0 then [] else lines) :: contents
        if file = "-" && line.has "s" then dash := dash + 1
  let columns := contents.reverse
  if line.has "s" then
    for lines in columns do
      emitChars (joinWith delimiters lines)
      emit mark.toString
  else
    let rows := columns.foldl (fun n lines => max n lines.length) 0
    for row in List.range rows do
      emitChars (joinWith delimiters (columns.map fun lines => (lines[row]?).getD []))
      emit mark.toString

end Paste

namespace Fold

def known : List Known :=
  [⟨"b", "bytes", .none⟩, ⟨"s", "spaces", .none⟩, ⟨"w", "width", .required⟩]

def advance (bytes : Bool) (column : Nat) (c : Char) : Nat :=
  if bytes then column + 1
  else match c with
    | '\x08' => column - 1
    | '\r' => 0
    | '\t' => column + 8 - column % 8
    | _ => column + 1

def parts (bytes spaces : Bool) (width : Nat) :
    (fuel : Nat) → (column : Nat) → List Char → List Char → List (List Char)
  | 0, _, back, rest => [back.reverse ++ rest]
  | fuel + 1, column, back, rest =>
      match rest with
      | [] => [back.reverse]
      | c :: after =>
          let next := advance bytes column c
          if next ≤ width || back.isEmpty then parts bytes spaces width fuel next (c :: back) after
          else
            let word := if spaces then back.takeWhile fun c => c ≠ ' ' && c ≠ '\t' else []
            if spaces && word.length < back.length then
              (back.drop word.length).reverse ::
                parts bytes spaces width fuel (word.reverse.foldl (advance bytes) 0) word rest
            else back.reverse :: parts bytes spaces width fuel 0 [] rest

def modern (arg : String) : List String :=
  match arg.toList with
  | '-' :: c :: rest =>
      if (c :: rest).all Char.isDigit then ["-w", String.ofList (c :: rest)] else [arg]
  | _ => [arg]

def main (args : List String) : WorkM Unit := do
  let line ← commandLine known (args.flatMap modern)
  let text := (line.last? "w").getD "80"
  let width ← match text.toNat? with
    | some width =>
        if width = 0 then die ("invalid number of columns: " ++ cited text) else pure width
    | none => die ("invalid number of columns: " ++ cited text)
  eachContent line.operands plainExcuse fun chars => do
    let (lines, ended) := linesOf chars
    for (text, index) in lines.zipIdx do
      emitChars (['\n'].intercalate
        (parts (line.has "b") (line.has "s") width (2 * text.length + 2) 0 [] text))
      if ended || index + 1 < lines.length then emit "\n"

end Fold

namespace NumberLines

def known : List Known :=
  [⟨"b", "body-numbering", .required⟩, ⟨"h", "header-numbering", .required⟩,
    ⟨"f", "footer-numbering", .required⟩, ⟨"i", "line-increment", .required⟩,
    ⟨"n", "number-format", .required⟩, ⟨"s", "number-separator", .required⟩,
    ⟨"v", "starting-line-number", .required⟩, ⟨"w", "number-width", .required⟩,
    ⟨"p", "no-renumber", .none⟩, ⟨"d", "section-delimiter", .required⟩,
    ⟨"l", "join-blank-lines", .required⟩]

def main (args : List String) : WorkM Unit := do
  let line ← commandLine known args
  let natural (key : String) (normal : Nat) : Nat :=
    ((line.last? key).bind String.toNat?).getD normal
  let width := natural "w" 6
  let step := natural "i" 1
  let separator := (line.last? "s").getD "\t"
  let style := (line.last? "b").getD "t"
  let format := (line.last? "n").getD "rn"
  let text (n : Nat) : String :=
    let digits := toString n
    let missing := width - digits.length
    match format with
    | "ln" => digits ++ String.ofList (List.replicate missing ' ')
    | "rz" => String.ofList (List.replicate missing '0') ++ digits
    | _ => String.ofList (List.replicate missing ' ') ++ digits
  let _ ← eachLine line.operands plainExcuse 10 (natural "v" 1) fun n chars => do
    if style = "a" || (style = "t" && !chars.isEmpty) then
      emit (text n ++ separator)
      emitChars chars
      emit "\n"
      return n + step
    else
      emit (String.ofList (List.replicate (width + separator.length) ' '))
      emitChars chars
      emit "\n"
      return n

end NumberLines

end Bundler.Machine.Utility
