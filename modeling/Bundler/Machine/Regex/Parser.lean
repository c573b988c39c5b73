import Bundler.Machine.Regex.Basic

/-! Regular expressions as they are written, in the basic and in the extended way. -/

namespace Bundler.Machine

namespace Regex

inductive Defect
  | openGroup
  | closedGroup
  | openBracket
  | openBrace
  | braces
  | preceding
  | range
  | className
  | collation
  | reference
  | backslash
  | bareBracket
  | bareClass
  | tooBig
  deriving DecidableEq, Repr

namespace Defect

def message : Defect → String
  | openGroup => "Unmatched ( or \\("
  | closedGroup => "Unmatched ) or \\)"
  | openBracket => "Unmatched [, [^, [:, [., or [="
  | openBrace => "Unmatched \\\x7b"
  | braces => "Invalid content of \\\x7b\\\x7d"
  | preceding => "Invalid preceding regular expression"
  | range => "Invalid range end"
  | className => "Invalid character class name"
  | collation => "Invalid collation character"
  | reference => "Invalid back reference"
  | backslash => "Trailing backslash"
  | bareBracket => "Invalid regular expression"
  | bareClass => "character class syntax is [[:space:]], not [:space:]"
  | tooBig => "Regular expression too big"

end Defect

structure Style where
  extended : Bool := false
  repeats : Bool := true
  lenient : Bool := false
  digits : Bool := false
  plain : Bool := false
  bareClasses : Bool := true
  newlines : Bool := true

def class? (name : String) : Option (Char → Bool) :=
  let graphic (c : Char) : Bool := 33 ≤ c.toNat && c.toNat ≤ 126
  match name with
  | "alnum" => some Char.isAlphanum
  | "alpha" => some Char.isAlpha
  | "blank" => some fun c => c = ' ' || c = '\t'
  | "cntrl" => some fun c => c.toNat < 32 || c.toNat = 127
  | "digit" => some Char.isDigit
  | "graph" => some graphic
  | "lower" => some Char.isLower
  | "print" => some fun c => graphic c || c = ' '
  | "punct" => some fun c => graphic c && !c.isAlphanum
  | "space" => some isBlank
  | "upper" => some Char.isUpper
  | "xdigit" => some fun c => c.isDigit || ('a' ≤ c && c ≤ 'f') || ('A' ≤ c && c ≤ 'F')
  | _ => none
where
  isBlank (c : Char) : Bool :=
    c = ' ' || (9 ≤ c.toNat && c.toNat ≤ 13)

def untilClosed (mark : Char) : List Char → Option (List Char × List Char)
  | a :: b :: rest =>
      if a = mark && b = ']' then some ([], rest)
      else (untilClosed mark (b :: rest)).map fun (text, rest) => (a :: text, rest)
  | _ => none

def endpoint (style : Style) (chars : List Char) : Except Defect (Char × List Char) :=
  match chars with
  | '\\' :: c :: rest => .ok (if style.plain then (c, rest) else ('\\', c :: rest))
  | '[' :: mark :: rest =>
      if mark = '.' || mark = '=' then
        match untilClosed mark rest with
        | some ([c], rest) => .ok (c, rest)
        | some _ => .error .collation
        | none => .error .openBracket
      else .ok ('[', mark :: rest)
  | c :: rest => .ok (c, rest)
  | [] => .error .openBracket

/-- The members of a set behind its first bracket, and what follows the set. `fuel` is more than the
length of the text. -/
def members (style : Style) : (fuel : Nat) → (isFirst : Bool) → List Char →
    Except Defect ((Char → Bool) × List Char)
  | 0, _, _ => .error .openBracket
  | fuel + 1, isFirst, chars => do
      match chars with
      | [] => throw .openBracket
      | '[' :: ':' :: rest =>
          match untilClosed ':' rest with
          | none => throw .openBracket
          | some (name, rest) =>
              match class? (String.ofList name) with
              | none => throw .className
              | some test =>
                  let (more, rest) ← members style fuel false rest
                  return (fun c => test c || more c, rest)
      | c :: rest =>
          if c = ']' && !isFirst then return (fun _ => false, rest)
          let (start, rest) ← endpoint style (c :: rest)
          match rest with
          | '-' :: next :: after =>
              if next = ']' then
                let (more, rest) ← members style fuel false rest
                return (fun c => c = start || more c, rest)
              else
                let (stop, rest) ← endpoint style (next :: after)
                if stop < start && !style.plain then throw .range
                let (more, rest) ← members style fuel false rest
                let isEnd (c : Char) : Bool := stop < start && (c = start || c = '-' || c = stop)
                return (fun c => (start ≤ c && c ≤ stop) || isEnd c || more c, rest)
          | rest =>
              let (more, rest) ← members style fuel false rest
              return (fun c => c = start || more c, rest)

def isClassName : List Char → Bool
  | ':' :: rest => 2 ≤ rest.length && rest.getLast? = some ':' && !rest.contains '-'
  | _ => false

def bracket (style : Style) (chars : List Char) : Except Defect (Regex × List Char) := do
  let readSet (chars : List Char) : Except Defect ((Char → Bool) × List Char) := do
    if chars.isEmpty then throw .bareBracket
    let (test, rest) ← members style (chars.length + 1) true chars
    if !style.bareClasses && isClassName (chars.take (chars.length - rest.length - 1)) then
      throw .bareClass
    return (test, rest)
  match chars with
  | '^' :: rest =>
      let (test, rest) ← readSet rest
      return (set fun c => !test c && (style.newlines || c ≠ '\n'), rest)
  | chars =>
      let (test, rest) ← readSet chars
      return (set test, rest)

def number? (chars : List Char) : Option Nat × List Char :=
  let digits := chars.takeWhile Char.isDigit
  (if digits.isEmpty then none
    else some (digits.foldl (fun n c => n * 10 + (c.toNat - '0'.toNat)) 0),
    chars.drop digits.length)

def mostRepetitions : Nat :=
  32767

/-- The bounds of a repetition behind an opening brace, and what follows the closing one. Without a
result the brace stands for itself. -/
def bounds (style : Style) (chars : List Char) :
    Except Defect (Option (Nat × Option Nat × List Char)) := do
  let malformed (defect : Defect) : Except Defect (Option (Nat × Option Nat × List Char)) :=
    if style.extended && (style.lenient || style.plain) then .ok none else .error defect
  let close (rest : List Char) : Option (List Char) :=
    match style.extended, rest with
    | true, '\x7d' :: rest => some rest
    | false, '\\' :: '\x7d' :: rest => some rest
    | _, _ => none
  let (least?, rest) := number? chars
  let (most?, rest) : Option Nat × List Char := match rest with
    | ',' :: rest => number? rest
    | rest => (least?, rest)
  let isComma := (chars.dropWhile Char.isDigit).head? = some ','
  if least?.isNone && !isComma then
    malformed (if chars.isEmpty then .openBrace else .braces)
  else
    match close rest with
    | some rest =>
        let least := least?.getD 0
        if most?.any (· < least) then throw .braces
        if mostRepetitions < most?.getD least then throw .tooBig
        return some (least, most?, rest)
    | none => malformed (if rest.isEmpty then .openBrace else .braces)

def repetition? (style : Style) (chars : List Char) :
    Except Defect (Option (Nat × Option Nat × List Char)) := do
  match style.extended, chars with
  | _, '*' :: rest => return some (0, none, rest)
  | true, '+' :: rest | false, '\\' :: '+' :: rest => return some (1, none, rest)
  | true, '?' :: rest | false, '\\' :: '?' :: rest => return some (0, some 1, rest)
  | true, ['\x7b'] => return none
  | true, '\x7b' :: rest | false, '\\' :: '\x7b' :: rest => bounds style rest
  | _, _ => return none

def repeated (style : Style) : (fuel : Nat) → Regex → List Char →
    Except Defect (Regex × List Char)
  | 0, regex, chars => .ok (regex, chars)
  | fuel + 1, regex, chars => do
      match ← repetition? style chars with
      | none => return (regex, chars)
      | some (least, most, rest) =>
          let regex := rep regex least most
          if style.repeats then repeated style fuel regex rest
          else
            match ← repetition? style rest with
            | none => return (regex, rest)
            | some _ => throw .preceding

def escaped (style : Style) (c : Char) : Regex :=
  if style.plain then char c
  else match c with
  | 'w' => set isWord
  | 'W' => set fun c => !isWord c && (style.newlines || c ≠ '\n')
  | 's' => set class?.isBlank
  | 'S' => set fun c => !class?.isBlank c
  | 'd' => if style.digits then set Char.isDigit else char c
  | 'D' => if style.digits then set fun c => !c.isDigit else char c
  | 'b' => anchor .wordEdge
  | 'B' => anchor .noWordEdge
  | '<' => anchor .wordStart
  | '>' => anchor .wordEnd
  | '`' => anchor .textStart
  | '\'' => anchor .textEnd
  | c => char c

structure Reading where
  rest : List Char
  groups : Nat := 0
  closed : List Nat := []

def endsHere (style : Style) (depth : Nat) : List Char → Bool
  | [] => true
  | '|' :: _ => style.extended
  | ')' :: _ => style.extended && depth ≠ 0
  | '\\' :: '|' :: _ => !style.extended
  | '\\' :: ')' :: _ => !style.extended
  | _ => false

mutual

def alternatives (style : Style) : (fuel : Nat) → (depth : Nat) → Reading →
    Except Defect (Regex × Reading)
  | 0, _, _ => .error .openGroup
  | fuel + 1, depth, reading => do
      let (first, reading) ← sequence style fuel depth true empty reading
      match style.extended, reading.rest with
      | true, '|' :: rest | false, '\\' :: '|' :: rest =>
          let (second, reading) ← alternatives style fuel depth { reading with rest }
          return (alt first second, reading)
      | _, _ => return (first, reading)

def sequence (style : Style) : (fuel : Nat) → (depth : Nat) → (isFirst : Bool) →
    (before : Regex) → Reading → Except Defect (Regex × Reading)
  | 0, _, _, _, _ => .error .openGroup
  | fuel + 1, depth, isFirst, before, reading => do
      if endsHere style depth reading.rest then return (before, reading)
      let put (regex : Regex) (rest : List Char) : Except Defect (Regex × Reading) := do
        let (regex, rest) ← repeated style (rest.length + 1) regex rest
        sequence style fuel depth false (join before regex) { reading with rest }
      let openGroup (rest : List Char) : Except Defect (Regex × Reading) := do
        let number := reading.groups + 1
        let (body, inner) ← alternatives style fuel (depth + 1)
          { reading with rest, groups := number }
        let close (rest : List Char) : Except Defect (Regex × Reading) := do
          let (regex, rest) ← repeated style (rest.length + 1) (group number body) rest
          sequence style fuel depth false (join before regex)
            { inner with rest, closed := number :: inner.closed }
        match style.extended, inner.rest with
        | true, ')' :: rest | false, '\\' :: ')' :: rest => close rest
        | _, _ => throw .openGroup
      match reading.rest with
      | [] => return (before, reading)
      | ['\\'] => throw .backslash
      | '\\' :: c :: rest =>
          if c = '(' && !style.extended then openGroup rest
          else if c.isDigit && c ≠ '0' && !style.plain then
            let number := c.toNat - '0'.toNat
            if !reading.closed.contains number then throw .reference
            put (again number) rest
          else if !style.extended && (c = '\x7b' || c = '+' || c = '?') then
            if isFirst then
              (if c = '\x7b' && !style.lenient then throw .preceding else put (char c) rest)
            else put (escaped style c) rest
          else put (escaped style c) rest
      | '(' :: rest => if style.extended then openGroup rest else put (char '(') rest
      | ')' :: rest =>
          if style.extended && !style.lenient && !style.plain then throw .closedGroup
          else put (char ')') rest
      | '[' :: rest =>
          let (regex, rest) ← bracket style rest
          put regex rest
      | '.' :: rest => put (set fun c => style.newlines || c ≠ '\n') rest
      | '^' :: rest =>
          if style.extended then put (anchor .lineStart) rest
          else if isFirst then
            sequence style fuel depth true (join before (anchor .lineStart)) { reading with rest }
          else put (char '^') rest
      | '$' :: rest =>
          if style.extended || endsHere style depth rest then put (anchor .lineEnd) rest
          else put (char '$') rest
      | c :: rest =>
          if style.extended && isFirst && ['*', '+', '?', '\x7b'].contains c then
            if style.plain && c = '\x7b' then put (char c) rest
            else if !style.lenient then throw .preceding
            else if c = '\x7b' then
              match ← bounds style rest with
              | some (_, _, rest) => sequence style fuel depth false before { reading with rest }
              | none => put (char c) rest
            else sequence style fuel depth true before { reading with rest }
          else put (char c) rest
where
  join (before regex : Regex) : Regex :=
    match before with
    | .empty => regex
    | before => seq before regex

end

def parse (style : Style) (text : List Char) : Except Defect Regex := do
  let (regex, reading) ← alternatives style (2 * text.length + 2) 0 { rest := text }
  match reading.rest with
  | [] => return regex
  | _ => throw .closedGroup

end Regex

end Bundler.Machine
