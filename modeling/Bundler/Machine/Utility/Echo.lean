import Bundler.Machine.Format
import Bundler.Machine.Utility.Options

/-! Programs that write what they are told: `echo`, `printf`, `seq`. -/

namespace Bundler.Machine.Utility

open Shell (digitValue? readInteger isSpace)

inductive Escape
  | char (c : Char)
  | wide (code : Nat)
  | stop
  | malformed (text : String)
  | none

def digitsOf (base most : Nat) (chars : List Char) : Nat × Nat × List Char :=
  let digits := (chars.take most).takeWhile fun c => (digitValue? base c).isSome
  (digits.foldl (fun n c => n * base + (digitValue? base c).getD 0) 0, digits.length,
    chars.drop digits.length)

/-- The escape at the front, from behind its backslash, and what follows it. An octal number may
start with a zero that does not count if `zero` is given. -/
def escapeOf (zero : Bool) (chars : List Char) : Escape × List Char :=
  match chars with
  | 'a' :: rest => (.char '\x07', rest)
  | 'b' :: rest => (.char '\x08', rest)
  | 'c' :: rest => (.stop, rest)
  | 'e' :: rest => (.char '\x1b', rest)
  | 'f' :: rest => (.char '\x0c', rest)
  | 'n' :: rest => (.char '\n', rest)
  | 'r' :: rest => (.char '\r', rest)
  | 't' :: rest => (.char '\t', rest)
  | 'v' :: rest => (.char '\x0b', rest)
  | '\\' :: rest => (.char '\\', rest)
  | 'x' :: rest =>
      match digitsOf 16 2 rest with
      | (_, 0, _) => (.malformed "missing hexadecimal number in escape", rest)
      | (n, _, rest) => (.char (Char.ofNat n), rest)
  | chars =>
      let digits := if zero && chars.head? = some '0' then chars.tail else chars
      let (n, count, rest) := digitsOf 8 3 digits
      if count = 0 && !(zero && chars.head? = some '0') then (.none, chars)
      else (.char (Char.ofNat (n % 256)), rest)

namespace Echo

def unescape : (fuel : Nat) → List Char → List Char × Bool
  | 0, _ => ([], false)
  | fuel + 1, chars =>
      match chars with
      | [] => ([], false)
      | '\\' :: rest =>
          match escapeOf true rest with
          | (.stop, _) => ([], true)
          | (.char c, rest) =>
              let (text, ended) := unescape fuel rest
              (c :: text, ended)
          | _ =>
              let (text, ended) := unescape fuel rest
              ('\\' :: text, ended)
      | c :: rest =>
          let (text, ended) := unescape fuel rest
          (c :: text, ended)

def words (escapes : Bool) (ending : String) : List String → WorkM Unit
  | [] => emit ending
  | word :: rest => do
      let (text, ended) := if escapes then unescape (word.length + 1) word.toList
        else (word.toList, false)
      emitChars text
      unless ended do
        unless rest.isEmpty do emit " "
        words escapes ending rest

/-- The options in front: whether the end of the line is left out, and whether escapes are read. -/
def options (bare escapes : Bool) : List String → Bool × Bool × List String
  | [] => (bare, escapes, [])
  | arg :: rest =>
      match arg.toList with
      | '-' :: c :: more =>
          if (c :: more).all fun c => c = 'n' || c = 'e' || c = 'E' then
            let escapes := (c :: more).foldl (fun escapes c =>
              if c = 'e' then true else if c = 'E' then false else escapes) escapes
            options (bare || (c :: more).contains 'n') escapes rest
          else (bare, escapes, arg :: rest)
      | _ => (bare, escapes, arg :: rest)

def main (args : List String) : WorkM Unit := do
  let (bare, escapes, args) := options false false args
  words escapes (if bare then "" else "\n") args

end Echo

namespace Print

def shellQuoted (word : String) : String :=
  let plain (c : Char) : Bool :=
    c.isAlphanum || ['_', '-', '.', '/', ',', '+', '@', '%', ':', '^', '='].contains c
  if !word.isEmpty && word.toList.all plain then word else quoted word

abbrev PrintM := StateT (List String) WorkM

def next : PrintM (Option String) := do
  match ← get with
  | [] => return none
  | arg :: rest => do
      set rest
      return some arg

def check (arg : String) (rest : List Char) (outOfRange : Bool) : WorkM Unit := do
  if rest.length = arg.length then grumble (cited arg ++ ": expected a numeric value")
  else if outOfRange then grumble (cited arg ++ ": Numerical result out of range")
  else if !rest.isEmpty then grumble (cited arg ++ ": value not completely converted")

def code? (arg : String) : Option Nat :=
  match arg.toList with
  | '"' :: c :: _ | '\'' :: c :: _ => some c.toNat
  | _ => none

def integer (arg? : Option String) : WorkM Int := do
  match arg? with
  | none => return 0
  | some arg =>
      match code? arg with
      | some code => return code
      | none => do
          let (n, outOfRange, rest) := readInteger 0 arg.toList
          unless arg.isEmpty do check arg rest outOfRange
          return n

def double (arg? : Option String) : WorkM Double := do
  match arg? with
  | none => return .zero
  | some arg =>
      match code? arg with
      | some code => return .ofInt code
      | none => do
          let (x, outOfRange, rest) := Double.read arg.toList
          unless arg.isEmpty do check arg rest outOfRange
          return x

/-- Writes what an escape stands for. Gives whether it ends all. -/
def escaped (escape : Escape) : WorkM Bool := do
  match escape with
  | .char c => emit c.toString
  | .stop => return true
  | .malformed text => die text
  | .wide code =>
      if code < 128 then emit (Char.ofNat code).toString
      else
        let digits := (String.ofList (Nat.toDigits 16 code)).toUpper
        let width := if code < 65536 then 4 else 8
        emit ((if width = 4 then "\\u" else "\\U") ++
          String.ofList (List.replicate (width - digits.length) '0') ++ digits)
  | .none => emit "\\"
  return false

def formatEscape (chars : List Char) : Escape × List Char :=
  match chars with
  | '"' :: rest => (.char '"', rest)
  | 'u' :: rest =>
      match digitsOf 16 4 rest with
      | (n, 4, rest) => (.wide n, rest)
      | _ => (.malformed "missing hexadecimal number in escape", rest)
  | 'U' :: rest =>
      match digitsOf 16 8 rest with
      | (n, 8, rest) => (.wide n, rest)
      | _ => (.malformed "missing hexadecimal number in escape", rest)
  | chars => escapeOf false chars

/-- Writes a text with its escapes read. Gives whether one of them ends all. -/
def unescaped : (fuel : Nat) → List Char → WorkM Bool
  | 0, _ => return false
  | fuel + 1, chars =>
      match chars with
      | [] => return false
      | '\\' :: rest => do
          let (escape, rest) := escapeOf true rest
          if ← escaped escape then return true else unescaped fuel rest
      | c :: rest => do
          emit c.toString
          unescaped fuel rest

def number (chars : List Char) : PrintM (Option Int × List Char) := do
  match chars with
  | '*' :: rest => return (some (← integer (← next)), rest)
  | chars =>
      match digitsOf 10 chars.length chars with
      | (_, 0, _) => return (none, chars)
      | (n, _, rest) => return (some n, rest)

/-- Goes once through a format. Gives whether an escape ended all. -/
def once : (fuel : Nat) → List Char → PrintM Bool
  | 0, _ => return false
  | fuel + 1, chars => do
      match chars with
      | [] => return false
      | '\\' :: rest => do
          let (escape, rest) := formatEscape rest
          if ← escaped escape then return true else once fuel rest
      | '%' :: '%' :: rest => do
          emit "%"
          once fuel rest
      | '%' :: 'b' :: rest => do
          let arg := (← next).getD ""
          if ← unescaped (arg.length + 1) arg.toList then return true else once fuel rest
      | '%' :: 'q' :: rest => do
          match ← next with
          | some arg => emit (shellQuoted arg)
          | none => pure ()
          once fuel rest
      | '%' :: rest => do
          let flags := rest.takeWhile fun c => Directive.isFlag c || c = '\'' || c = 'I'
          let directive : Directive := flags.foldl Directive.flag {}
          let (width?, rest) ← number (rest.drop flags.length)
          let directive := directive.withWidth (width?.getD 0)
          let (directive, rest) ← match rest with
            | '.' :: rest => do
                let (precision?, rest) ← number rest
                pure (directive.withPrecision (precision?.getD 0), rest)
            | rest => pure (directive, rest)
          let rest := rest.dropWhile "hlLjzt".toList.contains
          let source := String.ofList (chars.take (chars.length - rest.length + 1))
          match rest with
          | [] => die (source ++ ": invalid conversion specification")
          | kind :: rest => do
              let directive := { directive with kind }
              if kind = 's' then emit (directive.text ((← next).getD ""))
              else if kind = 'c' then
                match (← next).bind (·.toList.head?) with
                | some c => emit (directive.pad c.toString)
                | none => emit (directive.pad "")
              else if kind = 'd' || kind = 'i' then emit (directive.signed (← integer (← next)))
              else if "ouxX".toList.contains kind then
                let n ← integer (← next)
                emit (directive.unsigned (n % (Nat.pow 2 64 : Int)).toNat)
              else if "aAeEfFgG".toList.contains kind then
                emit (directive.double (← double (← next)))
              else die (source ++ ": invalid conversion specification")
              once fuel rest
      | chars => do
          let plain := chars.takeWhile fun c => c ≠ '\\' && c ≠ '%'
          emitChars plain
          once fuel (chars.drop plain.length)

def repeated (format : List Char) : (fuel : Nat) → List String → WorkM Unit
  | 0, _ => return
  | fuel + 1, args => do
      let (ended, left) ← (once (format.length + 1) format).run args
      unless ended || left.isEmpty do
        if left.length = args.length then
          complain ("warning: ignoring excess arguments, starting with " ++
            cited (left.headD ""))
        else repeated format fuel left

def main (args : List String) : WorkM Unit := do
  let args := match args with
    | "--" :: rest => rest
    | args => args
  match args with
  | [] => misuse "missing operand"
  | format :: args => repeated format.toList (args.length + 1) args

end Print

namespace Sequence

/-- A decimal number: its digits as an integer, and how many of them are behind the point. -/
structure Decimal where
  digits : Int
  places : Nat
  width : Nat
  deriving DecidableEq, Repr

def decimal? (text : String) : Option Decimal :=
  let chars := text.toList.dropWhile isSpace
  let (negative, rest) := match chars with
    | '-' :: rest => (true, rest)
    | '+' :: rest => (false, rest)
    | rest => (false, rest)
  let signed (n : Nat) : Int := if negative then -(n : Int) else n
  match rest with
  | '0' :: 'x' :: hex =>
      match digitsOf 16 hex.length hex with
      | (n, count + 1, []) => some ⟨signed n, 0, count + 3⟩
      | _ => none
  | rest =>
      match Double.mantissa? 10 rest with
      | none => none
      | some (n, places, behind) =>
          let (power, behind) := Double.power 'e' behind
          if !behind.isEmpty || 5000 < power.natAbs then none
          else
            let places : Int := places - power
            let width := chars.length - (if chars.head? = some '+' then 1 else 0)
            if places < 0 then
              some ⟨signed (n * Nat.pow 10 (-places).toNat), 0,
                (toString n).length + (-places).toNat⟩
            else some ⟨signed n, places.toNat, width⟩

def Decimal.scaled (number : Decimal) (places : Nat) : Int :=
  number.digits * Nat.pow 10 (places - number.places)

def written (places : Nat) (n : Int) : String :=
  let digits := toString n.natAbs
  let digits := String.ofList (List.replicate (places + 1 - digits.length) '0') ++ digits
  let whole := digits.toList.take (digits.length - places)
  let fraction := digits.toList.drop (digits.length - places)
  (if n < 0 then "-" else "") ++ String.ofList whole ++
    (if places = 0 then "" else "." ++ String.ofList fraction)

def formatOf (format : String) : WorkM (String × Directive × String) := do
  let rec plain : (fuel : Nat) → List Char → List Char × Option (List Char)
    | 0, _ => ([], none)
    | fuel + 1, chars =>
        match chars with
        | [] => ([], none)
        | '%' :: '%' :: rest =>
            let (text, rest?) := plain fuel rest
            ('%' :: text, rest?)
        | '%' :: rest => ([], some rest)
        | c :: rest =>
            let (text, rest?) := plain fuel rest
            (c :: text, rest?)
  let fuel := format.length + 1
  match plain fuel format.toList with
  | (_, none) => die ("format " ++ cited format ++ " has no % directive")
  | (front, some rest) => do
      let flags := rest.takeWhile Directive.isFlag
      let directive : Directive := flags.foldl Directive.flag {}
      let (width, _, rest) := digitsOf 10 format.length (rest.drop flags.length)
      let directive := { directive with width }
      let (directive, rest) : Directive × List Char := match rest with
        | '.' :: rest =>
            let (precision, _, rest) := digitsOf 10 format.length rest
            ({ directive with precision := some precision }, rest)
        | rest => (directive, rest)
      match rest with
      | [] => die ("format " ++ cited format ++ " ends in %")
      | kind :: rest => do
          if !("aAeEfFgG".toList.contains kind) then
            die ("format " ++ cited format ++ " has unknown %" ++ kind.toString ++ " directive")
          match plain fuel rest with
          | (_, some _) => die ("format " ++ cited format ++ " has too many % directives")
          | (back, none) =>
              return (String.ofList front, { directive with kind }, String.ofList back)

def count (separator : String) (text : Int → String) (step : Int) (last? : Option Int) :
    (fuel : Nat) → (isFirst : Bool) → Int → WorkM Unit
  | 0, _, _ => return
  | fuel + 1, isFirst, n => do
      let isBeyond := last?.any fun last => if 0 < step then last < n else n < last
      if isBeyond then
        unless isFirst do emit "\n"
      else do
        unless isFirst do emit separator
        emit (text n)
        count separator text step last? fuel false (n + step)

def known : List Known :=
  [⟨"f", "format", .required⟩, ⟨"s", "separator", .required⟩, ⟨"w", "equal-width", .none⟩]

def guarded : List String → List String
  | [] => []
  | arg :: rest =>
      match arg.toList with
      | '-' :: c :: _ =>
          if c.isDigit || c = '.' then "--" :: arg :: rest
          else if arg = "-f" || arg = "-s" then
            match rest with
            | value :: rest => arg :: value :: guarded rest
            | [] => [arg]
          else arg :: guarded rest
      | _ => arg :: rest

def main (args : List String) : WorkM Unit := do
  let line ← commandLine known (guarded args) false
  let separator := (line.last? "s").getD "\n"
  match line.operands with
  | _ :: _ :: _ :: extra :: _ => extraOperand extra
  | [] => misuse "missing operand"
  | _ => pure ()
  let format? ← (line.last? "f").mapM formatOf
  let numberOf (text : String) : WorkM Decimal := do
    match decimal? text with
    | some number => return number
    | none =>
        if ["nan", "-nan"].contains text.toLower then
          misuse ("invalid 'not-a-number' argument: " ++ cited text)
        misuse ("invalid floating point argument: " ++ cited text)
  let one : Decimal := ⟨1, 0, 1⟩
  let (first, step, last) ← match line.operands with
    | [last] => pure (one, one, last)
    | [first, last] => do pure (← numberOf first, one, last)
    | first :: step :: last :: _ => do pure (← numberOf first, ← numberOf step, last)
    | [] => pure (one, one, "")
  if step.digits = 0 then
    misuse ("invalid Zero increment value: " ++ cited ((line.operands[1]?).getD ""))
  let endless := ["inf", "infinity", "+inf"].contains last.toLower
  let last? ← if endless then pure none else some <$> numberOf last
  let places := max first.places step.places
  let scale := max places ((last?.map (·.places)).getD 0)
  let width := if line.has "w" then
      let full (number : Decimal) : Nat :=
        number.width + (if number.places = 0 && places ≠ 0 then places + 1
          else places - number.places) -
          (if places < number.places then number.places - places + (if places = 0 then 1 else 0)
            else 0)
      max (full first) ((last?.map full).getD 0)
    else 0
  let text (n : Int) : String :=
    match format? with
    | some (front, directive, back) =>
        front ++ directive.double (Double.ofRatio (n < 0) n.natAbs (Nat.pow 10 scale)).1 ++ back
    | none =>
        let digits := written places (n / Nat.pow 10 (scale - places))
        let missing := width - digits.length
        if n < 0 then
          "-" ++ String.ofList (List.replicate missing '0') ++ String.ofList (digits.toList.drop 1)
        else String.ofList (List.replicate missing '0') ++ digits
  count separator text (step.scaled scale) (last?.map (·.scaled scale)) Act.endless true
    (first.scaled scale)

end Sequence

end Bundler.Machine.Utility
