import Bundler.Json.Fault

/-!
JSON's words, strings and numbers. Each reader takes the text to be read and gives what it read
with the text after it.
-/

namespace Bundler.Json

abbrev Reading (α : Type) := Except Fault (α × List Char)

def fail (defect : Defect) (rest : List Char) : Except Fault α :=
  .error ⟨defect, rest⟩

def isSpace (c : Char) : Bool :=
  c == ' ' || c == '\n' || c == '\t' || c == '\r'

def skipSpace (chars : List Char) : List Char :=
  chars.dropWhile isSpace

def word : List Char → List Char → Except Fault (List Char)
  | [], rest => .ok rest
  | _ :: _, [] => fail .endInValue []
  | expected :: more, c :: rest =>
      if c = expected then word more rest else fail .unknownWord rest

def hexDigit? (c : Char) : Option Nat :=
  if '0' ≤ c ∧ c ≤ '9' then some (c.toNat - '0'.toNat)
  else if 'a' ≤ c ∧ c ≤ 'f' then some (c.toNat - 'a'.toNat + 10)
  else if 'A' ≤ c ∧ c ≤ 'F' then some (c.toNat - 'A'.toNat + 10)
  else none

def hex? (a b c d : Char) : Option Nat := do
  return ((← hexDigit? a) * 16 + (← hexDigit? b)) * 256 + ((← hexDigit? c) * 16 + (← hexDigit? d))

def isLeadSurrogate (n : Nat) : Bool :=
  0xD800 ≤ n && n ≤ 0xDBFF

def isTrailSurrogate (n : Nat) : Bool :=
  0xDC00 ≤ n && n ≤ 0xDFFF

def ofSurrogates (lead trail : Nat) : Char :=
  Char.ofNat ((lead - 0xD800) * 0x400 + (trail - 0xDC00) + 0x10000)

def unescape? : Char → Option Char
  | '"' => some '"'
  | '\\' => some '\\'
  | '/' => some '/'
  | 'b' => some '\x08'
  | 'f' => some '\x0C'
  | 'n' => some '\n'
  | 'r' => some '\r'
  | 't' => some '\t'
  | _ => none

def shortHex (few : List Char) : Except Fault α :=
  if Text.byteLength few < 4 then fail .endInString [] else fail .badEscape few

/-- A string whose opening quote is read. `back` holds its characters so far, last one first, and
`lead?` the first half of a surrogate pair whose second half has to follow. -/
def text (back : List Char) (lead? : Option Nat) : List Char → Reading String
  | '\\' :: 'u' :: a :: b :: c :: d :: rest =>
      match hex? a b c d, lead? with
      | none, _ => fail .badEscape rest
      | some n, none =>
          if isTrailSurrogate n then fail .loneSurrogate rest
          else if isLeadSurrogate n then text back (some n) rest
          else text (Char.ofNat n :: back) none rest
      | some n, some lead =>
          if isTrailSurrogate n then text (ofSurrogates lead n :: back) none rest
          else fail .loneSurrogate rest
  | '\\' :: 'u' :: few => shortHex few
  | '\\' :: c :: rest =>
      match lead?, unescape? c with
      | some _, _ => fail .halfSurrogatePair rest
      | none, some plain => text (plain :: back) none rest
      | none, none => fail .badEscape rest
  | ['\\'] => fail .endInString []
  | c :: rest =>
      if lead?.isSome then fail .halfSurrogatePair rest
      else if c = '"' then .ok (String.ofList back.reverse, rest)
      else if c < ' ' then fail .controlCharacter rest
      else text (c :: back) none rest
  | [] => fail .endInString []

/-- Passes over a string whose opening quote is read. Halves of surrogate pairs go unnoticed. -/
def skipText : List Char → Except Fault (List Char)
  | '\\' :: 'u' :: a :: b :: c :: d :: rest =>
      if (hex? a b c d).isSome then skipText rest else fail .badEscape rest
  | '\\' :: 'u' :: few => shortHex few
  | '\\' :: c :: rest =>
      if (unescape? c).isSome then skipText rest else fail .badEscape rest
  | ['\\'] => fail .endInString []
  | c :: rest =>
      if c = '"' then .ok rest
      else if c < ' ' then fail .controlCharacter rest
      else skipText rest
  | [] => fail .endInString []

inductive Number
  | natural (n : UInt64)
  | negative
  | fractional
  deriving DecidableEq, Repr

def isDigit (c : Char) : Bool :=
  '0' ≤ c && c ≤ '9'

def digits (chars : List Char) : List Char × List Char :=
  (chars.takeWhile isDigit, chars.dropWhile isDigit)

def value (digits : List Char) : Nat :=
  digits.foldl (fun n c => n * 10 + (c.toNat - '0'.toNat)) 0

/-- An integer's digits. Nothing follows a leading zero. -/
def integerDigits : List Char → Reading (List Char)
  | [] => fail .endInValue []
  | '0' :: rest =>
      match rest with
      | c :: after => if isDigit c then fail .badNumber after else .ok (['0'], rest)
      | [] => .ok (['0'], [])
  | c :: rest =>
      if isDigit c then
        let (more, rest) := digits rest
        .ok (c :: more, rest)
      else fail .badNumber rest

def fractionDigits (atEnd : Defect) : List Char → Reading (Option (List Char))
  | '.' :: rest =>
      match digits rest, rest with
      | ([], _), [] => fail atEnd []
      | ([], _), _ :: after => fail .badNumber after
      | (fraction, rest), _ => .ok (some fraction, rest)
  | rest => .ok (none, rest)

def exponent (atEnd : Defect) : List Char → Reading (Option Int)
  | c :: rest =>
      if c = 'e' ∨ c = 'E' then
        let (sign, rest) : Int × List Char := match rest with
          | '+' :: rest => (1, rest)
          | '-' :: rest => (-1, rest)
          | rest => (1, rest)
        match digits rest, rest with
        | ([], _), [] => fail atEnd []
        | ([], _), _ :: after => fail .badNumber after
        | (power, rest), _ => .ok (some (sign * value power), rest)
      else .ok (none, c :: rest)
  | [] => .ok (none, [])

def maxNatural : Nat :=
  Nat.pow 2 64 - 1

def significand (sofar : Nat) : List Char → Nat × Nat
  | [] => (sofar, 0)
  | c :: rest =>
      let next := sofar * 10 + (c.toNat - '0'.toNat)
      if next ≤ maxNatural then significand next rest else (sofar, rest.length + 1)

/-- The nearest number with 53 binary digits before its zeros. Of two, it is the even one. -/
def toDouble (n : Nat) : Nat :=
  let unit := Nat.pow 2 (n.log2 - 52)
  let below := n / unit
  let rest := 2 * (n % unit)
  if unit < rest || (unit == rest && below % 2 == 1) then (below + 1) * unit else below * unit

/-- Whether a decimal number comes out infinite when its digits and its power of ten are each taken
in double precision and multiplied in it. -/
def overflows (whole fraction : List Char) (power : Int) : Bool :=
  let (high, dropped) := significand 0 whole
  let (all, unread) := significand high fraction
  let scale := power + dropped - (fraction.length - unread : Nat)
  all ≠ 0 && 0 ≤ scale &&
    (308 < scale ||
      Nat.pow 2 1024 - Nat.pow 2 970 ≤ toDouble all * toDouble (Nat.pow 10 scale.toNat))

def number (isNegative : Bool) (chars : List Char) : Except Fault (Number × List Char) := do
  let (whole, rest) ← integerDigits chars
  let (fraction?, rest) ← fractionDigits .endInValue rest
  let (power?, rest) ← exponent .endInValue rest
  let n := value whole
  if fraction?.isNone && power?.isNone && n ≤ maxNatural then
    if !isNegative then return (.natural (.ofNat n), rest)
    else if 0 < n && n ≤ Nat.pow 2 63 then return (.negative, rest)
    else return (.fractional, rest)
  else if overflows whole (fraction?.getD []) (power?.getD 0) then fail .numberTooLarge rest
  else return (.fractional, rest)

def skipNumber (chars : List Char) : Except Fault (List Char) := do
  let whole := match chars with
    | [] => fail .badNumber []
    | _ => integerDigits chars
  let (_, rest) ← whole
  let (_, rest) ← fractionDigits .badNumber rest
  let (_, rest) ← exponent .badNumber rest
  return rest

end Bundler.Json
