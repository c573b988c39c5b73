import Bundler.Machine.Shell.Arithmetic

/-!
Numbers of double precision, kept exactly: a significand of at most 53 binary digits and a power of
two. A decimal number is rounded to the nearest of them, and to the even one of two.
-/

namespace Bundler.Machine

open Shell (digitValue? isDigit isSpace)

inductive Double
  | finite (negative : Bool) (significand : Nat) (exponent : Int)
  | infinite (negative : Bool)
  | nan (negative : Bool)
  deriving DecidableEq, Repr

namespace Double

def zero : Double :=
  .finite false 0 0

def isNegative : Double → Bool
  | finite negative _ _ | infinite negative | nan negative => negative

def roundDiv (num den : Nat) : Nat :=
  let below := num / den
  let rest := 2 * (num % den)
  if den < rest || (den == rest && below % 2 == 1) then below + 1 else below

def minExponent : Int :=
  -1074

def maxExponent : Int :=
  971

def scaled (num den : Nat) (exponent : Int) : Nat × Nat :=
  if 0 ≤ exponent then (num, den * Nat.pow 2 exponent.toNat)
  else (num * Nat.pow 2 (-exponent).toNat, den)

def ofRatio (negative : Bool) (num den : Nat) : Double × Bool :=
  if num = 0 then (.finite negative 0 0, false)
  else
    let guess : Int := (num.log2 : Int) - den.log2 - 52
    let (a, b) := scaled num den guess
    let exponent := if a / b < Nat.pow 2 52 then guess - 1
      else if Nat.pow 2 53 ≤ a / b then guess + 1
      else guess
    let exponent := max exponent minExponent
    let (a, b) := scaled num den exponent
    let m := roundDiv a b
    let (m, exponent) := if m = Nat.pow 2 53 then (Nat.pow 2 52, exponent + 1) else (m, exponent)
    if maxExponent < exponent then (.infinite negative, true)
    else (.finite negative m exponent, m < Nat.pow 2 52 && a % b ≠ 0)

def ofInt (n : Int) : Double :=
  (ofRatio (n < 0) n.natAbs 1).1

def ratio (significand : Nat) (exponent : Int) : Nat × Nat :=
  if 0 ≤ exponent then (significand * Nat.pow 2 exponent.toNat, 1)
  else (significand, Nat.pow 2 (-exponent).toNat)

/-- The digits of a number in some base around its point, if there are any: what the digits are
worth, how many of them are behind the point, and what follows. -/
def mantissa? (base : Nat) (text : List Char) : Option (Nat × Nat × List Char) :=
  let isDigit (c : Char) : Bool := (digitValue? base c).isSome
  let whole := text.takeWhile isDigit
  let rest := text.drop whole.length
  let (fraction, rest) := match rest with
    | '.' :: more =>
        let fraction := more.takeWhile isDigit
        if whole.isEmpty && fraction.isEmpty then ([], rest)
        else (fraction, more.drop fraction.length)
    | rest => ([], rest)
  if whole.isEmpty && fraction.isEmpty then none
  else
    some ((whole ++ fraction).foldl (fun n c => n * base + (digitValue? base c).getD 0) 0,
      fraction.length, rest)

def power (mark : Char) (text : List Char) : Int × List Char :=
  match text with
  | c :: rest =>
      if c.toLower = mark then
        let (negative, digits) := match rest with
          | '-' :: rest => (true, rest)
          | '+' :: rest => (false, rest)
          | rest => (false, rest)
        let read := digits.takeWhile isDigit
        if read.isEmpty then (0, text)
        else
          let n : Nat := read.foldl (fun n c => n * 10 + (c.toNat - '0'.toNat)) 0
          (if negative then -(n : Int) else n, digits.drop read.length)
      else (0, text)
  | [] => (0, [])

def bound (digits : Nat) (exponent : Int) : Int :=
  max (-20000 - (digits : Int)) (min exponent (20000 + digits))

def read (text : List Char) : Double × Bool × List Char :=
  let start := text.dropWhile isSpace
  let (negative, rest) := match start with
    | '-' :: rest => (true, rest)
    | '+' :: rest => (false, rest)
    | rest => (false, rest)
  let starts (word : String) : Bool :=
    word.toList.isPrefixOf (rest.map Char.toLower)
  if starts "infinity" then (.infinite negative, false, rest.drop 8)
  else if starts "inf" then (.infinite negative, false, rest.drop 3)
  else if starts "nan" then (.nan negative, false, rest.drop 3)
  else
    let hex? := match rest with
      | '0' :: x :: digits => if x.toLower = 'x' then mantissa? 16 digits else none
      | _ => none
    match hex? with
    | some (n, places, rest) =>
        let (power, rest) := power 'p' rest
        let (a, b) := scaled n 1 (-(bound (4 * n.log2) (power - 4 * (places : Int))))
        let (value, outOfRange) := ofRatio negative a b
        (value, outOfRange, rest)
    | none =>
        match mantissa? 10 rest with
        | none => (.zero, false, text)
        | some (n, places, rest) =>
            let (power, rest) := power 'e' rest
            let exponent := bound n.log2 (power - places)
            let (value, outOfRange) :=
              if 0 ≤ exponent then ofRatio negative (n * Nat.pow 10 exponent.toNat) 1
              else ofRatio negative n (Nat.pow 10 (-exponent).toNat)
            (value, outOfRange, rest)

/-! Numbers as text, without their signs. -/

def pointed (digits : String) (places : Nat) (always : Bool) : String :=
  let chars := digits.toList
  let chars := List.replicate (places + 1 - chars.length) '0' ++ chars
  let whole := chars.take (chars.length - places)
  let fraction := chars.drop (chars.length - places)
  String.ofList (if places = 0 && !always then whole else whole ++ '.' :: fraction)

def fixed (num den places : Nat) (always : Bool) : String :=
  pointed (toString (roundDiv (num * Nat.pow 10 places) den)) places always

def decimal (num den places : Nat) : Nat × Int :=
  if num = 0 then (0, 0)
  else
    let scaled (exponent : Int) : Nat × Nat :=
      let shift := (places : Int) - exponent
      if 0 ≤ shift then (num * Nat.pow 10 shift.toNat, den)
      else (num, den * Nat.pow 10 (-shift).toNat)
    let guess : Int := ((toString num).length : Int) - (toString den).length
    let (num, den) := scaled guess
    let exponent := if num < den * Nat.pow 10 places then guess - 1 else guess
    let (a, b) := scaled exponent
    let digits := roundDiv a b
    if Nat.pow 10 (places + 1) ≤ digits then (digits / 10, exponent + 1) else (digits, exponent)

def exponentText (mark : Char) (exponent : Int) (width : Nat) : String :=
  let digits := toString exponent.natAbs
  mark.toString ++ (if exponent < 0 then "-" else "+") ++
    String.ofList (List.replicate (width - digits.length) '0') ++ digits

def scientific (num den places : Nat) (always : Bool) : String :=
  let (digits, exponent) := decimal num den places
  pointed (toString digits) places always ++ exponentText 'e' exponent 2

def withoutZeros (text : String) : String :=
  if text.toList.contains '.' then
    let chars := text.toList.reverse.dropWhile (· = '0')
    String.ofList (match chars with
      | '.' :: rest => rest
      | rest => rest).reverse
  else text

def general (num den precision : Nat) (always : Bool) : String :=
  let precision := max precision 1
  let (digits, exponent) := decimal num den (precision - 1)
  let trim (text : String) : String := if always then text else withoutZeros text
  if -4 ≤ exponent && exponent < precision then
    trim (fixed num den (precision - 1 - exponent).toNat always)
  else
    trim (pointed (toString digits) (precision - 1) always) ++ exponentText 'e' exponent 2

def hexDigits (n : Nat) (width : Nat) : String :=
  let digits := String.ofList (Nat.toDigits 16 n)
  String.ofList (List.replicate (width - digits.length) '0') ++ digits

def hexadecimal (significand : Nat) (exponent : Int) (precision? : Option Nat) (always : Bool) :
    String :=
  let shift := 52 - significand.log2
  let (m, power) : Nat × Int :=
    if significand = 0 then (0, 0)
    else if exponent - shift < minExponent then
      (significand * Nat.pow 2 (exponent - minExponent).toNat, minExponent + 52)
    else (significand * Nat.pow 2 shift, exponent - shift + 52)
  let places := precision?.getD 13
  let m := if places < 13 then roundDiv m (Nat.pow 16 (13 - places))
    else m * Nat.pow 16 (places - 13)
  let unit := Nat.pow 16 places
  let fraction := hexDigits (m % unit) places
  let fraction := if precision?.isSome then fraction
    else String.ofList (fraction.toList.reverse.dropWhile (· = '0')).reverse
  let fraction := if places = 0 then "" else fraction
  "0x" ++ toString (m / unit) ++ (if fraction.isEmpty && !always then "" else "." ++ fraction) ++
    exponentText 'p' power 1

end Double

end Bundler.Machine
