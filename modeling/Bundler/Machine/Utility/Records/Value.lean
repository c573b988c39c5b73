import Bundler.Machine.Double.Arithmetic
import Bundler.Machine.Format
import Bundler.Machine.Utility.Records.Syntax

/-! The values of a program: texts, numbers, and texts of the input that may stand for numbers. -/

namespace Bundler.Machine.Utility.Records

inductive Value
  | unset
  | number (x : Double)
  | text (chars : String)
  | input (chars : String)
  deriving Inhabited

def isBlank (c : Char) : Bool :=
  c = ' ' || c = '\t' || c = '\n'

def inputNumber? (text : String) : Option Double :=
  let chars := ((text.toList.dropWhile isBlank).reverse.dropWhile isBlank).reverse
  let unsigned := match chars with
    | '-' :: rest | '+' :: rest => rest
    | chars => chars
  let starts := match unsigned with
    | '.' :: c :: _ => c.isDigit
    | c :: _ => c.isDigit
    | [] => false
  let ends := chars.getLast?.any fun c => c.isDigit || c = '.'
  if starts && ends then
    let (x, _, rest) := Double.read chars
    if rest.isEmpty then some x else none
  else none

/-- A number as a text: as an integer if it is one, and in a format otherwise. -/
def numberText (format : Double → String) (x : Double) : String :=
  match x.integer? with
  | some n =>
      if -(Nat.pow 2 63) ≤ n && n < Nat.pow 2 63 then toString n
      else if 0 ≤ n && n ≤ Nat.pow 2 64 then toString (min n (Nat.pow 2 64 - 1))
      else format x
  | none => format x

namespace Value

def toNumber : Value → Double
  | unset => .zero
  | number x => x
  | text chars | input chars => (Double.read chars.toList).1

def number? : Value → Option Double
  | unset => some .zero
  | number x => some x
  | text _ => none
  | input chars => inputNumber? chars

def isTrue : Value → Bool
  | unset => false
  | number x => !x.isZero
  | text chars => !chars.isEmpty
  | input chars =>
      match inputNumber? chars with
      | some x => !x.isZero
      | none => !chars.isEmpty

def ofBool (b : Bool) : Value :=
  number (.ofInt (if b then 1 else 0))

def ofNat (n : Nat) : Value :=
  number (.ofInt n)

def toText (format : Double → String) : Value → String
  | unset => ""
  | number x => numberText format x
  | text chars | input chars => chars

end Value

/-- The integer that a directive shows. Numbers beyond the range stop at its ends. -/
def directedInteger (x : Double) : Int :=
  match x.toInt? with
  | some n =>
      if Nat.pow 2 63 ≤ n then min n (Nat.pow 2 64 - 1)
      else if n ≤ -(Nat.pow 2 63) then -(Nat.pow 2 63) + 1
      else n
  | none =>
      match x with
      | .infinite false => Nat.pow 2 64 - 1
      | .infinite true => -(Nat.pow 2 63) + 1
      | _ => -(Nat.pow 2 63)

inductive FormatFault
  | tooFew
  | improper (number : Nat)

namespace FormatFault

def message (fault : FormatFault) (function format : String) : String :=
  (match fault with
    | .tooFew => "not enough arguments passed to "
    | .improper number => "improper conversion(number " ++ toString number ++ ") in ") ++
    function ++ "(\"" ++ format ++ "\")"

end FormatFault

def directed? (directive : Directive) (convert : Double → String) (value : Value) : Option String :=
  match directive.kind with
  | 's' => some (directive.text (value.toText convert))
  | 'c' =>
      let first (chars : String) : String := (chars.toList.head?.getD '\x00').toString
      let ofCode (x : Double) : String :=
        (Char.ofNat ((directedInteger x) % 256).toNat).toString
      some (directive.pad (match value with
        | .number x => ofCode x
        | .input chars =>
            match inputNumber? chars with
            | some x => ofCode x
            | none => first chars
        | .text chars => first chars
        | .unset => first ""))
  | 'd' | 'i' => some (directive.signed (directedInteger value.toNumber))
  | 'o' | 'x' | 'X' | 'u' =>
      let n := directedInteger value.toNumber
      some (directive.unsigned (if n < 0 then n + Nat.pow 2 64 else n).toNat)
  | 'e' | 'E' | 'f' | 'F' | 'g' | 'G' => some (directive.double value.toNumber)
  | _ => none

/-- The number in front of a text, or an argument for an asterisk. Gives the rest of both. -/
def directiveSize (chars : List Char) (args : List Value) :
    Option Int × List Char × List Value :=
  match chars with
  | '*' :: rest => (some (directedInteger ((args.headD .unset).toNumber)), rest, args.tail)
  | chars =>
      let digits := chars.takeWhile Char.isDigit
      (((String.ofList digits).toNat?).map Int.ofNat, chars.drop digits.length, args)

def formatted (convert : Double → String) :
    (fuel : Nat) → (number : Nat) → List Char → List Value → List String × Option FormatFault
  | 0, _, _, _ => ([], none)
  | fuel + 1, number, chars, args =>
      match chars with
      | [] => ([], none)
      | '%' :: '%' :: rest =>
          let (texts, fault?) := formatted convert fuel number rest args
          ("%" :: texts, fault?)
      | '%' :: rest =>
          let flags := rest.takeWhile Directive.isFlag
          let directive : Directive := flags.foldl Directive.flag {}
          let (width?, rest, args) := directiveSize (rest.drop flags.length) args
          let directive := (width?.map directive.withWidth).getD directive
          let (directive, rest, args) := match rest with
            | '.' :: rest =>
                let (precision?, rest, args) := directiveSize rest args
                (directive.withPrecision (precision?.getD 0), rest, args)
            | rest => (directive, rest, args)
          match args with
          | [] => ([], some .tooFew)
          | value :: args =>
              let isSized := rest.head?.any fun c => c = 'l' || c = 'h'
              match if isSized then rest.tail else rest with
              | kind :: rest =>
                  let isSizable := ['d', 'i', 'o', 'x', 'X', 'u'].contains kind
                  match directed? { directive with kind } convert value with
                  | some text =>
                      if isSized && !isSizable then ([], some (.improper number))
                      else
                        let (texts, fault?) := formatted convert fuel (number + 1) rest args
                        (text :: texts, fault?)
                  | none => ([], some (.improper number))
              | [] => ([], some (.improper number))
      | chars =>
          let plain := chars.takeWhile (· ≠ '%')
          let (texts, fault?) := formatted convert fuel number (chars.drop plain.length) args
          (String.ofList plain :: texts, fault?)

def inFormat (format : String) (x : Double) : String :=
  let plain (x : Double) : String := Directive.double { kind := 'g' } x
  if format = "%.6g" then plain x
  else String.join (formatted plain (format.length + 1) 1 format.toList [.number x]).1

end Bundler.Machine.Utility.Records
