import Bundler.Machine.Double

/-! Numbers and texts laid out as a directive tells: with signs, in a width, to a precision. -/

namespace Bundler.Machine

structure Directive where
  alternative : Bool := false
  left : Bool := false
  plus : Bool := false
  blank : Bool := false
  zeros : Bool := false
  width : Nat := 0
  precision : Option Nat := none
  kind : Char := 's'
  deriving DecidableEq, Repr

namespace Directive

def flag (directive : Directive) (c : Char) : Directive :=
  match c with
  | '#' => { directive with alternative := true }
  | '-' => { directive with left := true }
  | '+' => { directive with plus := true }
  | ' ' => { directive with blank := true }
  | '0' => { directive with zeros := true }
  | _ => directive

def isFlag (c : Char) : Bool :=
  ['#', '-', '+', ' ', '0'].contains c

def withWidth (directive : Directive) (width : Int) : Directive :=
  if width < 0 then { directive with left := true, width := width.natAbs }
  else { directive with width := width.toNat }

def withPrecision (directive : Directive) (precision : Int) : Directive :=
  { directive with precision := if precision < 0 then none else some precision.toNat }

def padding (c : Char) (count : Nat) : String :=
  String.ofList (List.replicate count c)

def pad (directive : Directive) (text : String) : String :=
  let missing := directive.width - text.length
  if directive.left then text ++ padding ' ' missing else padding ' ' missing ++ text

def text (directive : Directive) (text : String) : String :=
  directive.pad (match directive.precision with
    | some precision => String.ofList (text.toList.take precision)
    | none => text)

def number (directive : Directive) (zeros : Bool) (sign digits : String) : String :=
  if zeros && directive.zeros && !directive.left then
    sign ++ padding '0' (directive.width - sign.length - digits.length) ++ digits
  else directive.pad (sign ++ digits)

def sign (directive : Directive) (negative : Bool) : String :=
  if negative then "-" else if directive.plus then "+" else if directive.blank then " " else ""

def digits (directive : Directive) (base n : Nat) : String :=
  let digits := if n = 0 && directive.precision = some 0 then ""
    else String.ofList (Nat.toDigits base n)
  padding '0' (directive.precision.getD 0 - digits.length) ++ digits

def signed (directive : Directive) (n : Int) : String :=
  directive.number directive.precision.isNone (directive.sign (n < 0))
    (directive.digits 10 n.natAbs)

def unsigned (directive : Directive) (n : Nat) : String :=
  let zeros := directive.precision.isNone
  match directive.kind with
  | 'o' =>
      let digits := directive.digits 8 n
      directive.number zeros ""
        (if directive.alternative && digits.toList.head? ≠ some '0' then "0" ++ digits else digits)
  | 'x' =>
      directive.number zeros (if directive.alternative && n ≠ 0 then "0x" else "")
        (directive.digits 16 n)
  | 'X' =>
      directive.number zeros (if directive.alternative && n ≠ 0 then "0X" else "")
        (directive.digits 16 n).toUpper
  | _ => directive.number zeros "" (directive.digits 10 n)

def double (directive : Directive) (x : Double) : String :=
  let kind := directive.kind.toLower
  let cased (text : String) : String := if directive.kind = kind then text else text.toUpper
  let places := directive.precision.getD 6
  match x with
  | .infinite negative => directive.number false (directive.sign negative) (cased "inf")
  | .nan negative => directive.number false (directive.sign negative) (cased "nan")
  | .finite negative m e =>
      let (num, den) := Double.ratio m e
      let always := directive.alternative
      let sign := directive.sign negative
      match kind with
      | 'f' => directive.number true sign (Double.fixed num den places always)
      | 'e' => directive.number true sign (cased (Double.scientific num den places always))
      | 'g' => directive.number true sign (cased (Double.general num den places always))
      | _ =>
          let text := Double.hexadecimal m e directive.precision always
          directive.number true (sign ++ cased (String.ofList (text.toList.take 2)))
            (cased (String.ofList (text.toList.drop 2)))

end Directive

end Bundler.Machine
