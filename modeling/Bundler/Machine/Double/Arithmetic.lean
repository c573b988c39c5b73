import Bundler.Machine.Double

/-!
Arithmetic on numbers of double precision. The basic operations are exact and then rounded; the
functions of analysis are those of the machine.
-/

namespace Bundler.Machine.Double

def undefined : Double :=
  .nan true

def ofScaled (negative : Bool) (significand : Nat) (exponent : Int) : Double :=
  let (a, b) := ratio significand exponent
  (ofRatio negative a b).1

def isZero : Double → Bool
  | .finite _ m _ => m = 0
  | _ => false

def isNan : Double → Bool
  | .nan _ => true
  | _ => false

def neg : Double → Double
  | .finite negative m e => .finite (!negative) m e
  | .infinite negative => .infinite (!negative)
  | .nan negative => .nan (!negative)

def alignedTo (exponent : Int) (negative : Bool) (m : Nat) (e : Int) : Int :=
  let n : Int := m * Nat.pow 2 (e - exponent).toNat
  if negative then -n else n

def add : Double → Double → Double
  | .nan s, _ => .nan s
  | _, .nan s => .nan s
  | .infinite s, .infinite t => if s = t then .infinite s else undefined
  | .infinite s, _ => .infinite s
  | _, .infinite t => .infinite t
  | .finite s m e, .finite t n f =>
      let exponent := min e f
      let sum := alignedTo exponent s m e + alignedTo exponent t n f
      if sum = 0 then .finite (s && t) 0 0 else ofScaled (sum < 0) sum.natAbs exponent

def sub (x y : Double) : Double :=
  match y with
  | .nan s => add x (.nan s)
  | y => add x y.neg

def mul : Double → Double → Double
  | .nan s, _ => .nan s
  | _, .nan s => .nan s
  | .infinite s, .infinite t => .infinite (s != t)
  | .infinite s, .finite t n _ => if n = 0 then undefined else .infinite (s != t)
  | .finite s m _, .infinite t => if m = 0 then undefined else .infinite (s != t)
  | .finite s m e, .finite t n f => ofScaled (s != t) (m * n) (e + f)

def div : Double → Double → Double
  | .nan s, _ => .nan s
  | _, .nan s => .nan s
  | .infinite _, .infinite _ => undefined
  | .infinite s, .finite t _ _ => .infinite (s != t)
  | .finite s _ _, .infinite t => .finite (s != t) 0 0
  | .finite s m e, .finite t n f =>
      if n = 0 then if m = 0 then undefined else .infinite (s != t)
      else
        let (a, b) := ratio m (e - f)
        (ofRatio (s != t) a (b * n)).1

def rem : Double → Double → Double
  | .nan s, _ => .nan s
  | _, .nan s => .nan s
  | .infinite _, _ => undefined
  | .finite s m e, .infinite _ => .finite s m e
  | .finite s m e, .finite _ n f =>
      if n = 0 then undefined
      else
        let exponent := min e f
        let a := m * Nat.pow 2 (e - exponent).toNat
        let b := n * Nat.pow 2 (f - exponent).toNat
        ofScaled s (a % b) exponent

/-- How two numbers compare; one that is none compares with nothing. -/
def compare? : Double → Double → Option Ordering
  | .nan _, _ | _, .nan _ => none
  | .infinite s, .infinite t => some (if s = t then .eq else if s then .lt else .gt)
  | .infinite s, _ => some (if s then .lt else .gt)
  | _, .infinite t => some (if t then .gt else .lt)
  | .finite s m e, .finite t n f =>
      let exponent := min e f
      some (compare (alignedTo exponent s m e) (alignedTo exponent t n f))

def toInt? : Double → Option Int
  | .finite negative m e =>
      let (a, b) := ratio m e
      let n : Int := a / b
      some (if negative then -n else n)
  | _ => none

def integer? (x : Double) : Option Int :=
  x.toInt?.filter fun n => compare? x (ofInt n) = some .eq

def truncated (x : Double) : Double :=
  match x with
  | .finite negative m e =>
      if 0 ≤ e then x
      else
        let (a, b) := ratio m e
        (ofRatio negative (a / b) 1).1
  | x => x

/-! The machine's representation in 64 bits. -/

def toBits : Double → UInt64
  | .finite negative m e =>
      let sign := if negative then Nat.pow 2 63 else 0
      let size := if m < Nat.pow 2 52 then m
        else (e + 1075).toNat * Nat.pow 2 52 + (m - Nat.pow 2 52)
      .ofNat (sign + size)
  | .infinite negative => .ofNat ((if negative then Nat.pow 2 63 else 0) + 2047 * Nat.pow 2 52)
  | .nan _ => .ofNat (2047 * Nat.pow 2 52 + Nat.pow 2 51)

def ofBits (bits : UInt64) : Double :=
  let n := bits.toNat
  let negative := Nat.pow 2 63 ≤ n
  let exponent : Nat := n / Nat.pow 2 52 % 2048
  let m : Nat := n % Nat.pow 2 52
  if exponent = 2047 then if m = 0 then .infinite negative else undefined
  else if exponent = 0 then if m = 0 then .finite negative 0 0 else .finite negative m minExponent
  else .finite negative (m + Nat.pow 2 52) ((exponent : Int) - 1075)

def toFloat (x : Double) : Float :=
  Float.ofBits x.toBits

def ofFloat (x : Float) : Double :=
  ofBits x.toBits

def through (f : Float → Float) (x : Double) : Double :=
  match x with
  | .nan s => .nan s
  | x => ofFloat (f x.toFloat)

def sin : Double → Double :=
  through Float.sin

def cos : Double → Double :=
  through Float.cos

def exp : Double → Double :=
  through Float.exp

def log : Double → Double :=
  through Float.log

def sqrt : Double → Double :=
  through Float.sqrt

def atan2 (y x : Double) : Double :=
  if y.isNan || x.isNan then undefined else ofFloat (Float.atan2 y.toFloat x.toFloat)

/-- A power. One with a small integer as its exponent is exact and then rounded. -/
def pow (x y : Double) : Double :=
  match x, y.integer? with
  | .finite negative m e, some n =>
      let size := n.natAbs
      if 0 < m && size ≤ 2048 then
        let negative := negative && size % 2 = 1
        let (a, b) := ratio m e
        if 0 ≤ n then (ofRatio negative (Nat.pow a size) (Nat.pow b size)).1
        else (ofRatio negative (Nat.pow b size) (Nat.pow a size)).1
      else ofFloat (Float.pow x.toFloat y.toFloat)
  | x, _ =>
      if y.isZero then ofInt 1
      else if x.isNan || y.isNan then undefined
      else ofFloat (Float.pow x.toFloat y.toFloat)

end Bundler.Machine.Double
