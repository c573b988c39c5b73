/-! Digests of bytes: MD5, the two families of SHA, and the sums of bytes that older programs
use. -/

namespace Bundler.Machine.Utility.Digest

/-- Bytes with a one bit, zeros and their length in bits behind them, so that blocks are filled. The
length takes an eighth of a block. -/
def filled (block : Nat) (bigEndian : Bool) (bytes : ByteArray) : ByteArray :=
  let field := block / 8
  let zeros := (2 * block - 1 - field - bytes.size % block) % block
  let bits := bytes.size * 8
  let length := (List.range field).map fun place =>
    let shift := 8 * if bigEndian then field - 1 - place else place
    UInt8.ofNat (bits >>> shift)
  bytes ++ ⟨((0x80 :: List.replicate zeros 0) ++ length).toArray⟩

def wordAt (w : Nat) (bigEndian : Bool) (bytes : ByteArray) (start : Nat) : BitVec w :=
  let count := w / 8
  let value := (List.range count).foldl (fun n place =>
    let place := if bigEndian then place else count - 1 - place
    n * 256 + (bytes.data[start + place]?.getD 0).toNat) 0
  .ofNat w value

def wordBytes (bigEndian : Bool) {w : Nat} (word : BitVec w) : List UInt8 :=
  let count := w / 8
  (List.range count).map fun place =>
    UInt8.ofNat (word.toNat >>> (8 * if bigEndian then count - 1 - place else place))

def hexDigit (n : Nat) : Char :=
  if n < 10 then Char.ofNat ('0'.toNat + n) else Char.ofNat ('a'.toNat + n - 10)

def shown (bigEndian : Bool) {w : Nat} (words : List (BitVec w)) : String :=
  String.ofList ((words.flatMap (wordBytes bigEndian)).flatMap fun byte =>
    [hexDigit (byte.toNat / 16), hexDigit (byte.toNat % 16)])

def overBlocks (block : Nat) (step : α → ByteArray → Nat → α) (start : α) (bytes : ByteArray) : α :=
  (List.range (bytes.size / block)).foldl
    (fun state index => step state bytes (index * block)) start

/-! MD5. -/

def sines : Array (BitVec 32) :=
  #[0xd76aa478, 0xe8c7b756, 0x242070db, 0xc1bdceee, 0xf57c0faf, 0x4787c62a,
    0xa8304613, 0xfd469501, 0x698098d8, 0x8b44f7af, 0xffff5bb1, 0x895cd7be,
    0x6b901122, 0xfd987193, 0xa679438e, 0x49b40821, 0xf61e2562, 0xc040b340,
    0x265e5a51, 0xe9b6c7aa, 0xd62f105d, 0x02441453, 0xd8a1e681, 0xe7d3fbc8,
    0x21e1cde6, 0xc33707d6, 0xf4d50d87, 0x455a14ed, 0xa9e3e905, 0xfcefa3f8,
    0x676f02d9, 0x8d2a4c8a, 0xfffa3942, 0x8771f681, 0x6d9d6122, 0xfde5380c,
    0xa4beea44, 0x4bdecfa9, 0xf6bb4b60, 0xbebfbc70, 0x289b7ec6, 0xeaa127fa,
    0xd4ef3085, 0x04881d05, 0xd9d4d039, 0xe6db99e5, 0x1fa27cf8, 0xc4ac5665,
    0xf4292244, 0x432aff97, 0xab9423a7, 0xfc93a039, 0x655b59c3, 0x8f0ccc92,
    0xffeff47d, 0x85845dd1, 0x6fa87e4f, 0xfe2ce6e0, 0xa3014314, 0x4e0811a1,
    0xf7537e82, 0xbd3af235, 0x2ad7d2bb, 0xeb86d391]

def md5Turns : Array Nat :=
  #[7, 12, 17, 22, 5, 9, 14, 20, 4, 11, 16, 23, 6, 10, 15, 21]

structure Four where
  a : BitVec 32
  b : BitVec 32
  c : BitVec 32
  d : BitVec 32

def md5Round (words : Array (BitVec 32)) (state : Four) (round : Nat) : Four :=
  let (mixed, place) : BitVec 32 × Nat :=
    if round < 16 then ((state.b &&& state.c) ||| (~~~state.b &&& state.d), round)
    else if round < 32 then
      ((state.d &&& state.b) ||| (~~~state.d &&& state.c), (5 * round + 1) % 16)
    else if round < 48 then (state.b ^^^ state.c ^^^ state.d, (3 * round + 5) % 16)
    else (state.c ^^^ (state.b ||| ~~~state.d), (7 * round) % 16)
  let sum := state.a + mixed + sines.getD round 0 + words.getD place 0
  let turn := md5Turns.getD (round / 16 * 4 + round % 4) 0
  { a := state.d, b := state.b + sum.rotateLeft turn, c := state.b, d := state.c }

def md5Block (state : Four) (bytes : ByteArray) (start : Nat) : Four :=
  let words := ((List.range 16).map fun n => wordAt 32 false bytes (start + 4 * n)).toArray
  let next := (List.range 64).foldl (md5Round words) state
  ⟨state.a + next.a, state.b + next.b, state.c + next.c, state.d + next.d⟩

def md5 (bytes : ByteArray) : String :=
  let state := overBlocks 64 md5Block ⟨0x67452301, 0xefcdab89, 0x98badcfe, 0x10325476⟩
    (filled 64 false bytes)
  shown false [state.a, state.b, state.c, state.d]

/-! SHA-1. -/

structure Five where
  a : BitVec 32
  b : BitVec 32
  c : BitVec 32
  d : BitVec 32
  e : BitVec 32

def sha1Round (state : Five) (round : Nat) (word : BitVec 32) : Five :=
  let (mixed, constant) : BitVec 32 × BitVec 32 :=
    if round < 20 then ((state.b &&& state.c) ||| (~~~state.b &&& state.d), 0x5a827999)
    else if round < 40 then (state.b ^^^ state.c ^^^ state.d, 0x6ed9eba1)
    else if round < 60 then
      ((state.b &&& state.c) ||| (state.b &&& state.d) ||| (state.c &&& state.d), 0x8f1bbcdc)
    else (state.b ^^^ state.c ^^^ state.d, 0xca62c1d6)
  { a := state.a.rotateLeft 5 + mixed + state.e + constant + word
    b := state.a
    c := state.b.rotateLeft 30
    d := state.c
    e := state.d }

def sha1Words (words : Array (BitVec 32)) : Array (BitVec 32) :=
  (List.range 64).foldl (fun words n =>
    let get (back : Nat) : BitVec 32 := words.getD (n + 16 - back) 0
    words.push ((get 3 ^^^ get 8 ^^^ get 14 ^^^ get 16).rotateLeft 1)) words

def sha1Block (state : Five) (bytes : ByteArray) (start : Nat) : Five :=
  let words := sha1Words
    ((List.range 16).map fun n => wordAt 32 true bytes (start + 4 * n)).toArray
  let next := words.toList.zipIdx.foldl (fun state (word, round) => sha1Round state round word)
    state
  ⟨state.a + next.a, state.b + next.b, state.c + next.c, state.d + next.d, state.e + next.e⟩

def sha1 (bytes : ByteArray) : String :=
  let state := overBlocks 64 sha1Block
    ⟨0x67452301, 0xefcdab89, 0x98badcfe, 0x10325476, 0xc3d2e1f0⟩ (filled 64 true bytes)
  shown true [state.a, state.b, state.c, state.d, state.e]

/-! SHA-2. -/

def primes : List Nat :=
  (List.range 410).filter fun n =>
    2 ≤ n && (List.range n).all fun divisor => divisor < 2 || n % divisor ≠ 0

def root (power bound : Nat) : (bits : Nat) → (found : Nat) → Nat
  | 0, found => found
  | bits + 1, found =>
      let next := found + Nat.pow 2 bits
      root power bound bits (if Nat.pow next power ≤ bound then next else found)

def rootFraction (w power n : Nat) : BitVec w :=
  .ofNat w (root power (n * Nat.pow 2 (power * w)) (w + 8) 0)

structure Sha2 (w : Nat) where
  constants : Array (BitVec w)
  sum0 : Nat × Nat × Nat
  sum1 : Nat × Nat × Nat
  mix0 : Nat × Nat × Nat
  mix1 : Nat × Nat × Nat

def constantsOf (w count : Nat) : Array (BitVec w) :=
  ((primes.take count).map (rootFraction w 3)).toArray

def sha2Short : Sha2 32 :=
  { constants := constantsOf 32 64
    sum0 := (2, 13, 22), sum1 := (6, 11, 25), mix0 := (7, 18, 3), mix1 := (17, 19, 10) }

def sha2Long : Sha2 64 :=
  { constants := constantsOf 64 80
    sum0 := (28, 34, 39), sum1 := (14, 18, 41), mix0 := (1, 8, 7), mix1 := (19, 61, 6) }

namespace Sha2

variable {w : Nat}

def turned (turns : Nat × Nat × Nat) (word : BitVec w) : BitVec w :=
  word.rotateRight turns.1 ^^^ word.rotateRight turns.2.1 ^^^ word.rotateRight turns.2.2

def shifted (turns : Nat × Nat × Nat) (word : BitVec w) : BitVec w :=
  word.rotateRight turns.1 ^^^ word.rotateRight turns.2.1 ^^^ (word >>> turns.2.2)

def wordsOf (sha : Sha2 w) (words : Array (BitVec w)) : Array (BitVec w) :=
  (List.range (sha.constants.size - 16)).foldl (fun words n =>
    let get (back : Nat) : BitVec w := words.getD (n + 16 - back) 0
    words.push (shifted sha.mix1 (get 2) + get 7 + shifted sha.mix0 (get 15) + get 16)) words

def round (sha : Sha2 w) (state : List (BitVec w)) (word constant : BitVec w) :
    List (BitVec w) :=
  match state with
  | [a, b, c, d, e, f, g, h] =>
      let first := h + turned sha.sum1 e + ((e &&& f) ^^^ (~~~e &&& g)) + constant + word
      let second := turned sha.sum0 a + ((a &&& b) ^^^ (a &&& c) ^^^ (b &&& c))
      [first + second, a, b, c, d + first, e, f, g]
  | state => state

def block (sha : Sha2 w) (state : List (BitVec w)) (bytes : ByteArray) (start : Nat) :
    List (BitVec w) :=
  let words := sha.wordsOf
    ((List.range 16).map fun n => wordAt w true bytes (start + w / 8 * n)).toArray
  let next := (words.toList.zip sha.constants.toList).foldl (fun state (word, constant) =>
    sha.round state word constant) state
  (state.zip next).map fun (a, b) => a + b

def digest (sha : Sha2 w) (start : List (BitVec w)) (count : Nat) (bytes : ByteArray) : String :=
  let size := 2 * w
  shown true ((overBlocks size sha.block start (filled size true bytes)).take count)

end Sha2

def squareRoots (w skipped : Nat) : List (BitVec w) :=
  ((primes.drop skipped).take 8).map (rootFraction w 2)

def sha256 : ByteArray → String :=
  sha2Short.digest (squareRoots 32 0) 8

def sha224 : ByteArray → String :=
  sha2Short.digest ((squareRoots 64 8).map fun word => word.setWidth 32) 7

def sha512 : ByteArray → String :=
  sha2Long.digest (squareRoots 64 0) 8

def sha384 : ByteArray → String :=
  sha2Long.digest (squareRoots 64 8) 6

/-! Sums. -/

def cyclic (bytes : ByteArray) : Nat :=
  let step (sum : BitVec 32) (byte : UInt8) : BitVec 32 :=
    (List.range 8).foldl (fun sum _ =>
      if sum.msb then (sum <<< 1) ^^^ 0x04c11db7#32 else sum <<< 1)
      (sum ^^^ (BitVec.ofNat 32 byte.toNat <<< 24))
  let sum := bytes.toList.foldl step 0
  let sum := (lengthBytes bytes.size 9).foldl step sum
  (~~~sum).toNat
where
  lengthBytes (length : Nat) : (fuel : Nat) → List UInt8
    | 0 => []
    | fuel + 1 =>
        if length = 0 then [] else UInt8.ofNat length :: lengthBytes (length / 256) fuel

def turning (bytes : ByteArray) : Nat :=
  (bytes.toList.foldl (fun (sum : BitVec 16) byte =>
    sum.rotateRight 1 + BitVec.ofNat 16 byte.toNat) 0).toNat

end Bundler.Machine.Utility.Digest
