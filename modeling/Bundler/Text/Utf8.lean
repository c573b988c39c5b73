/-!
UTF-8: decoding of arbitrary bytes, and cuts of a text at byte offsets.
-/

namespace Bundler.Text

/-- A text read from bytes; `wellFormed` says that no byte had to be replaced. -/
structure Decoded where
  text : String
  wellFormed : Bool := true
  deriving DecidableEq, Repr, Inhabited

namespace Utf8

/-- Decoding between two bytes. `owed` counts the bytes that the character begun still lacks,
and the next of them has to lie between `least` and `greatest`. -/
structure Decoder where
  owed : Nat := 0
  least : UInt8 := 0x80
  greatest : UInt8 := 0xBF
  code : Nat := 0
  decoded : List Char := []
  wellFormed : Bool := true

namespace Decoder

def emit (d : Decoder) (c : Char) : Decoder :=
  { decoded := c :: d.decoded, wellFormed := d.wellFormed }

def replace (d : Decoder) : Decoder :=
  { decoded := '\uFFFD' :: d.decoded, wellFormed := false }

def await (d : Decoder) (owed : Nat) (code least greatest : UInt8) : Decoder :=
  { d with owed, least, greatest, code := code.toNat }

def lead (d : Decoder) (b : UInt8) : Decoder :=
  if b < 0x80 then d.emit (Char.ofNat b.toNat)
  else if b < 0xC2 then d.replace
  else if b < 0xE0 then d.await 1 (b &&& 0x1F) 0x80 0xBF
  else if b == 0xE0 then d.await 2 0 0xA0 0xBF
  else if b == 0xED then d.await 2 0x0D 0x80 0x9F
  else if b < 0xF0 then d.await 2 (b &&& 0x0F) 0x80 0xBF
  else if b == 0xF0 then d.await 3 0 0x90 0xBF
  else if b == 0xF4 then d.await 3 4 0x80 0x8F
  else if b < 0xF4 then d.await 3 (b &&& 0x07) 0x80 0xBF
  else d.replace

/-- A byte that cannot continue the character begun replaces that character and is read as a
first byte itself. -/
def feed (d : Decoder) (b : UInt8) : Decoder :=
  match d.owed with
  | 0 => d.lead b
  | owed + 1 =>
      if d.least ≤ b && b ≤ d.greatest then
        let code := d.code * 64 + (b &&& 0x3F).toNat
        match owed with
        | 0 => d.emit (Char.ofNat code)
        | _ => { d with owed, code, least := 0x80, greatest := 0xBF }
      else d.replace.lead b

def finish (d : Decoder) : Decoded :=
  let d := if d.owed = 0 then d else d.replace
  { text := String.ofList d.decoded.reverse, wellFormed := d.wellFormed }

end Decoder

/-- Each maximal ill-formed sequence of bytes becomes one replacement character. -/
def decode (bytes : ByteArray) : Decoded :=
  (bytes.foldl Decoder.feed {}).finish

end Utf8

def byteLength (chars : List Char) : Nat :=
  chars.foldl (fun length c => length + c.utf8Size) 0

/-- Parts the characters at a byte offset: those before it, last one first, and those after it.
There is no such cut inside a character or past the end. -/
def cut? (before : List Char) : Nat → List Char → Option (List Char × List Char)
  | 0, after => some (before, after)
  | _ + 1, [] => none
  | n + 1, c :: after =>
      if c.utf8Size ≤ n + 1 then cut? (c :: before) (n + 1 - c.utf8Size) after else none

def sliceBack? (text : String) (start stop : Nat) : Option (List Char) := do
  let (_, after) ← cut? [] start text.toList
  if start ≤ stop then
    let (inside, _) ← cut? [] (stop - start) after
    return inside
  else none

end Bundler.Text
