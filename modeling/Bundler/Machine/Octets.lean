import Bundler.Text.Utf8

/-!
Strings of octets: programs on the machine take a text as bytes, and each byte is a character whose
code is below 256.
-/

namespace Bundler.Machine.Octets

def ofBytes (bytes : ByteArray) : List Char :=
  bytes.toList.map fun byte => Char.ofNat byte.toNat

def toBytes (octets : List Char) : ByteArray :=
  ⟨(octets.map fun c => UInt8.ofNat c.toNat).toArray⟩

def bytes (octets : String) : ByteArray :=
  octets.foldl (fun bytes c => bytes.push (.ofNat c.toNat)) .empty

def ofText (text : String) : String :=
  if text.all fun (c : Char) => c.toNat < 128 then text else String.ofList (ofBytes text.toUTF8)

def toText (octets : String) : String :=
  if octets.all fun (c : Char) => c.toNat < 128 then octets
  else (Text.Utf8.decode (bytes octets)).text

end Bundler.Machine.Octets
