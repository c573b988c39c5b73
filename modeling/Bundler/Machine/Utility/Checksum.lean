import Bundler.Machine.Utility.Digest
import Bundler.Machine.Utility.Options

/-! Programs that tell the digests of files, and check them. -/

namespace Bundler.Machine.Utility

namespace Checksum

structure Method where
  title : String
  compute : ByteArray → String
  digits : Nat

def known : List Known :=
  [⟨"b", "binary", .none⟩, ⟨"c", "check", .none⟩, ⟨"", "tag", .none⟩, ⟨"t", "text", .none⟩,
    ⟨"z", "zero", .none⟩, ⟨"", "ignore-missing", .none⟩, ⟨"", "quiet", .none⟩,
    ⟨"", "status", .none⟩, ⟨"", "strict", .none⟩, ⟨"w", "warn", .none⟩]

def entry? (method : Method) (line : String) : Option (String × String) :=
  let front := method.title ++ " ("
  if front.toList.isPrefixOf line.toList then
    match (String.ofList (line.toList.drop front.length)).splitOn ") = " with
    | [] | [_] => none
    | parts => some ((parts.getLastD "").toLower, String.intercalate ") = " parts.dropLast)
  else
    let digest := line.toList.takeWhile fun c =>
      c.isDigit || ('a' ≤ c.toLower && c.toLower ≤ 'f')
    let rest := line.toList.drop digest.length
    if digest.length ≠ method.digits then none
    else
      match rest with
      | ' ' :: ' ' :: name | ' ' :: '*' :: name =>
          if name.isEmpty then none
          else some ((String.ofList digest).toLower, String.ofList name)
      | _ => none

structure Failures where
  malformed : Nat := 0
  proper : Nat := 0
  unread : Nat := 0
  wrong : Nat := 0

def warn (count : Nat) (one many : String) : WorkM Unit := do
  if count ≠ 0 then
    complain ("WARNING: " ++ toString count ++ " " ++ (if count = 1 then one else many))

def check (method : Method) (line : CommandLine) (path : String) : WorkM Unit := do
  match ← contentOf path with
  | .error error => grumble (quotedIfNeeded path ++ ": " ++ reason error)
  | .ok content => do
      let (lines, _) := linesOf (Octets.ofBytes content)
      let quiet := line.has "status"
      let failures ← lines.foldlM (fun (failures : Failures) text => do
        match entry? method (String.ofList text) with
        | none => return { failures with malformed := failures.malformed + 1 }
        | some (digest, name) => do
            let failures := { failures with proper := failures.proper + 1 }
            match ← contentOf name with
            | .error error => do
                if line.has "ignore-missing" && error = .noSuchFile then return failures
                complain (quotedIfNeeded name ++ ": " ++ reason error)
                unless quiet do emit (name ++ ": FAILED open or read\n")
                return { failures with unread := failures.unread + 1 }
            | .ok content => do
                request (.pass pieceTime)
                if method.compute content = digest then
                  unless quiet || line.has "quiet" do emit (name ++ ": OK\n")
                  return failures
                else
                  unless quiet do emit (name ++ ": FAILED\n")
                  return { failures with wrong := failures.wrong + 1 }) {}
      if failures.proper = 0 then
        grumble (quotedIfNeeded path ++ ": no properly formatted checksum lines found")
      else
        unless quiet do
          warn failures.malformed "line is improperly formatted" "lines are improperly formatted"
          warn failures.unread "listed file could not be read" "listed files could not be read"
          warn failures.wrong "computed checksum did NOT match"
            "computed checksums did NOT match"
        if failures.unread ≠ 0 || failures.wrong ≠ 0 ||
            (line.has "strict" && failures.malformed ≠ 0) then
          setStatus 1

def main (method : Method) (args : List String) : WorkM Unit := do
  let line ← commandLine known args
  let operands := if line.operands.isEmpty then ["-"] else line.operands
  if line.has "c" then
    for path in operands do check method line path
  else
    for path in operands do
      match ← contentOf path with
      | .error error => grumble (quotedIfNeeded path ++ ": " ++ reason error)
      | .ok content => do
          request (.pass pieceTime)
          let digest := method.compute content
          emit (if line.has "tag" then method.title ++ " (" ++ path ++ ") = " ++ digest
            else digest ++ (if line.has "b" then " *" else "  ") ++ path)
          emit (if line.has "z" then "\x00" else "\n")

def md5 : Method :=
  ⟨"MD5", Digest.md5, 32⟩

def sha1 : Method :=
  ⟨"SHA1", Digest.sha1, 40⟩

def sha224 : Method :=
  ⟨"SHA224", Digest.sha224, 56⟩

def sha256 : Method :=
  ⟨"SHA256", Digest.sha256, 64⟩

def sha384 : Method :=
  ⟨"SHA384", Digest.sha384, 96⟩

def sha512 : Method :=
  ⟨"SHA512", Digest.sha512, 128⟩

def sums (text : ByteArray → String) (shows : List String → Bool) (args : List String) :
    WorkM Unit := do
  let line ← commandLine [] args
  let operands := if line.operands.isEmpty then ["-"] else line.operands
  for path in operands do
    match ← contentOf path with
    | .error error => grumble (quotedIfNeeded path ++ ": " ++ reason error)
    | .ok content => do
        request (.pass pieceTime)
        emit (text content ++ (if shows line.operands then " " ++ path else "") ++ "\n")

def cyclic : List String → WorkM Unit :=
  sums (fun content => toString (Digest.cyclic content) ++ " " ++ toString content.size)
    fun operands => !operands.isEmpty

def turning : List String → WorkM Unit :=
  sums (fun content =>
    let sum := toString (Digest.turning content)
    let blocks := toString ((content.size + 1023) / 1024)
    String.ofList (List.replicate (5 - sum.length) '0') ++ sum ++ " " ++
      String.ofList (List.replicate (5 - blocks.length) ' ') ++ blocks)
    fun operands => !operands.isEmpty

end Checksum

namespace Base64

def alphabet : Array Char :=
  ("ABCDEFGHIJKLMNOPQRSTUVWXYZabcdefghijklmnopqrstuvwxyz0123456789+/").toList.toArray

def digit (n : Nat) : Char :=
  alphabet.getD (n % 64) 'A'

def encode : List UInt8 → List Char
  | a :: b :: c :: rest =>
      let n := a.toNat * 65536 + b.toNat * 256 + c.toNat
      digit (n / 262144) :: digit (n / 4096) :: digit (n / 64) :: digit n :: encode rest
  | [a, b] =>
      let n := a.toNat * 65536 + b.toNat * 256
      [digit (n / 262144), digit (n / 4096), digit (n / 64), '=']
  | [a] =>
      let n := a.toNat * 65536
      [digit (n / 262144), digit (n / 4096), '=', '=']
  | [] => []

def value? (c : Char) : Option Nat :=
  alphabet.toList.idxOf? c

def decode : List Char → List UInt8 × Bool
  | a :: b :: c :: d :: rest =>
      match value? a, value? b with
      | some x, some y =>
          let first := UInt8.ofNat (x * 4 + y / 16)
          match value? c, value? d with
          | some z, some v =>
              let (bytes, isRight) := decode rest
              (first :: UInt8.ofNat (y * 16 + z / 4) :: UInt8.ofNat (z * 64 + v) :: bytes, isRight)
          | some z, none =>
              if d = '=' then
                let (bytes, isRight) := decode rest
                (first :: UInt8.ofNat (y * 16 + z / 4) :: bytes, isRight)
              else ([first, UInt8.ofNat (y * 16 + z / 4)], false)
          | none, _ =>
              if c = '=' && d = '=' then
                let (bytes, isRight) := decode rest
                (first :: bytes, isRight)
              else ([first], false)
      | _, _ => ([], false)
  | [] => ([], true)
  | [a, b, c] =>
      match value? a, value? b, value? c with
      | some x, some y, some z =>
          ([UInt8.ofNat (x * 4 + y / 16), UInt8.ofNat (y * 16 + z / 4)], false)
      | some x, some y, none => ([UInt8.ofNat (x * 4 + y / 16)], false)
      | _, _, _ => ([], false)
  | [a, b] =>
      match value? a, value? b with
      | some x, some y => ([UInt8.ofNat (x * 4 + y / 16)], false)
      | _, _ => ([], false)
  | [_] => ([], false)

def wrapped (width : Nat) : (fuel : Nat) → List Char → List Char
  | 0, _ => []
  | fuel + 1, chars =>
      if chars.isEmpty then []
      else chars.take width ++ '\n' :: wrapped width fuel (chars.drop width)

def known : List Known :=
  [⟨"d", "decode", .none⟩, ⟨"i", "ignore-garbage", .none⟩, ⟨"w", "wrap", .required⟩]

def main (args : List String) : WorkM Unit := do
  let line ← commandLine known args
  let width ← match line.last? "w" with
    | none => pure 76
    | some text =>
        match text.toNat? with
        | some width => pure width
        | none => die ("invalid wrap size: " ++ cited text)
  match line.operands with
  | _ :: operand :: _ => extraOperand operand
  | operands => do
      let path := operands.headD "-"
      match ← contentOf path with
      | .error error => die (quotedIfNeeded path ++ ": " ++ reason error)
      | .ok content => do
          if line.has "d" then
            let chars := (Octets.ofBytes content).filter fun c =>
              c ≠ '\n' && (!(line.has "i") || c = '=' || (value? c).isSome)
            let (bytes, isRight) := decode chars
            emitBytes ⟨bytes.toArray⟩
            unless isRight do die "invalid input"
          else
            let chars := encode content.toList
            emitChars (if width = 0 then chars else wrapped width (chars.length + 1) chars)

end Base64

end Bundler.Machine.Utility
