/-! Permissions of files, as numbers and as letters. -/

namespace Bundler.Machine

namespace Permissions

def all : Nat :=
  0o7777

def without (mode bits : Nat) : Nat :=
  mode &&& (all ^^^ (bits &&& all))

def owned (who : List Char) : Nat :=
  who.foldl (fun bits c => bits ||| match c with
    | 'u' => 0o4700
    | 'g' => 0o2070
    | 'o' => 0o1007
    | _ => all) 0

def spread (bits : Nat) : Nat :=
  (bits &&& 7) * 0o111

def letterBits (mode : Nat) (isDirectory : Bool) (letters : List Char) : Nat :=
  letters.foldl (fun bits c => bits ||| match c with
    | 'r' => 0o444
    | 'w' => 0o222
    | 'x' => 0o111
    | 'X' => if isDirectory || mode &&& 0o111 ≠ 0 then 0o111 else 0
    | 's' => 0o6000
    | 't' => 0o1000
    | _ => 0) 0

/-- One change of a mode, and what follows it: an operator and what it applies to. -/
def change? (mask : Nat) (isDirectory : Bool) (who : List Char) (mode : Nat) (text : List Char) :
    Option (Nat × List Char) :=
  match text with
  | op :: rest =>
      if !(['+', '-', '='].contains op) then none
      else
        let octal := rest.takeWhile fun c => '0' ≤ c && c ≤ '7'
        let letters := rest.takeWhile fun c => ['r', 'w', 'x', 'X', 's', 't'].contains c
        let (bits?, after) : Option Nat × List Char := match rest with
          | 'u' :: after => (some (spread (mode / 64)), after)
          | 'g' :: after => (some (spread (mode / 8)), after)
          | 'o' :: after => (some (spread mode), after)
          | _ =>
              if octal.isEmpty then
                (some (letterBits mode isDirectory letters), rest.drop letters.length)
              else
                let n := octal.foldl (fun n c => n * 8 + (c.toNat - '0'.toNat)) 0
                (if who.isEmpty && n ≤ all then some n else none, rest.drop octal.length)
        bits?.map fun bits =>
          let scope := if who.isEmpty then
              (if octal.isEmpty then without all mask else all)
            else owned who
          let bits := bits &&& scope
          (match op with
            | '+' => mode ||| bits
            | '-' => without mode bits
            | _ =>
                let cleared := if who.isEmpty then all else scope
                let kept := if isDirectory then without cleared 0o6000 else cleared
                without mode kept ||| bits, after)
  | [] => none

/-- Changes that follow each other. `fuel` is more than the length of the text. -/
def changes? (mask : Nat) (isDirectory : Bool) (who : List Char) :
    (fuel : Nat) → (mode : Nat) → (text : List Char) → Option Nat
  | 0, _, _ => none
  | fuel + 1, mode, text => do
      let (mode, rest) ← change? mask isDirectory who mode text
      if rest.isEmpty then some mode else changes? mask isDirectory who fuel mode rest

def applied? (text : String) (mask : Nat) (isDirectory : Bool) (mode : Nat) : Option Nat :=
  let chars := text.toList
  if chars.isEmpty then none
  else if chars.all fun c => '0' ≤ c && c ≤ '7' then
    let n := chars.foldl (fun n c => n * 8 + (c.toNat - '0'.toNat)) 0
    if all < n then none
    else if isDirectory && chars.length < 5 then some (n ||| (mode &&& 0o6000))
    else some n
  else
    (chars.splitOn ',').foldlM (fun mode clause =>
      let who := clause.takeWhile fun c => ['u', 'g', 'o', 'a'].contains c
      changes? mask isDirectory who (clause.length + 1) mode (clause.drop who.length)) mode

def letters (mode : Nat) : String :=
  let part (bits special : Nat) (mark blank : Char) : List Char :=
    [if bits &&& 4 ≠ 0 then 'r' else '-', if bits &&& 2 ≠ 0 then 'w' else '-',
      if mode &&& special ≠ 0 then (if bits &&& 1 ≠ 0 then mark else blank)
      else if bits &&& 1 ≠ 0 then 'x' else '-']
  String.ofList (part (mode / 64) 0o4000 's' 'S' ++ part (mode / 8) 0o2000 's' 'S' ++
    part mode 0o1000 't' 'T')

def octal (mode : Nat) : String :=
  let digits := String.ofList (Nat.toDigits 8 mode)
  String.ofList (List.replicate (4 - digits.length) '0') ++ digits

end Permissions

end Bundler.Machine
