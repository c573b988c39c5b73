import Bundler.Machine.Utility.Options

/-! The program `tr`, which replaces, drops and squeezes characters. -/

namespace Bundler.Machine.Utility

namespace Translate

inductive Class
  | alnum | alpha | blank | cntrl | digit | graph | lower | print | punct | space | upper | xdigit
  deriving DecidableEq, Repr

namespace Class

def named? (name : String) : Option Class :=
  match name with
  | "alnum" => some alnum
  | "alpha" => some alpha
  | "blank" => some blank
  | "cntrl" => some cntrl
  | "digit" => some digit
  | "graph" => some graph
  | "lower" => some lower
  | "print" => some print
  | "punct" => some punct
  | "space" => some space
  | "upper" => some upper
  | "xdigit" => some xdigit
  | _ => none

def has (set : Class) (c : Char) : Bool :=
  let graphic := 33 ≤ c.toNat && c.toNat ≤ 126
  match set with
  | alnum => c.isAlphanum
  | alpha => c.isAlpha
  | blank => c = ' ' || c = '\t'
  | cntrl => c.toNat < 32 || c.toNat = 127
  | digit => c.isDigit
  | graph => graphic
  | lower => c.isLower
  | print => graphic || c = ' '
  | punct => graphic && !c.isAlphanum
  | space => c = ' ' || (9 ≤ c.toNat && c.toNat ≤ 13)
  | upper => c.isUpper
  | xdigit => c.isDigit || ('a' ≤ c && c ≤ 'f') || ('A' ≤ c && c ≤ 'F')

end Class

def octets : List Char :=
  (List.range 256).map Char.ofNat

inductive Part
  | char (c : Char)
  | range (first last : Char)
  | class (set : Class)
  | repeated (c : Char) (count : Option Nat)
  deriving DecidableEq, Repr

abbrev Written := Char × Bool

def read : (fuel : Nat) → List Char → List Written × Bool
  | 0, _ => ([], false)
  | fuel + 1, chars =>
      match chars with
      | [] => ([], false)
      | ['\\'] => ([('\\', true)], true)
      | '\\' :: c :: rest =>
          let digits := ((c :: rest).take 3).takeWhile fun c => '0' ≤ c && c ≤ '7'
          let value (digits : List Char) : Nat :=
            digits.foldl (fun n c => n * 8 + (c.toNat - '0'.toNat)) 0
          let digits := if 256 ≤ value digits then digits.take 2 else digits
          let (c, rest) : Char × List Char :=
            if !digits.isEmpty then (Char.ofNat (value digits), (c :: rest).drop digits.length)
            else
              (match c with
                | 'a' => '\x07'
                | 'b' => '\x08'
                | 'f' => '\x0c'
                | 'n' => '\n'
                | 'r' => '\r'
                | 't' => '\t'
                | 'v' => '\x0b'
                | c => c, rest)
          let (more, open?) := read fuel rest
          ((c, true) :: more, open?)
      | c :: rest =>
          let (more, open?) := read fuel rest
          ((c, false) :: more, open?)

def isMark (c : Char) (written : Written) : Bool :=
  written = (c, false)

def upTo? (mark : Char) : List Written → Option (List Char × List Written)
  | a :: b :: rest =>
      if isMark mark a && isMark ']' b then some ([], rest)
      else (upTo? mark (b :: rest)).map fun (text, rest) => (a.1 :: text, rest)
  | _ => none

/-- The parts that written characters make. `fuel` is more than their number. -/
def parts : (fuel : Nat) → List Written → WorkM (List Part)
  | 0, _ => return []
  | fuel + 1, chars => do
      match special? chars with
      | some (.inr fault) => die fault
      | some (.inl (part, rest)) => return part :: (← parts fuel rest)
      | none =>
          match chars with
          | [] => return []
          | a :: dash :: b :: rest =>
              if isMark '-' dash then
                if b.1 < a.1 then
                  die ("range-endpoints of '" ++ a.1.toString ++ "-" ++ b.1.toString ++
                    "' are in reverse collating sequence order")
                return .range a.1 b.1 :: (← parts fuel rest)
              else return .char a.1 :: (← parts fuel (dash :: b :: rest))
          | a :: rest => return .char a.1 :: (← parts fuel rest)
where
  special? (chars : List Written) : Option ((Part × List Written) ⊕ String) :=
    match chars with
    | a :: b :: rest =>
        if !isMark '[' a then none
        else if isMark ':' b then
          match upTo? ':' rest with
          | none => none
          | some (name, rest) =>
              match Class.named? (String.ofList name) with
              | some set => some (.inl (.class set, rest))
              | none =>
                  if name.isEmpty then some (.inr "missing character class name '[::]'")
                  else some (.inr ("invalid character class '" ++ String.ofList name ++ "'"))
        else if isMark '=' b then
          match upTo? '=' rest with
          | some ([c], rest) => some (.inl (.char c, rest))
          | some ([], _) => some (.inr "missing equivalence class character '[==]'")
          | some (text, _) =>
              some (.inr (String.ofList text ++
                ": equivalence class operand must be a single character"))
          | none => none
        else
          match rest with
          | star :: rest =>
              if !isMark '*' star then none
              else
                let digits := (rest.takeWhile fun c => c.1.isDigit && !c.2).map (·.1)
                match rest.drop digits.length with
                | close :: after =>
                    if !isMark ']' close then none
                    else
                      let base := if digits.head? = some '0' then 8 else 10
                      let n := digits.foldl (fun n c => n * base + (c.toNat - '0'.toNat)) 0
                      some (.inl (.repeated b.1 (if n = 0 then none else some n), after))
                | [] => none
          | [] => none
    | _ => none

def membersOf : Part → List Char
  | .char c => [c]
  | .range first last =>
      (List.range (last.toNat + 1 - first.toNat)).map fun n => Char.ofNat (first.toNat + n)
  | .class set => octets.filter set.has
  | .repeated c count => List.replicate (count.getD 0) c

def members (parts : List Part) : List Char :=
  parts.flatMap membersOf

def secondMembers (length : Nat) (parts : List Part) : List Char :=
  let fixed := (members parts).length
  parts.flatMap fun part =>
    match part with
    | .repeated c none => List.replicate (length - fixed) c
    | part => membersOf part

def setOf (text : String) : WorkM (List Part) := do
  let (written, open?) := read (text.length + 1) text.toList
  if open? then complain "warning: an unescaped backslash at end of string is not portable"
  parts (written.length + 1) written

def casePairs (first second : List Part) : List (Char × Char) :=
  go first second
where
  go : List Part → List Part → List (Char × Char)
    | a :: first, b :: second =>
        match a, b with
        | .class .lower, .class .upper =>
            ((octets.filter Class.lower.has).map fun c => (c, c.toUpper)) ++ go first second
        | .class .upper, .class .lower =>
            ((octets.filter Class.upper.has).map fun c => (c, c.toLower)) ++ go first second
        | _, _ => (membersOf a).zip (membersOf b) ++ go first second
    | _, _ => []

def known : List Known :=
  [⟨"c", "complement", .none⟩, ⟨"c", "", .none⟩, ⟨"C", "", .none⟩, ⟨"d", "delete", .none⟩,
    ⟨"s", "squeeze-repeats", .none⟩, ⟨"t", "truncate-set1", .none⟩]

/-- What becomes of a character: none if it is dropped. -/
structure Rule where
  table : Array (Option Char)
  squeezed : Array Bool

def tableOf (f : Char → α) : Array α :=
  ((List.range 256).map fun n => f (Char.ofNat n)).toArray

def Rule.step (rule : Rule) (last : Option UInt8) (byte : UInt8) : Option UInt8 × Option UInt8 :=
  match (rule.table[byte.toNat]?).getD none with
  | none => (last, none)
  | some c =>
      let new := UInt8.ofNat c.toNat
      if last = some new && (rule.squeezed[new.toNat]?).getD false then (last, none)
      else (some new, some new)

def copy (rule : Rule) : (fuel : Nat) → Option UInt8 → WorkM Unit
  | 0, _ => return
  | fuel + 1, last => do
      match ← readSome 0 8192 Act.endless with
      | .error error => die ("read error: " ++ reason error)
      | .ok bytes =>
          unless bytes.isEmpty do
            let (last, out) := bytes.foldl (fun (last, out) byte =>
              let (last, new?) := rule.step last byte
              (last, match new? with
                | some new => out.push new
                | none => out)) (last, ByteArray.empty)
            emitBytes out
            flush
            copy rule fuel last

def pairsOf (complement truncate : Bool) (first second : List Part) :
    WorkM (List (Char × Char)) := do
  let isCase (part : Part) : Bool := part = .class .lower || part = .class .upper
  if second.any fun part => match part with
      | .class _ => !isCase part
      | _ => false then
    die ("when translating, the only character classes that may appear in\n" ++
      "string2 are 'upper' and 'lower'")
  let from1 := if complement then octets.filter (!(members first).contains ·) else members first
  let to2 := secondMembers from1.length second
  if !complement && second.any isCase then
    let pairs := casePairs first second
    return pairs
  if to2.isEmpty && !truncate then
    die "when not truncating set1, string2 must be non-empty"
  let to2 := if truncate then to2
    else to2 ++ List.replicate (from1.length - to2.length) (to2.getLast?.getD 'x')
  return from1.zip to2

def main (args : List String) : WorkM Unit := do
  let line ← commandLine known args false
  let complement := line.has "c" || line.has "C"
  let deletes := line.has "d"
  let squeezes := line.has "s"
  let wanted := if deletes then (if squeezes then 2 else 1) else if squeezes then 1 else 2
  match line.operands with
  | [] => misuse "missing operand"
  | [one] =>
      if wanted = 2 then do
        complain ("missing operand after " ++ cited one)
        remark (if deletes then
            "Two strings must be given when both deleting and squeezing repeats.\n"
          else "Two strings must be given when translating.\n")
        pointToHelp
  | _ :: two :: more =>
      if deletes && !squeezes then do
        complain ("extra operand " ++ cited two)
        if more.isEmpty then
          remark "Only one string may be given when deleting without squeezing repeats.\n"
        pointToHelp
      else
        match more with
        | three :: _ => extraOperand three
        | [] => pure ()
  let sets ← line.operands.mapM setOf
  let first := sets.headD []
  let second? := sets[1]?
  let isFirst (c : Char) : Bool := complement != (members first).contains c
  let rule : Rule ← match deletes, second? with
    | true, _ =>
        let second := (second?.map members).getD []
        pure { table := tableOf fun c => if isFirst c then none else some c
               squeezed := tableOf fun c => squeezes && second.contains c }
    | false, none =>
        pure { table := tableOf some
               squeezed := tableOf isFirst }
    | false, some second => do
        let pairs ← pairsOf complement (line.has "t") first second
        let pairs := pairs.reverse
        let results := pairs.map (·.2)
        pure { table := tableOf fun c => some ((pairs.lookup c).getD c)
               squeezed := tableOf fun c => squeezes && results.contains c }
  copy rule Act.endless none

end Translate

end Bundler.Machine.Utility
