/-!
Patterns of the shell, in which a backslash makes a character stand for itself. Characters are
octets.
-/

namespace Bundler.Machine

def charClass? (name : List Char) : Option (Char → Bool) :=
  let upper (c : Char) : Bool := 'A' ≤ c && c ≤ 'Z'
  let lower (c : Char) : Bool := 'a' ≤ c && c ≤ 'z'
  let digit (c : Char) : Bool := '0' ≤ c && c ≤ '9'
  let alpha (c : Char) : Bool := upper c || lower c
  let space (c : Char) : Bool := c == ' ' || ('\t' ≤ c && c ≤ '\r')
  let graph (c : Char) : Bool := '!' ≤ c && c ≤ '~'
  match String.ofList name with
  | "alnum" => some fun c => alpha c || digit c
  | "alpha" => some alpha
  | "blank" => some fun c => c == ' ' || c == '\t'
  | "cntrl" => some fun c => c.toNat < 32 || c.toNat = 127
  | "digit" => some digit
  | "graph" => some graph
  | "lower" => some lower
  | "print" => some fun c => graph c || c == ' '
  | "punct" => some fun c => graph c && !alpha c && !digit c
  | "space" => some space
  | "upper" => some upper
  | "xdigit" => some fun c => digit c || ('a' ≤ c && c ≤ 'f') || ('A' ≤ c && c ≤ 'F')
  | _ => none

namespace Shell.Pattern

def rank (c : Char) : Int :=
  if c.toNat < 128 then c.toNat else (c.toNat : Int) - 256

def namedClass? : List Char → Option ((Char → Bool) × List Char)
  | ':' :: rest =>
      let name := rest.takeWhile fun c => 'a' ≤ c && c ≤ 'z'
      match rest.drop name.length with
      | ':' :: ']' :: after => (charClass? name).map (·, after)
      | _ => none
  | _ => none

/-- Whether a character is in a set, and the pattern after the set. The set is given from behind
its bracket and its negation, and it does not count if it has no end. -/
def inSet? (c : Char) : (fuel : Nat) → (first : Bool) → (found : Bool) → List Char →
    Option (Bool × List Char)
  | 0, _, _, _ => none
  | _ + 1, _, _, [] => none
  | fuel + 1, first, found, d :: rest =>
      if d == ']' && !first then some (found, rest)
      else
        match if d == '[' then namedClass? rest else none with
        | some (test, rest) => inSet? c fuel false (found || test c) rest
        | none =>
            let single (d : Char) (rest : List Char) : Option (Bool × List Char) :=
              match rest with
              | '-' :: e :: after =>
                  if e == ']' then inSet? c fuel false (found || c == d) rest
                  else
                    let (e, after) := match e, after with
                      | '\\', e :: after => (e, after)
                      | e, after => (e, after)
                    inSet? c fuel false (found || (rank d ≤ rank c && rank c ≤ rank e)) after
              | rest => inSet? c fuel false (found || c == d) rest
            match d, rest with
            | '\\', d :: rest => single d rest
            | d, rest => single d rest

/-- Whether a pattern fits a whole text. `fuel` is more than the length of both. -/
def fitsWith : (fuel : Nat) → List Char → List Char → Bool
  | 0, _, _ => false
  | _ + 1, [], text => text.isEmpty
  | fuel + 1, p :: pattern, text =>
      let exactly (p : Char) (pattern : List Char) : Bool :=
        match text with
        | c :: text => c == p && fitsWith fuel pattern text
        | [] => false
      match p with
      | '\\' =>
          match pattern with
          | p :: pattern => exactly p pattern
          | [] => exactly '\\' []
      | '?' =>
          match text with
          | _ :: text => fitsWith fuel pattern text
          | [] => false
      | '*' =>
          fitsWith fuel pattern text ||
            match text with
            | _ :: text => fitsWith fuel (p :: pattern) text
            | [] => false
      | '[' =>
          match text with
          | [] => false
          | c :: below =>
              let (negated, set) := match pattern with
                | '!' :: set => (true, set)
                | set => (false, set)
              match inSet? c (set.length + 1) true false set with
              | none => exactly '[' pattern
              | some (found, pattern) => found != negated && fitsWith fuel pattern below
      | p => exactly p pattern

def fits (pattern text : List Char) : Bool :=
  fitsWith (pattern.length + text.length + 1) pattern text

def unescaped : List Char → List Char
  | '\\' :: c :: rest => c :: unescaped rest
  | c :: rest => c :: unescaped rest
  | [] => []

end Shell.Pattern

end Bundler.Machine
