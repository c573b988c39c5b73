import Bundler.Machine.Regex.Parser
import Bundler.Machine.Utility.Records.Lexer

/-! How texts are cut into records and fields, and how parts of them are replaced. -/

namespace Bundler.Machine.Utility.Records

/-- The expression that a source writes, with its escapes read. A character that an escape stands
for has no meaning of its own. -/
def plainSource : (fuel : Nat) → List Char → List Char
  | 0, _ => []
  | fuel + 1, chars =>
      match chars with
      | '\\' :: rest =>
          match escape? rest with
          | some (c, rest) =>
              (if c.isAlphanum || c.toNat < 32 then [c] else ['\\', c]) ++ plainSource fuel rest
          | none =>
              match rest with
              | c :: rest => '\\' :: c :: plainSource fuel rest
              | [] => ['\\', '\\']
      | c :: rest => c :: plainSource fuel rest
      | [] => []

/-- Whether an alternative of an expression is empty. `awaits` tells that an operand has to follow,
and `depth` counts the groups around it. -/
def lacksOperand : (fuel : Nat) → (awaits : Bool) → (depth : Nat) → List Char → Bool
  | 0, _, _, _ => false
  | fuel + 1, awaits, depth, chars =>
      match chars with
      | [] => awaits
      | '\\' :: rest => lacksOperand fuel false depth rest.tail
      | '[' :: rest =>
          let rest := match rest with
            | '^' :: ']' :: rest | ']' :: rest | '^' :: rest | rest => rest
          lacksOperand fuel false depth ((rest.dropWhile (· ≠ ']')).drop 1)
      | '(' :: ')' :: rest => awaits || lacksOperand fuel false depth rest
      | '(' :: rest => lacksOperand fuel true (depth + 1) rest
      | '|' :: rest => awaits || lacksOperand fuel true depth rest
      | ')' :: rest => (awaits && depth ≠ 0) || lacksOperand fuel false (depth - 1) rest
      | _ :: rest => lacksOperand fuel false depth rest

def regexOf (source : String) : Except String Regex :=
  match Regex.parse { extended := true, plain := true }
      (plainSource (source.length + 1) source.toList) with
  | .ok regex =>
      if !source.isEmpty && lacksOperand (source.length + 1) true 0 source.toList then
        .error "missing operand"
      else .ok regex
  | .error .openGroup => .error "missing ')'"
  | .error .preceding => .error "missing operand"
  | .error _ => .error "bad class -- [], [^] or ["

inductive Separator
  | blanks
  | char (c : Char)
  | nothing
  | regex (body : Regex)

namespace Separator

/-- The separator that a text stands for. Without a result it is an expression. -/
def ofText? (text : String) : Option Separator :=
  match text.toList with
  | [' '] => some blanks
  | [c] => some (char c)
  | [] => some nothing
  | _ => none

def words : (fuel : Nat) → List Char → List (List Char)
  | 0, _ => []
  | fuel + 1, chars =>
      let start := chars.dropWhile isBlank
      if start.isEmpty then []
      else
        let word := start.takeWhile (!isBlank ·)
        word :: words fuel (start.drop word.length)
where
  isBlank (c : Char) : Bool :=
    c = ' ' || c = '\t' || c = '\n'

/-- The parts around the places where an expression fits, from some place on. Where it fits nothing
it does not count. -/
def parts (regex : Regex) (subject : Regex.Subject) :
    (fuel : Nat) → (start place : Nat) → List (List Char)
  | 0, _, _ => []
  | fuel + 1, start, place =>
      match regex.find? subject place with
      | none => [subject.part start subject.text.size]
      | some (found, fit) =>
          if fit.place = found then
            if subject.text.size ≤ found then [subject.part start subject.text.size]
            else parts regex subject fuel start (found + 1)
          else subject.part start found :: parts regex subject fuel fit.place fit.place

def split (separator : Separator) (text : String) : List String :=
  if text.isEmpty then []
  else
    match separator with
    | blanks => (words (text.length + 1) text.toList).map String.ofList
    | char c => (text.toList.splitOn c).map String.ofList
    | nothing => text.toList.map Char.toString
    | regex body =>
        (parts body { text := text.toList.toArray } (text.length + 2) 0 0).map String.ofList

end Separator

inductive RecordEnd
  | char (c : Char)
  | paragraph
  | regex (body : Regex)

/-- The first record of what has been read, and what follows it; none as long as its end may still
change. `isAll` tells that nothing more is to be read. -/
def RecordEnd.take? (stop : RecordEnd) (isAll : Bool) (text : List Char) :
    Option (Option (List Char × List Char)) :=
  match stop with
  | .char c =>
      let record := text.takeWhile (· ≠ c)
      match text.drop record.length with
      | _ :: rest => some (some (record, rest))
      | [] =>
        if !isAll then none else if record.isEmpty then some none else some (some (record, []))
  | .paragraph =>
      let start := text.dropWhile (· = '\n')
      match paragraph start with
      | some (record, rest) =>
          let after := rest.dropWhile (· = '\n')
          if after.isEmpty && !isAll then none else some (some (record, after))
      | none =>
          if !isAll then none
          else
            let record := (start.reverse.dropWhile (· = '\n')).reverse
            if record.isEmpty then some none else some (some (record, []))
  | .regex body =>
      let subject : Regex.Subject := { text := text.toArray }
      match longest body subject (text.length + 1) 0 with
      | some (found, place) =>
          if place = text.length && !isAll then none
          else some (some (text.take found, text.drop place))
      | none =>
          if !isAll then none else if text.isEmpty then some none else some (some (text, []))
where
  paragraph : List Char → Option (List Char × List Char)
    | '\n' :: '\n' :: rest => some ([], rest)
    | c :: rest => (paragraph rest).map fun (record, rest) => (c :: record, rest)
    | [] => none
  longest (regex : Regex) (subject : Regex.Subject) :
      (fuel : Nat) → (place : Nat) → Option (Nat × Nat)
    | 0, _ => none
    | fuel + 1, place =>
        match regex.find? subject place with
        | none => none
        | some (found, fit) =>
            if fit.place = found then longest regex subject fuel (found + 1)
            else some (found, fit.place)

/-- A part of a replacement: characters, or what was found. -/
inductive Piece
  | chars (text : List Char)
  | found

/-- The parts of a replacement. Backslashes before an ampersand are read in pairs, and one that is
left takes its meaning away. -/
def pieces : (fuel : Nat) → List Char → List Piece
  | 0, _ => []
  | fuel + 1, chars =>
      match chars with
      | [] => []
      | '&' :: rest => .found :: pieces fuel rest
      | '\\' :: _ =>
          let slashes := chars.takeWhile (· = '\\')
          match chars.drop slashes.length with
          | '&' :: rest =>
              let kept := List.replicate (slashes.length / 2) '\\'
              if slashes.length % 2 = 1 then .chars (kept ++ ['&']) :: pieces fuel rest
              else .chars kept :: .found :: pieces fuel rest
          | rest => .chars slashes :: pieces fuel rest
      | c :: rest => .chars [c] :: pieces fuel rest

def replacement (parts : List Piece) (found : List Char) : List Char :=
  parts.flatMap fun
    | .chars text => text
    | .found => found

/-- A text with what an expression fits replaced, once or everywhere, and how often. Behind a place
where it fitted it does not fit nothing. -/
def substituted (regex : Regex) (parts : List Piece) (everywhere : Bool)
    (subject : Regex.Subject) :
    (fuel : Nat) → (place : Nat) → (isBehind : Bool) → List Char × Nat
  | 0, place, _ => (subject.part place subject.text.size, 0)
  | fuel + 1, place, isBehind =>
      match regex.find? subject place with
      | none => (subject.part place subject.text.size, 0)
      | some (found, fit) =>
          let isEmpty := fit.place = found
          if isEmpty && isBehind && found = place then
            match subject.text[place]? with
            | some c =>
                let (rest, count) :=
                  substituted regex parts everywhere subject fuel (place + 1) false
                (c :: rest, count)
            | none => ([], 0)
          else
            let before := subject.part place found
            let put := replacement parts (subject.part found fit.place)
            if !everywhere then
              (before ++ put ++ subject.part fit.place subject.text.size, 1)
            else if isEmpty then
              match subject.text[found]? with
              | some c =>
                  let (rest, count) :=
                    substituted regex parts everywhere subject fuel (found + 1) false
                  (before ++ put ++ c :: rest, count + 1)
              | none => (before ++ put, 1)
            else
              let (rest, count) := substituted regex parts everywhere subject fuel fit.place true
              (before ++ put ++ rest, count + 1)

end Bundler.Machine.Utility.Records
