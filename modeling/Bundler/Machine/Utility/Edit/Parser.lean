import Bundler.Machine.Utility.Edit.Command

/-! Scripts of a stream editor as they are written. -/

namespace Bundler.Machine.Utility.Edit

structure Defect where
  message : String
  place : Nat
  deriving DecidableEq, Repr

structure Parsing where
  rest : List Char
  size : Nat
  extended : Bool := false
  commands : Array Command := #[]
  blocks : List Nat := []
  quiet : Bool := false

abbrev ParserM := StateT Parsing (Except Defect)

def failAt (place : Nat) (message : String) : ParserM α :=
  throw { message, place }

def fail (message : String) : ParserM α := do
  let parsing ← get
  failAt (parsing.size - parsing.rest.length) message

def peek : ParserM (Option Char) := do
  return (← get).rest.head?

def next : ParserM (Option Char) := do
  match (← get).rest with
  | [] => return none
  | c :: rest => do
      modify fun parsing => { parsing with rest }
      return some c

def skip (test : Char → Bool) : ParserM Unit :=
  modify fun parsing => { parsing with rest := parsing.rest.dropWhile test }

def takeWhile (test : Char → Bool) : ParserM (List Char) := do
  let chars := (← get).rest.takeWhile test
  modify fun parsing => { parsing with rest := parsing.rest.drop chars.length }
  return chars

def isBlank (c : Char) : Bool :=
  c = ' ' || c = '\t'

def isSpace (c : Char) : Bool :=
  c = ' ' || (9 ≤ c.toNat && c.toNat ≤ 13)

def valueOf (digits : List Char) : Nat :=
  digits.foldl (fun n c => n * 10 + (c.toNat - '0'.toNat)) 0

def number : ParserM Nat := do
  return valueOf (← takeWhile Char.isDigit)

inductive Bracket
  | outside
  | opened (negated : Bool)
  | inside
  | named (mark last : Char)
  deriving DecidableEq, Repr

/-- Where the place behind a character is. `following?` is the character behind that one. -/
def Bracket.behind (bracket : Bracket) (c : Char) (following? : Option Char) : Bracket :=
  let within : Bracket :=
    match following? with
    | some mark =>
        if c = '[' && (mark = ':' || mark = '.' || mark = '=') then .named mark ' ' else .inside
    | none => .inside
  match bracket with
  | .outside => if c = '[' then .opened false else .outside
  | .opened negated => if c = '^' && !negated then .opened true else within
  | .inside => if c = ']' then .outside else within
  | .named mark last => if c = ']' && last = mark then .inside else .named mark c

/-- The text up to a mark, where backslashes and, in a regular expression, brackets keep marks from
ending it. `isRegex` also tells that a newline may be written by its letter. None if there is no
mark. -/
def delimited (mark : Char) (isRegex : Bool) :
    (fuel : Nat) → Bracket → List Char → ParserM (Option (List Char))
  | 0, _, _ => return none
  | fuel + 1, bracket, back => do
      let goOn (c : Char) : ParserM (Option (List Char)) := do
        let following? ← peek
        delimited mark isRegex fuel (if isRegex then bracket.behind c following? else .outside)
          (c :: back)
      match ← next with
      | none => return none
      | some '\n' => if isRegex then return none else goOn '\n'
      | some '\\' =>
          if mark = '\\' then return some back.reverse
          match ← next with
          | none => return none
          | some 'n' =>
              if isRegex && mark ≠ 'n' then goOn '\n'
              else delimited mark isRegex fuel bracket ('n' :: '\\' :: back)
          | some '\n' =>
              if isRegex then goOn '\n'
              else delimited mark isRegex fuel bracket ('\n' :: '\\' :: back)
          | some c =>
              if c = mark && !(!isRegex && c = '&') then goOn c
              else if bracket = .outside then
                delimited mark isRegex fuel bracket (c :: '\\' :: back)
              else do
                let following? ← peek
                delimited mark isRegex fuel (bracket.behind c following?) (c :: '\\' :: back)
      | some c =>
          if c = mark && bracket = .outside then return some back.reverse else goOn c

def delimitedText (mark : Char) (isRegex : Bool) : ParserM (Option (List Char)) := do
  delimited mark isRegex ((← get).rest.length + 1) .outside []

def escape? : List Char → Option (Char × List Char)
  | 'a' :: rest => some ('\x07', rest)
  | 'f' :: rest => some ('\x0c', rest)
  | 'r' :: rest => some ('\r', rest)
  | 't' :: rest => some ('\t', rest)
  | 'v' :: rest => some ('\x0b', rest)
  | 'c' :: c :: rest => some (Char.ofNat ((c.toUpper.toNat ^^^ 64) % 256), rest)
  | 'd' :: rest => coded 10 3 rest
  | 'o' :: rest => coded 8 3 rest
  | 'x' :: rest => coded 16 2 rest
  | _ => none
where
  digit? (base : Nat) (c : Char) : Option Nat :=
    let n := if c.isDigit then c.toNat - '0'.toNat
      else if c.isAlpha then c.toLower.toNat - 'a'.toNat + 10
      else 99
    if n < base then some n else none
  coded (base most : Nat) (rest : List Char) : Option (Char × List Char) :=
    let digits := (rest.take most).takeWhile fun c => (digit? base c).isSome
    if digits.isEmpty then none
    else
      some (Char.ofNat ((digits.foldl (fun n c => n * base + (digit? base c).getD 0) 0) % 256),
        rest.drop digits.length)

def plainRegex : (fuel : Nat) → List Char → List Char
  | 0, chars => chars
  | fuel + 1, chars =>
      match chars with
      | '\\' :: rest =>
          match escape? rest with
          | some (c, rest) =>
              let special := "*.[]^$\\/+?()\x7b\x7d|".toList.contains c
              (if special then ['\\', c] else [c]) ++ plainRegex fuel rest
          | none =>
              match rest with
              | c :: rest => '\\' :: c :: plainRegex fuel rest
              | [] => ['\\']
      | c :: rest => c :: plainRegex fuel rest
      | [] => []

def patternOf (text : List Char) (folds lines : Bool) : ParserM Pattern := do
  if text.isEmpty then return none
  let extended := (← get).extended
  match Regex.parse { extended, repeats := extended } (plainRegex (text.length + 1) text) with
  | .ok regex => return some (regex, folds, lines)
  | .error defect => fail defect.message

def regexFlags : (fuel : Nat) → Bool → Bool → ParserM (Bool × Bool)
  | 0, folds, lines => return (folds, lines)
  | fuel + 1, folds, lines => do
      match ← peek with
      | some 'I' => do
          let _ ← next
          regexFlags fuel true lines
      | some 'M' => do
          let _ ← next
          regexFlags fuel folds true
      | _ => return (folds, lines)

def regexAddress (mark : Char) : ParserM Address := do
  match ← delimitedText mark true with
  | none => fail "unterminated address regex"
  | some text => do
      let (folds, lines) ← regexFlags 4 false false
      return .fitting (← patternOf text folds lines)

def address? : ParserM (Option Address) := do
  match ← peek with
  | some '/' => do
      let _ ← next
      return some (← regexAddress '/')
  | some '\\' => do
      let _ ← next
      match ← next with
      | some mark => return some (← regexAddress mark)
      | none => fail "unterminated address regex"
  | some '$' => do
      let _ ← next
      return some .last
  | some '+' => do
      let _ ← next
      skip isBlank
      return some (.plus (← number))
  | some '~' => do
      let _ ← next
      skip isBlank
      return some (.multiple (← number))
  | some c =>
      if c.isDigit then do
        let first ← number
        skip isBlank
        match ← peek with
        | some '~' => do
            let _ ← next
            skip isBlank
            let step ← number
            return some (if step = 0 then .line first else .step first step)
        | _ => return some (.line first)
      else return none
  | none => return none

def endOfCommand : ParserM Unit := do
  skip isBlank
  match ← peek with
  | none | some '\x7d' | some '#' => return
  | some _ => do
      let c? ← next
      unless c? = some '\n' || c? = some ';' do fail "extra characters after command"

def textLines : (fuel : Nat) → List Char → ParserM (List Char)
  | 0, back => return back.reverse
  | fuel + 1, back => do
      match ← next with
      | none => return (if back.isEmpty then [] else ('\n' :: back).reverse)
      | some '\n' => return ('\n' :: back).reverse
      | some '\\' =>
          match escape? (← get).rest with
          | some (c, rest) => do
              modify fun parsing => { parsing with rest }
              textLines fuel (c :: back)
          | none =>
              match ← next with
              | none => return back.reverse
              | some 'n' => textLines fuel ('\n' :: back)
              | some c => textLines fuel (c :: back)
      | some c => textLines fuel (c :: back)

def textOf : ParserM (List Char) := do
  skip isBlank
  match ← peek with
  | none => fail "expected \\ after `a', `c' or `i'"
  | some '\\' => do
      let _ ← next
      let blanks ← takeWhile isBlank
      match ← peek with
      | some '\n' => do
          let _ ← next
      | _ =>
          if !blanks.isEmpty then
            modify fun parsing => { parsing with rest := blanks ++ parsing.rest }
      textLines ((← get).rest.length + 1) []
  | some _ => textLines ((← get).rest.length + 1) []

def label : ParserM String := do
  skip isBlank
  return String.ofList (← takeWhile fun c => !isSpace c && c ≠ ';' && c ≠ '\x7d')

def fileName : ParserM String := do
  skip isBlank
  let name ← takeWhile (· ≠ '\n')
  let _ ← next
  if name.isEmpty then fail "missing filename in r/R/w/W commands"
  return String.ofList name

/-- The pieces of a replacement. `plain` is what stands before, last character first. -/
def pieces : (fuel : Nat) → (plain : List Char) → List Char → List Piece
  | 0, _, _ => []
  | fuel + 1, plain, chars =>
      let before : List Piece := if plain.isEmpty then [] else [.text plain.reverse]
      match chars with
      | [] => before
      | '&' :: rest => before ++ .group 0 :: pieces fuel [] rest
      | '\\' :: c :: rest =>
          if c.isDigit then before ++ .group (c.toNat - '0'.toNat) :: pieces fuel [] rest
          else
            match c with
            | 'U' => before ++ .case .upper :: pieces fuel [] rest
            | 'L' => before ++ .case .lower :: pieces fuel [] rest
            | 'u' => before ++ .case .upperNext :: pieces fuel [] rest
            | 'l' => before ++ .case .lowerNext :: pieces fuel [] rest
            | 'E' => before ++ .case .plain :: pieces fuel [] rest
            | 'n' => pieces fuel ('\n' :: plain) rest
            | c =>
                match escape? (c :: rest) with
                | some (c, rest) => pieces fuel (c :: plain) rest
                | none => pieces fuel (c :: plain) rest
      | c :: rest => pieces fuel (c :: plain) rest

/-- The flags of a substitution: where they leave off, and whether case and lines matter. -/
structure Flags where
  everywhere : Bool := false
  number : Option Nat := none
  prints : Bool := false
  folds : Bool := false
  lines : Bool := false
  output? : Option String := none

def flags : (fuel : Nat) → Flags → ParserM Flags
  | 0, flags => return flags
  | fuel + 1, found => do
      match ← peek with
      | none | some '#' | some '\x7d' => return found
      | some c =>
          if c.isDigit then do
            if found.number.isSome then
              let _ ← next
              fail "multiple number options to `s' command"
            let n ← number
            if n = 0 then fail "number option to `s' command may not be zero"
            flags fuel { found with number := some n }
          else do
            let _ ← next
            match c with
            | '\n' | ';' => return found
            | 'g' => do
                if found.everywhere then fail "multiple `g' options to `s' command"
                flags fuel { found with everywhere := true }
            | 'p' => do
                if found.prints then fail "multiple `p' options to `s' command"
                flags fuel { found with prints := true }
            | 'i' | 'I' => flags fuel { found with folds := true }
            | 'm' | 'M' => flags fuel { found with lines := true }
            | 'e' => flags fuel found
            | 'w' => return { found with output? := some (← fileName) }
            | c => if isSpace c then flags fuel found else fail "unknown option to `s'"

def substitution : ParserM Action := do
  let unterminated {α : Type} : ParserM α := fail "unterminated `s' command"
  match ← next with
  | none | some '\n' | some '\\' => unterminated
  | some mark =>
      match ← delimitedText mark true with
      | none => unterminated
      | some text =>
          match ← delimitedText mark false with
          | none => unterminated
          | some new => do
              let found ← flags ((← get).rest.length + 1) {}
              let pattern ← patternOf text found.folds found.lines
              let pieces := pieces (new.length + 1) [] new
              let most := pieces.foldl (fun most piece => match piece with
                | .group n => max most n
                | _ => most) 0
              match pattern with
              | some (regex, _, _) =>
                  if regex.groupCount < most then
                    fail ("invalid reference \\" ++ toString most ++ " on `s' command's RHS")
              | none => pure ()
              return .substitute
                { pattern, pieces, everywhere := found.everywhere
                  number := found.number.getD 1
                  prints := found.prints
                  output? := found.output? }

def tableText : List Char → List Char
  | '\\' :: c :: rest =>
      (match c with
        | 'n' => ['\n']
        | 't' => ['\t']
        | 'r' => ['\r']
        | '\\' => ['\\']
        | '\n' => ['\n']
        | c => ['\\', c]) ++ tableText rest
  | c :: rest => c :: tableText rest
  | [] => []

def translation : ParserM Action := do
  let unterminated {α : Type} : ParserM α := fail "unterminated `y' command"
  match ← next with
  | none | some '\n' | some '\\' => unterminated
  | some mark =>
      match ← delimitedText mark false with
      | none => unterminated
      | some first =>
          match ← delimitedText mark false with
          | none => unterminated
          | some second => do
              let first := tableText first
              let second := tableText second
              if first.length ≠ second.length then
                fail "strings for `y' command are different lengths"
              endOfCommand
              return .translate (first.zip second)

def bare (action : Action) : ParserM Action := do
  endOfCommand
  return action

def withNumber (action : Option Nat → Action) : ParserM Action := do
  skip isBlank
  let digits ← takeWhile Char.isDigit
  endOfCommand
  return action (if digits.isEmpty then none else some (valueOf digits))

def action (c : Char) (selection : Selection) : ParserM Action := do
  match c with
  | '=' => bare .number
  | 'd' => bare .delete
  | 'D' => bare .deleteFirst
  | 'F' => bare .showName
  | 'g' => bare .take
  | 'G' => bare .takeMore
  | 'h' => bare .keep
  | 'H' => bare .keepMore
  | 'n' => bare .next
  | 'N' => bare .nextMore
  | 'p' => bare .print
  | 'P' => bare .printFirst
  | 'x' => bare .exchange
  | 'z' => bare .clear
  | 'a' => return .append (← textOf)
  | 'i' => return .insert (← textOf)
  | 'c' => return .change (← textOf)
  | 'b' => return .jump (← label)
  | 't' => return .jumpIfReplaced (← label)
  | 'T' => return .jumpUnlessReplaced (← label)
  | 'l' => withNumber .list
  | 'q' | 'Q' => do
      if selection.stop?.isSome then fail "command only uses one address"
      withNumber fun n? => if c = 'q' then .quit (n?.getD 0) else .quitSilently (n?.getD 0)
  | 'r' => return .readFile (← fileName)
  | 'R' => return .readLine (← fileName)
  | 'w' => return .write (← fileName)
  | 'W' => return .writeFirst (← fileName)
  | 's' => substitution
  | 'y' => translation
  | 'v' => do
      let version ← label
      if version.toList.takeWhile Char.isDigit |> valueOf |> (4 < ·) then
        fail "expected newer version of sed"
      return .nothing
  | ':' => do
      if selection.start?.isSome then fail ": doesn't want any addresses"
      skip isBlank
      let name ← takeWhile fun c => !isSpace c && c ≠ ';'
      if name.isEmpty then fail "\":\" lacks a label"
      return .label (String.ofList name)
  | '\x7b' => do
      modify fun parsing =>
        { parsing with blocks := parsing.commands.size :: parsing.blocks }
      return .enter 0
  | '\x7d' => do
      match (← get).blocks with
      | [] => fail "unexpected `\x7d'"
      | start :: blocks => do
          if selection.start?.isSome then fail "\x7d doesn't want any addresses"
          endOfCommand
          modify fun parsing =>
            { parsing with
              blocks
              commands := parsing.commands.modify start fun command =>
                { command with action := .enter parsing.commands.size } }
          return .nothing
  | c => fail ("unknown command: `" ++ c.toString ++ "'")

def selection : ParserM Selection := do
  match ← address? with
  | none => return {}
  | some start => do
      match start with
      | .plus _ | .multiple _ => fail "invalid usage of +N or ~N as first address"
      | _ => pure ()
      skip isBlank
      let stop? : Option Address ← match ← peek with
        | some ',' => do
            let _ ← next
            skip isBlank
            match ← address? with
            | some stop => pure (some stop)
            | none => fail "unexpected `,'"
        | _ => pure none
      match start, stop? with
      | .line 0, some (.fitting _) => pure ()
      | .line 0, _ => do
          skip isBlank
          let _ ← next
          fail "invalid usage of line address 0"
      | _, _ => pure ()
      return { start? := some start, stop? }

def commands : (fuel : Nat) → ParserM Unit
  | 0 => return
  | fuel + 1 => do
      skip fun c => isSpace c || c = ';'
      let parsing ← get
      match parsing.rest with
      | [] => return
      | '#' :: rest => do
          if parsing.rest.length = parsing.size && parsing.commands.isEmpty &&
              (rest = ['n'] || ['n', '\n'].isPrefixOf rest) then
            modify fun parsing => { parsing with quiet := true }
          skip (· ≠ '\n')
          commands fuel
      | _ => do
          let selection ← selection
          skip isBlank
          let negated := (← peek) = some '!'
          if negated then
            let _ ← next
            skip isBlank
            if (← peek) = some '!' then
              let _ ← next
              fail "multiple `!'s"
          match ← next with
          | none => fail "missing command"
          | some c => do
              if c = '#' then fail "comments don't accept any addresses"
              let action ← action c selection
              modify fun parsing =>
                { parsing with
                  commands := parsing.commands.push
                    { selection := { selection with negated }, action } }
              commands fuel

def readBehind (parsing : Parsing) (text : List Char) : Except Defect Parsing :=
  ((commands (text.length + 1)).run { parsing with rest := text, size := text.length }).map (·.2)

def target? (commands : Array Command) (name : String) : Option Nat :=
  if name.isEmpty then some commands.size
  else
    commands.findIdx? fun command =>
      match command.action with
      | .label other => name = other
      | _ => false

end Bundler.Machine.Utility.Edit
