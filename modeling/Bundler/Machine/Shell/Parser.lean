import Bundler.Machine.Shell.Token

/-!
From characters to commands. A command is read up to the end of its line, with the documents that
follow the line.
-/

namespace Bundler.Machine.Shell

open Reader

structure Level where
  quoting : Quoting
  inDouble : Bool := false
  innerDouble : Bool := false
  opened : Nat := 0
  openInDouble : Nat := 0
  parens : Nat := 0
  forParameter : Bool := false

inductive Frame
  | parameter (name : String) (treatment : Treatment) (orEmpty : Bool)
  | arithmetic

structure Scan where
  level : Level
  outer : List Level := []
  pieces : List Piece := []
  frames : List (Frame × List Piece) := []
  quoted : Bool := false

structure Mark where
  text : List Char
  strip : Bool

namespace Scan

def push (scan : Scan) (piece : Piece) : Scan :=
  { scan with pieces := piece :: scan.pieces }

def modify (scan : Scan) (change : Level → Level) : Scan :=
  { scan with level := change scan.level }

def enter (scan : Scan) (level : Level) : Scan :=
  { scan with level, outer := scan.level :: scan.outer }

def leave (scan : Scan) : Scan :=
  match scan.outer with
  | level :: outer => { scan with level, outer }
  | [] => scan

def openFrame (scan : Scan) (frame : Frame) : Scan :=
  { scan with frames := (frame, scan.pieces) :: scan.frames, pieces := [] }

def closeFrame (scan : Scan) : Scan :=
  match scan.frames with
  | (frame, before) :: frames =>
      let inner := scan.pieces.reverse
      let piece : Piece := match frame with
        | .parameter name treatment orEmpty => .parameter name treatment orEmpty inner
        | .arithmetic => .arithmetic inner
      { scan with frames, pieces := piece :: before }
  | [] => scan

def pushQuote (scan : Scan) (mark? : Option Mark) : Scan :=
  if mark?.isNone then scan.push .quote else scan

end Scan

/-- Looks for the end mark of a document at the start of a line whose first character is given.
Gives the first character of the line that is to be read, or none at the end of the document. -/
def atMark (mark : Mark) (first : Option Char) : ReadM (Option Char) := fun reader => do
  let (first, reader) ← if first = some aliasEnded then takeFrom reader reader.rest
    else pure (first, reader)
  let (first, reader) ← if mark.strip then skipTabs (reader.rest.length + 1) first reader
    else pure (first, reader)
  match ← compare mark.text [] first reader with
  | (none, reader) => return (none, { reader with line := reader.line + 1 })
  | (some read, reader) =>
      -- The line is no mark: all of it but its first character is read again.
      match read with
      | [] => return (first, reader)
      | c :: rest => return (some c, { reader with rest := rest ++ reader.rest })
where
  skipTabs : Nat → Option Char → Reader → Except Misreading (Option Char × Reader)
    | 0, c, reader => .ok (c, reader)
    | fuel + 1, c, reader =>
        if c = some '\t' then do
          let (c, reader) ← takeFrom reader reader.rest
          skipTabs fuel c reader
        else .ok (c, reader)
  compare : List Char → List Char → Option Char → Reader →
      Except Misreading (Option (List Char) × Reader)
    | [], back, c, reader =>
        match c with
        | none | some '\n' => .ok (none, reader)
        | some c => .ok (some (c :: back).reverse, reader)
    | m :: mark, back, c, reader =>
        match c with
        | none => .ok (some back.reverse, reader)
        | some c =>
            if c ≠ m then .ok (some (c :: back).reverse, reader)
            else do
              let (next, reader) ← takeFrom reader reader.rest
              compare mark (c :: back) next reader

def isOneOf (c? : Option Char) (test : Char → Bool) : Bool :=
  c?.any test

def nameFrom (test : Char → Bool) : (fuel : Nat) → List Char → Option Char →
    ReadM (String × Option Char)
  | 0, back, c => return (String.ofList back.reverse, c)
  | fuel + 1, back, c =>
      match c with
      | some d =>
          if test d then do nameFrom test fuel (d :: back) (← takeJoined)
          else return (String.ofList back.reverse, c)
      | none => return (String.ofList back.reverse, c)

/-- What a parameter in braces is called, whether its length is asked for, and the character after
it. No name is found where none can be. -/
def bracedName (fuel : Nat) : ReadM (Option String × Bool × Option Char) := do
  let named (c : Option Char) : ReadM (String × Option Char) :=
    if isOneOf c isNameStart then nameFrom isNamePart fuel [] c
    else nameFrom isDigit fuel [] c
  let startsName (c : Option Char) : Bool := isOneOf c isNamePart
  let special (c : Option Char) (next : Option Char) (length : Bool) :
      ReadM (Option String × Bool × Option Char) :=
    if isOneOf c isSpecialParameter then
      return (c.map (·.toString), length, next)
    else return (none, false, next)
  let c ← takeJoined
  if startsName c then
    let (name, next) ← named c
    return (some name, false, next)
  else if c = some '}' then return (none, false, c)
  else
    let next ← takeJoined
    if c = some '#' then
      if startsName next then
        let (name, after) ← named next
        return (some name, true, after)
      else
        let after ← takeJoined
        if next = some '}' || after ≠ some '}' then
          putBack after
          special c next false
        else special next after true
    else special c next false

/-- The treatment that follows a name in braces: itself, whether an empty value counts as none,
and whether the pattern after it is read without regard to the quotes around. The character that
comes first is given. -/
def treatment (c : Option Char) : ReadM (Treatment × Bool × Bool) := do
  let known (c : Option Char) (orEmpty : Bool) : ReadM (Treatment × Bool × Bool) :=
    return (match c with
      | some '}' => .plain
      | some '-' => .ifUnset
      | some '+' => .ifSet
      | some '?' => .complain
      | some '=' => .assign
      | _ => .unknown, orEmpty, false)
  let trim (treatment : Bool → Treatment) : ReadM (Treatment × Bool × Bool) := do
    let next ← takeJoined
    if next = c then return (treatment true, false, true)
    else
      putBack next
      return (treatment false, false, true)
  match c with
  | some ':' => do known (← takeJoined) true
  | some '%' => trim .trimEnd
  | some '#' => trim .trimStart
  | c => known c false

def backquoted (inDouble : Bool) : (fuel : Nat) → List Char → ReadM (List Char)
  | 0, _ => fault "EOF in backquote substitution"
  | fuel + 1, back => do
      match ← takeJoined with
      | none => fault "EOF in backquote substitution"
      | some '`' => return back.reverse
      | some '\\' => do
          match ← take with
          | none => fault "EOF in backquote substitution"
          | some c => do
              if c == '\n' then nextLine
              let kept := c ≠ '\\' && c ≠ '`' && c ≠ '$' && (!inDouble || c ≠ '"')
              backquoted inDouble fuel (c :: if kept then '\\' :: back else back)
      | some c => do
          if c == aliasEnded then fault "EOF in backquote substitution"
          if c == '\n' then nextLine
          backquoted inDouble fuel (c :: back)

def redirectionOperator (c : Char) (descriptor? : Option Nat) : ReadM Unit := do
  let set (redirection : Redirection) : ReadM Unit :=
    modify fun reader => { reader with redirection, documentStrip? := none }
  if c == '>' then
    let descriptor := descriptor?.getD 1
    match ← takeJoined with
    | some '>' => set (.file descriptor .append [])
    | some '|' => set (.file descriptor .clobber [])
    | some '&' => set (.copyNamed descriptor [])
    | next => do
        putBack next
        set (.file descriptor .output [])
  else
    let descriptor := descriptor?.getD 0
    match ← takeJoined with
    | some '<' => do
        let next ← takeJoined
        if next ≠ some '-' then putBack next
        modify fun reader =>
          { reader with
            redirection := .document descriptor 0 false
            documentStrip? := some (next = some '-') }
    | some '&' => set (.copyNamed descriptor [])
    | some '>' => set (.file descriptor .inputOutput [])
    | next => do
        putBack next
        set (.file descriptor .input [])

def copyOf? (descriptor : Nat) (text : String) : Option Redirection :=
  match text.toList with
  | ['-'] => some (.copy descriptor none)
  | [c] => if isDigit c then some (.copy descriptor (some (c.toNat - '0'.toNat))) else none
  | _ => none

def literal (word : Word) : List Char :=
  word.filterMap fun (piece : Piece) =>
    match piece with
    | .plain c | .escaped c => some c
    | _ => none

def tooDeep : ReadM α :=
  fault "commands lie too deep in each other"

def expect (token : Token) (expected? : Option Token) : ReadM α :=
  fault (token.name ++ " unexpected" ++ match expected? with
    | some expected => " (expecting " ++ expected.name ++ ")"
    | none => "")

def unexpected : ReadM α := do
  expect (← getThe Reader).token none

def holdBack : ReadM Unit :=
  modify fun reader => { reader with heldBack := true }

def want (wanted : Wanted) : ReadM Unit :=
  modify fun reader => { reader with wanted }

def anything : Wanted :=
  { keyword := true, expands := true, anyLine := true }

def got (token : Token) : ReadM Token := do
  modify fun reader => { reader with token }
  return token

/-! Every function below goes on from what has been read; `fuel` bounds how deep they call each
other. -/

mutual

/-- Reads on in a word, or in a document, from a character that was read. Gives the character that
ends it. -/
def scanOn (mark? : Option Mark) (fuel : Nat) (lineStart : Bool) (c : Option Char) (scan : Scan) :
    ReadM (Option Char × Scan) :=
  match fuel with
  | 0 => tooDeep
  | fuel + 1 => do
      let c ← match lineStart, mark? with
        | true, some mark => atMark mark c
        | _, _ => pure c
      match c with
      | none => return (none, scan)
      | some c => do
          let level := scan.level
          let goOn (scan : Scan) : ReadM (Option Char × Scan) := do
            let c ← if scan.level.quoting = .single then take else takeJoined
            scanOn mark? fuel false c scan
          if c == aliasEnded && level.quoting ≠ .base then goOn scan
          else match CharClass.of level.quoting c with
          | .newline =>
              if level.quoting = .base && level.opened = 0 then return (some c, scan)
              else
                nextLine
                let next ← if level.quoting = .single then take else takeJoined
                scanOn mark? fuel true next (scan.push (.plain c))
          | .ordinary => goOn (scan.push (.plain c))
          | .control =>
              goOn (scan.push (if mark?.isNone || level.inDouble then .escaped c else .plain c))
          | .backslash => do
              match ← takePast with
              | none => goOn (scan.push (.escaped '\\'))
              | some d =>
                  let kept := level.inDouble && d ≠ '\\' && d ≠ '`' && d ≠ '$' &&
                    (d ≠ '"' || (mark?.isSome && level.opened = 0)) &&
                    (d ≠ '}' || level.opened = 0)
                  let scan := if kept then scan.push (.escaped '\\') else scan
                  goOn { scan.push (.escaped d) with quoted := true }
          | .singleQuote =>
              goOn ((scan.modify fun level => { level with quoting := .single }).pushQuote mark?)
          | .doubleQuote =>
              goOn ((scan.modify fun level =>
                { level with
                  quoting := .double
                  inDouble := true
                  innerDouble := if level.opened = 0 then level.innerDouble
                    else !level.innerDouble }).pushQuote mark?)
          | .endQuote =>
              if mark?.isSome && level.opened = 0 then goOn (scan.push (.plain c))
              else
                let scan := scan.modify fun level =>
                  let level := if level.openInDouble = 0 then
                      { level with quoting := .base, inDouble := false }
                    else level
                  if c == '"' && level.opened ≠ 0 then
                    { level with innerDouble := !level.innerDouble }
                  else level
                goOn ({ scan with quoted := true }.pushQuote mark?)
          | .dollar => do goOn (← dollar fuel scan)
          | .closeBrace =>
              if !level.innerDouble && 0 < level.opened then
                let scan := if level.opened = 1 && level.forParameter then scan.leave
                  else scan.modify fun level =>
                    { level with
                      opened := level.opened - 1
                      openInDouble := level.openInDouble - 1 }
                goOn scan.closeFrame
              else goOn (scan.push (.plain c))
          | .openParen =>
              goOn ((scan.modify fun level => { level with parens := level.parens + 1 }).push
                (.plain c))
          | .closeParen =>
              if 0 < level.parens then
                goOn ((scan.modify fun level => { level with parens := level.parens - 1 }).push
                  (.plain c))
              else do
                let next ← takeJoined
                if next = some ')' then goOn scan.leave.closeFrame
                else
                  putBack next
                  goOn (scan.push (.plain c))
          | .backquote => do
              if (← getThe Reader).wanted.mark then
                goOn { scan.push (.plain c) with quoted := true }
              else goOn (← oldSubstitution fuel scan)
          | .separator =>
              if level.opened = 0 then return (some c, scan)
              else goOn (if c == aliasEnded then scan else scan.push (.plain c))

def dollar (fuel : Nat) (scan : Scan) : ReadM Scan :=
  match fuel with
  | 0 => tooDeep
  | fuel + 1 => do
      let c ← takeJoined
      let fits := isOneOf c fun c =>
        c == '(' || c == '\x7b' || isNameStart c || isSpecialParameter c
      if (← getThe Reader).wanted.mark || !fits then
        putBack c
        return scan.push (.plain '$')
      else if c = some '(' then
        let next ← takeJoined
        if next = some '(' then
          return (scan.openFrame .arithmetic).enter { quoting := .arithmetic, inDouble := true }
        else
          putBack next
          newSubstitution fuel scan
      else if c = some '\x7b' then
        let (name?, length, next) ← bracedName (fuel + 1)
        let (treatment, orEmpty, freed) ← match name?, length with
          | none, _ => do
              putBack next
              pure (Treatment.unknown, false, false)
          | some _, true => do
              putBack next
              pure (Treatment.length, false, false)
          | some _, false => treatment next
        let name := name?.getD ""
        if treatment = .plain then return scan.push (.parameter name .plain orEmpty [])
        else
          let quoting := if freed then .base else scan.level.quoting
          let quoting := if quoting = .arithmetic then Quoting.double else quoting
          let scan := scan.openFrame (.parameter name treatment orEmpty)
          let scan := if quoting ≠ scan.level.quoting || scan.level.innerDouble then
              scan.enter { quoting, inDouble := quoting ≠ .base, forParameter := true }
            else scan
          return scan.modify fun level =>
            { level with
              opened := level.opened + 1
              openInDouble := level.openInDouble + if level.inDouble then 1 else 0 }
      else
        let (name, next) ← if isOneOf c isNameStart then nameFrom isNamePart (fuel + 1) [] c
          else pure (String.ofList c.toList, ← takeJoined)
        putBack next
        return scan.push (.parameter name .plain false [])

def newSubstitution (fuel : Nat) (scan : Scan) : ReadM Scan :=
  match fuel with
  | 0 => tooDeep
  | fuel + 1 => do
      let awaited := (← getThe Reader).awaited
      modify fun reader => { reader with awaited := [] }
      let command ← list fuel false true
      if (← token fuel) ≠ .rightParen then
        expect (← getThe Reader).token (some .rightParen)
      documents fuel
      modify fun reader => { reader with awaited }
      return scan.push (.substitution command)

def oldSubstitution (fuel : Nat) (scan : Scan) : ReadM Scan :=
  match fuel with
  | 0 => tooDeep
  | fuel + 1 => do
      let text ← backquoted scan.level.inDouble (fuel + 1) []
      let before ← getThe Reader
      modify fun reader =>
        { reader with rest := text, complete := true, line := 1, awaited := [] }
      let command ← list fuel false true
      documents fuel
      modify fun reader =>
        { reader with
          rest := before.rest
          complete := before.complete
          line := before.line
          awaited := before.awaited
          heldBack := false }
      return scan.push (.substitution command)

def documents (fuel : Nat) : ReadM Unit :=
  match fuel with
  | 0 => tooDeep
  | fuel + 1 => do
      match (← getThe Reader).awaited with
      | [] => return
      | here :: rest => do
          modify fun reader => { reader with awaited := rest }
          let level : Level := if here.expanded then { quoting := .double, inDouble := true }
            else { quoting := .single }
          let first ← if here.expanded then takeJoined else take
          let mark : Mark := { text := here.mark, strip := here.strip }
          let (_, scan) ← scanOn (some mark) fuel true first { level }
          finishScan (some mark) scan
          modify fun reader =>
            { reader with documents := (here.number, scan.pieces.reverse) :: reader.documents }
          documents fuel

def finishScan (mark? : Option Mark) (scan : Scan) : ReadM Unit :=
  if scan.level.quoting = .arithmetic then fault "Missing '))'"
  else if scan.level.quoting ≠ .base && mark?.isNone then fault "Unterminated quoted string"
  else if scan.level.opened ≠ 0 then fault "Missing '\x7d'"
  else pure ()

def wordFrom (fuel : Nat) (c : Option Char) : ReadM Token :=
  match fuel with
  | 0 => tooDeep
  | fuel + 1 => do
      let (c, scan) ← scanOn none fuel false c { level := { quoting := .base } }
      finishScan none scan
      let descriptor?? : Option (Option Nat) := match scan.pieces with
        | [] => some none
        | [.plain d] => if isDigit d then some (some (d.toNat - '0'.toNat)) else none
        | _ => none
      match c, descriptor??, scan.quoted with
      | some '>', some descriptor?, false => do
          redirectionOperator '>' descriptor?
          got .redirection
      | some '<', some descriptor?, false => do
          redirectionOperator '<' descriptor?
          got .redirection
      | c, _, _ => do
          putBack c
          modify fun reader =>
            { reader with word := scan.pieces.reverse, quoted := scan.quoted }
          got .word

def rawToken (fuel : Nat) : ReadM Token :=
  match fuel with
  | 0 => tooDeep
  | fuel + 1 => do
      if (← getThe Reader).heldBack then
        modify fun reader => { reader with heldBack := false }
        return (← getThe Reader).token
      let either (next : Char) (two one : Token) : ReadM Token := do
        let c ← takeJoined
        if c = some next then got two
        else
          putBack c
          got one
      match ← takeJoined with
      | none => got .endOfFile
      | some c =>
          if c == ' ' || c == '\t' || c == aliasEnded then rawToken fuel
          else if c == '#' then do
            skipComment
            rawToken fuel
          else if c == '\n' then do
            nextLine
            got .newline
          else if c == '&' then either '&' .and .background
          else if c == '|' then either '|' .or .pipe
          else if c == ';' then either ';' .endCase .semicolon
          else if c == '(' then got .leftParen
          else if c == ')' then got .rightParen
          else wordFrom fuel (some c)

def skipLines (fuel : Nat) (t : Token) : ReadM Token :=
  match fuel with
  | 0 => tooDeep
  | fuel + 1 => do
      if t = .newline then
        documents fuel
        skipLines fuel (← rawToken fuel)
      else return t

def token (fuel : Nat) : ReadM Token :=
  match fuel with
  | 0 => tooDeep
  | fuel + 1 => do
      tokenWanted fuel (← getThe Reader).wanted

def tokenWanted (fuel : Nat) (wanted : Wanted) : ReadM Token :=
  match fuel with
  | 0 => tooDeep
  | fuel + 1 => do
      let t ← rawToken fuel
      let t ← if wanted.anyLine then skipLines fuel t else pure t
      let later := (← getThe Reader).wanted
      let wanted : Wanted :=
        { keyword := wanted.keyword || later.keyword
          expands := wanted.expands || later.expands
          anyLine := wanted.anyLine || later.anyLine
          mark := wanted.mark || later.mark }
      want {}
      let reader ← getThe Reader
      if t ≠ .word || reader.quoted then return t
      match plainText? reader.word with
      | none => return t
      | some text =>
          if wanted.keyword && Token.keywords.contains text then got (.keyword text)
          else if wanted.expands && !reader.inUse.contains text then
            match reader.aliases.lookup text with
            | none => return t
            | some value => do
                unless value.isEmpty do
                  modify fun reader =>
                    { reader with
                      rest := aliasText value ++ reader.rest
                      inUse := text :: reader.inUse }
                tokenWanted fuel wanted
          else return t

/-- Reads commands. `single` tells that a line break ends them, and `ending` that they may end, or
have ended, at once. -/
def list (fuel : Nat) (single ending : Bool) : ReadM (Option Command) :=
  match fuel with
  | 0 => tooDeep
  | fuel + 1 => listFrom fuel single ending none

def listFrom (fuel : Nat) (single ending : Bool) (before : Option Command) :
    ReadM (Option Command) :=
  match fuel with
  | 0 => tooDeep
  | fuel + 1 => do
      want { keyword := true, expands := true, anyLine := !single }
      let t ← token fuel
      if t = .newline then
        documents fuel
        return before
      if t = .endOfFile then
        documents fuel
        holdBack
        let _ ← got .endOfFile
        return before
      holdBack
      if !single && ending && t.endsList then return before
      let command ← andOr fuel
      let t ← token fuel
      let command := if t ≠ .background then command
        else
          match command with
          | .pipeline commands _ => .pipeline commands true
          | .redirected line body redirections => .background line body redirections
          | command => .background 0 command []
      let all := match before with
        | none => command
        | some before => .sequence before command
      match t with
      | .newline | .endOfFile => do
          holdBack
          listFrom fuel single true (some all)
      | .background | .semicolon => listFrom fuel single true (some all)
      | _ => do
          if single then unexpected
          holdBack
          return some all

def andOr (fuel : Nat) : ReadM Command :=
  match fuel with
  | 0 => tooDeep
  | fuel + 1 => do andOrFrom fuel (← pipeline fuel)

def andOrFrom (fuel : Nat) (first : Command) : ReadM Command :=
  match fuel with
  | 0 => tooDeep
  | fuel + 1 => do
      match ← token fuel with
      | .and => do
          want anything
          andOrFrom fuel (.both first (← pipeline fuel))
      | .or => do
          want anything
          andOrFrom fuel (.either first (← pipeline fuel))
      | _ => do
          holdBack
          return first

def pipeline (fuel : Nat) : ReadM Command :=
  match fuel with
  | 0 => tooDeep
  | fuel + 1 => do
      let negated := (← token fuel) = .keyword "!"
      if negated then want { keyword := true, expands := true } else holdBack
      let first ← command fuel
      let all ← if (← token fuel) = .pipe then
          pure (Command.pipeline (first :: (← pipelineFrom fuel)) false)
        else pure first
      holdBack
      return if negated then .negated all else all

def pipelineFrom (fuel : Nat) : ReadM (List Command) :=
  match fuel with
  | 0 => tooDeep
  | fuel + 1 => do
      want anything
      let next ← command fuel
      if (← token fuel) = .pipe then return next :: (← pipelineFrom fuel)
      else return [next]

def bodyUntil (fuel : Nat) (stop : Token) : ReadM Command :=
  match fuel with
  | 0 => tooDeep
  | fuel + 1 => do
      let body ← list fuel false false
      if (← token fuel) ≠ stop then expect (← getThe Reader).token (some stop)
      match body with
      | some body => return body
      | none => unexpected

def conditionFrom (fuel : Nat) : ReadM Command :=
  match fuel with
  | 0 => tooDeep
  | fuel + 1 => do
      let test ← bodyUntil fuel (.keyword "then")
      let yes ← list fuel false false
      let yes := yes.getD (.sequence test test)
      match ← token fuel with
      | .keyword "elif" => return .condition test yes (some (← conditionFrom fuel))
      | .keyword "else" => return .condition test yes (← list fuel false false)
      | _ => do
          holdBack
          return .condition test yes none

def wordsFrom (fuel : Nat) : ReadM (List Word) :=
  match fuel with
  | 0 => tooDeep
  | fuel + 1 => do
      if (← token fuel) = .word then
        let word := (← getThe Reader).word
        return word :: (← wordsFrom fuel)
      else return []

def eachFrom (fuel line : Nat) : ReadM Command :=
  match fuel with
  | 0 => tooDeep
  | fuel + 1 => do
      let t ← token fuel
      let reader ← getThe Reader
      let name := (plainText? reader.word).getD ""
      if t ≠ .word || reader.quoted || !isName name then fault "Bad for loop variable"
      want anything
      let t ← token fuel
      let words ← if t = .keyword "in" then do
          let words ← wordsFrom fuel
          let last := (← getThe Reader).token
          if last ≠ .newline && last ≠ .semicolon then unexpected
          pure words
        else do
          if t ≠ .semicolon then holdBack
          pure [allParameters]
      want anything
      if (← token fuel) ≠ .keyword "do" then
        expect (← getThe Reader).token (some (.keyword "do"))
      return .each line name words (← bodyUntil fuel (.keyword "done"))

def patternsFrom (fuel : Nat) : ReadM (List Word) :=
  match fuel with
  | 0 => tooDeep
  | fuel + 1 => do
      let word := (← getThe Reader).word
      if (← token fuel) = .pipe then
        let _ ← token fuel
        return word :: (← patternsFrom fuel)
      else return [word]

def casesFrom (fuel : Nat) : ReadM (List (List Word × Option Command)) :=
  match fuel with
  | 0 => tooDeep
  | fuel + 1 => do
      want { keyword := true, anyLine := true }
      let t ← token fuel
      if t = .keyword "esac" then return []
      if t = .leftParen then let _ ← token fuel
      let patterns ← patternsFrom fuel
      if (← getThe Reader).token ≠ .rightParen then
        expect (← getThe Reader).token (some .rightParen)
      let body ← list fuel false true
      want { keyword := true, anyLine := true }
      let t ← token fuel
      if t = .keyword "esac" then return [(patterns, body)]
      if t ≠ .endCase then expect t (some .endCase)
      return (patterns, body) :: (← casesFrom fuel)

def choiceFrom (fuel line : Nat) : ReadM Command :=
  match fuel with
  | 0 => tooDeep
  | fuel + 1 => do
      if (← token fuel) ≠ .word then expect (← getThe Reader).token (some .word)
      let word := (← getThe Reader).word
      want anything
      if (← token fuel) ≠ .keyword "in" then
        expect (← getThe Reader).token (some (.keyword "in"))
      return .choice line word (← casesFrom fuel)

def redirectionTarget (fuel : Nat) : ReadM Redirection :=
  match fuel with
  | 0 => tooDeep
  | fuel + 1 => do
      let reader ← getThe Reader
      let redirection := reader.redirection
      let strip? := reader.documentStrip?
      if strip?.isSome then want { mark := true }
      if (← token fuel) ≠ .word then unexpected
      let reader ← getThe Reader
      match redirection, strip? with
      | .document descriptor _ _, some strip => do
          let number := reader.nextDocument
          let expanded := !reader.quoted
          modify fun reader =>
            { reader with
              nextDocument := number + 1
              awaited := reader.awaited ++
                [{ number, mark := literal reader.word, strip, expanded }] }
          return .document descriptor number expanded
      | .file descriptor mode _, _ => return .file descriptor mode reader.word
      | .copyNamed descriptor _, _ =>
          return ((plainText? reader.word).bind (copyOf? descriptor)).getD
            (.copyNamed descriptor reader.word)
      | redirection, _ => return redirection

def redirectionsFrom (fuel : Nat) : ReadM (List Redirection) :=
  match fuel with
  | 0 => tooDeep
  | fuel + 1 => do
      if (← token fuel) = .redirection then
        let redirection ← redirectionTarget fuel
        return redirection :: (← redirectionsFrom fuel)
      else
        holdBack
        return []

def command (fuel : Nat) : ReadM Command :=
  match fuel with
  | 0 => tooDeep
  | fuel + 1 => do
      let line := (← getThe Reader).line
      let withRedirections (body : Command) : ReadM Command := do
        want { keyword := true, expands := true }
        match ← redirectionsFrom fuel with
        | [] => return body
        | redirections =>
            match body with
            | .subshell line body _ => return .subshell line body redirections
            | body => return .redirected line body redirections
      match ← token fuel with
      | .keyword "if" => do
          let body ← conditionFrom fuel
          if (← token fuel) ≠ .keyword "fi" then
            expect (← getThe Reader).token (some (.keyword "fi"))
          withRedirections body
      | .keyword "while" => do
          let test ← bodyUntil fuel (.keyword "do")
          withRedirections (.loop false test (← bodyUntil fuel (.keyword "done")))
      | .keyword "until" => do
          let test ← bodyUntil fuel (.keyword "do")
          withRedirections (.loop true test (← bodyUntil fuel (.keyword "done")))
      | .keyword "for" => do withRedirections (← eachFrom fuel line)
      | .keyword "case" => do withRedirections (← choiceFrom fuel line)
      | .leftParen => do
          withRedirections (.subshell line (← bodyUntil fuel .rightParen) [])
      | .keyword "\x7b" => do withRedirections (← bodyUntil fuel (.keyword "\x7d"))
      | .word | .redirection => do
          holdBack
          let line := (← getThe Reader).line
          simpleFrom fuel line true [] [] []
      | _ => unexpected

/-- Reads a simple command, or the definition of a function. The parts so far are given, last one
first. -/
def simpleFrom (fuel line : Nat) (start : Bool) (assignments words : List Word)
    (redirections : List Redirection) : ReadM Command :=
  match fuel with
  | 0 => tooDeep
  | fuel + 1 => do
      want { expands := start }
      let done : ReadM Command := do
        holdBack
        return .simple line assignments.reverse words.reverse redirections.reverse
      match ← token fuel with
      | .word => do
          let word := (← getThe Reader).word
          if start && isAssignment word then
            simpleFrom fuel line start (word :: assignments) words redirections
          else simpleFrom fuel line false assignments (word :: words) redirections
      | .redirection => do
          let redirection ← redirectionTarget fuel
          simpleFrom fuel line start assignments words (redirection :: redirections)
      | .leftParen =>
          match words, assignments, redirections with
          | [word], [], [] => do
              if (← token fuel) ≠ .rightParen then
                expect (← getThe Reader).token (some .rightParen)
              let name := (plainText? word).getD ""
              if !isName name || specialBuiltins.contains name then fault "Bad function name"
              want anything
              let line := (← getThe Reader).line
              return .define line name (← command fuel)
          | _, _, _ => done
      | _ => done

end

inductive Reading
  | nothing
  | command (command : Option Command) (last : Bool)

def maxDepth : Nat :=
  1000000000

def readCommand (reader : Reader) : Except Misreading (Reading × Reader) := do
  let (command, reader) ← (list maxDepth true false).run
    { reader with heldBack := false, wanted := {}, awaited := [] }
  let last := reader.heldBack && reader.token = .endOfFile
  return (if command.isNone && last then .nothing else .command command last,
    { reader with heldBack := false })

def readQuoted (text : String) : Except Misreading Word := do
  let mark : Mark := { text := [aliasEnd], strip := false }
  let level : Level := { quoting := .double, inDouble := true }
  let readAll : ReadM Word := do
    let (_, scan) ← scanOn (some mark) maxDepth false (← takeJoined) { level }
    return scan.pieces.reverse
  return (← readAll.run { rest := text.toList }).1

end Bundler.Machine.Shell
