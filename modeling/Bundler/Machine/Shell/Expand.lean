import Bundler.Machine.Shell.Field
import Bundler.Machine.Shell.State

/-!
Expansion of words: parameters, commands and arithmetic are replaced by their values, the result is
parted into fields, and fields that are patterns are replaced by the paths that fit them.
-/

namespace Bundler.Machine.Shell

structure Mode where
  parted : Bool := false
  asPattern : Bool := false
  assigned : Bool := false
  inner : Bool := false
  quoted : Bool := false
  idle : Bool := false

namespace Mode

def keepsQuotes (mode : Mode) : Bool :=
  mode.parted || mode.asPattern

def breaks (mode : Mode) : Bool :=
  mode.inner && !mode.quoted

end Mode

abbrev Substitute := Option Command → ShellM (List Char)

def cellsOf (mode : Mode) (chars : List Char) : List Cell :=
  chars.map fun c =>
    if mode.keepsQuotes && mode.quoted && (isPatternChar c || c == '\\') then .escaped c
    else .octet c

def separator (state : State) (mode : Mode) (name : String) : Option Cell :=
  let first : Option Cell := match state.known? "IFS" with
    | some { value := some text, .. } =>
        match text.toList with
        | c :: _ => some (.octet c)
        | [] => none
    | _ => some (.octet ' ')
  if mode.quoted then
    if name = "@" && mode.parted then some .gap
    else first.map fun cell => (cellsOf mode cell.char?.toList).headD .gap
  else if mode.parted then
    if (state.lookup "IFS").isSome then some .gap else some (.octet ' ')
  else first

def valueCells (state : State) (mode : Mode) (name : String) : Option (List Cell) :=
  let cells (text : String) : List Cell := cellsOf mode text.toList
  match name with
  | "$" => some (cells (toString state.pid))
  | "?" => some (cells (toString state.status))
  | "#" => some (cells (toString state.parameters.length))
  | "!" => state.background?.map fun pid => cells (toString pid)
  | "-" => some (cells state.optionLetters)
  | "@" | "*" =>
      let between := (separator state mode name).toList
      some (between.intercalate (state.parameters.map cells))
  | name =>
      match name.toList.head? with
      | some c =>
          if isDigit c then
            match integer? 10 name with
            | some n =>
                if n = 0 then some (cells state.name)
                else if n ≤ 2147483647 then (state.parameters[n.toNat - 1]?).map cells
                else none
            | none => none
          else (state.lookup name).map cells
      | none => none

def missing (name : String) (text? : Option String) (orNull : Bool) : ShellM α :=
  fail (name ++ ": " ++ text?.getD ("parameter not set" ++ if orNull then " or null" else ""))

/-- The home directory of a user; that of the shell's user without a name. -/
def homeOf (state : State) (user : String) : Option String :=
  match user with
  | "" => state.lookup "HOME"
  | "root" => some "/root"
  | "daemon" => some "/usr/sbin"
  | "bin" => some "/bin"
  | "sys" => some "/dev"
  | "nobody" => some "/nonexistent"
  | "www-data" => some "/var/www"
  | "mail" => some "/var/mail"
  | "man" => some "/var/cache/man"
  | "games" => some "/usr/games"
  | _ => none

def userAfterTilde (mode : Mode) : List Piece → Option (List Char × List Piece)
  | [] => some ([], [])
  | .plain c :: rest =>
      if c == '/' || (c == ':' && mode.assigned) then some ([], .plain c :: rest)
      else (userAfterTilde mode rest).map fun (name, rest) => (c :: name, rest)
  | _ => none

def expandTilde (state : State) (mode : Mode) (pieces : List Piece) (x : Expansion) :
    List Piece × Expansion :=
  match pieces with
  | .plain '~' :: rest =>
      match userAfterTilde mode rest with
      | none => (pieces, x)
      | some (user, rest) =>
          if mode.idle then (rest, x)
          else
            match homeOf state (String.ofList user) with
            | none => (pieces, x)
            | some home => (rest, x.append (cellsOf { mode with quoted := true } home.toList))
  | pieces => (pieces, x)

def endRun (mode : Mode) (inQuotes : Bool) (start : Nat) (x : Expansion) : Expansion :=
  if mode.breaks && !inQuotes && start < x.size then x.record start x.size false else x

def trim (fromStart longest : Bool) (pattern : List Char) (cells : List Cell) : List Cell :=
  let n := cells.length
  let lengths := List.range (n + 1)
  let lengths := if longest then lengths.reverse else lengths
  let fits (part : List Cell) : Bool := Pattern.fits pattern (textOf part)
  if fromStart then
    match lengths.find? fun k => fits (cells.take k) with
    | some k => cells.drop k
    | none => cells
  else
    match lengths.find? fun k => fits (cells.drop (n - k)) with
    | some k => cells.take (n - k)
    | none => cells

/-- The value of an arithmetic expression. What it assigns is kept. -/
def calculate (text : String) : ShellM Int := do
  let state ← get
  let (result, assigned) := Arithmetic.evaluate state.lookup text
  assigned.reverse.forM fun (name, value) => setVariable name (some value)
  match result with
  | .ok n => return n
  | .error fault => fail (fault.message text)

def recordValue (mode : Mode) (name : String) (start : Nat) (x : Expansion) : ShellM Expansion := do
  let whole := name = "@" && !(← get).parameters.isEmpty
  if mode.quoted && !whole then return x
  else return x.record start x.size mode.quoted

/-! Expansion of pieces; `fuel` is more than they are deep and many. -/

mutual

/-- Expands pieces behind an expansion. `start` is where the run of literal text began, and
`tildes` tells that no equals sign has been passed. -/
def expandFrom (substitute : Substitute) (mode : Mode) (pieces : List Piece) (inQuotes : Bool)
    (start : Nat) (tildes : Bool) (x : Expansion) (fuel : Nat) : ShellM Expansion :=
  match fuel with
  | 0 => return x
  | fuel + 1 =>
      match pieces with
      | [] => return endRun mode inQuotes start x
      | .plain c :: rest => do
          let x := if mode.idle then x else x.push (.octet c)
          if mode.assigned && !inQuotes && (c == ':' || (c == '=' && tildes)) then
            let x := endRun mode inQuotes start x
            let (rest, x) := expandTilde (← get) mode rest x
            expandFrom substitute mode rest inQuotes x.size (tildes && c ≠ '=') x fuel
          else expandFrom substitute mode rest inQuotes start tildes x fuel
      | .escaped c :: rest => do
          let x := endRun mode inQuotes start x
          let x := if mode.idle then x
            else x.push (if mode.keepsQuotes then .escaped c else .octet c)
          expandFrom substitute mode rest inQuotes x.size tildes x fuel
      | .quote :: rest => do
          let x := endRun mode inQuotes start x
          match rest, inQuotes with
          | .parameter "@" .plain false [] :: .quote :: rest, false => do
              let x ← expandParameter substitute { mode with quoted := true } "@" .plain false []
                x fuel
              expandFrom substitute mode rest inQuotes x.size tildes x fuel
          | rest, inQuotes => do
              let x := if mode.keepsQuotes && !mode.idle then x.push .quote else x
              expandFrom substitute mode rest (!inQuotes) x.size tildes x fuel
      | .parameter name treatment orEmpty word :: rest => do
          let x := endRun mode inQuotes start x
          let x ← expandParameter substitute { mode with quoted := mode.quoted || inQuotes } name
            treatment orEmpty word x fuel
          expandFrom substitute mode rest inQuotes x.size tildes x fuel
      | .substitution command :: rest => do
          let x := endRun mode inQuotes start x
          let x ← if mode.idle then pure x
            else do
              let quoted := mode.quoted || inQuotes
              let chars ← substitute command
              let y := x.append (cellsOf { mode with quoted } chars)
              pure (if quoted then y else y.record x.size y.size false)
          expandFrom substitute mode rest inQuotes x.size tildes x fuel
      | .arithmetic expression :: rest => do
          let x := endRun mode inQuotes start x
          let inner ← expandFrom substitute { idle := mode.idle } expression false 0 false {} fuel
          let x ← if mode.idle then pure x
            else do
              let quoted := mode.quoted || inQuotes
              let n ← calculate inner.text
              let y := x.append (cellsOf { mode with quoted } (toString n).toList)
              pure (if quoted then y else y.record x.size y.size false)
          expandFrom substitute mode rest inQuotes x.size tildes x fuel

def expandWord (substitute : Substitute) (mode : Mode) (tilde : Bool) (word : Word)
    (x : Expansion) (fuel : Nat) : ShellM Expansion :=
  match fuel with
  | 0 => return x
  | fuel + 1 => do
      let state ← get
      let (word, x) := if tilde then expandTilde state mode word x else (word, x)
      expandFrom substitute mode word false x.size true x fuel

def expandParameter (substitute : Substitute) (mode : Mode) (name : String)
    (treatment : Treatment) (orEmpty : Bool) (word : List Piece) (x : Expansion) (fuel : Nat) :
    ShellM Expansion :=
  match fuel with
  | 0 => return x
  | fuel + 1 => do
      let state ← get
      if treatment = .unknown && !mode.idle then fail "Bad substitution"
      let shows := !mode.idle && treatment ≠ .ifSet && treatment ≠ .length
      let value? := if treatment = .unknown then none
        else if shows then valueCells state mode name
        else valueCells state { mode with parted := false, asPattern := false } name
      let counted := (value?.map (·.length)).getD 0
      let unset := value?.isNone || (orEmpty && counted = 0)
      let start := x.size
      let shown := if shows then x.append (value?.getD []) else x
      match treatment with
      | .ifSet | .ifUnset | .unknown => do
          let unused := if treatment = .ifSet then unset else !unset
          let inner := { mode with inner := true, idle := mode.idle || unused }
          let y ← expandWord substitute inner true word shown fuel
          if mode.idle || !unused then return y else recordValue mode name start y
      | .assign | .complain => do
          if mode.idle then return x
          if !unset then recordValue mode name start shown
          else
            let y ← expandWord substitute {} true word {} fuel
            if treatment = .complain then
              missing name (if word.isEmpty then none else some y.text) orEmpty
            if !isName name then fail (name ++ ": bad variable name")
            setVariable name (some y.text)
            expandParameter substitute mode name .plain false [] x fuel
      | treatment => do
          if mode.idle then return x
          if unset && state.has 'u' then missing name none false
          match treatment with
          | .length => do
              let y := x.append (cellsOf mode (toString counted).toList)
              recordValue mode name start y
          | .trimStart longest | .trimEnd longest => do
              if unset then return x
              let y ← expandWord substitute { asPattern := true } true word {} fuel
              let fromStart := match treatment with
                | .trimStart _ => true
                | _ => false
              let cells := trim fromStart longest (patternOf y.cellList) (shown.since start)
              recordValue mode name start ((shown.truncate start).append cells)
          | _ => if unset then return shown else recordValue mode name start shown

end

def expandFields (substitute : Substitute) (word : Word) : ShellM (List String) := do
  let x ← expandWord substitute { parted := true } true word {} Act.endless
  let state ← get
  let parts := fields x state.separators none
  if state.has 'f' then return parts.map fun cells => String.ofList (textOf cells)
  else
    let isMeta (cells : List Cell) : Bool := cells.any fun cell =>
      match cell.char? with
      | some c => c == '*' || c == '?' || c == '['
      | none => false
    if parts.any isMeta then
      let view ← request .view
      return parts.flatMap fun cells =>
        let text := String.ofList (textOf cells)
        if isMeta cells then
          match Pattern.expand view.tree view.cwd (patternOf cells) with
          | [] => [text]
          | paths => paths
        else [text]
    else return parts.map fun cells => String.ofList (textOf cells)

def expandText (substitute : Substitute) (word : Word) : ShellM String := do
  return (← expandWord substitute {} true word {} Act.endless).text

def expandAssignment (substitute : Substitute) (word : Word) : ShellM String := do
  return (← expandWord substitute { assigned := true } false word {} Act.endless).text

def expandPattern (substitute : Substitute) (word : Word) : ShellM (List Char) := do
  return patternOf
    (← expandWord substitute { asPattern := true } true word {} Act.endless).cellList

def expandDocument (substitute : Substitute) (word : Word) : ShellM String := do
  return (← expandWord substitute { quoted := true } false word {} Act.endless).text

end Bundler.Machine.Shell
