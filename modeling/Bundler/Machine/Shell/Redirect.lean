import Bundler.Machine.Shell.Expand
import Bundler.Machine.Status

/-! Redirections: the files that descriptors lead to, and how they are put back. -/

namespace Bundler.Machine.Shell

inductive Channel
  | file (descriptor : Nat) (mode : FileMode) (path : String)
  | copy (descriptor : Nat) (of? : Option Nat)
  | document (descriptor number : Nat) (expanded : Bool)
  deriving DecidableEq, Repr

namespace Channel

def descriptor : Channel → Nat
  | file descriptor _ _ | copy descriptor _ | document descriptor _ _ => descriptor

end Channel

def State.readLine (state : State) : Nat :=
  (state.inputs.head?.map (·.line)).getD state.line

def misread (text : String) (line : Nat) : ShellM α := do
  modify fun state => { state with line }
  fail text

def expandRedirections (substitute : Substitute) : List Redirection → ShellM (List Channel)
  | [] => return []
  | redirection :: rest => do
      let channel : Channel ← match redirection with
        | .file descriptor mode name => do
            pure (.file descriptor mode (← expandText substitute name))
        | .copy descriptor of? => pure (.copy descriptor of?)
        | .copyNamed descriptor name => do
            match (← expandText substitute name).toList with
            | ['-'] => pure (.copy descriptor none)
            | [c] =>
                if isDigit c then pure (.copy descriptor (some (c.toNat - '0'.toNat)))
                else misread "Syntax error: Bad fd number" (← get).readLine
            | _ => misread "Syntax error: Bad fd number" (← get).readLine
        | .document descriptor number expanded => pure (.document descriptor number expanded)
      return channel :: (← expandRedirections substitute rest)

def reasonOf (error : IoError) (missing : String) : String :=
  if error = .noSuchFile || error = .notADirectory then missing else error.reason

def openProtected (path : String) : ShellM (Except IoError Nat) := do
  let view ← request .view
  match view.status path with
  | .ok status =>
      if status.kind = .file then return .error .fileExists
      else request (.openFile path { writes := true } 0o666)
  | .error _ =>
      request (.openFile path { OpenMode.forWriting with truncates := false, exclusive := true }
        0o666)

def maxDocument : Nat :=
  4096

def openDocument (text : String) : ShellM Nat := do
  let (front, back) ← request .pipe
  if text.length ≤ maxDocument then
    let _ ← writeNow back text
  else
    let writer : ShellM Unit := do
      let _ ← request (.close front)
      for signal in [Signal.interrupt, Signal.quit, Signal.hangUp] do
        request (.handle signal .ignored)
      request (.handle Signal.brokenPipe .standard)
      let _ ← writeNow back text
    let _ ← Act.fork fun state => writer state (fun _ _ => .stop 0) fun _ _ => .stop 0
  let _ ← request (.close back)
  return front

/-- The number under which what a redirection leads to is open. There is none for one that closes
a descriptor. -/
def openChannel (substitute : Substitute) (channel : Channel) : ShellM (Option Nat) := do
  match channel with
  | .copy _ of? => return of?
  | .document _ number expanded => do
      let word := ((← get).documents.lookup number).getD []
      let text ← if expanded then expandDocument substitute word
        else pure (String.ofList (literalChars word))
      return some (← openDocument text)
  | .file _ mode path => do
      let result ← match mode with
        | .input => request (.openFile path .forReading 0o666)
        | .inputOutput => request (.openFile path .forBoth 0o666)
        | .append => request (.openFile path .forAppending 0o666)
        | .clobber => request (.openFile path .forWriting 0o666)
        | .output => do
            if (← get).has 'C' then openProtected path
            else request (.openFile path .forWriting 0o666)
      match result with
      | .ok number => return some number
      | .error error =>
          if mode = .input then
            fail ("cannot open " ++ path ++ ": " ++ reasonOf error "No such file")
          else fail ("cannot create " ++ path ++ ": " ++ reasonOf error "Directory nonexistent")
where
  literalChars (word : Word) : List Char :=
    word.filterMap fun (piece : Piece) =>
      match piece with
      | .plain c | .escaped c => some c
      | _ => none

def leastKept : Nat :=
  10

/-- Puts a descriptor aside, which leaves its number free. Gives the new number, if there was
anything to put aside. -/
def putAside (descriptor : Nat) : ShellM (Option Nat) := do
  match ← request (.duplicate descriptor leastKept) with
  | .ok number => do
      let _ ← request (.close descriptor)
      request (.closeOnExecute number)
      return some number
  | .error _ => return none

/-- Carries out redirections. With `keeps` the descriptors are put aside in the innermost frame. -/
def redirect (substitute : Substitute) (keeps : Bool) : List Channel → ShellM Unit
  | [] => return
  | channel :: rest => do
      let descriptor := channel.descriptor
      unless channel = .copy descriptor (some descriptor) do
        let new? ← openChannel substitute channel
        if keeps && !(((← get).aside.headD []).any (·.1 = descriptor)) then
          let old? ← if new? = some descriptor then pure none else putAside descriptor
          modify fun state =>
            match state.aside with
            | frame :: frames => { state with aside := ((descriptor, old?) :: frame) :: frames }
            | [] => state
        if new? ≠ some descriptor then
          match new?, channel with
          | none, _ => let _ ← request (.close descriptor)
          | some new, .copy _ _ => do
              match ← request (.replace new descriptor) with
              | .ok _ => pure ()
              | .error error => fail (toString new ++ ": " ++ error.reason)
          | some new, _ => do
              let _ ← request (.replace new descriptor)
              let _ ← request (.close new)
      redirect substitute keeps rest

def pushAside : ShellM Unit :=
  modify fun state => { state with aside := [] :: state.aside }

/-- Ends the innermost frame. The descriptors are put back, unless the redirections are to last. -/
def popAside (lasting : Bool) : ShellM Unit := do
  let frame := (← get).aside.headD []
  modify fun state => { state with aside := state.aside.tail }
  for (descriptor, old?) in frame do
    match old? with
    | none => unless lasting do let _ ← request (.close descriptor)
    | some old => do
        unless lasting do let _ ← request (.replace old descriptor)
        let _ ← request (.close old)

end Bundler.Machine.Shell
