import Bundler.Machine.FileTree

/-!
What processes do: a process computes, asks the system for something and goes on with the reply, or
splits in two. `Act` is the notion of computation in which programs are written: it has a state and
may fail, and what it means is a behaviour.
-/

namespace Bundler.Machine

structure OpenMode where
  reads : Bool := false
  writes : Bool := false
  appends : Bool := false
  creates : Bool := false
  exclusive : Bool := false
  truncates : Bool := false
  deriving DecidableEq, Repr

namespace OpenMode

def forReading : OpenMode :=
  { reads := true }

def forWriting : OpenMode :=
  { writes := true, creates := true, truncates := true }

def forAppending : OpenMode :=
  { writes := true, creates := true, appends := true }

def forBoth : OpenMode :=
  { reads := true, writes := true, creates := true }

end OpenMode

inductive Resource
  | node (index : Nat)
  | pipe (index : Nat)
  | device (device : Device)
  deriving DecidableEq, Repr

inductive Outcome
  | exited (status : Nat)
  | killed (signal : Nat)
  deriving DecidableEq, Repr

inductive Awaited
  | ended (pid : Nat) (outcome : Outcome)
  | running
  | childless
  | interrupted
  deriving DecidableEq, Repr

inductive Disposition
  | standard
  | ignored
  | caught
  deriving DecidableEq, Repr

inductive Origin
  | start
  | current
  | finish
  deriving DecidableEq, Repr

structure View where
  tree : FileTree
  cwd : Nat
  now : Nat
  pid : Nat
  parent : Nat
  mask : Nat
  descriptors : List (Nat × Resource)
  ignored : List Nat

def atTick (nanoseconds : Nat) : Nat :=
  nanoseconds / 4000000 * 4000000

def View.fileTime (view : View) : Nat :=
  atTick view.now

inductive Request
  | pass (nanoseconds : Nat)
  | sleep (nanoseconds : Nat)
  | view
  | openFile (path : String) (mode : OpenMode) (permissions : Nat)
  | close (descriptor : Nat)
  | duplicate (descriptor least : Nat)
  | replace (descriptor target : Nat)
  | closeOnExecute (descriptor : Nat)
  | read (descriptor count : Nat)
  | write (descriptor : Nat) (bytes : ByteArray)
  | seek (descriptor : Nat) (offset : Int) (origin : Origin)
  | pipe
  | change (operation : View → Except IoError FileTree)
  | enter (path : String)
  | setMask (mask : Nat)
  | execute (path : String) (words : List String) (environment : List (String × String))
  | await (block : Bool)
  | kill (target : Int) (signal : Nat)
  | handle (signal : Nat) (disposition : Disposition)
  | caught
  | setGroup (pid group : Nat)

@[reducible] def Request.Reply : Request → Type
  | pass _ | handle _ _ | setGroup _ _ | closeOnExecute _ => Unit
  -- Whether the sleep was interrupted.
  | sleep _ => Bool
  | view => View
  | openFile _ _ _ | duplicate _ _ | seek _ _ _ => Except IoError Nat
  | close _ | replace _ _ | change _ | enter _ | kill _ _ | write _ _ => Except IoError Unit
  | read _ _ => Except IoError ByteArray
  | pipe => Nat × Nat
  | setMask _ => Nat
  | execute _ _ _ => IoError
  | await _ => Awaited
  | caught => List Nat

inductive Behaviour
  | stop (status : Nat)
  | ask (request : Request) (next : request.Reply → Behaviour)
  | fork (child : Behaviour) (next : Nat → Behaviour)

def Act (σ ε α : Type) : Type :=
  σ → (α → σ → Behaviour) → (ε → σ → Behaviour) → Behaviour

namespace Act

variable {σ ε α β : Type}

instance : Monad (Act σ ε) where
  pure value := fun state done _ => done value state
  bind act next := fun state done failed =>
    act state (fun value state => next value state done failed) failed

instance : MonadStateOf σ (Act σ ε) where
  get := fun state done _ => done state state
  set state := fun _ done _ => done () state
  modifyGet change := fun state done _ =>
    let (value, state) := change state
    done value state

instance : MonadExceptOf ε (Act σ ε) where
  throw error := fun state _ failed => failed error state
  tryCatch act handle := fun state done failed =>
    act state done fun error state => handle error state done failed

def request (request : Request) : Act σ ε request.Reply :=
  fun state done _ => .ask request fun reply => done reply state

def fork (child : σ → Behaviour) : Act σ ε Nat :=
  fun state done _ => .fork (child state) fun pid => done pid state

def quit (status : Nat) : Act σ ε α :=
  fun _ _ _ => .stop status

def endless : Nat :=
  1000000000000000

def untilDone : (fuel : Nat) → (β → Act σ ε (Except β α)) → β → Act σ ε (Option α)
  | 0, _, _ => return none
  | fuel + 1, step, value => do
      match ← step value with
      | .error value => untilDone fuel step value
      | .ok result => return some result

end Act

end Bundler.Machine
