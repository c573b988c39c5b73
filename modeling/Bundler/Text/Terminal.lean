/-!
Control sequences of a terminal, and texts without them. A sequence starts with an escape character
and is read by a machine with the states below.
-/

namespace Bundler.Text

inductive ControlState
  | ground
  | escape
  | escapeMore
  | parameters
  | command
  | device
  | deviceParameters
  | deviceMore
  | hidden
  deriving DecidableEq, Repr

def isSpaceControl (c : Char) : Bool :=
  c == '\t' || c == '\n' || c == '\x0c' || c == '\r'

def holdsTerminator (c : Char) : Bool :=
  0x80 ≤ c.toNat && c.toString.toUTF8.toList.contains 0x9C

namespace ControlState

def afterEscape (c : Char) : ControlState :=
  if '\x20' ≤ c && c ≤ '/' then escapeMore
  else if c = '[' then parameters
  else if c = ']' then command
  else if c = 'P' then device
  else if c = 'X' || c = '^' || c = '_' then hidden
  else if '0' ≤ c && c ≤ '~' then ground
  else escape

def isFinal (c : Char) : Bool :=
  '@' ≤ c && c ≤ '~'

def next (state : ControlState) (c : Char) : ControlState :=
  if c = '\x18' || c = '\x1a' then ground
  else if c = '\x1b' then escape
  else
    match state with
    | ground => ground
    | escape => afterEscape c
    | escapeMore => if '0' ≤ c && c ≤ '~' then ground else escapeMore
    | parameters => if isFinal c then ground else parameters
    | command => if c = '\x07' then ground else command
    | device =>
        if isFinal c then hidden
        else if ' ' ≤ c && c ≤ '/' then deviceMore
        else if '0' ≤ c && c ≤ '?' then deviceParameters
        else device
    | deviceParameters =>
        if '<' ≤ c && c ≤ '~' then hidden
        else if ' ' ≤ c && c ≤ '/' then deviceMore
        else deviceParameters
    | deviceMore => if '0' ≤ c && c ≤ '~' then hidden else deviceMore
    | hidden => if holdsTerminator c then ground else hidden

/-- Whether a character is shown that is read in a state. Blanks are shown inside sequences too. -/
def shows (state : ControlState) (c : Char) : Bool :=
  match state with
  | ground => isSpaceControl c || (' ' ≤ c && c ≠ '\x7f')
  | escape | escapeMore | parameters => isSpaceControl c
  | command | device | deviceParameters | deviceMore | hidden => false

end ControlState

/-- The characters that are shown. `flowing` tells that the character before was one of them: what
follows it is read as outside all sequences, up to a character that is not shown. -/
def shownChars : ControlState → (flowing : Bool) → List Char → List Char
  | _, _, [] => []
  | state, flowing, c :: rest =>
      if flowing && ControlState.ground.shows c then
        c :: shownChars (if 0x80 ≤ c.toNat then .ground else state) true rest
      else if state.shows c then
        c :: shownChars (state.next c) true rest
      else shownChars (state.next c) false rest

def withoutControls (text : String) : String :=
  String.ofList (shownChars .ground false text.toList)

end Bundler.Text
