import Bundler.Machine.Double
import Bundler.Machine.Utility.Options

/-! Spans of time, and the program `sleep`. -/

namespace Bundler.Machine.Utility

def forever : Nat :=
  Nat.pow 10 30

def span? (text : String) : Option Nat :=
  let (x, _, rest) := Double.read text.toList
  let unit? := match rest with
    | [] | ['s'] => some 1
    | ['m'] => some 60
    | ['h'] => some 3600
    | ['d'] => some 86400
    | _ => none
  if rest.length = text.length then none
  else
    unit?.bind fun unit =>
      match x with
      | .finite negative m e =>
          if negative && m ≠ 0 then none
          else
            let (num, den) := Double.ratio m e
            some ((num * unit * 1000000000 + den - 1) / den)
      | .infinite negative => if negative then none else some forever
      | .nan _ => none

namespace Sleep

def main (args : List String) : WorkM Unit := do
  let line ← commandLine [] args
  let operands ← someOperands line
  let spans ← operands.mapM fun text => do
    match span? text with
    | some time => return some time
    | none => do
        complain ("invalid time interval " ++ cited text)
        return none
  if spans.any (·.isNone) then pointToHelp
  let _ ← request (.sleep (spans.foldl (fun sum span? => sum + span?.getD 0) 0))

end Sleep

end Bundler.Machine.Utility
