import Bundler.Machine.Utility.Calendar
import Bundler.Machine.Utility.Options
import Bundler.Machine.Status

/-! The program `date`. -/

namespace Bundler.Machine.Utility.Date

def known : List Known :=
  [⟨"d", "date", .required⟩, ⟨"I", "iso-8601", .optional⟩, ⟨"R", "rfc-email", .none⟩,
    ⟨"R", "rfc-2822", .none⟩, ⟨"", "rfc-3339", .required⟩, ⟨"r", "reference", .required⟩,
    ⟨"u", "utc", .none⟩, ⟨"u", "universal", .none⟩, ⟨"u", "uct", .none⟩]

def preciseFormat? (sign zone precision : String) : Option String :=
  match precision with
  | "" | "date" => some "%F"
  | "hours" => some ("%F" ++ sign ++ "%H" ++ zone)
  | "minutes" => some ("%F" ++ sign ++ "%H:%M" ++ zone)
  | "seconds" => some ("%F" ++ sign ++ "%T" ++ zone)
  | "ns" => some ("%F" ++ sign ++ "%T,%N" ++ zone)
  | _ => none

def main (args : List String) : WorkM Unit := do
  let line ← commandLine known args
  let formats := line.operands.filter fun operand => operand.toList.head? = some '+'
  match line.operands.filter fun operand => operand.toList.head? ≠ some '+' with
  | operand :: _ => die ("invalid date " ++ quoted operand)
  | [] => pure ()
  match formats with
  | _ :: other :: _ => misuse ("extra operand " ++ quoted other)
  | _ => pure ()
  let precise (sign zone option precision : String) : WorkM String := do
    match preciseFormat? sign zone precision with
    | some format => return format
    | none => misuse ("invalid argument " ++ quoted precision ++ " for '--" ++ option ++ "'")
  let format ← match formats, line.lastOf? ["I", "R", "rfc-3339"] with
    | format :: _, _ => pure (String.ofList format.toList.tail)
    | [], some "R" => pure "%a, %d %b %Y %H:%M:%S +0000"
    | [], some "I" => precise "T" "+00:00" "iso-8601" ((line.last? "I").getD "")
    | [], some _ => precise " " "+00:00" "rfc-3339" ((line.last? "rfc-3339").getD "")
    | [], none => pure "%a %b %e %H:%M:%S %Z %Y"
  let view ← request .view
  let time ← match line.last? "d", line.last? "r" with
    | some text, _ =>
        match readDate? view.now text with
        | some time => pure time
        | none => die ("invalid date " ++ quoted text)
    | none, some path =>
        match view.status path with
        | .ok status => pure status.modified
        | .error error => die (quotedIfNeeded path ++ ": " ++ reason error)
    | none, none => pure view.now
  let moment := Moment.ofSeconds (time / billion : Nat)
  emit (moment.text time (format.length + 1) format.toList ++ "\n")

end Bundler.Machine.Utility.Date
