import Bundler.Text.Terminal

/-! Records of what a program reports while it works. -/

namespace Bundler

inductive Severity
  | debug
  | info
  | warn
  deriving DecidableEq, Repr

namespace Severity

def name : Severity → String
  | debug => "DEBUG"
  | info => "INFO"
  | warn => "WARN"

def rank : Severity → Nat
  | debug => 0
  | info => 1
  | warn => 2

end Severity

structure Record where
  severity : Severity
  target : String
  text : String
  deriving DecidableEq, Repr

namespace Record

def passes (record : Record) (threshold : Severity) : Bool :=
  threshold.rank ≤ record.severity.rank

def hanging (text : String) : List Char :=
  text.toList.flatMap fun c => if c = '\n' then ['\n', ' ', ' ', ' ', ' '] else [c]

/-- What is shown for a record: a line, and more of them when the text has more, without anything
that would control a terminal. Severities are padded to one width. -/
def line (record : Record) : String :=
  let name := record.severity.name
  Text.withoutControls
    ("[" ++ name ++ String.ofList (List.replicate (5 - name.length) ' ') ++ " " ++ record.target ++
      "] " ++ String.ofList (hanging record.text) ++ "\n")

end Record

end Bundler
