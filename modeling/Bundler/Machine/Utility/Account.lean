import Bundler.Machine.Utility.Options
import Bundler.Machine.Status

/-! Programs that tell of the user and of the system. -/

namespace Bundler.Machine.Utility

def userName : String :=
  "root"

def hostName : String :=
  "localhost"

def machineName : String :=
  "x86_64"

def tell (text : String) (args : List String) : WorkM Unit := do
  let line ← commandLine [] args
  match line.operands with
  | [] => emit (text ++ "\n")
  | operand :: _ => extraOperand operand

namespace Identity

def known : List Known :=
  [⟨"a", "", .none⟩, ⟨"g", "group", .none⟩, ⟨"G", "groups", .none⟩, ⟨"n", "name", .none⟩,
    ⟨"r", "real", .none⟩, ⟨"u", "user", .none⟩, ⟨"z", "zero", .none⟩, ⟨"Z", "context", .none⟩]

def main (args : List String) : WorkM Unit := do
  let line ← commandLine known args
  let kinds := ["u", "g", "G"].filter line.has
  if 1 < kinds.length then die "cannot print \"only\" of more than one choice"
  if kinds.isEmpty && (line.has "n" || line.has "r") then
    die "cannot print only names or real IDs in default format"
  let names := if line.operands.isEmpty then [userName] else line.operands
  for name in names do
    if name = userName || name = "0" then
      if kinds.isEmpty then emit "uid=0(root) gid=0(root) groups=0(root)\n"
      else emit ((if line.has "n" then userName else "0") ++ "\n")
    else grumble (quoted name ++ ": no such user")

end Identity

namespace Groups

def main (args : List String) : WorkM Unit := do
  let line ← commandLine [] args
  if line.operands.isEmpty then emit (userName ++ "\n")
  for name in line.operands do
    if name = userName then emit (name ++ " : " ++ userName ++ "\n")
    else grumble (quoted name ++ ": no such user")

end Groups

namespace LoginName

def main (args : List String) : WorkM Unit := do
  let line ← commandLine [] args
  match line.operands with
  | [] => die "no login name"
  | operand :: _ => extraOperand operand

end LoginName

namespace System

def known : List Known :=
  [⟨"a", "all", .none⟩, ⟨"s", "kernel-name", .none⟩, ⟨"n", "nodename", .none⟩,
    ⟨"r", "kernel-release", .none⟩, ⟨"v", "kernel-version", .none⟩, ⟨"m", "machine", .none⟩,
    ⟨"p", "processor", .none⟩, ⟨"i", "hardware-platform", .none⟩,
    ⟨"o", "operating-system", .none⟩]

def parts : List (String × String) :=
  [("s", "Linux"), ("n", hostName), ("r", "6.1.0"), ("v", "#1 SMP"), ("m", machineName),
    ("p", machineName), ("i", machineName), ("o", "GNU/Linux")]

def main (args : List String) : WorkM Unit := do
  let line ← commandLine known args
  match line.operands with
  | operand :: _ => extraOperand operand
  | [] => do
      let told := if line.has "a" then parts
        else if line.options.isEmpty then parts.take 1
        else parts.filter fun (key, _) => line.has key
      emit (String.intercalate " " (told.map (·.2)) ++ "\n")

end System

namespace Terminal

def main (args : List String) : WorkM Unit := do
  let line ← commandLine [⟨"s", "silent", .none⟩, ⟨"s", "quiet", .none⟩] args true 2
  match line.operands with
  | operand :: _ => extraOperand operand 2
  | [] => do
      let view ← request .view
      let isTerminal := view.descriptors.lookup 0 = some (.device .terminal)
      unless line.has "s" do emit (if isTerminal then "/dev/tty\n" else "not a tty\n")
      unless isTerminal do setStatus 1

end Terminal

namespace Processors

def main (args : List String) : WorkM Unit := do
  let line ← commandLine [⟨"", "all", .none⟩, ⟨"", "ignore", .required⟩] args
  match line.operands with
  | operand :: _ => extraOperand operand
  | [] => emit "4\n"

end Processors

end Bundler.Machine.Utility
