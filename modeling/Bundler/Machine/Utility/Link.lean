import Bundler.Machine.Utility.Names

/-! The program `ln`, which gives files further names. -/

namespace Bundler.Machine.Utility

namespace Link

def known : List Known :=
  [⟨"b", "backup", .optional⟩, ⟨"d", "directory", .none⟩, ⟨"F", "", .none⟩, ⟨"f", "force", .none⟩,
    ⟨"i", "interactive", .none⟩, ⟨"L", "logical", .none⟩, ⟨"n", "no-dereference", .none⟩,
    ⟨"P", "physical", .none⟩, ⟨"r", "relative", .none⟩, ⟨"s", "symbolic", .none⟩,
    ⟨"S", "suffix", .required⟩, ⟨"t", "target-directory", .required⟩,
    ⟨"T", "no-target-directory", .none⟩, ⟨"v", "verbose", .none⟩]

def relativeTo (view : View) (new old : String) : String :=
  match canonical view .nothing old, canonical view .nothing (directoryName new) with
  | .ok goal, .ok start => RealPath.relative start goal
  | _, _ => old

def linkOne (line : CommandLine) (given new : String) : WorkM Unit := do
  let symbolic := line.has "s"
  let view ← request .view
  let old := if symbolic && line.has "r" then relativeTo view new given else given
  let fault : Option String ← do
    if symbolic then pure none
    else
      match view.status old false with
      | .error error => pure (some ("failed to access " ++ quoted old ++ ": " ++ reason error))
      | .ok status =>
          if status.kind = .directory then
            pure (some (quotedIfNeeded old ++ ": hard link not allowed for directory"))
          else pure none
  match fault with
  | some text => grumble text
  | none => do
      if line.has "f" then
        match view.status new false with
        | .ok status =>
            if status.kind ≠ .directory then
              let _ ← change fun view =>
                view.tree.remove view.cwd (Octets.toText new) view.fileTime
        | .error _ => pure ()
      let result ← change fun view =>
        if symbolic then
          view.tree.make view.cwd (Octets.toText new) (.link (Octets.toText old)) 0o777
            view.fileTime
        else
          view.tree.makeLink view.cwd (Octets.toText old) (Octets.toText new) (line.has "L")
            view.fileTime
      match result with
      | .ok _ =>
          if line.has "v" then
            emit (quoted new ++ (if symbolic then " -> " else " => ") ++ quoted old ++ "\n")
      | .error error =>
          if symbolic then
            grumble ("failed to create symbolic link " ++ quoted new ++ ": " ++ reason error)
          else
            grumble ("failed to create hard link " ++ quoted new ++
              (if error = .fileExists || error = .noSuchFile then ""
                else " => " ++ quoted old) ++ ": " ++ reason error)

def main (args : List String) : WorkM Unit := do
  let line ← commandLine known args
  let view ← request .view
  let isGoal (path : String) : Bool :=
    view.isDirectory path && !(line.has "n" && (match view.status path false with
      | .ok status => decide (status.kind = .link)
      | .error _ => false))
  let into (directory old : String) : String := joined directory (lastName old)
  match line.last? "t", line.operands with
  | _, [] => misuse "missing file operand"
  | some directory, operands => do
      if !(view.isDirectory directory) then
        die ("target directory " ++ quoted directory ++ ": " ++ match view.status directory with
          | .ok _ => reason .notADirectory
          | .error error => reason error)
      for old in operands do linkOne line old (into directory old)
  | none, [old] => linkOne line old (into "." old)
  | none, [old, new] =>
      linkOne line old (if isGoal new && !line.has "T" then into new old else new)
  | none, operands => do
      let goal := operands.getLast?.getD ""
      if line.has "T" then extraOperand goal
      if !(isGoal goal) then
        die ("target " ++ quoted goal ++ ": " ++ match view.status goal with
          | .ok _ => reason .notADirectory
          | .error error => reason error)
      for old in operands.dropLast do linkOne line old (into goal old)

end Link

end Bundler.Machine.Utility
