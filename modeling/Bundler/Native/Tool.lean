import Bundler.Path
import Bundler.Text.Blank

/-! External programs as they are configured. -/

namespace Bundler.Native

structure Tool where
  program : String
  args : List String := []
  deriving DecidableEq, Repr

namespace Tool

/-- A command is split into words at blanks. A blank command is no tool. -/
def parse? (command : String) : Option Tool :=
  match Text.words command with
  | [] => none
  | program :: args => some ⟨program, args⟩

/-- The tool that a setting puts in place of `current`. A blank setting puts none. -/
def choose (current : Tool) (command? : Option String) : Tool :=
  (command?.bind parse?).getD current

/-- A directory of a search path, where a tilde as its first name stands for the home directory. -/
def searched (home? : Option String) (directory : String) : String :=
  match (Path.names directory).filter (· ≠ "") with
  | "~" :: rest =>
      if Path.isAbsolute directory then directory
      else (rest.filter (· ≠ ".")).foldl Path.join (home?.getD "")
  | _ => directory

def candidates (home? : Option String) (searchPath name : String) : List String :=
  (searchPath.splitOn ":").map fun directory => Path.join (searched home? directory) name

end Tool

end Bundler.Native
