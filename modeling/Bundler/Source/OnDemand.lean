import Bundler.Source.Load

/-!
Loads for which files are read one at a time: a load is tried with what is known, and names the
first path string that it asks for beyond that.
-/

namespace Bundler.Source

open Text (Decoded)

abbrev Known := List (String × Except IoError Decoded)

inductive Progress
  | wanting (path : String)
  | complete (run : LoadRun)

def Known.unread : IoError :=
  .noSuchFile

def Known.load (known : Known) (entry : String) : LoadRun :=
  Source.load (.ofList known unread) (sufficientDepth known.length) entry

def Known.advance (known : Known) (entry : String) : Progress :=
  let run := known.load entry
  match run.asked.find? fun path => (known.lookup path).isNone with
  | some path => .wanting path
  | none => .complete run

end Bundler.Source
