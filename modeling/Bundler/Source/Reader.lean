import Bundler.IoError
import Bundler.Log
import Bundler.Source.ModulePath
import Bundler.Text.Utf8

/-!
Finding a module: its candidates are read in order, and the first that can be read is the module.
-/

namespace Bundler.Source

open Text (Decoded)

abbrev Reader := String → Except IoError Decoded

namespace Reader

/-- The reader of finitely many files, given by exact path. The first entry of a path counts. -/
def ofList (files : List (String × Except IoError Decoded)) (absent : IoError) : Reader :=
  fun path => (files.lookup path).getD (.error absent)

/-- The candidates read one after another, up to the first success. -/
def probe (reader : Reader) : List String → List (String × Except IoError Decoded)
  | [] => []
  | candidate :: rest =>
      match reader candidate with
      | .ok decoded => [(candidate, .ok decoded)]
      | .error error => (candidate, .error error) :: probe reader rest

end Reader

inductive LoadError
  | fileNotFound (path : ModulePath)
  | unreadable (path : ModulePath) (source : IoError)
  | emptyEntry
  | tooDeep (path : ModulePath)
  deriving DecidableEq, Repr

namespace LoadError

def path? : LoadError → Option ModulePath
  | fileNotFound path => some path
  | unreadable path _ => some path
  | emptyEntry => none
  | tooDeep path => some path

def message : LoadError → String
  | fileNotFound path => "failed to read file '" ++ path.text ++ "'"
  | unreadable path source =>
      "failed to read file '" ++ path.text ++ "': " ++ source.message
  | emptyEntry => "invalid arguments: entry path is empty"
  | tooDeep path => "imports are nested too deeply at '" ++ path.text ++ "'"

def causes (error : LoadError) : List String :=
  match error with
  | unreadable _ source => [error.message, source.message]
  | _ => [error.message]

end LoadError

structure Located where
  location : String
  text : String
  deriving DecidableEq, Repr

/-- The outcome of reading candidates. When all fail, the first failure is told. -/
def conclude (path : ModulePath) (reads : List (String × Except IoError Decoded)) :
    Except LoadError Located :=
  match reads.getLast?, reads.head? with
  | some (location, .ok decoded), _ => .ok ⟨location, decoded.text⟩
  | _, some (_, .error error) =>
      if error.kind = .notFound then .error (.fileNotFound path)
      else .error (.unreadable path error)
  | _, _ => .error (.fileNotFound path)

def locate (reader : Reader) (path : ModulePath) : Except LoadError Located :=
  conclude path (reader.probe path.candidates)

def readRecords (path : ModulePath) (candidate : String) :
    Except IoError Decoded → List Record
  | .ok decoded =>
      let found : Record := ⟨.debug, "kooix_loader::locate",
        "found " ++ path.text ++ " at " ++ candidate⟩
      if decoded.wellFormed then [found]
      else
        [⟨.warn, "kooix_loader::locate",
          candidate ++ " is not valid UTF-8; invalid sequences replaced"⟩, found]
  | .error error =>
      [⟨.debug, "kooix_loader::locate",
        "no module at " ++ candidate ++ ": " ++ error.message⟩]

end Bundler.Source
