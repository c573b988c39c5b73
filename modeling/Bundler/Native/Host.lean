import Bundler.IoError
import Bundler.Log

/-! What a build asks of the machine it runs on. -/

namespace Bundler.Native

/-- A process to be started. A program without a slash in its name is searched for. -/
structure Launch where
  program : String
  args : List String
  stdin : Option ByteArray := none
  keepsOutput : Bool := false
  limitMs : Option UInt64 := none

inductive Ending
  /-- By itself, with a status, or by a signal, without one. -/
  | finished (status : Option Int) (stdout stderr : ByteArray)
  | expired
  /-- Unseen, because waiting for it failed. -/
  | lost (error : IoError)

structure Host (m : Type → Type) where
  isFile : String → m Bool
  search : String → m (Option String)
  makeDirectories : String → m (Except IoError Unit)
  remove : String → m (Except IoError Unit)
  start : Launch → m (Except IoError Ending)
  report : Record → m Unit

end Bundler.Native
