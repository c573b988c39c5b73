/-! Failures of operations on files and processes. -/

namespace Bundler

inductive IoErrorKind
  | notFound
  | permissionDenied
  | alreadyExists
  | notADirectory
  | isADirectory
  | directoryNotEmpty
  | filesystemLoop
  | storageFull
  | brokenPipe
  | interrupted
  | invalidFilename
  | invalidInput
  | invalidData
  | argumentListTooLong
  | other
  deriving DecidableEq, Repr

structure IoError where
  kind : IoErrorKind
  message : String
  deriving DecidableEq, Repr

namespace IoError

def numbered (kind : IoErrorKind) (text : String) (number : Nat) : IoError :=
  ⟨kind, text ++ " (os error " ++ toString number ++ ")"⟩

def reason (error : IoError) : String :=
  (error.message.splitOn " (os error ").headD ""

def notPermitted : IoError :=
  numbered .permissionDenied "Operation not permitted" 1

def noSuchFile : IoError :=
  numbered .notFound "No such file or directory" 2

def noSuchProcess : IoError :=
  numbered .other "No such process" 3

def interruptedCall : IoError :=
  numbered .interrupted "Interrupted system call" 4

def noSuchDevice : IoError :=
  numbered .other "No such device or address" 6

def argumentsTooLong : IoError :=
  numbered .argumentListTooLong "Argument list too long" 7

def badFormat : IoError :=
  numbered .other "Exec format error" 8

def badDescriptor : IoError :=
  numbered .other "Bad file descriptor" 9

def permissionDenied : IoError :=
  numbered .permissionDenied "Permission denied" 13

def busy : IoError :=
  numbered .other "Device or resource busy" 16

def fileExists : IoError :=
  numbered .alreadyExists "File exists" 17

def notADirectory : IoError :=
  numbered .notADirectory "Not a directory" 20

def isADirectory : IoError :=
  numbered .isADirectory "Is a directory" 21

def invalidArgument : IoError :=
  numbered .invalidInput "Invalid argument" 22

def fileBusy : IoError :=
  numbered .other "Text file busy" 26

def noSpace : IoError :=
  numbered .storageFull "No space left on device" 28

def illegalSeek : IoError :=
  numbered .other "Illegal seek" 29

def brokenPipe : IoError :=
  numbered .brokenPipe "Broken pipe" 32

def nameTooLong : IoError :=
  numbered .invalidFilename "File name too long" 36

def notEmpty : IoError :=
  numbered .directoryNotEmpty "Directory not empty" 39

def tooManyLinks : IoError :=
  numbered .filesystemLoop "Too many levels of symbolic links" 40

def nulInPath : IoError :=
  ⟨.invalidInput, "file name contained an unexpected NUL byte"⟩

def nulInArgument : IoError :=
  ⟨.invalidInput, "nul byte found in provided data"⟩

def notUtf8 : IoError :=
  ⟨.invalidData, "stream did not contain valid UTF-8"⟩

end IoError

end Bundler
