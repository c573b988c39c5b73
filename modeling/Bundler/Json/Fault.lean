import Bundler.Text.Utf8

/-!
What can be wrong with a JSON text that is read for a record of known fields, and where.
-/

namespace Bundler.Json

inductive Defect
  | endInValue
  | endInString
  | endInList
  | endInObject
  | unknownWord
  | noValue
  | noColon
  | noCommaInList
  | noCommaInObject
  | keyNotString
  | trailingComma
  | trailingText
  | badNumber
  | numberTooLarge
  | badEscape
  | controlCharacter
  | loneSurrogate
  | halfSurrogatePair
  | unsuitable (expected : String)
  | repeatedField (name : String)
  deriving DecidableEq, Repr

inductive Category
  | incomplete
  | malformed
  | mismatched
  deriving DecidableEq, Repr

namespace Defect

def category : Defect → Category
  | endInValue | endInString | endInList | endInObject => .incomplete
  | unsuitable _ | repeatedField _ => .mismatched
  | _ => .malformed

def text : Defect → String
  | endInValue => "EOF while parsing a value"
  | endInString => "EOF while parsing a string"
  | endInList => "EOF while parsing a list"
  | endInObject => "EOF while parsing an object"
  | unknownWord => "expected ident"
  | noValue => "expected value"
  | noColon => "expected `:`"
  | noCommaInList => "expected `,` or `]`"
  | noCommaInObject => "expected `,` or `\x7d`"
  | keyNotString => "key must be a string"
  | trailingComma => "trailing comma"
  | trailingText => "trailing characters"
  | badNumber => "invalid number"
  | numberTooLarge => "number out of range"
  | badEscape => "invalid escape"
  | controlCharacter => "control character (\\u0000-\\u001F) found while parsing a string"
  | loneSurrogate => "lone leading surrogate in hex escape"
  | halfSurrogatePair => "unexpected end of hex escape"
  | unsuitable expected => "invalid type, expected " ++ expected
  | repeatedField name => "duplicate field `" ++ name ++ "`"

end Defect

structure Fault where
  defect : Defect
  rest : List Char
  deriving DecidableEq, Repr

/-- A defect and its place in a text. Lines are counted from one, and columns are the bytes read
of the line. -/
structure Error where
  defect : Defect
  line : Nat
  column : Nat
  deriving DecidableEq, Repr

namespace Fault

def locate (fault : Fault) (text : List Char) : Error :=
  let back := (text.take (text.length - fault.rest.length)).reverse
  { defect := fault.defect
    line := back.count '\n' + 1
    column := Text.byteLength (back.takeWhile (· ≠ '\n')) }

end Fault

namespace Error

def message (error : Error) : String :=
  error.defect.text ++ " at line " ++ toString error.line ++ " column " ++ toString error.column

end Error

end Bundler.Json
