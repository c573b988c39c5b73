import Bundler.Json.Skip

/-!
JSON read straight into values of known types. A record may be written as an object, whose unknown
members are passed over, or as a list of its fields in order.
-/

namespace Bundler.Json

/-- The complaint about a value that is not of the kind expected. A value that is malformed is
told so instead. -/
def refuse (expected : String) (chars : List Char) : Except Fault α := do
  let rest ← match chars with
    | [] => fail .endInValue []
    | 'n' :: rest => word "ull".toList rest
    | 't' :: rest => word "rue".toList rest
    | 'f' :: rest => word "alse".toList rest
    | '-' :: rest => (·.2) <$> number true rest
    | '"' :: rest => (·.2) <$> text [] none rest
    | '[' :: rest => .ok rest
    | '\x7b' :: rest => .ok rest
    | c :: rest =>
        if isDigit c then (·.2) <$> number false (c :: rest) else fail .noValue rest
  fail (.unsuitable expected) rest

def string (chars : List Char) : Reading String :=
  match skipSpace chars with
  | '"' :: rest => text [] none rest
  | rest => refuse "a string" rest

def natural (chars : List Char) : Reading UInt64 :=
  let accept (read : Except Fault (Number × List Char)) : Except Fault (UInt64 × List Char) := do
    match ← read with
    | (.natural n, rest) => return (n, rest)
    | (_, rest) => fail (.unsuitable "u64") rest
  match skipSpace chars with
  | '-' :: rest => accept (number true rest)
  | c :: rest => if isDigit c then accept (number false (c :: rest)) else refuse "u64" (c :: rest)
  | [] => refuse "u64" []

def optional (read : List Char → Reading α) (chars : List Char) :
    Except Fault (Option α × List Char) := do
  match skipSpace chars with
  | 'n' :: rest => return (none, ← word "ull".toList rest)
  | rest =>
      let (value, rest) ← read rest
      return (some value, rest)

/-- The text before the next value of a list, or `none` at the list's end, which stays unread. -/
def nextItem (isFirst : Bool) (chars : List Char) : Except Fault (Option (List Char)) :=
  match skipSpace chars with
  | [] => fail .endInList []
  | ']' :: _ => .ok none
  | c :: rest =>
      if isFirst then .ok (some (c :: rest))
      else if c = ',' then
        match skipSpace rest with
        | [] => fail .endInValue []
        | ']' :: rest => fail .trailingComma rest
        | rest => .ok (some rest)
      else fail .noCommaInList rest

def listEnd (chars : List Char) : Except Fault (List Char) :=
  match skipSpace chars with
  | [] => fail .endInList []
  | ']' :: rest => .ok rest
  | ',' :: rest =>
      match skipSpace rest with
      | ']' :: rest => fail .trailingComma rest
      | rest => fail .trailingText rest
  | _ :: rest => fail .trailingText rest

/-- The values of a list up to its end. `fuel` is at least the length of the text. -/
def items (read : List Char → Reading α) :
    (fuel : Nat) → (isFirst : Bool) → List Char → Except Fault (List α × List Char)
  | 0, _, rest => fail .endInList rest
  | fuel + 1, isFirst, chars => do
      match ← nextItem isFirst chars with
      | none => return ([], ← listEnd chars)
      | some rest =>
          let (value, rest) ← read rest
          let (more, rest) ← items read fuel false rest
          return (value :: more, rest)

def list (read : List Char → Reading α) (chars : List Char) : Reading (List α) :=
  match skipSpace chars with
  | '[' :: rest => items read (rest.length + 1) true rest
  | rest => refuse "a sequence" rest

structure FieldReader (σ : Type) where
  name : String
  read : σ → List Char → Except Fault (σ × List Char)

namespace FieldReader

def of (name : String) (read : List Char → Reading α) (put : σ → α → σ) :
    FieldReader σ where
  name := name
  read record chars := do
    let (value, rest) ← read chars
    return (put record value, rest)

end FieldReader

def colon (chars : List Char) : Except Fault (List Char) :=
  match skipSpace chars with
  | [] => fail .endInObject []
  | ':' :: rest => .ok rest
  | _ :: rest => fail .noColon rest

def nextKey (isFirst : Bool) (chars : List Char) : Except Fault (Option (List Char)) :=
  match skipSpace chars with
  | [] => fail .endInObject []
  | '\x7d' :: _ => .ok none
  | c :: rest =>
      if isFirst then
        if c = '"' then .ok (some rest) else fail .keyNotString rest
      else if c = ',' then
        match skipSpace rest with
        | [] => fail .endInValue []
        | '"' :: rest => .ok (some rest)
        | '\x7d' :: rest => fail .trailingComma rest
        | _ :: rest => fail .keyNotString rest
      else fail .noCommaInObject rest

/-- The members of an object up to its end. `met` has the names of the fields read so far. -/
def members (fields : List (FieldReader σ)) :
    (fuel : Nat) → (met : List String) → (isFirst : Bool) → σ → List Char →
      Except Fault (σ × List Char)
  | 0, _, _, _, rest => fail .endInObject rest
  | fuel + 1, met, isFirst, record, chars => do
      match ← nextKey isFirst chars with
      | none => return (record, (skipSpace chars).tail)
      | some rest =>
          let (key, rest) ← text [] none rest
          match fields.find? (·.name == key) with
          | none =>
              let rest ← colon rest
              let rest ← skipValue (rest.length + 1) rest
              members fields fuel met false record rest
          | some field =>
              if met.contains key then fail (.repeatedField key) rest
              else
                let rest ← colon rest
                let (record, rest) ← field.read record rest
                members fields fuel (key :: met) false record rest

/-- The values of a list as the fields of a record, in order. Fields at the end may be missing. -/
def positions : List (FieldReader σ) → (isFirst : Bool) → σ → List Char →
    Except Fault (σ × List Char)
  | [], _, record, chars => do return (record, ← listEnd chars)
  | field :: fields, isFirst, record, chars => do
      match ← nextItem isFirst chars with
      | none => return (record, ← listEnd chars)
      | some rest =>
          let (record, rest) ← field.read record rest
          positions fields false record rest

/-- A record, whose fields that are not written stay as they are in `start`. -/
def record (expected : String) (fields : List (FieldReader σ)) (start : σ) (chars : List Char) :
    Reading σ :=
  match skipSpace chars with
  | '[' :: rest => positions fields true start rest
  | '\x7b' :: rest => members fields (rest.length + 1) [] true start rest
  | rest => refuse expected rest

def whole (read : List Char → Reading α) (source : String) : Except Error α :=
  let outcome : Except Fault α := do
    let (value, rest) ← read source.toList
    match skipSpace rest with
    | [] => return value
    | _ :: rest => fail .trailingText rest
  outcome.mapError (·.locate source.toList)

end Bundler.Json
