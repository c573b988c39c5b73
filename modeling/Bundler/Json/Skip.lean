import Bundler.Json.Scalar

/-!
Passing over JSON values that nobody asks for. They have to be well formed, but are not decoded,
and may be nested without limit.
-/

namespace Bundler.Json

mutual

/-- Passes over one value. `fuel` is at least the length of the text. -/
def skipValue : (fuel : Nat) → List Char → Except Fault (List Char)
  | 0, rest => fail .endInValue rest
  | fuel + 1, chars =>
      match skipSpace chars with
      | [] => fail .endInValue []
      | 'n' :: rest => word "ull".toList rest
      | 't' :: rest => word "rue".toList rest
      | 'f' :: rest => word "alse".toList rest
      | '-' :: rest => skipNumber rest
      | '"' :: rest => skipText rest
      | '[' :: rest =>
          match skipSpace rest with
          | [] => fail .endInList []
          | ']' :: rest => .ok rest
          | rest => skipItems fuel rest
      | '\x7b' :: rest =>
          match skipSpace rest with
          | [] => fail .endInObject []
          | '\x7d' :: rest => .ok rest
          | rest => skipMembers fuel rest
      | c :: rest => if isDigit c then skipNumber (c :: rest) else fail .noValue rest

def skipItems : (fuel : Nat) → List Char → Except Fault (List Char)
  | 0, rest => fail .endInValue rest
  | fuel + 1, chars => do
      let rest ← skipValue fuel chars
      match skipSpace rest with
      | [] => fail .endInList []
      | ',' :: rest => skipItems fuel rest
      | ']' :: rest => return rest
      | _ :: rest => fail .noCommaInList rest

def skipMembers : (fuel : Nat) → List Char → Except Fault (List Char)
  | 0, rest => fail .endInValue rest
  | fuel + 1, chars =>
      match skipSpace chars with
      | [] => fail .endInObject []
      | '"' :: rest => do
          let rest ← skipText rest
          match skipSpace rest with
          | [] => fail .endInObject []
          | ':' :: rest =>
              let rest ← skipValue fuel rest
              match skipSpace rest with
              | [] => fail .endInObject []
              | ',' :: rest => skipMembers fuel rest
              | '\x7d' :: rest => return rest
              | _ :: rest => fail .noCommaInObject rest
          | _ :: rest => fail .noColon rest
      | _ :: rest => fail .keyNotString rest

end

end Bundler.Json
