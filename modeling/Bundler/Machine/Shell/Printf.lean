import Bundler.Machine.Format
import Bundler.Machine.Octets

/-! Texts as `printf` and `echo` write them. -/

namespace Bundler.Machine.Shell

namespace Printf

structure Printing where
  args : List String
  printed : List String := []
  complaints : List String := []
  ended : Bool := false

abbrev PrintM := EStateM String Printing

def emit (text : String) : PrintM Unit :=
  modify fun printing => { printing with printed := text :: printing.printed }

def octet (n : Nat) : String :=
  (Char.ofNat (n % 256)).toString

def isOctal (c : Char) : Bool :=
  '0' ≤ c && c ≤ '7'

/-- The character that an escape stands for, from behind its backslash, and what follows. An escape
that is none leaves the backslash. -/
def escape (chars : List Char) : Nat × List Char :=
  match chars with
  | '\\' :: rest => (92, rest)
  | 'a' :: rest => (7, rest)
  | 'b' :: rest => (8, rest)
  | 'e' :: rest => (27, rest)
  | 'f' :: rest => (12, rest)
  | 'n' :: rest => (10, rest)
  | 'r' :: rest => (13, rest)
  | 't' :: rest => (9, rest)
  | 'v' :: rest => (11, rest)
  | chars =>
      let digits := (chars.take 3).takeWhile isOctal
      if digits.isEmpty then (92, chars)
      else
        (digits.foldl (fun n c => n * 8 + (c.toNat - '0'.toNat)) 0, chars.drop digits.length)

def unescape : (fuel : Nat) → List Char → List Char × Bool
  | 0, _ => ([], false)
  | fuel + 1, chars =>
      match chars with
      | [] => ([], false)
      | '\\' :: 'c' :: _ => ([], true)
      | '\\' :: rest =>
          let rest := match rest with
            | '0' :: c :: more => if isOctal c then c :: more else rest
            | rest => rest
          let (n, rest) := escape rest
          let (text, ended) := unescape fuel rest
          (Char.ofNat (n % 256) :: text, ended)
      | c :: rest =>
          let (text, ended) := unescape fuel rest
          (c :: text, ended)

def unescaped (text : String) : String × Bool :=
  let (chars, ended) := unescape (text.length + 1) text.toList
  (String.ofList chars, ended)

def nextArgument : PrintM (Option String) :=
  modifyGet fun printing =>
    match printing.args with
    | [] => (none, printing)
    | arg :: rest => (some arg, { printing with args := rest })

def complain (text : String) : PrintM Unit :=
  modify fun printing => { printing with complaints := text :: printing.complaints }

def check (arg : String) (rest : List Char) (outOfRange : Bool) : PrintM Unit :=
  if !rest.isEmpty then
    complain (arg ++ if rest.length = arg.length then ": expected numeric value"
      else ": not completely converted")
  else if outOfRange then complain (arg ++ ": Numerical result out of range")
  else pure ()

def quotedCode? (arg : String) : Option Nat :=
  match arg.toList with
  | '"' :: rest | '\'' :: rest => some ((rest.head?.map (·.toNat)).getD 0)
  | _ => none

def signedArgument : PrintM Int := do
  match ← nextArgument with
  | none => return 0
  | some arg =>
      match quotedCode? arg with
      | some code => return code
      | none => do
          let (n, outOfRange, rest) := readInteger 0 arg.toList
          check arg rest outOfRange
          return n

/-- A number of 64 bits; a negative one counts from above. -/
def unsignedArgument : PrintM Nat := do
  match ← nextArgument with
  | none => return 0
  | some arg =>
      match quotedCode? arg with
      | some code => return code
      | none => do
          let (n, outOfRange, rest) := readMagnitude arg.toList
          check arg rest outOfRange
          return n
where
  readMagnitude (chars : List Char) : Nat × Bool × List Char :=
    let start := chars.dropWhile isSpace
    let negative := start.head? = some '-'
    let digits := start.dropWhile fun c => c == '-' || c == '+'
    let (base, digits) := match digits with
      | '0' :: x :: d :: rest =>
          if x.toLower = 'x' && (digitValue? 16 d).isSome then (16, d :: rest) else (8, digits)
      | '0' :: _ => (8, digits)
      | digits => (10, digits)
    let read := digits.takeWhile fun c => (digitValue? base c).isSome
    if (readInteger 0 chars).2.2.length = chars.length then (0, false, chars)
    else
      let n : Nat := read.foldl (fun n c => n * base + (digitValue? base c).getD 0) 0
      let rest := digits.drop read.length
      if Nat.pow 2 64 ≤ n then (Nat.pow 2 64 - 1, true, rest)
      else (if negative then (Nat.pow 2 64 - n) % Nat.pow 2 64 else n, false, rest)

def doubleArgument : PrintM Double := do
  match ← nextArgument with
  | none => return .zero
  | some arg =>
      match quotedCode? arg with
      | some code => return .ofInt code
      | none => do
          let (x, outOfRange, rest) := Double.read arg.toList
          check arg rest outOfRange
          return x

def count (chars : List Char) : Nat × List Char :=
  let digits := chars.takeWhile isDigit
  (digits.foldl (fun n c => n * 10 + (c.toNat - '0'.toNat)) 0, chars.drop digits.length)

def width (directive : Directive) (chars : List Char) : PrintM (Directive × List Char) := do
  match chars with
  | '*' :: rest => return (directive.withWidth (← signedArgument), rest)
  | chars =>
      let (n, rest) := count chars
      return ({ directive with width := n }, rest)

def precision (directive : Directive) (chars : List Char) : PrintM (Directive × List Char) := do
  match chars with
  | '.' :: '*' :: rest => return (directive.withPrecision (← signedArgument), rest)
  | '.' :: chars =>
      let (n, rest) := count chars
      return ({ directive with precision := some n }, rest)
  | chars => return (directive, chars)

/-- Prints what a directive asks for. `source` is how it is written. -/
def convert (directive : Directive) (source : String) : PrintM Unit := do
  match directive.kind with
  | 'b' => do
      let (text, ended) := unescaped ((← nextArgument).getD "")
      emit (directive.text text)
      modify fun printing => { printing with ended }
  | 'c' => do
      let arg := (← nextArgument).getD ""
      emit (directive.pad ((arg.toList.head?.getD '\x00').toString))
  | 's' => do emit (directive.text ((← nextArgument).getD ""))
  | 'd' | 'i' => do emit (directive.signed (← signedArgument))
  | 'o' | 'u' | 'x' | 'X' => do emit (directive.unsigned (← unsignedArgument))
  | 'a' | 'A' | 'e' | 'E' | 'f' | 'F' | 'g' | 'G' => do
      emit (directive.double (← doubleArgument))
  | _ => throw (source ++ ": invalid directive")

def once : (fuel : Nat) → List Char → PrintM Unit
  | 0, _ => return
  | fuel + 1, chars => do
      match chars with
      | [] => return
      | '\\' :: rest => do
          let (n, rest) := escape rest
          emit (octet n)
          once fuel rest
      | '%' :: '%' :: rest => do
          emit "%"
          once fuel rest
      | '%' :: rest => do
          let flags := rest.takeWhile Directive.isFlag
          let directive : Directive := flags.foldl Directive.flag {}
          let (directive, after) ← width directive (rest.drop flags.length)
          let (directive, after) ← precision directive after
          match after with
          | [] => throw "missing format character"
          | kind :: after => do
              convert { directive with kind }
                (String.ofList (chars.take (chars.length - after.length)))
              if (← get).ended then return
              once fuel after
      | chars => do
          let plain := chars.takeWhile fun c => c ≠ '\\' && c ≠ '%'
          emit (String.ofList plain)
          once fuel (chars.drop plain.length)

def repeated (format : List Char) : (fuel : Nat) → PrintM Unit
  | 0 => return
  | fuel + 1 => do
      let before := (← get).args.length
      once (format.length + 1) format
      let printing ← get
      if !printing.ended && !printing.args.isEmpty && printing.args.length < before then
        repeated format fuel

def run (format : String) (args : List String) : String × List String × Option String :=
  let (printing, fault?) := match (repeated format.toList (args.length + 1)).run { args } with
    | .ok _ printing => (printing, none)
    | .error fault printing => (printing, some fault)
  (String.join printing.printed.reverse, printing.complaints.reverse, fault?)

end Printf

def echoText (args : List String) : String :=
  let (ending, args) := match args with
    | "-n" :: rest => ("", rest)
    | args => ("\n", args)
  go ending args
where
  go (ending : String) : List String → String
    | [] => ending
    | [arg] =>
        let (text, ended) := Printf.unescaped arg
        if ended then text else text ++ ending
    | arg :: rest =>
        let (text, ended) := Printf.unescaped arg
        if ended then text else text ++ " " ++ go ending rest

end Bundler.Machine.Shell
