import Bundler.Machine.Utility.Records.Syntax
import Bundler.Machine.Shell.Printf

/-! The tokens of a program. -/

namespace Bundler.Machine.Utility.Records

open Shell (digitValue?)

inductive Token
  | newline
  | number (value : Double)
  | text (chars : String)
  | regex (source : String)
  | name (word : String)
  | call (word : String)
  | builtin (function : Builtin)
  | keyword (word : String)
  | symbol (text : String)
  | fault (message : String)
  | finish
  deriving Repr

structure Lexeme where
  token : Token
  line : Nat
  source : String
  parentheses : Nat
  braces : Nat

def builtins : List (String × Builtin) :=
  [("length", .length), ("substr", .substr), ("index", .index), ("split", .split),
    ("match", .find), ("sub", .substitute), ("gsub", .substituteAll), ("sprintf", .format),
    ("sin", .sin), ("cos", .cos), ("atan2", .atan2), ("exp", .exp), ("log", .log),
    ("sqrt", .sqrt), ("int", .truncate), ("rand", .random), ("srand", .seed),
    ("tolower", .lower), ("toupper", .upper), ("system", .system), ("close", .close),
    ("fflush", .flush), ("systime", .now), ("strftime", .timeText), ("mktime", .instant)]

def keywords : List String :=
  ["BEGIN", "END", "function", "if", "else", "while", "do", "for", "in", "break", "continue",
    "next", "nextfile", "exit", "return", "delete", "print", "printf", "getline"]

def symbols : List String :=
  ["&&", "||", "==", "!=", "<=", ">=", ">>", "!~", "++", "--", "+=", "-=", "*=", "/=", "%=", "^=",
    "\x7b", "\x7d", "(", ")", "[", "]", ";", ",", "+", "-", "*", "/", "%", "^", "!", "<", ">", "|",
    "?", ":", "~", "$", "="]

def escape? : List Char → Option (Char × List Char)
  | '"' :: rest => some ('"', rest)
  | '\\' :: rest => some ('\\', rest)
  | 'a' :: rest => some ('\x07', rest)
  | 'b' :: rest => some ('\x08', rest)
  | 'f' :: rest => some ('\x0c', rest)
  | 'n' :: rest => some ('\n', rest)
  | 'r' :: rest => some ('\r', rest)
  | 't' :: rest => some ('\t', rest)
  | 'v' :: rest => some ('\x0b', rest)
  | chars =>
      let octal := (chars.take 3).takeWhile Shell.Printf.isOctal
      let value (base : Nat) (digits : List Char) : Char :=
        Char.ofNat (digits.foldl (fun n c => n * base + (digitValue? base c).getD 0) 0 % 256)
      if !octal.isEmpty then some (value 8 octal, chars.drop octal.length)
      else
        match chars with
        | 'x' :: rest =>
            let digits := (rest.take 2).takeWhile fun c => (digitValue? 16 c).isSome
            if digits.isEmpty then none else some (value 16 digits, rest.drop digits.length)
        | _ => none

/-- A text with its escapes read. An escape that is none stays as it is. -/
def unescaped : (fuel : Nat) → List Char → List Char
  | 0, _ => []
  | fuel + 1, chars =>
      match chars with
      | '\\' :: '\n' :: rest => unescaped fuel rest
      | '\\' :: rest =>
          match escape? rest with
          | some (c, rest) => c :: unescaped fuel rest
          | none => '\\' :: unescaped fuel rest
      | c :: rest => c :: unescaped fuel rest
      | [] => []

def withoutEscapes (text : String) : String :=
  String.ofList (unescaped (text.length + 1) text.toList)

def untilQuote : List Char → Option (List Char × List Char)
  | '"' :: rest => some ([], rest)
  | '\\' :: c :: rest => (untilQuote rest).map fun (text, rest) => ('\\' :: c :: text, rest)
  | '\n' :: _ | [] => none
  | c :: rest => (untilQuote rest).map fun (text, rest) => (c :: text, rest)

/-- The characters of an expression up to the slash that ends it, and what follows. A slash within
brackets does not end it. -/
def untilSlash : (brackets : Bool) → List Char → Option (List Char × List Char)
  | false, '/' :: rest => some ([], rest)
  | inside, '\\' :: '/' :: rest =>
      (untilSlash inside rest).map fun (text, rest) => ('/' :: text, rest)
  | inside, '\\' :: c :: rest =>
      (untilSlash inside rest).map fun (text, rest) => ('\\' :: c :: text, rest)
  | _, '\n' :: _ | _, [] => none
  | false, '[' :: '^' :: ']' :: rest =>
      (untilSlash true rest).map fun (text, rest) => ('[' :: '^' :: ']' :: text, rest)
  | false, '[' :: ']' :: rest =>
      (untilSlash true rest).map fun (text, rest) => ('[' :: ']' :: text, rest)
  | false, '[' :: rest => (untilSlash true rest).map fun (text, rest) => ('[' :: text, rest)
  | true, ']' :: rest => (untilSlash false rest).map fun (text, rest) => (']' :: text, rest)
  | inside, c :: rest => (untilSlash inside rest).map fun (text, rest) => (c :: text, rest)

def Token.precedesDivision : Token → Bool
  | .number _ => true
  | .text _ => true
  | .regex _ => true
  | .name _ => true
  | .symbol shown => [")", "]", "++", "--"].contains shown
  | .builtin .length => true
  | .keyword "getline" => true
  | _ => false

def isNameStart (c : Char) : Bool :=
  c.isAlpha || c = '_'

def numeral (chars : List Char) : List Char × List Char :=
  let whole := chars.takeWhile Char.isDigit
  let rest := chars.drop whole.length
  let fraction := match rest with
    | '.' :: more => '.' :: more.takeWhile Char.isDigit
    | _ => []
  let rest := rest.drop fraction.length
  let exponent := match rest with
    | e :: sign :: more =>
        let digits := more.takeWhile Char.isDigit
        if e.toLower = 'e' && sign.isDigit then e :: sign :: digits
        else if e.toLower = 'e' && (sign = '+' || sign = '-') && !digits.isEmpty then
          e :: sign :: digits
        else []
    | _ => []
  (whole ++ fraction ++ exponent, rest.drop exponent.length)

/-- The state of the reading: what stands before. -/
structure Scan where
  line : Nat := 1
  last : Token := .newline
  parentheses : Nat := 0
  braces : Nat := 0

def openBrace : String := "\x7b"
def closeBrace : String := "\x7d"

def tokenAt (scan : Scan) (chars : List Char) : Token × String × Nat × List Char :=
  match chars with
  | [] => (.finish, "end of file", 0, [])
  | '\n' :: rest => (.newline, "end of line", 1, rest)
  | '"' :: rest =>
      match untilQuote rest with
      | some (text, rest) =>
          let lines := (text.filter (· = '\n')).length
          (.text (withoutEscapes (String.ofList text)), String.ofList text, lines, rest)
      | none =>
          let shown := (rest.takeWhile (· ≠ '\n')).take 10
          (.fault ("line " ++ toString scan.line ++ ": runaway string constant \"" ++
            String.ofList shown ++ " ..."), "", 0, [])
  | c :: rest =>
      if c = '/' && !scan.last.precedesDivision then
        match untilSlash false rest with
        | some (source, rest) => (.regex (String.ofList source), "/../", 0, rest)
        | none =>
            let shown := (rest.takeWhile (· ≠ '\n')).take 10
            (.fault ("line " ++ toString scan.line ++ ": runaway regular expression /" ++
              String.ofList shown ++ " ..."), "", 0, [])
      else if c.isDigit || (c = '.' && (rest.head?.any Char.isDigit)) then
        let (digits, rest) := numeral chars
        (.number (Double.read digits).1, String.ofList digits, 0, rest)
      else if isNameStart c then
        let word := chars.takeWhile fun c => isNameStart c || c.isDigit
        let rest := chars.drop word.length
        let word := String.ofList word
        let token : Token :=
          match builtins.lookup word with
          | some function => .builtin function
          | none =>
              if word = "func" then .keyword "function"
              else if keywords.contains word then .keyword word
              else if rest.head? = some '(' then .call word
              else .name word
        (token, word, 0, rest)
      else
        match symbols.find? fun text => text.toList.isPrefixOf chars with
        | some text => (.symbol text, text, 0, chars.drop text.length)
        | none =>
            (.fault (toString scan.line ++ ": unexpected character '" ++ c.toString ++ "'"), "", 0,
              [])

/-- Leaves out blanks, comments and joined lines. Gives the number of lines left out. -/
def skipBlanks : (fuel : Nat) → List Char → Nat × List Char
  | 0, chars => (0, chars)
  | fuel + 1, chars =>
      match chars with
      | '\\' :: '\n' :: rest =>
          let (lines, rest) := skipBlanks fuel rest
          (lines + 1, rest)
      | '\\' :: '\r' :: '\n' :: rest =>
          let (lines, rest) := skipBlanks fuel rest
          (lines + 1, rest)
      | '#' :: rest => skipBlanks fuel (rest.dropWhile (· ≠ '\n'))
      | c :: rest =>
          if c = ' ' || c = '\t' || c = '\r' || c = '\x0b' || c = '\x0c' then skipBlanks fuel rest
          else (0, chars)
      | [] => (0, [])

def lexemesFrom : (fuel : Nat) → Scan → List Char → List Lexeme
  | 0, _, _ => []
  | fuel + 1, scan, chars =>
      let (skipped, chars) := skipBlanks (chars.length + 1) chars
      let scan := { scan with line := scan.line + skipped }
      let (token, source, lines, rest) := tokenAt scan chars
      let lexeme : Lexeme :=
        { token, line := scan.line, source, parentheses := scan.parentheses
          braces := scan.braces }
      match token with
      | .finish | .fault _ => [lexeme]
      | token =>
          let after : Scan :=
            { line := scan.line + lines
              last := token
              parentheses := match token with
                | .symbol "(" => scan.parentheses + 1
                | .symbol ")" => scan.parentheses - 1
                | .newline => if scan.braces = 0 then 0 else scan.parentheses
                | _ => scan.parentheses
              braces := match token with
                | .symbol text =>
                    if text = openBrace then scan.braces + 1
                    else if text = closeBrace then scan.braces - 1
                    else scan.braces
                | _ => scan.braces }
          lexeme :: lexemesFrom fuel after rest

def lexemes (source : String) : List Lexeme :=
  let chars := source.toList
  let chars := if chars.getLast? = some '\n' || chars.isEmpty then chars else chars ++ ['\n']
  lexemesFrom (chars.length + 2) {} chars

end Bundler.Machine.Utility.Records
