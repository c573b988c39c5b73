import Bundler.Source.Lexer

/-!
Import directives: the keyword, a quoted specifier and a semicolon, next to each other and outside
all brackets. Anything else that begins with the keyword is passed over.
-/

namespace Bundler.Source

inductive Directive
  | none
  | keyword
  | specifier (path : String)
  deriving DecidableEq, Repr

structure ImportScan where
  depth : Nat := 0
  directive : Directive := .none
  found : List String := []
  deriving DecidableEq, Repr

namespace ImportScan

/-- A lexeme that continues no directive. A closing bracket outside all brackets has no effect. -/
def restart (scan : ImportScan) : Token → ImportScan
  | .opening _ => { scan with depth := scan.depth + 1, directive := .none }
  | .closing _ => { scan with depth := scan.depth - 1, directive := .none }
  | .keyword => { scan with directive := if scan.depth = 0 then .keyword else .none }
  | _ => { scan with directive := .none }

def step (scan : ImportScan) (token : Token) : ImportScan :=
  match scan.directive, token with
  | .keyword, .quoted path => { scan with directive := .specifier path }
  | .specifier path, .semicolon =>
      { scan with directive := .none, found := path :: scan.found }
  | _, _ => scan.restart token

def run (scan : ImportScan) (tokens : List Token) : ImportScan :=
  tokens.foldl step scan

end ImportScan

def imports (source : String) : List String :=
  (ImportScan.run {} ((lex source).map (·.token))).found.reverse

end Bundler.Source
