/-!
Command lines as a person would type them. Every word is quoted, so that a shell reads back exactly
the words of the command.
-/

namespace Bundler.Native

namespace CommandLine

/-- Inside single quotes all characters stand for themselves but the quote, for which the quotes
are closed and opened again around an escaped one. -/
def quoteChars : List Char → List Char
  | [] => []
  | c :: rest => if c = '\'' then "'\\''".toList ++ quoteChars rest else c :: quoteChars rest

def quote (word : String) : String :=
  String.ofList ('\'' :: quoteChars word.toList ++ ['\''])

def render (program : String) (args : List String) : String :=
  String.intercalate " " ((program :: args).map quote)

end CommandLine

end Bundler.Native
