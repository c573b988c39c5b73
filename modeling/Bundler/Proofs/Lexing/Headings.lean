import Bundler.Proofs.Lexing.Directives
import Bundler.Proofs.Lexing.Pieces

/-!
Import directives as they are written at the head of a module, with whatever blanks and comments
before, between and behind their parts. What is imported by such a text is what was written.
-/

namespace Bundler.Source

/-- A blank character, or a comment with the line feed that ends it. -/
inductive Filler
  | blank (c : Char) (space : isSpace c)
  | comment (note : String) (oneLine : '\n' ∉ note.toList)

namespace Filler

def text : Filler → String
  | blank c _ => String.singleton c
  | comment note _ => "//" ++ note ++ "\n"

def layout (fillers : List Filler) : String :=
  String.join (fillers.map text)

theorem gap_layout (fillers : List Filler) (rest : List Char) :
    Gap rest (layout fillers).toList := by
  induction fillers with
  | nil => exact .nil
  | cons filler fillers ih =>
      have chars : (layout (filler :: fillers)).toList =
          filler.text.toList ++ (layout fillers).toList := by
        rw [layout, List.map_cons, String.join_cons, String.toList_append, layout]
      rw [chars]
      cases filler with
      | blank c space => simpa [text] using Gap.blank space ih
      | comment note oneLine =>
          have ended : Gap rest ('\n' :: (layout fillers).toList) := .blank (by decide) ih
          simpa [text, String.toList_append] using Gap.comment oneLine (by simp) ended

end Filler

structure Heading where
  specifier : String
  unquoted : '"' ∉ specifier.toList
  before : List Filler
  afterKeyword : List Filler
  afterSpecifier : List Filler
  behind : List Filler

open Filler (layout gap_layout)

namespace Heading

def text (heading : Heading) : String :=
  layout heading.before ++ "import" ++ layout heading.afterKeyword ++
    "\"" ++ heading.specifier ++ "\"" ++ layout heading.afterSpecifier ++ ";" ++
    layout heading.behind

def tokens (heading : Heading) : List Token :=
  [.keyword, .quoted heading.specifier, .semicolon]

end Heading

theorem endsWord_quoted (body rest : List Char) :
    EndsWord (('"' :: body ++ ['"']) ++ rest) := by
  intro c first
  obtain rfl := Option.some.inj first
  decide

theorem Heading.lexFrom_append (heading : Heading) (place : Nat) (rest : List Char) :
    ∃ next, (lexFrom place (heading.text.toList ++ rest)).map (·.token) =
      heading.tokens ++ (lexFrom next rest).map (·.token) := by
  have chars : heading.text.toList ++ rest =
      (layout heading.before).toList ++ ("import".toList ++
        ((layout heading.afterKeyword).toList ++
          (('"' :: heading.specifier.toList ++ ['"']) ++
            ((layout heading.afterSpecifier).toList ++ ([';'] ++
              ((layout heading.behind).toList ++ rest)))))) := by
    simp [text, String.toList_append]
  rw [chars, (gap_layout _ _).lexFrom_append,
    (Piece.keyword ((gap_layout _ _).endsWord (endsWord_quoted _ _))).lexFrom_append,
    (gap_layout _ _).lexFrom_append, (Piece.quoted heading.unquoted).lexFrom_append,
    (gap_layout _ _).lexFrom_append, Piece.semicolon.lexFrom_append,
    (gap_layout _ _).lexFrom_append, String.ofList_toList]
  exact ⟨_, rfl⟩

theorem tokens_headings (headings : List Heading) :
    tokens (String.join (headings.map (·.text))) = headings.flatMap (·.tokens) := by
  have read : ∀ place, (lexFrom place (String.join (headings.map (·.text))).toList).map (·.token) =
      headings.flatMap (·.tokens) := by
    induction headings with
    | nil => exact fun _ => rfl
    | cons heading headings ih =>
        intro place
        rw [List.map_cons, String.join_cons, String.toList_append, List.flatMap_cons]
        obtain ⟨next, read⟩ := heading.lexFrom_append place
          (String.join (headings.map (·.text))).toList
        rw [read, ih]
  exact read 0

theorem directivesFrom_headings (headings : List Heading) :
    directivesFrom 0 (headings.flatMap (·.tokens)) = headings.map (·.specifier) := by
  induction headings with
  | nil => rfl
  | cons heading headings ih =>
      rw [List.flatMap_cons, Heading.tokens, List.cons_append, List.cons_append, List.cons_append,
        List.nil_append, directivesFrom_directive, ih, List.map_cons]

/-- Headings are read back as they were written, whatever fillers stand around their parts and
whatever their specifiers have in them. -/
theorem imports_headings (headings : List Heading) :
    imports (String.join (headings.map (·.text))) = headings.map (·.specifier) := by
  rw [imports_eq, tokens_headings, directivesFrom_headings]

example :
    imports "// import \"a\";\nimport\"//\x7b\"//;\n;import\t\"\\\n\";" = ["//\x7b", "\\\n"] := by
  decide +kernel

end Bundler.Source
