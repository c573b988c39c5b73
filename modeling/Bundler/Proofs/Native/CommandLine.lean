import Bundler.Native.CommandLine
import Mathlib.Logic.Function.Basic

/-!
Command lines as a shell reads them back. A line falls into pieces, of which the blanks stand
between words and all others go on with one; a rendered line has no piece that a shell could take
for anything but itself.
-/

namespace Bundler.Native.CommandLine

/-- What a shell takes together when it reads a command line. -/
inductive Piece
  | blank (c : Char)
  | quotation (body : List Char)
  | escape (c : Char)
  | bare (c : Char)
  deriving DecidableEq, Repr

def isBlank (c : Char) : Bool :=
  c == ' ' || c == '\t'

namespace Piece

def text : Piece → List Char
  | blank c => [c]
  | quotation body => '\'' :: body ++ ['\'']
  | escape c => ['\\', c]
  | bare c => [c]

def meaning : Piece → List Char
  | blank _ => []
  | quotation body => body
  | escape c => [c]
  | bare c => [c]

/-- The pieces of a line, of which a quotation may have begun. The characters of that are kept last
one first. A quotation has to be closed, and a backslash needs a character behind it. -/
def readFrom : Option (List Char) → List Char → Option (List Piece)
  | none, [] => some []
  | none, ['\\'] => none
  | none, '\\' :: c :: rest => (readFrom none rest).map (escape c :: ·)
  | none, c :: rest =>
      if c = '\'' then readFrom (some []) rest
      else (readFrom none rest).map ((if isBlank c then blank c else bare c) :: ·)
  | some _, [] => none
  | some body, c :: rest =>
      if c = '\'' then (readFrom none rest).map (quotation body.reverse :: ·)
      else readFrom (some (c :: body)) rest

def wordsFrom : Option (List Char) → List Piece → List String
  | word?, [] => (word?.map String.ofList).toList
  | word?, blank _ :: rest => (word?.map String.ofList).toList ++ wordsFrom none rest
  | word?, piece :: rest => wordsFrom (some (word?.getD [] ++ piece.meaning)) rest

end Piece

def pieces? (line : String) : Option (List Piece) :=
  Piece.readFrom none line.toList

def split (line : String) : Option (List String) :=
  (pieces? line).map (Piece.wordsFrom none)

example : split "cc -DNAME='it'\\''s'  \\  ''" = some ["cc", "-DNAME=it's", " ", ""] := by
  decide +kernel

namespace Piece

theorem text_readFrom {quotation? : Option (List Char)} {line : List Char} {pieces : List Piece}
    (read : readFrom quotation? line = some pieces) :
    pieces.flatMap text = (quotation?.elim [] fun body => '\'' :: body.reverse) ++ line := by
  fun_induction readFrom quotation? line generalizing pieces with
  | case1 =>
      cases read
      rfl
  | case2 => cases read
  | case3 c rest ih =>
      obtain ⟨behind, readBehind, rfl⟩ := Option.map_eq_some_iff.mp read
      simp [text, ih readBehind]
  | case4 rest _ _ ih => simpa using ih read
  | case5 c rest _ _ _ ih =>
      obtain ⟨behind, readBehind, rfl⟩ := Option.map_eq_some_iff.mp read
      have single : text (if isBlank c then blank c else bare c) = [c] := by
        split <;> rfl
      simp [single, ih readBehind]
  | case6 => cases read
  | case7 body rest ih =>
      obtain ⟨behind, readBehind, rfl⟩ := Option.map_eq_some_iff.mp read
      simp [text, ih readBehind]
  | case8 body c rest _ ih => simpa using ih read

/-! The pieces of rendered lines. -/

/-- The pieces of a quoted word, part of which was read before. Each quote in the word parts a
quotation from the next one. -/
def ofWord : List Char → List Char → List Piece
  | body, [] => [quotation body.reverse]
  | body, c :: word =>
      if c = '\'' then quotation body.reverse :: escape '\'' :: ofWord [] word
      else ofWord (c :: body) word

def ofArgs (args : List String) : List Piece :=
  args.flatMap fun arg => blank ' ' :: ofWord [] arg.toList

@[simp] theorem ofArgs_cons (arg : String) (args : List String) :
    ofArgs (arg :: args) = blank ' ' :: ofWord [] arg.toList ++ ofArgs args := rfl

theorem readFrom_quoteChars (body word rest : List Char) :
    readFrom (some body) (quoteChars word ++ '\'' :: rest) =
      (readFrom none rest).map (ofWord body word ++ ·) := by
  induction word generalizing body with
  | nil => simp [quoteChars, readFrom, ofWord]
  | cons c word ih =>
      by_cases quote : c = '\''
      · subst quote
        simp [quoteChars, readFrom, ofWord, ih, Option.map_map, Function.comp_def]
      · simp [quoteChars, readFrom, ofWord, quote, ih]

theorem readFrom_quote (word : String) (rest : List Char) :
    readFrom none ((quote word).toList ++ rest) =
      (readFrom none rest).map (ofWord [] word.toList ++ ·) := by
  rw [← readFrom_quoteChars]
  simp [quote, readFrom]

theorem readFrom_render (program : String) (args : List String) :
    readFrom none (render program args).toList =
      some (ofWord [] program.toList ++ ofArgs args) := by
  induction args generalizing program with
  | nil =>
      have read := readFrom_quote program []
      rw [List.append_nil] at read
      simp [render, read, readFrom, ofArgs]
  | cons arg args ih =>
      have line : (render program (arg :: args)).toList =
          (quote program).toList ++ ' ' :: (render arg args).toList := by
        simp [render]
      have blankRead : readFrom none (' ' :: (render arg args).toList) =
          some (ofArgs (arg :: args)) := by
        simp [readFrom, isBlank, ih]
      rw [line, readFrom_quote, blankRead, Option.map_some]

theorem wordsFrom_ofWord (word? : Option (List Char)) (body word : List Char)
    (pieces : List Piece) :
    wordsFrom word? (ofWord body word ++ pieces) =
      wordsFrom (some (word?.getD [] ++ body.reverse ++ word)) pieces := by
  induction word generalizing word? body with
  | nil => simp [ofWord, wordsFrom, meaning]
  | cons c word ih =>
      by_cases quote : c = '\''
      · subst quote
        simp [ofWord, wordsFrom, meaning, ih]
      · simp [ofWord, quote, ih]

theorem wordsFrom_ofArgs (word : List Char) (args : List String) :
    wordsFrom (some word) (ofArgs args) = String.ofList word :: args := by
  induction args generalizing word with
  | nil => rfl
  | cons arg args ih =>
      rw [ofArgs_cons, List.cons_append, wordsFrom, wordsFrom_ofWord, ih]
      simp

theorem inert_of_mem_ofWord {body word : List Char} :
    ∀ piece ∈ ofWord body word, piece = escape '\'' ∨ ∃ inside, piece = quotation inside := by
  induction word generalizing body with
  | nil => simp [ofWord]
  | cons c word ih =>
      by_cases quote : c = '\''
      · simpa [ofWord, quote] using ih
      · simpa [ofWord, quote] using ih

theorem count_ofWord (body word : List Char) : (ofWord body word).count (blank ' ') = 0 := by
  rw [List.count_eq_zero]
  intro member
  rcases inert_of_mem_ofWord _ member with same | ⟨inside, same⟩
  · cases same
  · cases same

theorem count_ofArgs (args : List String) : (ofArgs args).count (blank ' ') = args.length := by
  induction args with
  | nil => rfl
  | cons arg args ih => simp [count_ofWord, ih]

theorem inert_of_mem_ofArgs {args : List String} : ∀ piece ∈ ofArgs args,
    piece = blank ' ' ∨ piece = escape '\'' ∨ ∃ inside, piece = quotation inside := by
  intro piece member
  obtain ⟨arg, _, part⟩ := List.mem_flatMap.mp member
  rcases List.mem_cons.mp part with same | inWord
  · exact .inl same
  · exact .inr (inert_of_mem_ofWord piece inWord)

end Piece

theorem split_eq_of_render (program : String) (args : List String) :
    split (render program args) = some (program :: args) := by
  rw [split, pieces?, Piece.readFrom_render, Option.map_some, Piece.wordsFrom_ofWord,
    Piece.wordsFrom_ofArgs]
  simp

/-- A shell that splits a rendered line gets back the program and its arguments. All that it sees
outside of quotations are the spaces between these, one in front of each argument, and quotes behind
backslashes. So no two commands are rendered alike. -/
theorem render_faithful :
    (∀ program args,
      split (render program args) = some (program :: args) ∧
      ∃ pieces, pieces? (render program args) = some pieces ∧
        pieces.flatMap Piece.text = (render program args).toList ∧
        (∀ piece ∈ pieces,
          piece = .blank ' ' ∨ piece = .escape '\'' ∨ ∃ body, piece = .quotation body) ∧
        pieces.count (.blank ' ') = args.length) ∧
    Function.Injective2 render := by
  constructor
  · intro program args
    have read := Piece.readFrom_render program args
    refine ⟨split_eq_of_render program args, _, read, ?_, ?_, ?_⟩
    · simpa using Piece.text_readFrom read
    · intro piece member
      rcases List.mem_append.mp member with first | later
      · exact .inr (Piece.inert_of_mem_ofWord piece first)
      · exact Piece.inert_of_mem_ofArgs piece later
    · rw [List.count_append, Piece.count_ofWord, Piece.count_ofArgs, Nat.zero_add]
  · intro program program' args args' same
    have words := split_eq_of_render program args
    rw [same, split_eq_of_render, Option.some.injEq, List.cons.injEq] at words
    exact ⟨words.1.symm, words.2.symm⟩

end Bundler.Native.CommandLine
