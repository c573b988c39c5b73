import Bundler.Proofs.Lexing.Seams
import Bundler.Proofs.Load.Sources

/-!
What the lexer yields for a compilation unit. The lines that name modules are comments and the blank
ones are blank, so the lexemes of a unit are those of its texts, each where its text lies, provided
that each of these lines is one line.
-/

namespace Bundler.Source

@[simp]
theorem Lexeme.shift_zero (lexeme : Lexeme) : lexeme.shift 0 = lexeme := by
  simp [shift]

theorem Lexeme.shift_shift (lexeme : Lexeme) (inner outer : Nat) :
    (lexeme.shift inner).shift outer = lexeme.shift (outer + inner) := by
  simp [shift, Nat.add_assoc]

theorem Lexeme.map_shift_shift (lexemes : List Lexeme) (inner outer : Nat) :
    (lexemes.map (·.shift inner)).map (·.shift outer) =
      lexemes.map (·.shift (outer + inner)) := by
  simp [shift_shift, Function.comp_def]

theorem closesQuotes_empty : ClosesQuotes "" := by
  decide +kernel

def ModulePath.OnOneLine (path : ModulePath) : Prop :=
  '\n' ∉ path.text.toList

instance (path : ModulePath) : Decidable path.OnOneLine :=
  inferInstanceAs (Decidable ¬_)

namespace CompilationUnit

variable {path : ModulePath} {text : String}

theorem lex_marker_append (oneLine : path.OnOneLine) (rest : String) :
    lex (path.marker ++ rest) = (lex rest).map (·.shift path.marker.utf8ByteSize) := by
  have clean : '\n' ∉ (" --- file: " ++ path.text ++ " ---").toList := by
    simp only [String.toList_append, List.mem_append, not_or]
    exact ⟨⟨by decide +kernel, oneLine⟩, by decide +kernel⟩
  have comment : path.marker = "//" ++ (" --- file: " ++ path.text ++ " ---") ++ "\n" := by
    rw [ModulePath.marker, ← String.toList_inj]
    simp [String.toList_append]
  generalize " --- file: " ++ path.text ++ " ---" = note at clean comment
  -- Up to its line feed the marker is one open comment, from which nothing comes.
  obtain ⟨position, read⟩ := Lexer.run_open_comment {} rfl (by simp) clean
  have state : Lexer.after ("//" ++ note) = ⟨.comment, position, []⟩ := by
    rw [Lexer.after, String.toList_append]
    exact read
  have closed : ClosesQuotes ("//" ++ note) := by
    rw [ClosesQuotes, state]
    simp [Mode.isQuoted]
  have nothing : lex ("//" ++ note) = [] := by
    rw [lex, ← Lexer.after, state]
    rfl
  have size : ("//" ++ note ++ "\n").utf8ByteSize = ("//" ++ note).utf8ByteSize + 1 := by
    have feed : "\n".utf8ByteSize = 1 := by decide +kernel
    rw [String.utf8ByteSize_append, feed]
  rw [comment, lex_append_newline closed, nothing, List.nil_append, size]

theorem lex_separator_append (closed : ClosesQuotes text) (rest : String) :
    lex (text ++ separator ++ rest) =
      lex text ++ (lex rest).map (·.shift (text.utf8ByteSize + separator.utf8ByteSize)) := by
  have breaks : text ++ separator ++ rest = text ++ "\n" ++ ("" ++ "\n" ++ rest) := by
    rw [separator, ← String.toList_inj]
    simp [String.toList_append]
  rw [breaks, lex_append_newline closed, lex_append_newline closesQuotes_empty,
    utf8ByteSize_separator]
  have nothing : lex "" = [] := rfl
  rw [nothing, List.nil_append, Lexeme.map_shift_shift]
  rfl

theorem lex_block_append (oneLine : path.OnOneLine) (closed : ClosesQuotes text) (rest : String) :
    lex (block (path, text) ++ rest) =
      (lex text).map (·.shift path.marker.utf8ByteSize) ++
        (lex rest).map (·.shift (block (path, text)).utf8ByteSize) := by
  have parts : block (path, text) ++ rest = path.marker ++ (text ++ separator ++ rest) := by
    simp only [block, String.append_assoc]
  rw [parts, lex_marker_append oneLine, lex_separator_append closed, List.map_append,
    Lexeme.map_shift_shift]
  simp only [block, String.utf8ByteSize_append, Nat.add_assoc]

theorem lex_blocks (offset : Nat) (texts : List (ModulePath × String))
    (clean : ∀ text ∈ texts, text.1.OnOneLine ∧ ClosesQuotes text.2) :
    (lex (String.join (texts.map block))).map (·.shift offset) =
      (List.zipWith (fun segment text => (lex text).map (·.shift segment.start))
        (segmentsFrom offset texts) (texts.map (·.2))).flatten := by
  induction texts generalizing offset with
  | nil => rfl
  | cons text texts ih =>
      obtain ⟨path, body⟩ := text
      obtain ⟨⟨oneLine, closed⟩, rest⟩ := List.forall_mem_cons.mp clean
      rw [List.map_cons, String.join_cons, lex_block_append oneLine closed, List.map_append,
        Lexeme.map_shift_shift, Lexeme.map_shift_shift, ih _ rest]
      rfl

def lexemes (unit : CompilationUnit) : List Lexeme :=
  unit.segments.flatMap fun segment => (lex (unit.textOf segment)).map (·.shift segment.start)

theorem map_textOf_ofTexts (texts : List (ModulePath × String)) :
    (ofTexts texts).segments.map (fun segment => (segment.path, (ofTexts texts).textOf segment)) =
      texts := by
  have paths : (ofTexts texts).segments.map (·.path) = texts.map (·.1) := by
    rw [segments_ofTexts, map_path_segmentsFrom]
  have selected : (ofTexts texts).segments.map (ofTexts texts).textOf = texts.map (·.2) := by
    rw [← List.forall₂_eq_eq_eq, List.forall₂_map_left_iff]
    exact (textOf_ofTexts texts).imp fun _ _ both => both.1
  rw [← List.zip_map', paths, selected, List.zip_map', List.map_id']

theorem lex_ofTexts {texts : List (ModulePath × String)}
    (clean : ∀ segment ∈ (ofTexts texts).segments,
      segment.path.OnOneLine ∧ ClosesQuotes ((ofTexts texts).textOf segment)) :
    lex (ofTexts texts).text = (ofTexts texts).lexemes := by
  have each : ∀ text ∈ texts, text.1.OnOneLine ∧ ClosesQuotes text.2 := by
    rw [← map_textOf_ofTexts texts]
    simpa using clean
  have selected : texts.map (·.2) = (ofTexts texts).segments.map (ofTexts texts).textOf := by
    conv_lhs => rw [← map_textOf_ofTexts texts]
    simp
  have blocks := lex_blocks 0 texts each
  rw [selected, ← segments_ofTexts, ← text_ofTexts, List.zipWith_map_right,
    List.zipWith_self] at blocks
  simpa [lexemes, List.flatMap_def] using blocks

end CompilationUnit

theorem Traversal.Sourced.segments {reader : Reader} {state : Traversal}
    (sourced : state.Sourced reader) :
    List.Forall₂
      (fun module segment => segment.path = module.path ∧
        Module.ReadAs reader module (state.unit.textOf segment))
      state.modules state.unit.segments := by
  obtain ⟨texts, read, unit⟩ := sourced
  have zipped : List.Forall₂
      (fun (module : Module) text => text.1 = module.path ∧ Module.ReadAs reader module text.2)
      state.modules ((state.modules.map (·.path)).zip texts) := by
    -- By induction on modules and texts together, whatever unit these are in.
    clear unit
    generalize state.modules = modules at read
    induction read with
    | nil => exact .nil
    | cons readAs _ ih => exact .cons ⟨rfl, readAs⟩ ih
  rw [← CompilationUnit.map_textOf_ofTexts ((state.modules.map (·.path)).zip texts), ← unit,
    List.forall₂_map_right_iff] at zipped
  exact zipped

/-- The lexemes of a unit are those of its texts, which are the files that its modules were read
from, in the order of the modules. Neither the markers nor the separators add any, if the quotes of
each file are closed and the path of each module has no line feed. -/
theorem load_lexemes {reader : Reader} {depth : Nat} {entry : String} {loaded : Loaded}
    (success : (load reader depth entry).result = .ok loaded)
    (closed : ∀ segment ∈ loaded.unit.segments, ClosesQuotes (loaded.unit.textOf segment))
    (oneLine : ∀ module ∈ loaded.graph.modules, module.path.OnOneLine) :
    lex loaded.unit.text = loaded.unit.lexemes ∧
      List.Forall₂
        (fun module segment => segment.path = module.path ∧
          ∃ decoded, reader module.location = .ok decoded ∧
            decoded.text = loaded.unit.textOf segment)
        loaded.graph.modules loaded.unit.segments := by
  obtain ⟨final, run, rfl⟩ := visits_of_load success
  have sourced := run.entry_sourced
  have segments := sourced.segments
  simp only [Traversal.loaded] at closed oneLine ⊢
  refine ⟨?_, segments.imp fun _ _ both => ⟨both.1, read_of_locate both.2.located⟩⟩
  have paths : final.modules.map (·.path) = final.unit.segments.map (·.path) := by
    rw [← List.forall₂_eq_eq_eq, List.forall₂_map_left_iff, List.forall₂_map_right_iff]
    exact segments.imp fun _ _ both => both.1.symm
  have clean : ∀ segment ∈ final.unit.segments,
      segment.path.OnOneLine ∧ ClosesQuotes (final.unit.textOf segment) := by
    intro segment member
    have named : segment.path ∈ final.modules.map (·.path) :=
      paths ▸ List.mem_map_of_mem member
    obtain ⟨module, moduleMember, path⟩ := List.mem_map.mp named
    exact ⟨path ▸ oneLine module moduleMember, closed segment member⟩
  obtain ⟨texts, _, unit⟩ := sourced
  rw [unit] at clean ⊢
  exact CompilationUnit.lex_ofTexts clean

def commented : Reader :=
  .ofList [("m.kooix", .ok ⟨"import \"é\"; // last", true⟩), ("é.kooix", .ok ⟨"let", true⟩)]
    .noSuchFile

theorem load_lexemes_commented :
    ∃ loaded, (load commented 2 "m").result = .ok loaded ∧
      (∀ segment ∈ loaded.unit.segments, ClosesQuotes (loaded.unit.textOf segment)) ∧
      (∀ module ∈ loaded.graph.modules, module.path.OnOneLine) ∧
      lex loaded.unit.text = loaded.unit.lexemes := by
  have outcome : ((load commented 2 "m").result.toOption.map fun loaded =>
      decide ((∀ segment ∈ loaded.unit.segments, ClosesQuotes (loaded.unit.textOf segment)) ∧
        ∀ module ∈ loaded.graph.modules, module.path.OnOneLine)) = some true := by
    decide +kernel
  obtain ⟨loaded, success, holds⟩ := exists_ok_of_map_eq outcome
  obtain ⟨closed, oneLine⟩ := of_decide_eq_true holds
  exact ⟨loaded, success, closed, oneLine, (load_lexemes success closed oneLine).1⟩

def broken : Reader :=
  .ofList [("a\nimport \"c\";.kooix", .ok ⟨"", true⟩)] .noSuchFile

/-- What stands behind the line feed of a name is not in the comment that its marker begins with, so
that a unit of no lexemes comes to have a directive. -/
theorem load_broken :
    ∃ loaded, (load broken 1 "a\nimport \"c\";").result = .ok loaded ∧
      (∀ segment ∈ loaded.unit.segments, ClosesQuotes (loaded.unit.textOf segment)) ∧
      loaded.unit.lexemes = [] ∧ imports loaded.unit.text = ["c"] ∧
      lex loaded.unit.text ≠ loaded.unit.lexemes := by
  have outcome : ((load broken 1 "a\nimport \"c\";").result.toOption.map fun loaded =>
      decide ((∀ segment ∈ loaded.unit.segments, ClosesQuotes (loaded.unit.textOf segment)) ∧
        loaded.unit.lexemes = [] ∧ imports loaded.unit.text = ["c"] ∧
        lex loaded.unit.text ≠ loaded.unit.lexemes)) = some true := by
    decide +kernel
  obtain ⟨loaded, success, holds⟩ := exists_ok_of_map_eq outcome
  exact ⟨loaded, success, of_decide_eq_true holds⟩

end Bundler.Source
