import Bundler.Proofs.Lexing.Directives
import Bundler.Proofs.Lexing.Pieces
import Mathlib.Data.List.Induction
import Mathlib.Data.List.Infix

/-!
Texts put one below the other. The scan for imports takes from one text to the next the depth of
brackets and what has been begun of a directive, and nothing else. A block in which all brackets
match leaves it as two brackets with nothing between them do.
-/

namespace Bundler.Source

theorem tokens_append_newline {left : String} (closed : ClosesQuotes left) (right : String) :
    tokens (left ++ "\n" ++ right) = tokens left ++ tokens right := by
  rw [tokens, lex_append_newline closed, List.map_append, List.map_map]
  rfl

theorem tokens_piece_append {token : Token} {piece rest : String}
    (isPiece : Piece rest.toList token piece.toList) :
    tokens (piece ++ rest) = token :: tokens rest := by
  rw [tokens, ← lexFrom_zero, String.toList_append, isPiece.lexFrom_append, lexFrom_eq,
    List.map_cons, List.map_map]
  rfl

/-! What is taken from one text to the next. -/

/-- Some tokens end where a directive outside all brackets lacks its specifier or its semicolon. -/
def EndsUnfinished (tokens : List Token) : Prop :=
  ∃ before, depthFrom 0 before = 0 ∧
    (tokens = before ++ [.keyword] ∨ ∃ path, tokens = before ++ [.keyword, .quoted path])

namespace ImportScan

variable {scan : ImportScan} {token : Token} {tokens : List Token}

theorem run_cons : scan.run (token :: tokens) = (scan.step token).run tokens := rfl

theorem run_append (first second : List Token) :
    scan.run (first ++ second) = (scan.run first).run second :=
  List.foldl_append

theorem run_concat : scan.run (tokens ++ [token]) = (scan.run tokens).step token :=
  run_append tokens [token]

theorem depth_step : (scan.step token).depth = token.depthAfter scan.depth := by
  rcases step_cases scan token with ⟨path, _, rfl, same⟩ | ⟨path, _, rfl, same⟩ | ⟨same, _⟩
  · rw [same]
    rfl
  · rw [same]
    rfl
  · rw [same]
    cases token <;> rfl

theorem depth_run (scan : ImportScan) (tokens : List Token) :
    (scan.run tokens).depth = depthFrom scan.depth tokens := by
  induction tokens generalizing scan with
  | nil => rfl
  | cons token tokens ih => rw [run_cons, ih, depth_step, depthFrom_cons]

theorem grounded_run (grounded : scan.Grounded) (tokens : List Token) :
    (scan.run tokens).Grounded := by
  induction tokens generalizing scan with
  | nil => exact grounded
  | cons token tokens ih => exact ih (grounded_step grounded)

theorem directive_restart (scan : ImportScan) (token : Token) :
    (scan.restart token).directive = .none ∨
      token = .keyword ∧ (scan.restart token).directive = .keyword := by
  cases token with
  | keyword => by_cases outside : scan.depth = 0 <;> simp [restart, outside]
  | _ => exact .inl rfl

theorem depthFrom_append_tokens (depth : Nat) (before : List Token) (directive : Directive) :
    depthFrom depth (before ++ directive.tokens) = depthFrom depth before := by
  rw [depthFrom, List.foldl_append]
  cases directive <;> rfl

theorem exists_before (tokens : List Token) :
    ∃ before, tokens = before ++ (run {} tokens).directive.tokens := by
  induction tokens using List.reverseRecOn with
  | nil => exact ⟨[], rfl⟩
  | append_singleton tokens token ih =>
      obtain ⟨before, split⟩ := ih
      rw [run_concat]
      rcases step_cases (run {} tokens) token with ⟨path, begun, rfl, same⟩ |
        ⟨path, _, rfl, same⟩ | ⟨same, _⟩
      · rw [begun] at split
        refine ⟨before, ?_⟩
        rw [same, congrArg (· ++ [Token.quoted path]) split, List.append_assoc]
        rfl
      · refine ⟨tokens ++ [.semicolon], ?_⟩
        rw [same]
        exact (List.append_nil _).symm
      · rw [same]
        rcases directive_restart (run {} tokens) token with idle | ⟨rfl, begun⟩
        · refine ⟨tokens ++ [token], ?_⟩
          rw [idle]
          exact (List.append_nil _).symm
        · refine ⟨tokens, ?_⟩
          rw [begun]
          rfl

theorem directive_run (finished : ¬EndsUnfinished tokens) : (run {} tokens).directive = .none := by
  by_contra begun
  obtain ⟨before, split⟩ := exists_before tokens
  have outside := grounded_run grounded_start tokens begun
  rw [depth_run, split, depthFrom_append_tokens] at outside
  apply finished
  refine ⟨before, outside, ?_⟩
  generalize (run {} tokens).directive = directive at begun split
  cases directive with
  | none => exact absurd rfl begun
  | keyword => exact .inl split
  | specifier path => exact .inr ⟨path, split⟩

end ImportScan

/-- Behind a line feed a text is read as a text of its own, and so are its directives, if the text
before leaves neither a bracket open nor a directive unfinished. -/
theorem imports_append_newline {left : String} (closed : ClosesQuotes left) (right : String) :
    lex (left ++ "\n" ++ right) =
      lex left ++ (lex right).map (·.shift (left.utf8ByteSize + 1)) ∧
    (depthFrom 0 (tokens left) = 0 → ¬EndsUnfinished (tokens left) →
      imports (left ++ "\n" ++ right) = imports left ++ imports right) := by
  refine ⟨lex_append_newline closed right, ?_⟩
  intro outside finished
  have grounded := ImportScan.grounded_run ImportScan.grounded_start (tokens left)
  calc imports (left ++ "\n" ++ right)
      = (ImportScan.run {} (tokens left ++ tokens right)).found.reverse := by
        rw [imports, ← tokens, tokens_append_newline closed]
    _ = ((ImportScan.run {} (tokens left)).run (tokens right)).found.reverse := by
        rw [ImportScan.run_append]
    _ = imports left ++ directivesFrom 0 (tokens right) := by
        rw [ImportScan.found_run grounded, ImportScan.depth_run, outside,
          ImportScan.directive_run finished]
        rfl
    _ = imports left ++ imports right := by rw [← imports_eq]

theorem imports_append_newline_slashes :
    imports ("import \"é\"; x/" ++ "\n" ++ "/ import \"b\";") = ["é", "b"] := by
  have closed : ClosesQuotes "import \"é\"; x/" := by decide +kernel
  have read : tokens "import \"é\"; x/" =
      [.keyword, .quoted "é", .semicolon, .word, .unrecognized] := by
    decide +kernel
  have finished : ¬EndsUnfinished (tokens "import \"é\"; x/") := by
    rintro ⟨before, _, ends⟩
    rw [read] at ends
    rcases ends with same | ⟨path, same⟩
    · simpa using congrArg List.getLast? same
    · simpa using congrArg List.getLast? same
  rw [(imports_append_newline closed "/ import \"b\";").2 (by rw [read]; rfl) finished]
  decide +kernel

/-! Blocks. -/

def Token.rise : Token → Int
  | opening _ => 1
  | closing _ => -1
  | _ => 0

theorem Token.depthAfter_eq {token : Token} {depth : Nat} (inside : 0 < depth + token.rise) :
    (token.depthAfter depth : Int) = depth + token.rise := by
  cases token <;> simp only [depthAfter, rise] at inside ⊢ <;> omega

/-- How many more brackets are opened than closed. -/
def rise : List Token → Int
  | [] => 0
  | token :: tokens => token.rise + rise tokens

@[simp] theorem rise_nil : rise [] = 0 := rfl

@[simp] theorem rise_cons (token : Token) (tokens : List Token) :
    rise (token :: tokens) = token.rise + rise tokens := rfl

/-- Each bracket that is closed was opened before, and each that is opened is closed again. It does
not matter of which kinds they are. -/
structure Balanced (tokens : List Token) : Prop where
  opened : ∀ first, first <+: tokens → 0 ≤ rise first
  closed : rise tokens = 0

instance (tokens : List Token) : Decidable (Balanced tokens) :=
  decidable_of_iff ((∀ first ∈ tokens.inits, 0 ≤ rise first) ∧ rise tokens = 0) <| by
    simp only [List.mem_inits]
    exact ⟨fun both => ⟨both.1, both.2⟩, fun balanced => ⟨balanced.opened, balanced.closed⟩⟩

theorem balanced_nil : Balanced [] := by
  decide

namespace ImportScan

variable {scan : ImportScan} {token : Token} {tokens : List Token}

theorem step_inside (idle : scan.directive = .none) (inside : scan.depth ≠ 0) :
    scan.step token = { scan with depth := token.depthAfter scan.depth } := by
  obtain ⟨depth, directive, found⟩ := scan
  simp only at idle inside
  subst idle
  cases token with
  | keyword => simp [step, restart, inside, Token.depthAfter]
  | _ => rfl

theorem run_inside (idle : scan.directive = .none)
    (inside : ∀ first, first <+: tokens → 0 < scan.depth + rise first) :
    ∃ depth : Nat, depth = scan.depth + rise tokens ∧ scan.run tokens = { scan with depth } := by
  induction tokens generalizing scan with
  | nil => exact ⟨scan.depth, by simp, rfl⟩
  | cons token tokens ih =>
      have here := inside [] List.nil_prefix
      have next := inside [token] (List.cons_prefix_cons.mpr ⟨rfl, List.nil_prefix⟩)
      simp only [rise_nil, rise_cons, Int.add_zero] at here next
      have stepped : scan.step token = { scan with depth := token.depthAfter scan.depth } :=
        step_inside idle (by omega)
      have rest : ∀ first, first <+: tokens →
          0 < (token.depthAfter scan.depth : Int) + rise first := by
        intro first isPrefix
        have later := inside (token :: first) (List.cons_prefix_cons.mpr ⟨rfl, isPrefix⟩)
        rw [rise_cons] at later
        rw [Token.depthAfter_eq next]
        omega
      obtain ⟨depth, same, ran⟩ := @ih (scan.step token) (by rw [stepped]; exact idle)
        (by rw [stepped]; exact rest)
      refine ⟨depth, ?_, ?_⟩
      · rw [same, stepped, Token.depthAfter_eq next, rise_cons, Int.add_assoc]
      · rw [run_cons, ran, stepped]

theorem step_opening (scan : ImportScan) (bracket : Bracket) :
    scan.step (.opening bracket) = { scan with depth := scan.depth + 1, directive := .none } := by
  obtain ⟨depth, directive, found⟩ := scan
  cases directive <;> rfl

theorem run_block (scan : ImportScan) (bracket : Bracket) (balanced : Balanced tokens)
    (rest : List Token) :
    scan.run (.opening bracket :: tokens ++ .closing bracket :: rest) =
      { scan with directive := .none }.run rest := by
  have inside : ∀ first, first <+: tokens →
      0 < ((scan.step (.opening bracket)).depth : Int) + rise first := by
    intro first isPrefix
    have opened := balanced.opened first isPrefix
    rw [step_opening]
    push_cast
    omega
  obtain ⟨depth, same, ran⟩ := run_inside (by rw [step_opening]) inside
  have back : depth = scan.depth + 1 := by
    rw [balanced.closed, Int.add_zero, step_opening] at same
    exact Int.ofNat_inj.mp same
  rw [List.cons_append, run_cons, run_append, ran, step_opening, back, run_cons,
    step_inside rfl (Nat.succ_ne_zero scan.depth)]
  rfl

end ImportScan

namespace Bracket

def enclose (bracket : Bracket) (text : String) : String :=
  String.singleton bracket.openingChar ++ text ++ String.singleton bracket.closingChar

variable (bracket : Bracket) {inner : String} (rest : String)

theorem tokens_opening_append :
    tokens (String.singleton bracket.openingChar ++ rest) = .opening bracket :: tokens rest :=
  tokens_piece_append (by simpa using Piece.opening bracket)

theorem tokens_closing_append :
    tokens (String.singleton bracket.closingChar ++ rest) = .closing bracket :: tokens rest :=
  tokens_piece_append (by simpa using Piece.closing bracket)

theorem tokens_enclose_lines (closed : ClosesQuotes inner) :
    tokens (bracket.enclose (inner ++ "\n") ++ rest) =
      .opening bracket :: tokens inner ++ .closing bracket :: tokens rest := by
  have parts : bracket.enclose (inner ++ "\n") ++ rest =
      String.singleton bracket.openingChar ++
        (inner ++ "\n" ++ (String.singleton bracket.closingChar ++ rest)) := by
    simp only [enclose, String.append_assoc]
  rw [parts, tokens_opening_append, tokens_append_newline closed, tokens_closing_append]
  rfl

theorem tokens_enclose_empty :
    tokens (bracket.enclose "" ++ rest) =
      .opening bracket :: [] ++ .closing bracket :: tokens rest := by
  rw [enclose, String.append_empty, String.append_assoc, tokens_opening_append,
    tokens_closing_append]
  rfl

end Bracket

theorem imports_of_block {bracket : Bracket} {before block after : String} {inside : List Token}
    (closed : ClosesQuotes before) (balanced : Balanced inside)
    (read : tokens (block ++ after) =
      .opening bracket :: inside ++ .closing bracket :: tokens after) :
    imports (before ++ "\n" ++ block ++ after) =
      ({ ImportScan.run {} (tokens before) with directive := .none }.run
        (tokens after)).found.reverse := by
  rw [imports, ← tokens, String.append_assoc, tokens_append_newline closed, read,
    ImportScan.run_append, ImportScan.run_block _ bracket balanced]

/-- What a block has in it between brackets that match makes no difference to the imports of the
text around it, wherever that text opens the block. -/
theorem imports_block (bracket : Bracket) {before inner : String} (closed : ClosesQuotes before)
    (innerClosed : ClosesQuotes inner) (balanced : Balanced (tokens inner)) (after : String) :
    imports (before ++ "\n" ++ bracket.enclose (inner ++ "\n") ++ after) =
      imports (before ++ "\n" ++ bracket.enclose "" ++ after) := by
  rw [imports_of_block closed balanced (bracket.tokens_enclose_lines after innerClosed),
    imports_of_block closed balanced_nil (bracket.tokens_enclose_empty after)]

theorem imports_block_crowded :
    imports ("\x7d import \"a\"" ++ "\n" ++
      Bracket.square.enclose ("import \"x\"; \x7b ( // )\n ) ] \"\x7d\" import" ++ "\n") ++
        "; import \"b\";") = ["b"] := by
  rw [imports_block .square (by decide +kernel) (by decide +kernel) (by decide +kernel)]
  decide +kernel

end Bundler.Source
