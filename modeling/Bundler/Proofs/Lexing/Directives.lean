import Bundler.Proofs.Lexing.Seams
import Bundler.Source.Imports

/-!
Which directives a text has, told by its tokens alone: three tokens in a row outside all brackets.
The scan for imports, which keeps only how much of a directive the last tokens make up, finds just
these.
-/

namespace Bundler.Source

/-- The depth of brackets behind a token. A closing bracket outside all others does not count. -/
def Token.depthAfter (depth : Nat) : Token → Nat
  | opening _ => depth + 1
  | closing _ => depth - 1
  | _ => depth

def depthFrom (depth : Nat) (tokens : List Token) : Nat :=
  tokens.foldl Token.depthAfter depth

/-- The specifier of the directive that some tokens begin with, provided that those before them
leave no bracket open. -/
def directiveAt? (depth : Nat) (before after : List Token) : Option String :=
  match after with
  | .keyword :: .quoted specifier :: .semicolon :: _ =>
      if depthFrom depth before = 0 then some specifier else none
  | _ => none

def directivesFrom (depth : Nat) (tokens : List Token) : List String :=
  (List.range tokens.length).filterMap fun place =>
    directiveAt? depth (tokens.take place) (tokens.drop place)

variable {depth : Nat} {token : Token} {rest : List Token}

@[simp] theorem depthFrom_cons :
    depthFrom depth (token :: rest) = depthFrom (token.depthAfter depth) rest := rfl

theorem directivesFrom_cons : directivesFrom depth (token :: rest) =
    (directiveAt? depth [] (token :: rest)).toList ++
      directivesFrom (token.depthAfter depth) rest := by
  rw [directivesFrom, List.length_cons, List.range_succ_eq_map, List.filterMap_cons,
    List.filterMap_map]
  simp only [List.take_zero, List.drop_zero]
  cases directiveAt? depth [] (token :: rest) <;> rfl

/-! Tokens that no directive begins with, and those that one does. -/

theorem directivesFrom_skip
    (other : ∀ specifier later,
      token :: rest = .keyword :: .quoted specifier :: .semicolon :: later → depth ≠ 0) :
    directivesFrom depth (token :: rest) = directivesFrom (token.depthAfter depth) rest := by
  have nothing : directiveAt? depth [] (token :: rest) = none := by
    unfold directiveAt?
    split
    · rename_i same
      exact if_neg (other _ _ same)
    · rfl
  rw [directivesFrom_cons, nothing, Option.toList_none, List.nil_append]

theorem directivesFrom_word (other : token ≠ .keyword) :
    directivesFrom depth (token :: rest) = directivesFrom (token.depthAfter depth) rest := by
  apply directivesFrom_skip
  rintro specifier later same
  exact absurd (List.cons.inj same).1 other

theorem directivesFrom_nested (inside : depth ≠ 0) :
    directivesFrom depth (.keyword :: rest) = directivesFrom depth rest :=
  directivesFrom_skip fun _ _ _ => inside

theorem directivesFrom_unquoted (other : ∀ specifier, token ≠ .quoted specifier) :
    directivesFrom depth (.keyword :: token :: rest) = directivesFrom depth (token :: rest) := by
  apply directivesFrom_skip
  rintro specifier later same
  cases same
  exact absurd rfl (other specifier)

theorem directivesFrom_unclosed {specifier : String} (other : token ≠ .semicolon) :
    directivesFrom depth (.keyword :: .quoted specifier :: token :: rest) =
      directivesFrom depth (token :: rest) := by
  rw [directivesFrom_skip, directivesFrom_word (by simp)]
  · rfl
  · rintro _ later same
    cases same
    exact absurd rfl other

theorem directivesFrom_directive {specifier : String} :
    directivesFrom 0 (.keyword :: .quoted specifier :: .semicolon :: rest) =
      specifier :: directivesFrom 0 rest := by
  rw [directivesFrom_cons, directivesFrom_cons, directivesFrom_cons]
  rfl

theorem directiveAt?_append (before : List Token) :
    directiveAt? depth [] (token :: before ++ .keyword :: rest) =
      directiveAt? depth [] (token :: before) := by
  match before with
  | [] => cases token <;> rfl
  | [second] => cases token <;> cases second <;> rfl
  | second :: third :: before => cases token <;> cases second <;> cases third <;> rfl

/-- The keyword is never inside a directive, so those before it are not affected by it. -/
theorem directivesFrom_append (before : List Token) :
    directivesFrom depth (before ++ .keyword :: rest) =
      directivesFrom depth before ++
        directivesFrom (depthFrom depth before) (.keyword :: rest) := by
  induction before generalizing depth with
  | nil => rfl
  | cons token before ih =>
      rw [List.cons_append, directivesFrom_cons, ← List.cons_append, directiveAt?_append, ih,
        ← List.append_assoc, ← directivesFrom_cons, depthFrom_cons]

/-! The scan, of which only the tokens of a directive under way are not settled yet. -/

def Directive.tokens : Directive → List Token
  | none => []
  | keyword => [.keyword]
  | specifier path => [.keyword, .quoted path]

theorem directivesFrom_tokens (directive : Directive) :
    directivesFrom depth directive.tokens = [] := by
  cases directive <;> rfl

namespace ImportScan

variable {scan : ImportScan}

def Grounded (scan : ImportScan) : Prop :=
  scan.directive ≠ .none → scan.depth = 0

theorem found_restart : (scan.restart token).found = scan.found := by
  cases token <;> rfl

theorem grounded_restart : (scan.restart token).Grounded := by
  cases token <;> simp [restart, Grounded]

theorem directivesFrom_restart : directivesFrom scan.depth (token :: rest) =
    directivesFrom (scan.restart token).depth ((scan.restart token).directive.tokens ++ rest) := by
  cases token with
  | keyword =>
      by_cases outside : scan.depth = 0
      · simp [restart, outside, Directive.tokens]
      · simp only [restart, outside, ↓reduceIte, Directive.tokens, List.nil_append]
        exact directivesFrom_nested outside
  | word => exact directivesFrom_word (by simp)
  | quoted body => exact directivesFrom_word (by simp)
  | opening bracket => exact directivesFrom_word (by simp)
  | closing bracket => exact directivesFrom_word (by simp)
  | semicolon => exact directivesFrom_word (by simp)
  | unrecognized => exact directivesFrom_word (by simp)

theorem step_none (idle : scan.directive = .none) : scan.step token = scan.restart token := by
  simp [step, idle]

theorem step_quoted (begun : scan.directive = .keyword) (path : String) :
    scan.step (.quoted path) = { scan with directive := .specifier path } := by
  simp [step, begun]

theorem step_unquoted (begun : scan.directive = .keyword)
    (other : ∀ path, token ≠ .quoted path) : scan.step token = scan.restart token := by
  unfold step
  split
  · exact absurd rfl (other _)
  · simp_all
  · rfl

theorem step_semicolon {path : String} (begun : scan.directive = .specifier path) :
    scan.step .semicolon = { scan with directive := .none, found := path :: scan.found } := by
  simp [step, begun]

theorem step_unclosed {path : String} (begun : scan.directive = .specifier path)
    (other : token ≠ .semicolon) : scan.step token = scan.restart token := by
  unfold step
  split
  · simp_all
  · exact absurd rfl other
  · rfl

theorem step_cases (scan : ImportScan) (token : Token) :
    (∃ path, scan.directive = .keyword ∧ token = .quoted path ∧
      scan.step token = { scan with directive := .specifier path }) ∨
    (∃ path, scan.directive = .specifier path ∧ token = .semicolon ∧
      scan.step token = { scan with directive := .none, found := path :: scan.found }) ∨
    (scan.step token = scan.restart token ∧ ∀ depth rest,
      directivesFrom depth (scan.directive.tokens ++ token :: rest) =
        directivesFrom depth (token :: rest)) := by
  cases begun : scan.directive with
  | none => exact .inr (.inr ⟨step_none begun, fun _ _ => rfl⟩)
  | keyword =>
      by_cases quoted : ∃ path, token = .quoted path
      · obtain ⟨path, rfl⟩ := quoted
        exact .inl ⟨path, rfl, rfl, step_quoted begun path⟩
      · have other : ∀ path, token ≠ .quoted path := fun path same => quoted ⟨path, same⟩
        exact .inr (.inr ⟨step_unquoted begun other, fun _ _ => directivesFrom_unquoted other⟩)
  | specifier path =>
      by_cases closed : token = .semicolon
      · subst closed
        exact .inr (.inl ⟨path, rfl, rfl, step_semicolon begun⟩)
      · exact .inr (.inr ⟨step_unclosed begun closed, fun _ _ => directivesFrom_unclosed closed⟩)

theorem grounded_step (grounded : scan.Grounded) : (scan.step token).Grounded := by
  rcases step_cases scan token with ⟨path, begun, _, same⟩ | ⟨path, _, _, same⟩ | ⟨same, _⟩
  · rw [same]
    intro _
    exact grounded (by simp [begun])
  · rw [same]
    simp [Grounded]
  · rw [same]
    exact grounded_restart

theorem found_step (grounded : scan.Grounded) (token : Token) (rest : List Token) :
    scan.found.reverse ++ directivesFrom scan.depth (scan.directive.tokens ++ token :: rest) =
      (scan.step token).found.reverse ++
        directivesFrom (scan.step token).depth ((scan.step token).directive.tokens ++ rest) := by
  rcases step_cases scan token with ⟨path, begun, rfl, same⟩ | ⟨path, begun, rfl, same⟩ |
    ⟨same, dropped⟩
  · -- The tokens under way and those to come only part in another place.
    rw [same, begun]
    rfl
  · have outside : scan.depth = 0 := grounded (by simp [begun])
    simp only [same, begun, outside, Directive.tokens, List.cons_append, List.nil_append,
      directivesFrom_directive, List.reverse_cons, List.append_assoc]
  · rw [same, dropped, found_restart, directivesFrom_restart]

theorem found_run (grounded : scan.Grounded) (tokens : List Token) :
    (scan.run tokens).found.reverse =
      scan.found.reverse ++ directivesFrom scan.depth (scan.directive.tokens ++ tokens) := by
  induction tokens generalizing scan with
  | nil => simp [run, directivesFrom_tokens]
  | cons token tokens ih =>
      rw [found_step grounded token tokens]
      exact ih (grounded_step grounded)

theorem grounded_start : ({} : ImportScan).Grounded :=
  fun _ => rfl

end ImportScan

theorem imports_eq (source : String) : imports source = directivesFrom 0 (tokens source) :=
  ImportScan.found_run ImportScan.grounded_start (tokens source)

/-- The imports of a text are its directives: the keyword, a quoted specifier and a semicolon in a
row where no bracket is open, each found once and in its place. Whatever a quoted text or a comment
has in it, the first is one token and the second is none. -/
theorem imports_grammar (source : String) :
    imports source = directivesFrom 0 (tokens source) ∧
    (∀ before specifier after,
      tokens source = before ++ .keyword :: .quoted specifier :: .semicolon :: after →
      depthFrom 0 before = 0 →
      imports source = directivesFrom 0 before ++ specifier :: directivesFrom 0 after) ∧
    (∀ left body right, source = left ++ "\"" ++ body ++ "\"" ++ right →
      (Lexer.after left).mode.isOutside → '"' ∉ body.toList →
      tokens source = tokens left ++ .quoted body :: tokens right) ∧
    (∀ left note right, source = left ++ "//" ++ note ++ right →
      (Lexer.after left).mode.isOutside → left.toList.getLast? ≠ some '/' →
      '\n' ∉ note.toList → (∀ c ∈ right.toList.head?, c = '\n') →
      tokens source = tokens left ++ tokens right) := by
  have found := imports_eq source
  refine ⟨found, ?_, ?_, ?_⟩
  · intro before specifier after split outside
    rw [found, split, directivesFrom_append, outside, directivesFrom_directive]
  · rintro left body right rfl outside clean
    exact tokens_quoted outside clean
  · rintro left note right rfl outside last clean ended
    exact tokens_comment outside last clean ended

theorem imports_grammar_overlapping :
    imports "import \"(\" // [\n import \"b\";" = ["b"] := by
  have read : tokens "import \"(\" // [\n import \"b\";" =
      [.keyword, .quoted "("] ++ .keyword :: .quoted "b" :: .semicolon :: [] := by
    decide +kernel
  exact (imports_grammar _).2.1 [.keyword, .quoted "("] "b" [] read rfl

end Bundler.Source
