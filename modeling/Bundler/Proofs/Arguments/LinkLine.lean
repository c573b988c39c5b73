import Bundler.Arguments.Invocation
import Bundler.Proofs.Arguments.Items
import Bundler.Proofs.Text.Numerals
import Mathlib.Data.List.Flatten
import Mathlib.Data.List.Nodup

/-!
The command line of a link request: in whatever order the parts of the request are written, what is
read is the request.
-/

namespace Bundler

open Arguments (Argument Compatible Item Kind Level Matches Parse UsageError)

namespace LinkRequest

section Parts

variable (request : LinkRequest) (verbose : Bool) (manifest : Option String)

/-- What is written at most once, in front of the arguments of the program. -/
def settings : List Item :=
  [.operand request.code, .attached "output" request.output] ++
    (request.flags.runtime.map (.attached "runtime")).toList ++
    (request.flags.translator.map (.attached "translator")).toList ++
    (request.flags.linker.map (.attached "linker")).toList ++
    (request.stdin.map (.attached "stdin")).toList ++
    ((request.flags.timeoutMs.map fun ms => toString ms.toNat).map
      (.attached "timeout-ms")).toList ++
    (if request.run then [.long "run"] else []) ++
    (if verbose then [.short 'v'] else []) ++
    (manifest.map (.attached "manifest")).toList

def linkArguments : List Item :=
  request.flags.linkArgs.map (.attached "link-arg")

def trailing : List String :=
  if request.args = [] then [] else "--" :: request.args

/-- No path is empty, and that of the code does not look like an option. -/
structure IsWritable : Prop where
  code_ne : request.code ≠ ""
  undashed : request.code.toList.head? ≠ some '-'
  output_ne : request.output ≠ ""
  runtime_ne : request.flags.runtime ≠ some ""
  manifest_ne : manifest ≠ some ""

/-- Nothing is fed or passed to a program that is not run. -/
def IsCoherent : Prop :=
  request.run ∨ request.stdin = none ∧ request.args = []

end Parts

/-! What the parts of a line give. -/

def codeOperand : Argument :=
  { name := "ir", kind := .path }

def programArguments : Argument :=
  { name := "args", kind := .text, many := true }

def meaning : Item → Argument × List String
  | .operand code => (codeOperand, [code])
  | .attached name value => ((Invocation.linkLevel.long? name).getD codeOperand, [value])
  | .long name => ((Invocation.linkLevel.long? name).getD codeOperand, [])
  | .short c => ((Invocation.linkLevel.short? c).getD codeOperand, [])

def entry : Item → String × List String
  | .operand code => ("ir", [code])
  | .attached name value => (name, [value])
  | .long name => (name, [])
  | .short _ => ("verbose", [])

structure IsRead (item : Item) : Prop where
  gives : item.Gives Invocation.linkLevel (meaning item)
  admits : (meaning item).1.Admits (meaning item).2
  entry_eq : entry item = ((meaning item).1.name, (meaning item).2)

variable {request : LinkRequest} {verbose : Bool} {manifest : Option String} {item : Item}
  {parts : List Item}

theorem isRead_attached {argument : Argument} {name value : String}
    (known : Invocation.linkLevel.long? name = some argument) (takes : argument.kind.takesValue)
    (whole : '=' ∉ name.toList) (checked : argument.kind.check value = .ok ()) :
    IsRead (.attached name value) := by
  have means : meaning (.attached name value) = (argument, [value]) := by
    rw [meaning, known, Option.getD_some]
  have named : argument.name = name := by simpa using List.find?_some known
  exact {
    gives := by
      rw [means]
      exact .attached known takes whole
    admits := by
      rw [means]
      exact Argument.admits_value takes checked
    entry_eq := by rw [means, entry, named] }

theorem check_path {path : String} (named : path ≠ "") : Kind.check .path path = .ok () := by
  simp [Kind.check, named]

theorem isRead_operand {code : String} (named : code ≠ "")
    (undashed : code.toList.head? ≠ some '-') : IsRead (.operand code) where
  gives := .operand rfl (by decide) undashed
  admits := Argument.admits_value rfl (check_path named)
  entry_eq := rfl

theorem isRead_run : IsRead (.long "run") where
  gives := .long (by decide +kernel) (by decide +kernel) (by decide +kernel) (by decide)
  admits := Argument.admits_nothing (by decide +kernel)
  entry_eq := by decide +kernel

theorem isRead_verbose : IsRead (.short 'v') where
  gives := .short (by decide +kernel) (by decide +kernel) (by decide)
  admits := Argument.admits_nothing (by decide +kernel)
  entry_eq := by decide +kernel

theorem natural?_toString (ms : UInt64) : Kind.natural? (toString ms.toNat) = some ms := by
  have digits : (toString ms.toNat).toList.all Char.isDigit := by
    rw [List.all_eq_true]
    exact fun c member => Text.isDigit_of_mem_toString member
  have nonempty : (toString ms.toNat).toList.isEmpty = false := by
    rw [List.isEmpty_eq_false_iff]
    exact Text.toList_toString_ne_nil
  have fits : ms.toNat < Nat.pow 2 64 := ms.toNat_lt
  unfold Kind.natural?
  extract_lets chars value
  have unsigned : chars = (toString ms.toNat).toList := by
    unfold chars
    split
    · rename_i signed
      rw [signed] at digits
      simp at digits
    · rfl
  have same : value = ms.toNat := by rw [← Text.foldl_toString ms.toNat, ← unsigned]
  rw [unsigned, digits, nonempty, same, if_pos fits, UInt64.ofNat_toNat]
  rfl

theorem isRead_of_mem (writable : request.IsWritable manifest)
    (member : item ∈ request.settings verbose manifest ++ request.linkArguments) : IsRead item := by
  simp only [settings, linkArguments, List.mem_append, List.mem_cons, List.not_mem_nil, or_false,
    Option.mem_toList, Option.map_eq_some_iff, List.mem_map, List.mem_ite_nil_right] at member
  rcases member with (((((((((rfl | rfl) | runtime) | translator) | linker) | stdin) | timeout) |
    ⟨_, rfl⟩) | ⟨_, rfl⟩) | manifest) | linkArgument
  · exact isRead_operand writable.code_ne writable.undashed
  · exact isRead_attached rfl rfl (by decide) (check_path writable.output_ne)
  · obtain ⟨path, given, rfl⟩ := runtime
    refine isRead_attached rfl rfl (by decide) (check_path ?_)
    rintro rfl
    exact writable.runtime_ne given
  · obtain ⟨_, _, rfl⟩ := translator
    exact isRead_attached rfl rfl (by decide) rfl
  · obtain ⟨_, _, rfl⟩ := linker
    exact isRead_attached rfl rfl (by decide) rfl
  · obtain ⟨_, _, rfl⟩ := stdin
    exact isRead_attached rfl rfl (by decide) rfl
  · obtain ⟨_, ⟨ms, _, rfl⟩, rfl⟩ := timeout
    refine isRead_attached rfl rfl (by decide) ?_
    rw [Kind.check, natural?_toString]
    rfl
  · exact isRead_run
  · exact isRead_verbose
  · obtain ⟨path, given, rfl⟩ := manifest
    refine isRead_attached rfl rfl (by decide) (check_path ?_)
    rintro rfl
    exact writable.manifest_ne given
  · obtain ⟨_, _, rfl⟩ := linkArgument
    exact isRead_attached rfl rfl (by decide) rfl

/-! No setting is written twice. -/

def names : List String :=
  ["ir", "output", "runtime", "translator", "linker", "stdin", "timeout-ms", "run", "verbose",
    "manifest"]

theorem names_settings :
    ((request.settings verbose manifest).map fun item => (entry item).1).Sublist names := by
  have optional (name : String) (value? : Option String) :
      ((value?.map (Item.attached name)).toList.map fun item => (entry item).1).Sublist [name] := by
    cases value? <;> simp [entry]
  have flag (given : Bool) (item : Item) : ((if given then [item] else []).map fun item =>
      (entry item).1).Sublist [(entry item).1] := by
    cases given <;> simp
  simp only [settings, List.map_append]
  exact ((((((((List.Sublist.refl _).append (optional _ _)).append (optional _ _)).append
    (optional _ _)).append (optional _ _)).append (optional _ _)).append (flag _ _)).append
    (flag _ _)).append (optional _ _)

theorem compatible_of_ne {other : Item} (read : IsRead item) (otherRead : IsRead other)
    (distinct : (entry item).1 ≠ (entry other).1) : Compatible (meaning item) (meaning other) := by
  intro same
  rw [read.entry_eq, otherRead.entry_eq] at distinct
  exact absurd same distinct

theorem compatible_items (writable : request.IsWritable manifest) :
    (request.settings verbose manifest ++ request.linkArguments).Pairwise fun item other =>
      Compatible (meaning item) (meaning other) := by
  have read (item : Item)
      (member : item ∈ request.settings verbose manifest ++ request.linkArguments) : IsRead item :=
    isRead_of_mem writable member
  have distinct : ((request.settings verbose manifest).map fun item => (entry item).1).Nodup :=
    names_settings.nodup (by decide)
  rw [List.pairwise_append]
  refine ⟨?_, ?_, ?_⟩
  · refine (List.pairwise_map.mp distinct).imp_of_mem fun member otherMember apart => ?_
    exact compatible_of_ne (read _ (List.mem_append_left _ member))
      (read _ (List.mem_append_left _ otherMember)) apart
  · rw [linkArguments, List.pairwise_map]
    exact List.pairwise_of_forall fun _ _ _ => ⟨rfl, rfl⟩
  · intro item member other otherMember
    refine compatible_of_ne (read _ (List.mem_append_left _ member))
      (read _ (List.mem_append_right _ otherMember)) ?_
    obtain ⟨_, _, rfl⟩ := List.mem_map.mp otherMember
    have named := names_settings.subset (List.mem_map_of_mem member)
    intro same
    rw [same] at named
    exact absurd named (show "link-arg" ∉ names by decide)

/-! What is found on a line. -/

def passed (request : LinkRequest) : Matches :=
  if request.args = [] then [] else [("args", request.args)]

/-- What is recorded of the parts of a line, and of the arguments of the program behind them. -/
def found (request : LinkRequest) (parts : List Item) : Matches :=
  parts.map entry ++ request.passed

theorem words_parts (writable : request.IsWritable manifest)
    (perm : parts.Perm (request.settings verbose manifest ++ request.linkArguments)) :
    ∃ parse settled, Parse.words Invocation.linkLevel {}
        (parts.map Item.word ++ request.trailing) = .ok (parse, none) ∧
      parse.settle = .ok settled ∧ settled.found = request.found parts := by
  have read : ∀ item ∈ parts, IsRead item := fun item member =>
    isRead_of_mem writable (perm.mem_iff.mp member)
  have gives : List.Forall₂ (Item.Gives Invocation.linkLevel) parts (parts.map meaning) := by
    rw [List.forall₂_map_right_iff, List.forall₂_same]
    exact fun item member => (read item member).gives
  have admits : ∀ given ∈ parts.map meaning, given.1.Admits given.2 := by
    rw [List.forall_mem_map]
    exact fun item member => (read item member).admits
  have compatible : (parts.map meaning).Pairwise Compatible := by
    rw [List.pairwise_map, perm.pairwise_iff fun compatible => compatible.symm]
    exact compatible_items writable
  have recorded : Matches.ofOccurrences (parts.map meaning) = parts.map entry := by
    rw [Matches.ofOccurrences, List.map_map]
    exact List.map_congr_left fun item member => ((read item member).entry_eq).symm
  obtain ⟨parse, ready, run⟩ := (Parse.ready_empty Invocation.linkLevel).words_eq rfl gives admits
    compatible (by simp) request.trailing
  rw [List.nil_append] at ready
  rw [run, trailing]
  cases args : request.args with
  | nil =>
      refine ⟨parse, _, rfl, ready.settle_self, ?_⟩
      simp [LinkRequest.found, passed, args, recorded]
  | cons first more =>
      have apart : programArguments ∉ Invocation.linkLevel.operands := by decide +kernel
      have admits : programArguments.Admits (first :: more) :=
        ⟨by decide, by decide, fun _ => List.cons_ne_nil _ _, fun _ _ => rfl⟩
      refine ⟨_, _, ready.words_trailing rfl rfl apart first more,
        Parse.settle_pending rfl admits (.inl rfl), ?_⟩
      simp [LinkRequest.found, passed, args, recorded]

section Lookups

variable {found found' : Matches} {name other : String} {values : List String}

theorem values_append : (found ++ found').values name = found.values name ++ found'.values name :=
  List.flatMap_append

theorem values_cons : Matches.values ((other, values) :: found) name =
    (if other = name then values else []) ++ found.values name :=
  List.flatMap_cons

theorem has_append : (found ++ found').has name = (found.has name || found'.has name) :=
  List.any_append

theorem has_cons : Matches.has ((other, values) :: found) name =
    (other == name || found.has name) :=
  List.any_cons

def once (name : String) (value? : Option String) : Matches :=
  (value?.map fun value => (name, [value])).toList

theorem values_once {value? : Option String} :
    (once other value?).values name = if other = name then value?.toList else [] := by
  cases value? <;> simp [once, Matches.values]

theorem has_once {value? : Option String} :
    (once other value?).has name = (value?.isSome && other == name) := by
  cases value? <;> simp [once, Matches.has]

def flag (name : String) (given : Bool) : Matches :=
  if given then [(name, [])] else []

theorem values_flag {given : Bool} : (flag other given).values name = [] := by
  cases given <;> simp [flag, Matches.values]

theorem has_flag {given : Bool} : (flag other given).has name = (given && other == name) := by
  cases given <;> simp [flag, Matches.has]

theorem values_linkArguments : Matches.values (request.linkArguments.map entry) name =
    if "link-arg" = name then request.flags.linkArgs else [] := by
  rw [linkArguments, Matches.values, List.map_map, List.flatMap_map]
  split
  · rename_i same
    simp [entry, same, List.flatMap_singleton']
  · rename_i different
    simp [entry, different]

theorem has_linkArguments (different : "link-arg" ≠ name) :
    Matches.has (request.linkArguments.map entry) name = false := by
  simp [Matches.has, linkArguments, entry, different]

theorem values_passed :
    request.passed.values name = if "args" = name then request.args else [] := by
  rw [passed]
  split
  · rename_i none
    simp [Matches.values, none]
  · simp [Matches.values]

theorem has_passed : request.passed.has name = (!request.args.isEmpty && "args" == name) := by
  rw [passed]
  split
  · rename_i none
    simp [Matches.has, none]
  · rename_i some
    simp [Matches.has, some]

theorem map_entry_settings : (request.settings verbose manifest).map entry =
    [("ir", [request.code]), ("output", [request.output])] ++
      once "runtime" request.flags.runtime ++ once "translator" request.flags.translator ++
      once "linker" request.flags.linker ++ once "stdin" request.stdin ++
      once "timeout-ms" (request.flags.timeoutMs.map fun ms => toString ms.toNat) ++
      flag "run" request.run ++ flag "verbose" verbose ++ once "manifest" manifest := by
  have optional (name : String) (value? : Option String) :
      (value?.map (Item.attached name)).toList.map entry = once name value? := by
    cases value? <;> rfl
  have given (b : Bool) (item : Item) : ((if b then [item] else []).map entry) =
      if b then [entry item] else [] := by
    cases b <;> rfl
  simp only [settings, List.map_append, optional, given, entry, flag, List.map_cons, List.map_nil]

theorem values_perm (name : String) (perm : found.Perm found') :
    (found.values name).Perm (found'.values name) :=
  List.Perm.flatMap_right _ perm

theorem values_eq_toList {value? : Option String} (perm : found.Perm found')
    (values : found'.values name = value?.toList) : found.values name = value?.toList := by
  have same := values_perm name perm
  rw [values] at same
  cases value? with
  | none => exact same.eq_nil
  | some value => exact List.perm_singleton.mp same

end Lookups

/-! Looking up what is recorded of a request. -/

variable (request verbose manifest) in
def recorded : Matches :=
  [("ir", [request.code]), ("output", [request.output])] ++
    once "runtime" request.flags.runtime ++ once "translator" request.flags.translator ++
    once "linker" request.flags.linker ++ once "stdin" request.stdin ++
    once "timeout-ms" (request.flags.timeoutMs.map fun ms => toString ms.toNat) ++
    flag "run" request.run ++ flag "verbose" verbose ++ once "manifest" manifest ++
    request.linkArguments.map entry ++ request.passed

theorem perm_recorded
    (perm : parts.Perm (request.settings verbose manifest ++ request.linkArguments)) :
    (request.found parts).Perm (request.recorded verbose manifest) := by
  rw [recorded, ← map_entry_settings, ← List.map_append]
  exact (perm.map entry).append_right _

theorem values_recorded (name : String) : (request.recorded verbose manifest).values name =
    (if "ir" = name then [request.code] else []) ++
      (if "output" = name then [request.output] else []) ++
      (if "runtime" = name then request.flags.runtime.toList else []) ++
      (if "translator" = name then request.flags.translator.toList else []) ++
      (if "linker" = name then request.flags.linker.toList else []) ++
      (if "stdin" = name then request.stdin.toList else []) ++
      (if "timeout-ms" = name then
        (request.flags.timeoutMs.map fun ms => toString ms.toNat).toList else []) ++
      (if "manifest" = name then manifest.toList else []) ++
      (if "link-arg" = name then request.flags.linkArgs else []) ++
      (if "args" = name then request.args else []) := by
  simp only [recorded, values_append, values_cons, values_once, values_flag, values_linkArguments,
    values_passed, List.append_assoc]
  rfl

theorem has_recorded {name : String} (different : "link-arg" ≠ name) :
    (request.recorded verbose manifest).has name =
      ("ir" == name || "output" == name || request.flags.runtime.isSome && "runtime" == name ||
        request.flags.translator.isSome && "translator" == name ||
        request.flags.linker.isSome && "linker" == name ||
        request.stdin.isSome && "stdin" == name ||
        request.flags.timeoutMs.isSome && "timeout-ms" == name || request.run && "run" == name ||
        verbose && "verbose" == name || manifest.isSome && "manifest" == name ||
        !request.args.isEmpty && "args" == name) := by
  simp only [recorded, has_append, has_cons, has_once, has_flag, has_linkArguments different,
    has_passed, Option.isSome_map, Bool.or_false]
  simp [Matches.has]

structure Finds (request : LinkRequest) (verbose : Bool) (manifest : Option String)
    (found : Matches) : Prop where
  code : found.value? "ir" = some request.code
  output : found.value? "output" = some request.output
  runtime : found.value? "runtime" = request.flags.runtime
  translator : found.value? "translator" = request.flags.translator
  linker : found.value? "linker" = request.flags.linker
  linkArgs : found.values "link-arg" = request.flags.linkArgs
  timeoutMs : (found.value? "timeout-ms").bind Kind.natural? = request.flags.timeoutMs
  run : found.has "run" = request.run
  stdin : found.value? "stdin" = request.stdin
  hasStdin : found.has "stdin" = request.stdin.isSome
  args : found.values "args" = request.args
  hasArgs : found.has "args" = !request.args.isEmpty
  verbose : found.has "verbose" = verbose
  manifest : found.value? "manifest" = manifest

theorem values_linkArg
    (perm : parts.Perm (request.settings verbose manifest ++ request.linkArguments))
    (inOrder : request.linkArguments.Sublist parts) :
    (request.found parts).values "link-arg" = request.flags.linkArgs := by
  have written : Matches.values (request.linkArguments.map entry) "link-arg" =
      request.flags.linkArgs := by rw [values_linkArguments, if_pos rfl]
  have within : request.flags.linkArgs.Sublist ((request.found parts).values "link-arg") := by
    rw [← written, found, values_append]
    exact ((inOrder.map entry).flatMap _).trans (List.sublist_append_left _ _)
  have size := (values_perm "link-arg" (perm_recorded perm)).length_eq
  rw [values_recorded] at size
  exact (within.eq_of_length (by simpa using size.symm)).symm

theorem values_args
    (perm : parts.Perm (request.settings verbose manifest ++ request.linkArguments)) :
    (request.found parts).values "args" = request.args := by
  have size := (values_perm "args" (perm_recorded perm)).length_eq
  rw [values_recorded, found, values_append, values_passed, if_pos rfl] at size
  have before : Matches.values (parts.map entry) "args" = [] := by
    rw [← List.length_eq_zero_iff]
    simpa using size
  rw [found, values_append, values_passed, if_pos rfl, before, List.nil_append]

theorem finds_found (perm : parts.Perm (request.settings verbose manifest ++ request.linkArguments))
    (inOrder : request.linkArguments.Sublist parts) :
    request.Finds verbose manifest (request.found parts) := by
  have recorded := perm_recorded perm
  have value {name : String} {value? : Option String}
      (values : (request.recorded verbose manifest).values name = value?.toList) :
      (request.found parts).value? name = value? := by
    rw [Matches.value?, values_eq_toList recorded values, Option.head?_toList]
  have has {name : String} : (request.found parts).has name =
      (request.recorded verbose manifest).has name := recorded.any_eq
  have timeout : (request.found parts).value? "timeout-ms" =
      request.flags.timeoutMs.map fun ms => toString ms.toNat :=
    value (by simp [values_recorded])
  exact {
    code := value (by simp [values_recorded])
    output := value (by simp [values_recorded])
    runtime := value (by simp [values_recorded])
    translator := value (by simp [values_recorded])
    linker := value (by simp [values_recorded])
    linkArgs := values_linkArg perm inOrder
    timeoutMs := by
      rw [timeout]
      cases request.flags.timeoutMs with
      | none => rfl
      | some ms => exact natural?_toString ms
    run := by simp [has, has_recorded]
    stdin := value (by simp [values_recorded])
    hasStdin := by simp [has, has_recorded]
    args := values_args perm
    hasArgs := by simp [has, has_recorded]
    verbose := by simp [has, has_recorded]
    manifest := value (by simp [values_recorded]) }

/-! The request that is read. -/

namespace Finds

variable {found : Matches}

theorem idle_iff (finds : request.Finds verbose manifest found) :
    (!found.has "run" && (found.has "stdin" || found.has "args")) = true ↔
      ¬request.IsCoherent := by
  rw [finds.run, finds.hasStdin, finds.hasArgs, IsCoherent, not_or, not_and_or]
  simp [Option.isSome_iff_ne_none]

theorem linkCommand_of_coherent (finds : request.Finds verbose manifest found)
    (coherent : request.IsCoherent) : Invocation.linkCommand found = .ok (.link request) := by
  have busy := mt finds.idle_iff.mp (not_not_intro coherent)
  unfold Invocation.linkCommand
  rw [finds.code, finds.output]
  dsimp only
  rw [if_neg busy]
  simp only [finds.runtime, finds.translator, finds.linker, finds.linkArgs,
    finds.timeoutMs, finds.run, finds.stdin, finds.args]

theorem linkCommand_of_incoherent (finds : request.Finds verbose manifest found)
    (incoherent : ¬request.IsCoherent) :
    Invocation.linkCommand found = .error .missingArgument := by
  unfold Invocation.linkCommand
  rw [finds.code, finds.output]
  simp only [finds.idle_iff.mpr incoherent, ↓reduceIte]

end Finds

end LinkRequest

namespace Invocation

theorem parse_link_eq {words : List String} {inner settled : Parse}
    (read : Parse.words linkLevel {} words = .ok (inner, none))
    (settle : inner.settle = .ok settled) :
    parse ("link" :: words) = (linkCommand settled.found).map fun command =>
      { verbose := settled.found.has "verbose", manifest := settled.found.value? "manifest",
        command } := by
  have outer : Parse.words programLevel {} ("link" :: words) = .ok ({}, some ("link", words)) := by
    rw [Parse.words]
    rfl
  have command : commandOf linkLevel linkCommand words =
      (linkCommand settled.found).map (settled.found, ·) := by
    rw [commandOf, read]
    simp only [bind, Except.bind, settle]
    cases linkCommand settled.found <;> rfl
  rw [parse, outer]
  simp only [bind, Except.bind, command]
  cases linkCommand settled.found with
  | error error => rfl
  | ok command =>
      -- No manifest is named before the command.
      have named : (settled.found.value? "manifest").or none = settled.found.value? "manifest" :=
        Option.or_none
      exact congrArg (fun manifest => Except.ok (Invocation.mk _ manifest command)) named

end Invocation

/-- However the parts of a link request are interleaved, the arguments for the linker in their
order, the line is read as the request; it is denied if it has input or arguments for a program that is not
to be run. -/
theorem Invocation.parse_link {request : LinkRequest} {verbose : Bool} {manifest : Option String}
    {parts : List Item} (writable : request.IsWritable manifest)
    (perm : parts.Perm (request.settings verbose manifest ++ request.linkArguments))
    (inOrder : request.linkArguments.Sublist parts) :
    (request.IsCoherent →
      parse ("link" :: parts.map Item.word ++ request.trailing) =
        .ok { verbose, manifest, command := .link request }) ∧
    (¬request.IsCoherent →
      parse ("link" :: parts.map Item.word ++ request.trailing) = .error .missingArgument) := by
  obtain ⟨inner, settled, read, settle, found⟩ := LinkRequest.words_parts writable perm
  have finds := LinkRequest.finds_found perm inOrder
  rw [List.cons_append, Invocation.parse_link_eq read settle, found, finds.verbose, finds.manifest]
  constructor
  · intro coherent
    rw [finds.linkCommand_of_coherent coherent]
    rfl
  · intro incoherent
    rw [finds.linkCommand_of_incoherent incoherent]
    rfl

def disguised : LinkRequest where
  code := "a.ll"
  output := "--run=a"
  flags := { translator := some "", linkArgs := ["-lm", "--", "-lm"], timeoutMs := some 5 }
  run := true
  stdin := some "-"
  args := ["--run", "-v", "--"]

def disguisedParts : List Item :=
  [.attached "link-arg" "-lm", .short 'v', .attached "stdin" "-", .attached "link-arg" "--",
    .operand "a.ll", .attached "timeout-ms" "5", .attached "output" "--run=a", .long "run",
    .attached "link-arg" "-lm", .attached "translator" ""]

theorem Invocation.parse_link_disguised :
    parse ["link", "--link-arg=-lm", "-v", "--stdin=-", "--link-arg=--", "a.ll", "--timeout-ms=5",
        "--output=--run=a", "--run", "--link-arg=-lm", "--translator=", "--", "--run", "-v", "--"] =
      .ok { verbose := true, manifest := none, command := .link disguised } := by
  have writable : disguised.IsWritable none :=
    ⟨by decide, by decide, by decide, by decide, by decide⟩
  have perm : disguisedParts.Perm (disguised.settings true none ++ disguised.linkArguments) := by
    decide +kernel
  have inOrder : disguised.linkArguments.Sublist disguisedParts := by decide +kernel
  exact (parse_link writable perm inOrder).1 (.inl rfl)

end Bundler
