import Bundler.Native.Build

/-!
The course of a build. A world answers what a build asks of it from a state of its own, and a ledger
keeps what the build does to it: the directories it makes, the tools it starts and the files it
takes away. Tools may do anything to the state.
-/

namespace Bundler.Native

abbrev Answer := Except IoError Ending

namespace Answer

def status? : Answer → Option Int
  | .ok (.finished status _ _) => status
  | _ => none

def Succeeded (answer : Answer) : Prop :=
  status? answer = some 0

def failure? (stage : Stage) (name : String) (limitMs : Option UInt64) : Answer → Option BuildError
  | .error error => some (.notStarted stage name error)
  | .ok (.lost error) => some (.io stage ("waiting for '" ++ name ++ "'") error)
  | .ok .expired => some (.timedOut stage (limitMs.getD 0))
  | .ok (.finished status _ stderr) =>
      if status = some 0 then none
      else some (.stageFailed stage name status (Text.trim (Text.Utf8.decode stderr).text))

variable {answer : Answer} {stage : Stage} {name : String} {limitMs : Option UInt64}
  {error : BuildError}

theorem failure?_eq_none_iff : failure? stage name limitMs answer = none ↔ Succeeded answer := by
  rcases answer with error | ⟨status, stdout, stderr⟩ | _ | error
  · simp [failure?, Succeeded, status?]
  · simp [failure?, Succeeded, status?]
  · simp [failure?, Succeeded, status?]
  · simp [failure?, Succeeded, status?]

theorem not_succeeded_of_failure? (failed : failure? stage name limitMs answer = some error) :
    ¬Succeeded answer := by
  rw [← failure?_eq_none_iff, failed]
  exact Option.some_ne_none error

theorem blame_of_failure? (failed : failure? stage name limitMs answer = some error) :
    error.stage = stage ∧ error.exitStatus? = status? answer := by
  rcases answer with error | ⟨status, stdout, stderr⟩ | _ | error
  · cases failed
    exact ⟨rfl, rfl⟩
  · by_cases zero : status = some 0
    · simp [failure?, zero] at failed
    · simp only [failure?, zero, if_false, Option.some.injEq] at failed
      subst failed
      exact ⟨rfl, rfl⟩
  · cases failed
    exact ⟨rfl, rfl⟩
  · cases failed
    exact ⟨rfl, rfl⟩

end Answer

/-- What a build does that more than looks at the world. -/
inductive Deed
  | made (directory : String) (result : Except IoError Unit)
  | started (launch : Launch) (answer : Answer)
  | removed (path : String) (result : Except IoError Unit)

structure Ledger (σ : Type) where
  state : σ
  deeds : List Deed := []

namespace Ledger

variable {σ : Type}

def launches (ledger : Ledger σ) : List (Launch × Answer) :=
  ledger.deeds.filterMap fun
    | .started launch answer => some (launch, answer)
    | _ => none

def removals (ledger : Ledger σ) : List String :=
  ledger.deeds.filterMap fun
    | .removed path _ => some path
    | _ => none

end Ledger

structure World (σ : Type) where
  isFile : σ → String → Bool
  search : σ → String → Option String
  makeDirectories : String → σ → Except IoError Unit × σ
  remove : String → σ → Except IoError Unit × σ
  start : Launch → σ → Answer × σ

namespace World

variable {σ : Type}

def make (world : World σ) (directory : String) (ledger : Ledger σ) :
    Except IoError Unit × Ledger σ :=
  let (result, state) := world.makeDirectories directory ledger.state
  (result, ⟨state, ledger.deeds ++ [.made directory result]⟩)

def take (world : World σ) (path : String) (ledger : Ledger σ) :
    Except IoError Unit × Ledger σ :=
  let (result, state) := world.remove path ledger.state
  (result, ⟨state, ledger.deeds ++ [.removed path result]⟩)

def launch (world : World σ) (launch : Launch) (ledger : Ledger σ) : Answer × Ledger σ :=
  let (answer, state) := world.start launch ledger.state
  (answer, ⟨state, ledger.deeds ++ [.started launch answer]⟩)

def host (world : World σ) : Host (StateM (Ledger σ)) where
  isFile path := do return world.isFile (← get).state path
  search name := do return world.search (← get).state name
  makeDirectories directory := modifyGet (world.make directory)
  remove path := modifyGet (world.take path)
  start launch := modifyGet (world.launch launch)
  report _ := return

end World

def proceed {σ α : Type} (step : StateM (Ledger σ) α) (ledger : Ledger σ) : α × Ledger σ :=
  StateT.run (m := Id) step ledger

def perform {σ α : Type} (step : BuildM (StateM (Ledger σ)) α) (ledger : Ledger σ) :
    Except BuildError α × Ledger σ :=
  proceed step.run ledger

section Steps

variable {σ α β : Type} {ledger : Ledger σ}

theorem proceed_bind (step : StateM (Ledger σ) α) (next : α → StateM (Ledger σ) β) :
    proceed (step >>= next) ledger =
      proceed (next (proceed step ledger).1) (proceed step ledger).2 := rfl

@[simp] theorem perform_pure (value : α) :
    perform (pure value : BuildM (StateM (Ledger σ)) α) ledger = (.ok value, ledger) := rfl

@[simp] theorem perform_throw (error : BuildError) :
    perform (throw error : BuildM (StateM (Ledger σ)) α) ledger = (.error error, ledger) := rfl

theorem perform_bind (step : BuildM (StateM (Ledger σ)) α)
    (next : α → BuildM (StateM (Ledger σ)) β) :
    perform (step >>= next) ledger =
      match perform step ledger with
      | (.ok value, after) => perform (next value) after
      | (.error error, after) => (.error error, after) := by
  simp only [perform, proceed, ExceptT.run_bind, StateT.run_bind]
  generalize StateT.run (m := Id) step.run ledger = result
  rcases result with ⟨error | value, after⟩ <;> rfl

theorem perform_bind_ok {step : BuildM (StateM (Ledger σ)) α} {value : α} {after : Ledger σ}
    (ran : perform step ledger = (.ok value, after)) (next : α → BuildM (StateM (Ledger σ)) β) :
    perform (step >>= next) ledger = perform (next value) after := by
  rw [perform_bind, ran]

theorem perform_bind_error {step : BuildM (StateM (Ledger σ)) α} {error : BuildError}
    {after : Ledger σ} (ran : perform step ledger = (.error error, after))
    (next : α → BuildM (StateM (Ledger σ)) β) :
    perform (step >>= next) ledger = (.error error, after) := by
  rw [perform_bind, ran]

theorem perform_lift (step : StateM (Ledger σ) α) (next : α → BuildM (StateM (Ledger σ)) β) :
    perform (liftM step >>= next) ledger =
      perform (next (proceed step ledger).1) (proceed step ledger).2 := rfl

end Steps

namespace World

variable {σ : Type} (world : World σ) (ledger : Ledger σ)

@[simp] theorem proceed_isFile (path : String) :
    proceed (world.host.isFile path) ledger = (world.isFile ledger.state path, ledger) := rfl

@[simp] theorem proceed_search (name : String) :
    proceed (world.host.search name) ledger = (world.search ledger.state name, ledger) := rfl

@[simp] theorem proceed_makeDirectories (directory : String) :
    proceed (world.host.makeDirectories directory) ledger = world.make directory ledger := rfl

@[simp] theorem proceed_remove (path : String) :
    proceed (world.host.remove path) ledger = world.take path ledger := rfl

@[simp] theorem proceed_start (launch : Launch) :
    proceed (world.host.start launch) ledger = world.launch launch ledger := rfl

@[simp] theorem proceed_report (record : Record) :
    proceed (world.host.report record) ledger = ((), ledger) := rfl

/-! The steps of a build. -/

theorem proceed_firstFile (paths : List String) :
    proceed (world.host.firstFile paths) ledger =
      (paths.find? (world.isFile ledger.state), ledger) := by
  induction paths with
  | nil => rfl
  | cons path rest ih =>
      rw [Host.firstFile, proceed_bind, proceed_isFile, List.find?_cons]
      cases world.isFile ledger.state path with
      | true => rfl
      | false => exact ih

theorem perform_findSupport (search : SupportSearch) :
    perform (world.host.findSupport search) ledger =
      match search.candidates.find? (world.isFile ledger.state) with
      | some found => (.ok found, ledger)
      | none => (.error (.missingSupport search.candidates), ledger) := by
  rw [Host.findSupport, perform_lift, proceed_firstFile]
  cases search.candidates.find? (world.isFile ledger.state) <;> rfl

def program? (state : σ) (tool : Tool) : Option String :=
  if tool.program.toList.contains '/' then
    if world.isFile state tool.program then some tool.program else none
  else world.search state tool.program

theorem perform_findTool (stage : Stage) (tool : Tool) :
    perform (world.host.findTool stage tool) ledger =
      match world.program? ledger.state tool with
      | some program => (.ok program, ledger)
      | none => (.error (.toolNotFound stage tool.program), ledger) := by
  unfold Host.findTool program?
  by_cases path : tool.program.toList.contains '/' = true
  · rw [if_pos path, if_pos path, perform_lift, proceed_isFile]
    cases world.isFile ledger.state tool.program <;> rfl
  · rw [if_neg path, if_neg path, perform_lift, proceed_search]
    cases world.search ledger.state tool.program <;> rfl

def prepare (output : String) : Except BuildError Unit × Ledger σ :=
  match Path.directory? output with
  | none => (.ok (), ledger)
  | some directory =>
      ((world.make directory ledger).1.mapError fun error =>
          .io .locate ("creating output directory '" ++ directory ++ "'") error,
        (world.make directory ledger).2)

theorem perform_makeOutputDirectory (output : String) :
    perform (world.host.makeOutputDirectory output) ledger = world.prepare ledger output := by
  unfold Host.makeOutputDirectory prepare
  cases Path.directory? output with
  | none => rfl
  | some directory =>
      dsimp only
      rw [perform_lift, proceed_makeDirectories]
      rcases world.make directory ledger with ⟨error | value, after⟩ <;> rfl

variable {ledger}

theorem perform_runStage (stage : Stage) (name : String) {program : String} {args : List String}
    {limitMs : Option UInt64} {answer : Answer} {after : Ledger σ}
    (launched : world.launch { program, args, limitMs } ledger = (answer, after)) :
    perform (world.host.runStage stage name program args limitMs) ledger =
      ((answer.failure? stage name limitMs).elim (.ok ()) .error, after) := by
  unfold Host.runStage
  rw [perform_lift, proceed_report, perform_lift, proceed_start, launched]
  rcases answer with error | ⟨status, stdout, stderr⟩ | _ | error
  · rfl
  · by_cases zero : status = some 0
    · simp only [Answer.failure?, zero, if_true]
      split <;> rfl
    · simp only [Answer.failure?, zero, if_false]
      rfl
  · rfl
  · rfl

variable (ledger)

theorem perform_discardObject (object : String) :
    perform (world.host.discardObject object) ledger = (.ok (), (world.take object ledger).2) := by
  unfold Host.discardObject
  rw [perform_lift, proceed_remove]
  rcases world.take object ledger with ⟨error | value, after⟩ <;> rfl

end World

/-! Whole builds. -/

namespace Host

variable {m : Type → Type} [Monad m] (host : Host m) (chain : Toolchain) (code output : String)

def runStages (support translator linker : String) : BuildM m Unit := do
  host.runStage .translate chain.translator.program translator
    (chain.translateArgs code (objectPath output)) chain.timeoutMs
  host.runStage .link chain.linker.program linker
    (chain.linkArgsFor (objectPath output) support output) chain.timeoutMs
  host.discardObject (objectPath output)
  host.report ⟨.info, "kooix_linker::driver", "linked " ++ output⟩

def locateAndRun : BuildM m Unit := do
  let support ← host.findSupport chain.runtime
  let translator ← host.findTool .translate chain.translator
  let linker ← host.findTool .link chain.linker
  host.makeOutputDirectory output
  host.runStages chain code output support translator linker

theorem build_eq : host.build chain code output = (do
    if code.isEmpty then throw (.missingInput .code)
    if output.isEmpty then throw (.missingInput .output)
    unless ← host.isFile code do throw (.missingCode code)
    host.locateAndRun chain code output) := rfl

end Host

inductive Check
  | codeGiven
  | outputGiven
  | codePresent
  | supportPresent
  | translatorPresent
  | linkerPresent
  | directoryReady
  deriving DecidableEq, Repr

namespace Check

def order : List Check :=
  [codeGiven, outputGiven, codePresent, supportPresent, translatorPresent, linkerPresent,
    directoryReady]

def stage : Check → Stage
  | translatorPresent => .translate
  | linkerPresent => .link
  | codeGiven | outputGiven | codePresent | supportPresent | directoryReady => .locate

end Check

namespace Toolchain

def translation (chain : Toolchain) (program code output : String) : Launch where
  program := program
  args := chain.translateArgs code (objectPath output)
  limitMs := chain.timeoutMs

def linking (chain : Toolchain) (program support output : String) : Launch where
  program := program
  args := chain.linkArgsFor (objectPath output) support output
  limitMs := chain.timeoutMs

end Toolchain

namespace World

variable {σ : Type} (world : World σ) (chain : Toolchain) (code output : String) (state : σ)

def fault? : Check → Option BuildError
  | .codeGiven => if code = "" then some (.missingInput .code) else none
  | .outputGiven => if output = "" then some (.missingInput .output) else none
  | .codePresent => if world.isFile state code then none else some (.missingCode code)
  | .supportPresent =>
      if (chain.runtime.candidates.find? (world.isFile state)).isSome then none
      else some (.missingSupport chain.runtime.candidates)
  | .translatorPresent =>
      if (world.program? state chain.translator).isSome then none
      else some (.toolNotFound .translate chain.translator.program)
  | .linkerPresent =>
      if (world.program? state chain.linker).isSome then none
      else some (.toolNotFound .link chain.linker.program)
  | .directoryReady =>
      match (world.prepare ⟨state, []⟩ output).1 with
      | .ok _ => none
      | .error error => some error

def firstFault? : Option (Check × BuildError) :=
  Check.order.findSome? fun check => (world.fault? chain code output state check).map (check, ·)

/-- What a build has found when no check fails. -/
structure Found (support translator linker : String) : Prop where
  support_eq : chain.runtime.candidates.find? (world.isFile state) = some support
  translator_eq : world.program? state chain.translator = some translator
  linker_eq : world.program? state chain.linker = some linker

/-- Where a build can end, and with what ledger. -/
inductive Course : Except BuildError Unit × Ledger σ → Prop
  | refused {check : Check} {error : BuildError}
      (fault : world.firstFault? chain code output state = some (check, error))
      (early : check ≠ .directoryReady) : Course (.error error, ⟨state, []⟩)
  | unprepared {error : BuildError}
      (fault : world.firstFault? chain code output state = some (.directoryReady, error)) :
      Course (.error error, (world.prepare ⟨state, []⟩ output).2)
  | untranslated {support translator linker : String} {answer : Answer} {ledger : Ledger σ}
      {error : BuildError} (clear : world.firstFault? chain code output state = none)
      (found : world.Found chain state support translator linker)
      (translated : world.launch (chain.translation translator code output)
        (world.prepare ⟨state, []⟩ output).2 = (answer, ledger))
      (failed : answer.failure? .translate chain.translator.program chain.timeoutMs = some error) :
      Course (.error error, ledger)
  | unlinked {support translator linker : String} {answer linked : Answer}
      {between ledger : Ledger σ} {error : BuildError}
      (clear : world.firstFault? chain code output state = none)
      (found : world.Found chain state support translator linker)
      (translated : world.launch (chain.translation translator code output)
        (world.prepare ⟨state, []⟩ output).2 = (answer, between))
      (succeeded : answer.Succeeded)
      (linking : world.launch (chain.linking linker support output) between = (linked, ledger))
      (failed : linked.failure? .link chain.linker.program chain.timeoutMs = some error) :
      Course (.error error, ledger)
  | built {support translator linker : String} {answer linked : Answer}
      {between ledger : Ledger σ} (clear : world.firstFault? chain code output state = none)
      (found : world.Found chain state support translator linker)
      (translated : world.launch (chain.translation translator code output)
        (world.prepare ⟨state, []⟩ output).2 = (answer, between))
      (succeeded : answer.Succeeded)
      (linking : world.launch (chain.linking linker support output) between = (linked, ledger))
      (done : linked.Succeeded) : Course (.ok (), (world.take (objectPath output) ledger).2)

variable {world chain code output state}

theorem runStages_course {support translator linker : String}
    (clear : world.firstFault? chain code output state = none)
    (found : world.Found chain state support translator linker) :
    world.Course chain code output state
      (perform (world.host.runStages chain code output support translator linker)
        (world.prepare ⟨state, []⟩ output).2) := by
  unfold Host.runStages
  obtain ⟨⟨answer, between⟩, translated⟩ : ∃ after, world.launch
      (chain.translation translator code output) (world.prepare ⟨state, []⟩ output).2 = after :=
    ⟨_, rfl⟩
  have translation := world.perform_runStage .translate chain.translator.program translated
  cases failed : answer.failure? .translate chain.translator.program chain.timeoutMs with
  | some error =>
      rw [failed] at translation
      rw [perform_bind_error translation]
      exact .untranslated clear found translated failed
  | none =>
      rw [failed] at translation
      rw [perform_bind_ok translation]
      obtain ⟨⟨linked, ledger⟩, linking⟩ : ∃ after, world.launch
          (chain.linking linker support output) between = after := ⟨_, rfl⟩
      have linkage := world.perform_runStage .link chain.linker.program linking
      have succeeded := Answer.failure?_eq_none_iff.mp failed
      cases linkFailed : linked.failure? .link chain.linker.program chain.timeoutMs with
      | some error =>
          rw [linkFailed] at linkage
          rw [perform_bind_error linkage]
          exact .unlinked clear found translated succeeded linking linkFailed
      | none =>
          rw [linkFailed] at linkage
          rw [perform_bind_ok linkage, perform_bind_ok (world.perform_discardObject _ _)]
          exact .built clear found translated succeeded linking
            (Answer.failure?_eq_none_iff.mp linkFailed)

theorem locateAndRun_course (given : code ≠ "" ∧ output ≠ "")
    (isFile : world.isFile state code = true) :
    world.Course chain code output state
      (perform (world.host.locateAndRun chain code output) ⟨state, []⟩) := by
  unfold Host.locateAndRun
  cases support_eq : chain.runtime.candidates.find? (world.isFile state) with
  | none =>
      have fault : world.firstFault? chain code output state =
          some (.supportPresent, .missingSupport chain.runtime.candidates) := by
        simp [firstFault?, Check.order, fault?, given, isFile, support_eq]
      rw [perform_bind_error (by rw [perform_findSupport, support_eq])]
      exact .refused fault (by decide)
  | some support =>
      rw [perform_bind_ok (by rw [perform_findSupport, support_eq])]
      cases translator_eq : world.program? state chain.translator with
      | none =>
          have fault : world.firstFault? chain code output state =
              some (.translatorPresent, .toolNotFound .translate chain.translator.program) := by
            simp [firstFault?, Check.order, fault?, given, isFile, support_eq, translator_eq]
          rw [perform_bind_error (by rw [perform_findTool, translator_eq])]
          exact .refused fault (by decide)
      | some translator =>
          rw [perform_bind_ok (by rw [perform_findTool, translator_eq])]
          cases linker_eq : world.program? state chain.linker with
          | none =>
              have fault : world.firstFault? chain code output state =
                  some (.linkerPresent, .toolNotFound .link chain.linker.program) := by
                simp [firstFault?, Check.order, fault?, given, isFile, support_eq, translator_eq,
                  linker_eq]
              rw [perform_bind_error (by rw [perform_findTool, linker_eq])]
              exact .refused fault (by decide)
          | some linker =>
              rw [perform_bind_ok (by rw [perform_findTool, linker_eq])]
              have faults : world.firstFault? chain code output state =
                  (world.fault? chain code output state .directoryReady).map
                    (.directoryReady, ·) := by
                simp [firstFault?, Check.order, given, isFile, support_eq, translator_eq,
                  linker_eq, fault?]
              have prepared := world.perform_makeOutputDirectory ⟨state, []⟩ output
              cases outcome : world.prepare ⟨state, []⟩ output with
              | mk made after =>
                  rw [outcome] at prepared
                  have after_eq : after = (world.prepare ⟨state, []⟩ output).2 := by rw [outcome]
                  cases made with
                  | error error =>
                      simp only [fault?, outcome, Option.map_some] at faults
                      rw [perform_bind_error prepared, after_eq]
                      exact .unprepared faults
                  | ok value =>
                      simp only [fault?, outcome, Option.map_none] at faults
                      rw [perform_bind_ok prepared, after_eq]
                      exact runStages_course faults ⟨support_eq, translator_eq, linker_eq⟩

theorem build_course (world : World σ) (chain : Toolchain) (code output : String) (state : σ) :
    world.Course chain code output state
      (perform (world.host.build chain code output) ⟨state, []⟩) := by
  rw [Host.build_eq]
  by_cases noCode : code = ""
  · subst noCode
    have fault : world.firstFault? chain "" output state =
        some (.codeGiven, .missingInput .code) := by
      simp [firstFault?, Check.order, fault?]
    exact .refused fault (by decide)
  · rw [if_neg (by simpa using noCode)]
    by_cases noOutput : output = ""
    · subst noOutput
      have fault : world.firstFault? chain code "" state =
          some (.outputGiven, .missingInput .output) := by
        simp [firstFault?, Check.order, fault?, noCode]
      exact .refused fault (by decide)
    · rw [if_neg (by simpa using noOutput), perform_lift, proceed_isFile]
      cases isFile : world.isFile state code with
      | true => exact locateAndRun_course ⟨noCode, noOutput⟩ isFile
      | false =>
          have fault : world.firstFault? chain code output state =
              some (.codePresent, .missingCode code) := by
            simp [firstFault?, Check.order, fault?, noCode, noOutput, isFile]
          exact .refused fault (by decide)

/-! What the ledgers of builds have in them. -/

theorem deeds_prepare (world : World σ) (ledger : Ledger σ) (output : String) :
    (world.prepare ledger output).2.launches = ledger.launches ∧
      (world.prepare ledger output).2.removals = ledger.removals := by
  unfold prepare
  cases Path.directory? output with
  | none => exact ⟨rfl, rfl⟩
  | some directory => simp [make, Ledger.launches, Ledger.removals]

theorem deeds_launch {launch : Launch} {ledger after : Ledger σ} {answer : Answer}
    (launched : world.launch launch ledger = (answer, after)) :
    after.launches = ledger.launches ++ [(launch, answer)] ∧
      after.removals = ledger.removals := by
  cases launched
  simp [Ledger.launches, Ledger.removals]

theorem deeds_take (world : World σ) (path : String) (ledger : Ledger σ) :
    (world.take path ledger).2.launches = ledger.launches ∧
      (world.take path ledger).2.removals = ledger.removals ++ [path] := by
  simp [take, Ledger.launches, Ledger.removals]

theorem blame_of_prepare {ledger : Ledger σ} {error : BuildError}
    (failed : (world.prepare ledger output).1 = .error error) :
    error.stage = .locate ∧ error.exitStatus? = none := by
  unfold prepare at failed
  cases directory : Path.directory? output with
  | none =>
      rw [directory] at failed
      cases failed
  | some path =>
      rw [directory] at failed
      dsimp only at failed
      cases made : (world.make path ledger).1 with
      | ok value =>
          rw [made] at failed
          cases failed
      | error reason =>
          rw [made] at failed
          cases failed
          exact ⟨rfl, rfl⟩

theorem blame_of_fault? {check : Check} {error : BuildError}
    (fault : world.fault? chain code output state check = some error) :
    error.stage = check.stage ∧ error.exitStatus? = none := by
  cases check with
  | directoryReady =>
      simp only [fault?] at fault
      split at fault
      · cases fault
      · rename_i failed
        cases fault
        exact blame_of_prepare failed
  | _ =>
      simp only [fault?] at fault
      split at fault <;> cases fault
      exact ⟨rfl, rfl⟩

theorem blame_of_firstFault? {check : Check} {error : BuildError}
    (fault : world.firstFault? chain code output state = some (check, error)) :
    error.stage = check.stage ∧ error.exitStatus? = none := by
  obtain ⟨_, _, found⟩ := List.exists_of_findSome?_eq_some fault
  obtain ⟨_, fault, same⟩ := Option.map_eq_some_iff.mp found
  cases same
  exact blame_of_fault? fault

/-- A build ends at the first check that fails, and has then started no tool. Otherwise it starts
the translator, the linker after a translator that succeeded, and no tool a second time. It succeeds
just when both tools do, and just then the object file is taken away. A failure is put down to the
check or tool that failed. -/
theorem build_accounted (world : World σ) (chain : Toolchain) (code output : String) (state : σ) :
    ∃ result ledger,
      perform (world.host.build chain code output) ⟨state, []⟩ = (result, ledger) ∧
      (∀ check error, world.firstFault? chain code output state = some (check, error) →
        result = .error error ∧ ledger.launches = [] ∧
        error.stage = check.stage ∧ error.exitStatus? = none) ∧
      (world.firstFault? chain code output state = none →
        ∃ support translator linker answer, world.Found chain state support translator linker ∧
          (¬answer.Succeeded →
            ledger.launches = [(chain.translation translator code output, answer)] ∧
            ∃ error, result = .error error ∧ error.stage = .translate ∧
              error.exitStatus? = answer.status?) ∧
          (answer.Succeeded → ∃ linked,
            ledger.launches = [(chain.translation translator code output, answer),
              (chain.linking linker support output, linked)] ∧
            (linked.Succeeded → result = .ok ()) ∧
            (¬linked.Succeeded → ∃ error, result = .error error ∧ error.stage = .link ∧
              error.exitStatus? = linked.status?))) ∧
      (result = .ok () → ledger.removals = [objectPath output] ∧
        ∃ removal, ledger.deeds.getLast? = some (.removed (objectPath output) removal)) ∧
      (result ≠ .ok () → ledger.removals = []) := by
  have course := world.build_course chain code output state
  generalize perform (world.host.build chain code output) ⟨state, []⟩ = outcome at course
  have prepared := world.deeds_prepare ⟨state, []⟩ output
  cases course with
  | refused fault early =>
      refine ⟨_, _, rfl, ?_, by simp [fault], by simp, fun _ => rfl⟩
      intro check error again
      cases fault.symm.trans again
      exact ⟨rfl, rfl, blame_of_firstFault? fault⟩
  | unprepared fault =>
      refine ⟨_, _, rfl, ?_, by simp [fault], by simp, fun _ => prepared.2⟩
      intro check error again
      cases fault.symm.trans again
      exact ⟨rfl, prepared.1, blame_of_firstFault? fault⟩
  | @untranslated _ _ _ answer ledger error clear found translated failed =>
      obtain ⟨launches, removals⟩ := deeds_launch translated
      rw [prepared.1] at launches
      rw [prepared.2] at removals
      have unsuccessful := Answer.not_succeeded_of_failure? failed
      refine ⟨_, _, rfl, by simp [clear], fun _ => ⟨_, _, _, answer, found, ?_, ?_⟩, by simp,
        fun _ => removals⟩
      · exact fun _ => ⟨launches, error, rfl, Answer.blame_of_failure? failed⟩
      · exact fun succeeded => absurd succeeded unsuccessful
  | @unlinked _ _ _ answer linked between ledger error clear found translated succeeded linking
      failed =>
      obtain ⟨first, kept⟩ := deeds_launch translated
      obtain ⟨launches, removals⟩ := deeds_launch linking
      rw [first, prepared.1] at launches
      rw [kept, prepared.2] at removals
      have unsuccessful := Answer.not_succeeded_of_failure? failed
      refine ⟨_, _, rfl, by simp [clear], fun _ => ⟨_, _, _, answer, found, ?_, ?_⟩, by simp,
        fun _ => removals⟩
      · exact fun unsuccessful => absurd succeeded unsuccessful
      · exact fun _ => ⟨linked, launches, fun done => absurd done unsuccessful,
          fun _ => ⟨error, rfl, Answer.blame_of_failure? failed⟩⟩
  | @built _ _ _ answer linked between ledger clear found translated succeeded linking done =>
      obtain ⟨first, kept⟩ := deeds_launch translated
      obtain ⟨launches, removals⟩ := deeds_launch linking
      obtain ⟨same, removed⟩ := world.deeds_take (objectPath output) ledger
      rw [first, prepared.1] at launches
      rw [kept, prepared.2] at removals
      rw [launches] at same
      rw [removals] at removed
      refine ⟨_, _, rfl, by simp [clear], fun _ => ⟨_, _, _, answer, found, ?_, ?_⟩, ?_, by simp⟩
      · exact fun unsuccessful => absurd succeeded unsuccessful
      · exact fun _ => ⟨linked, same, fun _ => rfl, fun unsuccessful => absurd done unsuccessful⟩
      · exact fun _ => ⟨removed, (world.remove (objectPath output) ledger.state).1, by simp [take]⟩

/-- A world in which every file is there and no directory can be made. -/
def walled : World Unit where
  isFile _ _ := true
  search _ _ := none
  makeDirectories _ state := (.error .permissionDenied, state)
  remove _ state := (.ok (), state)
  start _ state := (.ok (.finished (some 0) .empty .empty), state)

theorem build_accounted_walled :
    ∃ ledger, perform (walled.host.build
        { translator := ⟨"./llc", []⟩, linker := ⟨"./cc", []⟩ } "code.ll" "out/app") ⟨(), []⟩ =
          (.error (.io .locate "creating output directory 'out'" .permissionDenied), ledger) ∧
      ledger.launches = [] ∧ ledger.removals = [] := by
  obtain ⟨result, ledger, run, refused, _, _, kept⟩ := build_accounted walled
    { translator := ⟨"./llc", []⟩, linker := ⟨"./cc", []⟩ } "code.ll" "out/app" ()
  have fault : walled.firstFault? { translator := ⟨"./llc", []⟩, linker := ⟨"./cc", []⟩ } "code.ll"
      "out/app" () = some (.directoryReady,
        .io .locate "creating output directory 'out'" .permissionDenied) := by
    decide +kernel
  obtain ⟨rfl, launches, _⟩ := refused _ _ fault
  exact ⟨ledger, run, launches, kept (by simp)⟩

end World

end Bundler.Native
