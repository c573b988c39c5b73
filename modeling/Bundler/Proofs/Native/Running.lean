import Bundler.Machine.System
import Bundler.Native.Run
import Bundler.Proofs.Native.Course
import Bundler.Proofs.Path.Parents

/-!
What a run starts. Whether a program is searched for depends on the slashes in its name, and whether
a path is spelled anew before it is started on its components. A path without a slash has a single
component, so that each path keeps a slash of its own or is given one.
-/

namespace Bundler.Path

variable {path : String}

theorem componentCount_of_no_slash (clean : '/' ∉ path.toList) (nonempty : path ≠ "") :
    componentCount path = 1 := by
  by_cases dot : path = "."
  · rw [dot]
    decide +kernel
  · have kept : isIdle path.toList = false := by
      rw [isIdle, Bool.or_eq_false_iff, beq_eq_false_iff_ne, beq_eq_false_iff_ne]
      exact ⟨mt String.toList_eq_nil_iff.mp nonempty, fun same => dot (String.toList_inj.mp same)⟩
    rw [componentCount, anchored_of_no_slash clean dot]
    simp [kept]

theorem slash_mem_join_dot (relative : isAbsolute path = false) :
    '/' ∈ (join "." path).toList := by
  simp [join, relative, String.toList_append]

theorem denote_join_dot (cwd : Place) (relative : isAbsolute path = false) :
    denote cwd (join "." path) = denote cwd path := by
  rw [denote_join cwd relative, denote_dot, denote, relative]
  rfl

end Bundler.Path

namespace Bundler.Machine

theorem imageOf_of_slash {program : String} (slash : '/' ∈ program.toList) (machine : Machine)
    (words : List String) :
    machine.imageOf program words =
      machine.tree.image machine.cwd FileTree.maxInterpreters (Octets.ofText program) words := by
  rw [imageOf, if_pos (List.contains_iff_mem.mpr slash)]

end Bundler.Machine

namespace Bundler.Native

open Bundler.Path (Place denote)

variable {executable : String}

theorem launchPath_cases (nonempty : executable ≠ "") :
    launchPath executable = executable ∧ '/' ∈ executable.toList ∨
      launchPath executable = Path.join "." executable ∧ Path.isAbsolute executable = false := by
  unfold launchPath
  split
  · rename_i single
    exact .inr ⟨rfl, by simpa using single.2⟩
  · rename_i kept
    refine .inl ⟨rfl, ?_⟩
    -- A path without a slash is one name that does not begin at the root, so it is not kept.
    by_contra clean
    have single := Path.componentCount_of_no_slash clean nonempty
    have relative := Source.isAbsolute_eq_false_of_no_slash clean
    exact kept ⟨single, by simp [relative]⟩

theorem slash_mem_launchPath (nonempty : executable ≠ "") :
    '/' ∈ (launchPath executable).toList := by
  rcases launchPath_cases nonempty with ⟨same, slash⟩ | ⟨below, relative⟩
  · rwa [same]
  · rw [below]
    exact Path.slash_mem_join_dot relative

theorem denote_launchPath (nonempty : executable ≠ "") (cwd : Place) :
    denote cwd (launchPath executable) = denote cwd executable := by
  rcases launchPath_cases nonempty with ⟨same, _⟩ | ⟨below, relative⟩
  · rw [same]
  · rw [below, Path.denote_join_dot cwd relative]

example :
    ["app", "app/", "app/.", ".", "..", "a/b", "./app", "/app"].map launchPath =
      ["./app", "./app/", "./app/.", "./.", "./..", "a/b", "./app", "/app"] := by
  decide +kernel

namespace World

variable {σ : Type} (world : World σ) (ledger : Ledger σ) (limitMs : Option UInt64)
  (args : List String) (stdin : Option ByteArray)

theorem perform_run {answer : Answer} {after : Ledger σ} (nonempty : executable ≠ "")
    (launched : world.launch
      { program := launchPath executable, args, stdin, keepsOutput := true, limitMs } ledger =
        (answer, after)) :
    (perform (world.host.run limitMs executable args stdin) ledger).2 = after := by
  have given : executable.isEmpty = false := by simpa using nonempty
  unfold Host.run
  rw [given, if_neg (by decide)]
  dsimp only
  rw [perform_lift, proceed_report, perform_lift, proceed_start, launched]
  rcases answer with error | ⟨status, stdout, stderr⟩ | _ | error <;> rfl

/-- All that a run does is to start one program. The name of the program has a slash in it, so that
no search path has a say in what a machine executes for it, and leads where the executable's path
leads. -/
theorem run_unsearched (nonempty : executable ≠ "") :
    ∃ program answer,
      (perform (world.host.run limitMs executable args stdin) ledger).2.deeds =
        ledger.deeds ++ [.started { program, args, stdin, keepsOutput := true, limitMs } answer] ∧
      '/' ∈ program.toList ∧
      (∀ cwd, denote cwd program = denote cwd executable) ∧
      ∀ machine words, Machine.imageOf machine program words =
        machine.tree.image machine.cwd Machine.FileTree.maxInterpreters
          (Machine.Octets.ofText program) words := by
  have slash := slash_mem_launchPath nonempty
  rcases launched : world.launch
    { program := launchPath executable, args, stdin, keepsOutput := true, limitMs } ledger with
    ⟨answer, after⟩
  refine ⟨launchPath executable, answer, ?_, slash, denote_launchPath nonempty,
    Machine.imageOf_of_slash slash⟩
  rw [perform_run world ledger limitMs args stdin nonempty launched]
  cases launched
  rfl

def still : World Unit where
  isFile _ _ := false
  search _ _ := none
  makeDirectories _ state := (.ok (), state)
  remove _ state := (.ok (), state)
  start _ state := (.ok (.finished (some 0) .empty .empty), state)

theorem run_unsearched_dotted :
    "app/." ≠ "" ∧ ∃ program answer,
      (perform (still.host.run none "app/." ["-v"] none) ⟨(), []⟩).2.deeds =
        [.started { program, args := ["-v"], keepsOutput := true } answer] ∧
      '/' ∈ program.toList ∧ denote ["home"] program = ["home", "app"] := by
  have nonempty : "app/." ≠ "" := by decide
  obtain ⟨program, answer, deeds, slash, leads, _⟩ :=
    run_unsearched still ⟨(), []⟩ none ["-v"] none nonempty
  refine ⟨nonempty, program, answer, deeds, slash, ?_⟩
  rw [leads]
  decide +kernel

end World

end Bundler.Native
