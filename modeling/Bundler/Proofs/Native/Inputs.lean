import Bundler.Machine.Console
import Bundler.Proofs.Machine.Operations
import Bundler.Proofs.Native.Course
import Mathlib

/-!
What a build leaves of its inputs. The tools may do what they like to the files that they are told
to make, and nothing else.
-/

namespace Bundler.Native

open Machine (FileTree)
open Machine.FileTree (EndsInName)
open Source (directoryPart filePart)

/-! The name of the object file. -/

theorem names_eq_append_filePart (path : String) :
    ∃ earlier, Path.names path = earlier ++ [filePart path] := by
  have whole := Source.directoryPart_append_filePart path
  have file := Path.names_of_no_slash (Source.slash_not_mem_filePart path)
  rcases Source.isBase_directoryPart path with top | ⟨above, isBase⟩
  · rw [top, String.empty_append] at whole
    rw [whole] at file
    exact ⟨[], by rw [file, whole, List.nil_append]⟩
  · refine ⟨Path.names (String.ofList above), ?_⟩
    have split : directoryPart path ++ filePart path =
        String.ofList (above ++ '/' :: (filePart path).toList) := by
      simp [isBase, ← String.toList_inj]
    rw [← whole, split, Path.names_append_slash, String.ofList_toList, file, ← split, whole]

theorem endsInName_objectPath (output : String) : EndsInName (objectPath output) := by
  obtain ⟨earlier, names⟩ := names_eq_append_filePart (objectPath output)
  obtain ⟨chars, last⟩ : ∃ chars, (filePart (objectPath output)).toList = chars ++ ['.', 'o'] := by
    refine ⟨(output.toList.reverse.takeWhile (· ≠ '/')).reverse, ?_⟩
    simp [filePart, objectPath, String.toList_append]
  have distinct (other : String) (short : other.toList.getLast? ≠ some 'o') :
      filePart (objectPath output) ≠ other := by
    intro same
    rw [← same, last] at short
    simp at short
  have named := distinct "" (by decide)
  refine ⟨earlier.filter (· ≠ ""), filePart (objectPath output), ?_, ?_⟩
  · rw [FileTree.steps, names, List.filter_append]
    simp [named]
  · simp [FileTree.isIdleName, named, distinct "." (by decide), distinct ".." (by decide)]

end Bundler.Native

namespace Bundler.Machine

open Native (Answer Launch Ledger Toolchain World objectPath perform)

def world (tools : Launch → Machine → Answer × Machine) : World Machine where
  isFile := isFile
  search := search
  makeDirectories := makeDirectories
  remove := remove
  start := tools

/-- A tool, started like this, changes nothing but the file that a path leads to, and no link that
it leads through. -/
def WritesOnly (tools : Launch → Machine → Answer × Machine) (launch : Launch) (path : String) :
    Prop :=
  ∀ machine : Machine, (tools launch machine).2.cwd = machine.cwd ∧
    FileTree.Reworks machine.cwd path machine.tree (tools launch machine).2.tree

variable (tools : Launch → Machine → Answer × Machine) (chain : Toolchain) (code output : String)
  (machine : Machine)

def inputs : List String :=
  code :: (chain.runtime.candidates.find? (machine.tree.isFile machine.cwd)).toList

def prepared : Machine :=
  ((world tools).prepare ⟨machine, []⟩ output).2.state

def built : Machine :=
  (perform ((world tools).host.build chain code output) ⟨machine, []⟩).2.state

/-! The states of a build. -/

variable {tools chain code output machine} {file : Nat}

theorem prepared_spares (tools : Launch → Machine → Answer × Machine) (output : String)
    (simple : machine.tree.IsSimple file) :
    (machine.prepared tools output).cwd = machine.cwd ∧
      FileTree.Spares file machine.tree (machine.prepared tools output).tree := by
  unfold prepared World.prepare
  cases Path.directory? output with
  | none => exact ⟨rfl, .refl file machine.tree⟩
  | some directory => exact ⟨rfl, FileTree.makeDirectories_spares simple⟩

/-- The machine when the tools are done, before the object file is taken away. -/
structure Worked (tools : Launch → Machine → Answer × Machine) (output : String)
    (machine late : Machine) : Prop where
  cwd_eq : late.cwd = (machine.prepared tools output).cwd
  reworks : ∃ between,
    FileTree.Reworks late.cwd (objectPath output) (machine.prepared tools output).tree between ∧
      FileTree.Reworks late.cwd output between late.tree

theorem worked_translated {launch : Launch}
    (translates : WritesOnly tools launch (objectPath output)) :
    Worked tools output machine (tools launch (machine.prepared tools output)).2 := by
  obtain ⟨cwd_eq, reworks⟩ := translates (machine.prepared tools output)
  exact ⟨cwd_eq, _, by rwa [cwd_eq], .refl⟩

theorem worked_linked {launch launch' : Launch}
    (translates : WritesOnly tools launch (objectPath output))
    (links : WritesOnly tools launch' output) :
    Worked tools output machine
      (tools launch' (tools launch (machine.prepared tools output)).2).2 := by
  obtain ⟨cwd_eq, reworks⟩ := translates (machine.prepared tools output)
  obtain ⟨cwd_eq', reworks'⟩ := links (tools launch (machine.prepared tools output)).2
  exact ⟨cwd_eq'.trans cwd_eq, _, by rwa [cwd_eq', cwd_eq], by rwa [cwd_eq']⟩

theorem built_cases (machine : Machine)
    (translates : ∀ program, WritesOnly tools (chain.translation program code output)
      (objectPath output))
    (links : ∀ program support, WritesOnly tools (chain.linking program support output) output) :
    machine.built tools chain code output = machine ∨
    ∃ late, Worked tools output machine late ∧
      (machine.built tools chain code output = late ∨
        machine.built tools chain code output =
          ((world tools).remove (objectPath output) late).2) := by
  have course := (world tools).build_course chain code output machine
  unfold built
  generalize perform ((world tools).host.build chain code output) ⟨machine, []⟩ = outcome at course
  cases course with
  | refused => exact .inl rfl
  | unprepared => exact .inr ⟨_, ⟨rfl, _, .refl, .refl⟩, .inl rfl⟩
  | untranslated _ _ translated =>
      cases translated
      exact .inr ⟨_, worked_translated (translates _), .inl rfl⟩
  | unlinked _ _ translated _ linking =>
      cases translated
      cases linking
      exact .inr ⟨_, worked_linked (translates _) (links _ _), .inl rfl⟩
  | built _ _ translated _ linking =>
      cases translated
      cases linking
      exact .inr ⟨_, worked_linked (translates _) (links _ _), .inr rfl⟩

theorem Worked.avoids {late : Machine} {node : Nat} (worked : Worked tools output machine late)
    (simple : (machine.prepared tools output).tree.IsSimple node)
    (apart : ∀ path ∈ [output, objectPath output],
      (machine.prepared tools output).tree.find late.cwd path = .ok node →
        ¬(machine.prepared tools output).tree.IsFile node) :
    FileTree.Avoids node (machine.prepared tools output).tree late.tree := by
  obtain ⟨_, between, translated, linked⟩ := worked
  have first := translated.avoids simple (apart _ (by simp))
  refine first.trans (linked.avoids (first.isSimple simple) fun found isFile => ?_)
  exact apart output (by simp) (first.find_iff.mp found) (first.isFile_iff.mp isFile)

/-- The path of the object file leads to no link, before it is followed. -/
def Unlinked (machine : Machine) (path : String) : Prop :=
  ∀ index target, machine.tree.find machine.cwd path false = .ok index →
    machine.tree.content? index ≠ some (.link target)

theorem Worked.unlinked {late : Machine} (worked : Worked tools output machine late)
    (avoids : FileTree.Avoids file (machine.prepared tools output).tree late.tree)
    (unlinked : (machine.prepared tools output).Unlinked (objectPath output)) :
    late.Unlinked (objectPath output) := by
  intro index target found link
  have link' := avoids.link link
  -- A link is no file, so the tools leave it where it was.
  have stays := worked.avoids ⟨_, link', by simp⟩ fun _ _ _ isFile =>
    isFile.isLeaf.not_link target link'
  have found' := stays.find_iff.mp found
  rw [worked.cwd_eq] at found'
  exact unlinked index target found' link'

theorem removed_spares (isFile : machine.tree.IsFile file)
    (apart : machine.tree.find machine.cwd (objectPath output) ≠ .ok file) :
    ((world tools).remove (objectPath output) machine).2.cwd = machine.cwd ∧
    FileTree.Stays file machine.tree ((world tools).remove (objectPath output) machine).2.tree ∧
    (machine.Unlinked (objectPath output) →
      FileTree.Spares file machine.tree
        ((world tools).remove (objectPath output) machine).2.tree) := by
  have removed : (world tools).remove (objectPath output) machine =
      change (machine.tree.remove machine.cwd (objectPath output) machine.now) machine := rfl
  rw [removed]
  cases done : machine.tree.remove machine.cwd (objectPath output) machine.now with
  | error error => exact ⟨rfl, (FileTree.Spares.refl file _).toStays, fun _ => .refl file _⟩
  | ok after =>
      have named := Native.endsInName_objectPath output
      refine ⟨rfl, FileTree.remove_stays isFile named apart done, fun unlinked => ?_⟩
      exact (FileTree.remove_avoids isFile named unlinked apart done).toSpares

theorem built_spares
    (translates : ∀ program, WritesOnly tools (chain.translation program code output)
      (objectPath output))
    (links : ∀ program support, WritesOnly tools (chain.linking program support output) output)
    (isFile : machine.tree.IsFile file)
    (apart : ∀ path ∈ [output, objectPath output],
      (machine.prepared tools output).tree.find machine.cwd path ≠ .ok file) :
    (machine.built tools chain code output).cwd = machine.cwd ∧
    FileTree.Stays file machine.tree (machine.built tools chain code output).tree ∧
    ((machine.prepared tools output).Unlinked (objectPath output) →
      FileTree.Spares file machine.tree (machine.built tools chain code output).tree) := by
  obtain ⟨cwd_eq, prepared⟩ := prepared_spares tools output isFile.isSimple
  have isFile' := prepared.isFile_iff.mpr isFile
  obtain same | ⟨late, worked, outcome⟩ := built_cases machine translates links
  · rw [same]
    exact ⟨rfl, (FileTree.Spares.refl file _).toStays, fun _ => .refl file _⟩
  · have cwd_eq' := worked.cwd_eq.trans cwd_eq
    have avoids : FileTree.Avoids file (machine.prepared tools output).tree late.tree := by
      refine worked.avoids isFile'.isSimple fun path member found => ?_
      rw [cwd_eq'] at found
      exact absurd found (apart path member)
    have spares := prepared.trans avoids.toSpares
    rcases outcome with kept | removed
    · rw [kept]
      exact ⟨cwd_eq', spares.toStays, fun _ => spares⟩
    · have apart' : late.tree.find late.cwd (objectPath output) ≠ .ok file := by
        rw [cwd_eq']
        exact fun found => apart _ (by simp) (avoids.find_iff.mp found)
      obtain ⟨cwd_eq'', stays, spared⟩ := removed_spares (avoids.isFile_iff.mpr isFile') apart'
      rw [removed]
      refine ⟨cwd_eq''.trans cwd_eq', spares.toStays.trans stays, fun unlinked => ?_⟩
      exact spares.trans (spared (worked.unlinked avoids unlinked))

theorem isFile_eq_true_iff {path : String} : machine.tree.isFile machine.cwd path = true ↔
    ∃ file, machine.tree.find machine.cwd path = .ok file ∧ machine.tree.IsFile file := by
  unfold FileTree.isFile FileTree.has FileTree.node FileTree.IsFile
  cases machine.tree.find machine.cwd path with
  | error error => simp [bind, Except.bind]
  | ok index =>
      rw [FileTree.ok_bind]
      cases here : machine.tree.nodes[index]? with
      | none => simp [here, throw, throwThe, MonadExceptOf.throw]
      | some node => simp [here, pure, Except.pure]

/-- A build never destroys its inputs when its tools write nothing but what they are told to make,
and neither the output path nor that of the object file leads to an input. The paths of the inputs
still lead to them, unless the path of the object file led to a link. -/
theorem build_keeps_inputs
    (translates : ∀ program, WritesOnly tools (chain.translation program code output)
      (objectPath output))
    (links : ∀ program support, WritesOnly tools (chain.linking program support output) output)
    (apart : ∀ input ∈ machine.inputs chain code, ∀ path ∈ [output, objectPath output], ∀ file,
      machine.tree.find machine.cwd input = .ok file →
        (machine.prepared tools output).tree.find machine.cwd path ≠ .ok file) :
    ∀ input ∈ machine.inputs chain code, machine.tree.isFile machine.cwd input = true →
      ∃ file, machine.tree.find machine.cwd input = .ok file ∧
        FileTree.Stays file machine.tree (machine.built tools chain code output).tree ∧
        ((machine.prepared tools output).Unlinked (objectPath output) →
          (machine.built tools chain code output).tree.find
            (machine.built tools chain code output).cwd input = .ok file) := by
  intro input member present
  obtain ⟨file, found, isFile⟩ := isFile_eq_true_iff.mp present
  obtain ⟨cwd_eq, stays, spares⟩ := built_spares translates links isFile
    fun path one => apart input member path one file found
  refine ⟨file, found, stays, fun unlinked => ?_⟩
  rw [cwd_eq]
  exact (spares unlinked).find found

def desk : Machine where
  kernel := { tree := { nodes := #[
    ⟨.directory 0 [("i.o", 1), ("r", 2), ("t", 3)], 0o755, 0⟩, ⟨.file "i".toUTF8, 0o644, 0⟩,
    ⟨.file "r".toUTF8, 0o644, 0⟩, ⟨.file "t".toUTF8, 0o755, 0⟩] } }

def deskTools : Toolchain where
  translator := ⟨"./t", []⟩
  linker := ⟨"./t", []⟩
  runtime := .only "r"

def obedient (launch : Launch) (machine : Machine) : Answer × Machine :=
  match machine.tree.write machine.cwd (launch.args.getLastD "") "x".toUTF8 machine.now with
  | .ok tree => (.ok (.finished (some 0) .empty .empty), machine.setTree tree)
  | .error error => (.error error, machine)

theorem obedient_writesOnly {launch : Launch} {path : String}
    (told : launch.args.getLastD "" = path) : WritesOnly obedient launch path := by
  intro machine
  rw [obedient, told]
  cases done : machine.tree.write machine.cwd path "x".toUTF8 machine.now with
  | error error => exact ⟨rfl, .refl⟩
  | ok tree => exact ⟨rfl, .write .refl done⟩

theorem desk_inputs : desk.inputs deskTools "i.o" = ["i.o", "r"] := by cbv

theorem desk_isFile : ∀ input ∈ ["i.o", "r"], desk.tree.isFile desk.cwd input = true := by
  have code : desk.tree.isFile desk.cwd "i.o" = true := by cbv
  have support : desk.tree.isFile desk.cwd "r" = true := by cbv
  simp [code, support]

theorem build_keeps_inputs_desk :
    desk.tree.find desk.cwd "i.o" = .ok 1 ∧ desk.tree.find desk.cwd "r" = .ok 2 ∧
    FileTree.Stays 1 desk.tree (desk.built obedient deskTools "i.o" "e").tree ∧
    FileTree.Stays 2 desk.tree (desk.built obedient deskTools "i.o" "e").tree ∧
    (desk.built obedient deskTools "i.o" "e").tree.find
      (desk.built obedient deskTools "i.o" "e").cwd "i.o" = .ok 1 ∧
    (desk.built obedient deskTools "i.o" "e").tree.find
      (desk.built obedient deskTools "i.o" "e").cwd "r" = .ok 2 := by
  have code : desk.tree.find desk.cwd "i.o" = .ok 1 := by cbv
  have support : desk.tree.find desk.cwd "r" = .ok 2 := by cbv
  have absent : ∀ path ∈ ["e", objectPath "e"], ∀ file,
      (desk.prepared obedient "e").tree.find desk.cwd path ≠ .ok file := by
    have output : (desk.prepared obedient "e").tree.find desk.cwd "e" = .error .noSuchFile := by
      cbv
    have object : (desk.prepared obedient "e").tree.find desk.cwd (objectPath "e") =
        .error .noSuchFile := by cbv
    simp [output, object]
  have unlinked : (desk.prepared obedient "e").Unlinked (objectPath "e") := by
    have object : (desk.prepared obedient "e").tree.find (desk.prepared obedient "e").cwd
        (objectPath "e") false = .error .noSuchFile := by cbv
    simp [Unlinked, object]
  have kept := @build_keeps_inputs obedient deskTools "i.o" "e" desk
    (fun _ => obedient_writesOnly rfl) (fun _ _ => obedient_writesOnly rfl)
    (fun _ _ path one file _ => absent path one file)
  obtain ⟨file, found, stays, led⟩ := kept "i.o" (by simp [desk_inputs]) (desk_isFile _ (by simp))
  obtain ⟨file', found', stays', led'⟩ := kept "r" (by simp [desk_inputs]) (desk_isFile _ (by simp))
  cases code.symm.trans found
  cases support.symm.trans found'
  exact ⟨code, support, stays, stays', led unlinked, led' unlinked⟩

/-- An input with the name of the object file is gone after `i` is built, though the tools write
nothing but what they are told to make, and the output path leads to no input. -/
theorem build_takes_object :
    (∀ program, WritesOnly obedient (deskTools.translation program "i.o" "i") (objectPath "i")) ∧
    (∀ program support, WritesOnly obedient (deskTools.linking program support "i") "i") ∧
    desk.inputs deskTools "i.o" = ["i.o", "r"] ∧
    (∀ input ∈ ["i.o", "r"], desk.tree.isFile desk.cwd input = true) ∧
    (desk.prepared obedient "i").tree.find desk.cwd "i" = .error .noSuchFile ∧
    (perform ((world obedient).host.build deskTools "i.o" "i") ⟨desk, []⟩).1 = .ok () ∧
    (desk.built obedient deskTools "i.o" "i").tree.find
      (desk.built obedient deskTools "i.o" "i").cwd "i.o" = .error .noSuchFile :=
  ⟨fun _ => obedient_writesOnly rfl, fun _ _ => obedient_writesOnly rfl, desk_inputs,
    desk_isFile, by cbv, by cbv, by cbv⟩

end Bundler.Machine
