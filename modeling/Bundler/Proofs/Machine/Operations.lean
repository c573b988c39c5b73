import Bundler.Proofs.Machine.Changes
import Bundler.Proofs.Path.Normal

/-!
What the operations on paths leave alone: each of them spares the files that it is not about.
-/

namespace Bundler.Machine.FileTree

variable {tree after : FileTree} {file cwd now : Nat} {path : String} {bytes : ByteArray}

theorem find_of_locate {follow : Bool} {location : Location} {index : Nat}
    (located : tree.locate cwd path follow = .ok location) (there : location.node? = some index) :
    tree.find cwd path follow = .ok index := by
  rw [find, located, ok_bind, there]
  rfl

theorem locate_of_locateForCreation {location : Location}
    (located : tree.locateForCreation cwd path = .ok location) :
    tree.locate cwd path = .ok location := by
  obtain ⟨_, checked, located⟩ := ok_of_bind located
  split at located
  · obtain ⟨above, _, located⟩ := ok_of_bind located
    split at located <;> cases located
  · exact located

theorem entry_of_absent {follow : Bool} {location : Location}
    (located : tree.locate cwd path follow = .ok location) (absent : location.node? = none) :
    ∃ parent entries, tree.content? location.directory = some (.directory parent entries) ∧
      entries.lookup location.name = none := by
  obtain ⟨_, walked, led, rfl, _⟩ := locate_eq_ok located
  rcases walk_entry led with ⟨parent, entries, here, found⟩ | ⟨_, there⟩
  · exact ⟨parent, entries, here, found.trans absent⟩
  · dsimp only at absent
    rw [absent] at there
    cases there

theorem write_eq_ok (done : tree.write cwd path bytes now = .ok after) :
    after = tree ∨
    (∃ directory parent name entries,
      tree.content? directory = some (.directory parent entries) ∧ entries.lookup name = none ∧
      after = (tree.add directory name (.file bytes) 0o644 now).2) ∨
    ∃ index old, tree.find cwd path = .ok index ∧ tree.content? index = some (.file old) ∧
      after = tree.setContent index (.file bytes) now := by
  obtain ⟨location, located, done⟩ := ok_of_bind done
  have located := locate_of_locateForCreation located
  cases there : location.node? with
  | none =>
      rw [there] at done
      cases done
      obtain ⟨parent, entries, here, free⟩ := entry_of_absent located there
      exact .inr (.inl ⟨_, parent, _, entries, here, free, rfl⟩)
  | some index =>
      rw [there] at done
      dsimp only at done
      split at done
      · cases done
      · split at done <;> cases done
        exact .inl rfl
      · cases done
      · rename_i old here
        cases done
        exact .inr (.inr ⟨index, old, find_of_locate located there, here, rfl⟩)
      · cases done
      · cases done
        exact .inl rfl

theorem write_avoids (simple : tree.IsSimple file)
    (apart : tree.find cwd path = .ok file → ¬tree.IsFile file)
    (done : tree.write cwd path bytes now = .ok after) : Avoids file tree after := by
  obtain rfl | ⟨directory, parent, name, entries, here, free, rfl⟩ |
    ⟨index, old, found, here, rfl⟩ := write_eq_ok done
  · exact .refl file after
  · exact .add here free rfl simple _ now
  · refine .setContent ?_ rfl ?_ now
    · intro content there
      cases here.symm.trans there
      rfl
    · rintro rfl
      exact apart found (isFile_iff.mpr (.inl ⟨old, here⟩))

theorem makeDirectory_spares {mode : Nat} (simple : tree.IsSimple file)
    (done : tree.makeDirectory cwd path mode now = .ok after) : Spares file tree after := by
  unfold makeDirectory at done
  split at done
  · split at done
    · obtain ⟨_, thrown, _⟩ := ok_of_bind done
      cases thrown
    · obtain ⟨_, thrown, _⟩ := ok_of_bind done
      cases thrown
  · rename_i location located
    obtain ⟨_, same, done⟩ := ok_of_bind done
    cases same
    dsimp only at done
    cases there : location.node? with
    | none =>
        rw [there] at done
        cases done
        obtain ⟨parent, entries, here, free⟩ := entry_of_absent located there
        exact .add here free (by simp) simple mode now
    | some index =>
        rw [there] at done
        cases done

theorem makeDirectoriesFrom_spares {mode : Nat} (simple : tree.IsSimple file) (fuel : Nat) :
    Spares file tree (makeDirectoriesFrom cwd mode now fuel tree path).2 := by
  induction fuel generalizing tree path with
  | zero => exact .refl file tree
  | succ fuel ih =>
      rw [makeDirectoriesFrom]
      split
      · exact .refl file tree
      · cases made : tree.makeDirectory cwd path mode now with
        | ok after => exact makeDirectory_spares simple made
        | error error =>
            dsimp only
            split
            · cases Path.parent? path with
              | none => exact .refl file tree
              | some parent =>
                  have above : Spares file tree
                      (makeDirectoriesFrom cwd mode now fuel tree parent).2 := ih simple
                  dsimp only
                  generalize makeDirectoriesFrom cwd mode now fuel tree parent = outcome at above ⊢
                  rcases outcome with ⟨error | value, between⟩
                  · exact above
                  · dsimp only at above ⊢
                    cases made : between.makeDirectory cwd path mode now with
                    | ok after =>
                        exact above.trans (makeDirectory_spares (above.isSimple simple) made)
                    | error error =>
                        dsimp only
                        split <;> exact above
            · split <;> exact .refl file tree

theorem makeDirectories_spares (simple : tree.IsSimple file) :
    Spares file tree (tree.makeDirectories cwd path now).2 :=
  makeDirectoriesFrom_spares simple _

/-! Removals. -/

theorem remove_eq_ok (done : tree.remove cwd path now = .ok after) :
    ∃ location index, tree.locate cwd path false = .ok location ∧
      location.node? = some index ∧ tree.isDirectoryNode index = false ∧
      after = tree.unbind location.directory location.name now := by
  obtain ⟨location, located, done⟩ := ok_of_bind done
  cases there : location.node? with
  | none =>
      rw [there] at done
      cases done
  | some index =>
      rw [there] at done
      dsimp only at done
      split at done
      · obtain ⟨_, thrown, _⟩ := ok_of_bind done
        cases thrown
      · rename_i noDirectory
        cases done
        exact ⟨location, index, located, there, by simpa using noDirectory, rfl⟩

/-- A path whose last name is not a dot or two. -/
def EndsInName (path : String) : Prop :=
  ∃ earlier last, steps path = earlier ++ [last] ∧ isIdleName last = false

theorem removed_entry (named : EndsInName path) (done : tree.remove cwd path now = .ok after) :
    ∃ directory name index parent entries,
      tree.content? directory = some (.directory parent entries) ∧
      entries.lookup name = some index ∧ tree.isDirectoryNode index = false ∧
      tree.find cwd path false = .ok index ∧ after = tree.unbind directory name now := by
  obtain ⟨location, index, located, there, noDirectory, rfl⟩ := remove_eq_ok done
  have found := find_of_locate located there
  obtain ⟨_, walked, led, rfl, fits⟩ := locate_eq_ok located
  have flat : isSlashed path = false := by
    cases slashed : isSlashed path with
    | false => rfl
    | true => rw [fits slashed index there] at noDirectory; cases noDirectory
  rw [flat] at led
  obtain ⟨earlier, last, whole, proper⟩ := named
  have isLast : walked.name = last := walk_name ⟨earlier, whole⟩ led
  rcases walk_entry led with ⟨parent, entries, here, entry⟩ | ⟨idle, _⟩
  · exact ⟨walked.directory, walked.name, index, parent, entries, here, entry.trans there,
      noDirectory, found, rfl⟩
  · rw [isLast, proper] at idle
    cases idle

theorem find_follow {index : Nat} (found : tree.find cwd path false = .ok index)
    (plain : ∀ target, tree.content? index ≠ some (.link target)) :
    tree.find cwd path = .ok index := by
  obtain ⟨checked, fits, location, there, led⟩ := find_eq_ok_iff.mp found
  refine find_eq_ok_iff.mpr ⟨checked, fits, location, there, ?_⟩
  cases slashed : isSlashed path with
  | true => simpa [slashed] using led
  | false =>
      rw [slashed] at led
      exact walk_follow led there plain

theorem remove_avoids (isFile : tree.IsFile file) (named : EndsInName path)
    (plain : ∀ index target, tree.find cwd path false = .ok index →
      tree.content? index ≠ some (.link target))
    (apart : tree.find cwd path ≠ .ok file) (done : tree.remove cwd path now = .ok after) :
    Avoids file tree after := by
  obtain ⟨directory, name, index, parent, entries, here, entry, noDirectory, found, rfl⟩ :=
    removed_entry named done
  have leaf : tree.IsLeaf index := by
    intro content there
    cases content with
    | directory _ _ => simp [isDirectoryNode, there] at noDirectory
    | link target => exact absurd there (plain index target found)
    | _ => rfl
  have distinct : index ≠ file := by
    rintro rfl
    exact apart (find_follow found fun target => plain index target found)
  exact .unbind here entry leaf distinct isFile.isSimple now

theorem remove_stays (isFile : tree.IsFile file) (named : EndsInName path)
    (apart : tree.find cwd path ≠ .ok file) (done : tree.remove cwd path now = .ok after) :
    Stays file tree after := by
  obtain ⟨directory, name, index, parent, entries, here, entry, _, found, rfl⟩ :=
    removed_entry named done
  have distinct : ¬file = index := by
    rintro rfl
    exact apart (find_follow found isFile.isLeaf.not_link)
  refine ⟨?_, (Keeps.unbind here entry now).entry distinct⟩
  rw [content?_unbind here, if_neg (isFile.isSimple.ne_directory here)]

/-! Changes of one file. -/

/-- What becomes of a tree when nothing is changed but the file that a path leads to. The file may
be made, written, and given a mode, and it may lose a name. A link at the end of the path is
followed and stays: what puts a file in its place changes the link. -/
inductive Reworks (cwd : Nat) (path : String) (before : FileTree) : FileTree → Prop
  | refl : Reworks cwd path before before
  | write {between after : FileTree} {bytes : ByteArray} {now : Nat}
      (earlier : Reworks cwd path before between)
      (done : between.write cwd path bytes now = .ok after) : Reworks cwd path before after
  | setMode {between : FileTree} {index : Nat} (earlier : Reworks cwd path before between)
      (found : between.find cwd path = .ok index) (mode : Nat) :
      Reworks cwd path before (between.setMode index mode)
  | unbind {between : FileTree} {index directory : Nat} {name : String}
      (earlier : Reworks cwd path before between) (found : between.find cwd path = .ok index)
      (isFile : between.IsFile index)
      (entry : (between.entries directory).lookup name = some index) (now : Nat) :
      Reworks cwd path before (between.unbind directory name now)

theorem Reworks.avoids (reworks : Reworks cwd path tree after) (simple : tree.IsSimple file)
    (apart : tree.find cwd path = .ok file → ¬tree.IsFile file) : Avoids file tree after := by
  induction reworks with
  | refl => exact .refl file tree
  | write _ done ih =>
      refine ih.trans (write_avoids (ih.isSimple simple) ?_ done)
      intro found isFile
      exact apart (ih.find_iff.mp found) (ih.isFile_iff.mp isFile)
  | setMode _ _ mode ih => exact ih.trans (.of_same file (content?_setMode _ _ mode))
  | unbind _ found isFile entry now ih =>
      obtain ⟨parent, entries, here, entry⟩ := directory_of_lookup entry
      refine ih.trans (.unbind here entry isFile.isLeaf ?_ (ih.isSimple simple) now)
      rintro rfl
      exact apart (ih.find_iff.mp found) (ih.isFile_iff.mp isFile)

end Bundler.Machine.FileTree
