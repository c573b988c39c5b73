import Bundler.Machine.FileTree

/-!
Paths in a tree that changes. What a path leads to stays the same as long as the directories and
links stay that it goes through, and the names in them that it uses.
-/

namespace Bundler.Machine

/-- Neither a directory nor a link: no path goes on from it. -/
def Content.isLeaf : Content → Bool
  | .directory _ _ | .link _ => false
  | .file _ | .fifo | .device _ | .program _ => true

namespace FileTree

def IsLeaf (tree : FileTree) (index : Nat) : Prop :=
  ∀ content, tree.content? index = some content → content.isLeaf = true

theorem IsLeaf.not_directory {tree : FileTree} {index : Nat} (leaf : tree.IsLeaf index) :
    tree.isDirectoryNode index = false := by
  unfold isDirectoryNode
  split
  · rename_i here
    cases leaf _ here
  · rfl

theorem IsLeaf.not_link {tree : FileTree} {index : Nat} (leaf : tree.IsLeaf index)
    (target : String) : tree.content? index ≠ some (.link target) := by
  intro link
  cases leaf _ link

/-- Directories and links stay, and directories keep the names of all nodes that are not lost. -/
structure Keeps (lost : Nat → Prop) (before after : FileTree) : Prop where
  directory {index parent : Nat} {entries : List (String × Nat)} :
    before.content? index = some (.directory parent entries) →
      ∃ entries', after.content? index = some (.directory parent entries') ∧
        ∀ name below, ¬lost below → entries.lookup name = some below →
          entries'.lookup name = some below
  link {index : Nat} {target : String} :
    after.content? index = some (.link target) ↔ before.content? index = some (.link target)

theorem walk_plain {tree : FileTree} {index parent next : Nat} {entries : List (String × Nat)}
    {name : String} (here : tree.content? index = some (.directory parent entries))
    (proper : ¬name = "." ∧ ¬name = "..") (short : ¬maxName < name.utf8ByteSize)
    (found : entries.lookup name = some next)
    (plain : ∀ target, tree.content? next ≠ some (.link target)) (follow : Bool) (links : Nat)
    (rest : List String) :
    tree.walk follow links index (name :: rest) =
      if rest = [] then .ok { directory := index, name, node? := some next }
      else tree.walk follow links next rest := by
  rw [walk, here]
  simp only [proper, short, if_false, found]

theorem walk_link {tree : FileTree} {index parent next : Nat} {entries : List (String × Nat)}
    {name target : String} (here : tree.content? index = some (.directory parent entries))
    (proper : ¬name = "." ∧ ¬name = "..") (short : ¬maxName < name.utf8ByteSize)
    (found : entries.lookup name = some next) (link : tree.content? next = some (.link target))
    (follow : Bool) (links : Nat) (rest : List String) :
    tree.walk follow links index (name :: rest) =
      if rest = [] && !follow then .ok { directory := index, name, node? := some next }
      else
        match links with
        | 0 => .error .tooManyLinks
        | links + 1 =>
            if target.isEmpty then .error .noSuchFile
            else tree.walk follow links (if Path.isAbsolute target then 0 else index)
              (steps target ++ rest) := by
  rw [walk, here]
  cases links with
  | zero => simp only [if_neg proper.1, if_neg proper.2, if_neg short, found, link]
  | succ links => simp only [if_neg proper.1, if_neg proper.2, if_neg short, found, link]

theorem walk_off_directory {tree : FileTree} {index : Nat}
    (blocked : tree.isDirectoryNode index = false) {names : List String} (more : names ≠ [])
    (follow : Bool) (links : Nat) :
    tree.walk follow links index names = .error .notADirectory := by
  cases names with
  | nil => exact absurd rfl more
  | cons name rest =>
      rw [walk]
      split
      · rename_i parent entries here
        simp [isDirectoryNode, here] at blocked
      · rfl

variable {lost : Nat → Prop} {before after : FileTree}

/-- What a path leads to stays, unless it is lost. Lost nodes are no directories or links, so that a
path uses their names only to end there. -/
theorem Keeps.walk (keeps : Keeps lost before after)
    (leaves : ∀ index, lost index → before.IsLeaf index) {follow : Bool} {links index : Nat}
    {names : List String} {location : Location} {node : Nat}
    (led : before.walk follow links index names = .ok location)
    (there : location.node? = some node) (spared : ¬lost node) :
    after.walk follow links index names = .ok location := by
  fun_induction before.walk follow links index names with
  | case1 links index => simpa [FileTree.walk] using led
  | case2 links index parent entries here =>
      obtain ⟨entries', here', _⟩ := keeps.directory here
      simpa [FileTree.walk, here'] using led
  | case3 links index rest parent entries here more ih =>
      obtain ⟨entries', here', _⟩ := keeps.directory here
      rw [FileTree.walk, here']
      simpa [more] using ih led
  | case4 links index parent entries here dot =>
      obtain ⟨entries', here', _⟩ := keeps.directory here
      simpa [FileTree.walk, here'] using led
  | case5 links index rest parent entries here more dot ih =>
      obtain ⟨entries', here', _⟩ := keeps.directory here
      rw [FileTree.walk, here']
      simpa [more] using ih led
  | case7 => cases led; cases there
  | case9 links index name rest parent entries here dot dots short next found target link last =>
      obtain ⟨entries', here', kept⟩ := keeps.directory here
      cases led
      cases there
      rw [walk_link here' ⟨dot, dots⟩ short (kept name node spared found) (keeps.link.mpr link),
        if_pos last]
  | case12 index name rest parent entries here dot dots short next found target link last links
      full ih =>
      obtain ⟨entries', here', kept⟩ := keeps.directory here
      have found' := kept name next (fun gone => (leaves next gone).not_link target link) found
      rw [walk_link here' ⟨dot, dots⟩ short found' (keeps.link.mpr link), if_neg last]
      dsimp only
      rw [if_neg full]
      exact ih led
  | case13 links index name parent entries here dot dots short next found plain =>
      obtain ⟨entries', here', kept⟩ := keeps.directory here
      cases led
      cases there
      rw [walk_plain here' ⟨dot, dots⟩ short (kept name node spared found)
        (fun target link => plain target (keeps.link.mp link)), if_pos rfl]
  | case14 links index name rest parent entries here dot dots short next found more plain ih =>
      obtain ⟨entries', here', kept⟩ := keeps.directory here
      have kept' : ¬lost next := by
        intro gone
        rw [walk_off_directory (leaves next gone).not_directory more] at led
        cases led
      rw [walk_plain here' ⟨dot, dots⟩ short (kept name next kept' found)
        (fun target link => plain target (keeps.link.mp link)), if_neg more]
      exact ih led
  | case6 | case8 | case10 | case11 | case15 => cases led

/-! Where walks end. -/

variable {tree : FileTree} {follow : Bool} {links index node cwd : Nat} {names : List String}
  {location : Location} {path : String}

theorem walk_entry (led : tree.walk follow links index names = .ok location) :
    (∃ parent entries, tree.content? location.directory = some (.directory parent entries) ∧
      entries.lookup location.name = location.node?) ∨
    isIdleName location.name = true ∧ location.node?.isSome := by
  fun_induction tree.walk follow links index names with
  | case1 | case2 | case4 => cases led; exact .inr ⟨rfl, rfl⟩
  | case3 _ _ _ _ _ _ _ ih | case5 _ _ _ _ _ _ _ _ ih => exact ih led
  | case7 links index name parent entries here dot dots short absent =>
      cases led
      exact .inl ⟨parent, entries, here, absent⟩
  | case9 links index name rest parent entries here dot dots short next found =>
      cases led
      exact .inl ⟨parent, entries, here, found⟩
  | case13 links index name parent entries here dot dots short next found =>
      cases led
      exact .inl ⟨parent, entries, here, found⟩
  | case12 _ _ _ _ _ _ _ _ _ _ _ _ _ _ _ _ ih => exact ih led
  | case14 _ _ _ _ _ _ _ _ _ _ _ _ _ _ ih => exact ih led
  | case6 | case8 | case10 | case11 | case15 => cases led

theorem eq_append_of_cons {name last : String} {rest : List String} (more : rest ≠ [])
    (isLast : ∃ earlier, name :: rest = earlier ++ [last]) :
    ∃ earlier, rest = earlier ++ [last] := by
  obtain ⟨_ | ⟨first, earlier⟩, whole⟩ := isLast
  · exact absurd (List.cons.inj whole).2 more
  · exact ⟨earlier, (List.cons.inj whole).2⟩

theorem walk_name {last : String} (isLast : ∃ earlier, names = earlier ++ [last])
    (led : tree.walk false links index names = .ok location) : location.name = last := by
  have single {name : String} (isLast : ∃ earlier, [name] = earlier ++ [last]) : name = last := by
    obtain ⟨earlier, whole⟩ := isLast
    exact (List.cons.inj (List.append_inj' ((List.nil_append _).trans whole) rfl).2).1
  fun_induction tree.walk false links index names with
  | case1 =>
      obtain ⟨earlier, whole⟩ := isLast
      simp at whole
  | case2 | case4 | case7 | case13 => cases led; exact single isLast
  | case3 _ _ _ _ _ _ more ih => exact ih (eq_append_of_cons more isLast) led
  | case5 _ _ _ _ _ _ more _ ih => exact ih (eq_append_of_cons more isLast) led
  | case9 _ _ _ _ _ _ _ _ _ _ _ _ _ _ last =>
      cases led
      obtain rfl : _ = [] := by simpa using last
      exact single isLast
  | case12 _ _ _ _ _ _ _ _ _ _ _ target _ last _ _ ih =>
      obtain ⟨earlier, whole⟩ := eq_append_of_cons (by simpa using last) isLast
      exact ih ⟨steps target ++ earlier, by rw [whole, List.append_assoc]⟩ led
  | case14 _ _ _ _ _ _ _ _ _ _ _ _ more _ ih => exact ih (eq_append_of_cons more isLast) led
  | case6 | case8 | case10 | case11 | case15 => cases led

theorem walk_follow (led : tree.walk false links index names = .ok location)
    (there : location.node? = some node)
    (plain : ∀ target, tree.content? node ≠ some (.link target)) :
    tree.walk true links index names = .ok location := by
  fun_induction tree.walk false links index names with
  | case1 => simpa [walk] using led
  | case2 _ _ _ _ here => simpa [walk, here] using led
  | case3 _ _ _ _ _ here more ih =>
      rw [walk, here]
      simpa [more] using ih led
  | case4 _ _ _ _ here _ => simpa [walk, here] using led
  | case5 _ _ _ _ _ here more _ ih =>
      rw [walk, here]
      simpa [more] using ih led
  | case7 => cases led; cases there
  | case9 _ _ _ _ _ _ _ _ _ _ _ _ target link =>
      cases led
      cases there
      exact absurd link (plain target)
  | case12 _ _ _ _ _ here dot dots short _ found _ link last _ full ih =>
      rw [walk_link here ⟨dot, dots⟩ short found link, if_neg (by simp)]
      dsimp only
      rw [if_neg full]
      exact ih led
  | case13 _ _ _ _ _ here dot dots short _ found plain =>
      rw [walk_plain here ⟨dot, dots⟩ short found plain, if_pos rfl]
      exact led
  | case14 _ _ _ _ _ _ here dot dots short _ found more plain ih =>
      rw [walk_plain here ⟨dot, dots⟩ short found plain, if_neg more]
      exact ih led
  | case6 | case8 | case10 | case11 | case15 => cases led

/-! Paths. -/

theorem ok_bind {α β : Type} (item : α) (next : α → Except IoError β) :
    (.ok item : Except IoError α) >>= next = next item := rfl

theorem ok_of_bind {α β : Type} {result : Except IoError α} {next : α → Except IoError β}
    {value : β} (ran : result >>= next = .ok value) :
    ∃ item, result = .ok item ∧ next item = .ok value := by
  cases result with
  | error error => cases ran
  | ok item => exact ⟨item, rfl, ran⟩

theorem locate_eq_ok (located : tree.locate cwd path follow = .ok location) :
    checkPath path = .ok () ∧ ∃ walked,
      tree.walk (follow || isSlashed path) maxLinks (startOf cwd path) (steps path) = .ok walked ∧
      location = { walked with slashed := isSlashed path } ∧
      (isSlashed path = true → ∀ index, walked.node? = some index →
        tree.isDirectoryNode index = true) := by
  obtain ⟨_, checked, located⟩ := ok_of_bind located
  obtain ⟨walked, led, located⟩ := ok_of_bind located
  split at located
  · obtain ⟨_, thrown, _⟩ := ok_of_bind located
    cases thrown
  · rename_i fits
    cases located
    refine ⟨checked, walked, led, rfl, ?_⟩
    intro slashed index there
    simpa [slashed, there] using fits

theorem find_eq_ok_iff : tree.find cwd path follow = .ok node ↔
    checkPath path = .ok () ∧ (isSlashed path = true → tree.isDirectoryNode node = true) ∧
      ∃ location, location.node? = some node ∧
        tree.walk (follow || isSlashed path) maxLinks (startOf cwd path) (steps path) =
          .ok location := by
  constructor
  · intro found
    obtain ⟨location, located, found⟩ := ok_of_bind found
    obtain ⟨checked, walked, led, rfl, fits⟩ := locate_eq_ok located
    cases there : walked.node? with
    | none =>
        simp only [there] at found
        cases found
    | some index =>
        simp only [there] at found
        cases found
        exact ⟨checked, fun slashed => fits slashed node there, walked, there, led⟩
  · rintro ⟨checked, fits, location, there, led⟩
    have fits' : (isSlashed path && location.node?.any (!tree.isDirectoryNode ·)) = false := by
      cases slashed : isSlashed path with
      | false => rfl
      | true => simp [there, fits slashed]
    rw [find, locate, checked, ok_bind]
    dsimp only
    rw [led, ok_bind, fits', if_neg Bool.false_ne_true]
    simp only [there, pure_bind]
    rfl

end FileTree

end Bundler.Machine
