import Bundler.Proofs.Machine.Walks

/-!
Changes of a tree that leave a file alone. The file keeps its content and its names, and the paths
that lead to it still do; after most changes, no others do.
-/

namespace Bundler.Machine.FileTree

variable {lost fresh : Nat → Prop} {tree before between after : FileTree} {file index cwd : Nat}

/-! The contents of changed trees. -/

theorem content?_setContent (tree : FileTree) (index : Nat) (content : Content) (now other : Nat) :
    (tree.setContent index content now).content? other =
      if other = index then (tree.content? index).map fun _ => content
      else tree.content? other := by
  simp only [content?, setContent, Array.getElem?_modify]
  by_cases same : index = other
  · subst same
    simp [Function.comp_def]
  · simp [same, Ne.symm same]

theorem content?_setMode (tree : FileTree) (index mode other : Nat) :
    (tree.setMode index mode).content? other = tree.content? other := by
  simp only [content?, setMode, Array.getElem?_modify]
  by_cases same : index = other
  · subst same
    simp [Function.comp_def]
  · simp [same]

theorem lookup_filter (entries : List (String × Nat)) (name other : String) :
    (entries.filter (·.1 ≠ name)).lookup other =
      if other = name then none else entries.lookup other := by
  induction entries with
  | nil => simp
  | cons entry entries ih =>
      obtain ⟨first, below⟩ := entry
      rw [List.filter_cons]
      by_cases kept : first = name
      · subst kept
        by_cases same : other = first
        · simpa [same] using ih
        · simpa [same, List.lookup_cons, beq_false_of_ne same] using ih
      · by_cases same : other = first
        · subst same
          simp [kept]
        · simpa [kept, List.lookup_cons, beq_false_of_ne same] using ih

theorem entries_eq {parent : Nat} {entries : List (String × Nat)}
    (here : tree.content? index = some (.directory parent entries)) :
    tree.entries index = entries := by
  simp [FileTree.entries, here]

theorem directory_of_lookup {name : String}
    (entry : (tree.entries index).lookup name = some file) :
    ∃ parent entries, tree.content? index = some (.directory parent entries) ∧
      entries.lookup name = some file := by
  unfold entries at entry
  split at entry
  · rename_i parent entries here
    exact ⟨parent, entries, here, entry⟩
  · cases entry

theorem ne_size {content : Content} (here : tree.content? index = some content) :
    index ≠ tree.nodes.size := by
  rintro rfl
  simp [content?] at here

/-! Changes of one node. -/

theorem Keeps.of_leaf (lost : Nat → Prop) (leaf : before.IsLeaf index)
    (leaf' : ∀ target, after.content? index ≠ some (.link target))
    (same : ∀ other, other ≠ index → after.content? other = before.content? other) :
    Keeps lost before after where
  directory := by
    intro other parent entries here
    have distinct : other ≠ index := by
      rintro rfl
      cases leaf _ here
    exact ⟨entries, (same other distinct).trans here, fun _ _ _ found => found⟩
  link := by
    intro other target
    by_cases distinct : other = index
    · subst distinct
      simp [leaf' target, leaf.not_link target]
    · rw [same other distinct]

theorem Keeps.of_entries {parent : Nat} {entries entries' : List (String × Nat)}
    (here : before.content? index = some (.directory parent entries))
    (here' : after.content? index = some (.directory parent entries'))
    (same : ∀ other, other ≠ index → after.content? other = before.content? other)
    (kept : ∀ name below, ¬lost below → entries.lookup name = some below →
      entries'.lookup name = some below) : Keeps lost before after where
  directory := by
    intro other parent' others there
    by_cases distinct : other = index
    · subst distinct
      cases here.symm.trans there
      exact ⟨entries', here', kept⟩
    · exact ⟨others, (same other distinct).trans there, fun _ _ _ found => found⟩
  link := by
    intro other target
    by_cases distinct : other = index
    · subst distinct
      simp [here, here']
    · rw [same other distinct]

theorem Keeps.trans (first : Keeps lost before between) (second : Keeps lost between after) :
    Keeps lost before after where
  directory := by
    intro index parent entries here
    obtain ⟨_, there, kept⟩ := first.directory here
    obtain ⟨entries', there', kept'⟩ := second.directory there
    exact ⟨entries', there', fun name below spared found =>
      kept' name below spared (kept name below spared found)⟩
  link := second.link.trans first.link

theorem Keeps.entry (keeps : Keeps lost before after) {name : String} (spared : ¬lost file)
    (named : (before.entries index).lookup name = some file) :
    (after.entries index).lookup name = some file := by
  obtain ⟨parent, entries, here, found⟩ := directory_of_lookup named
  obtain ⟨entries', here', kept⟩ := keeps.directory here
  rw [entries_eq here']
  exact kept name file spared found

/-! Files that are left alone. -/

def IsSimple (tree : FileTree) (index : Nat) : Prop :=
  ∃ content, tree.content? index = some content ∧
    ∀ parent entries, content ≠ .directory parent entries

def IsFile (tree : FileTree) (index : Nat) : Prop :=
  ∃ node, tree.nodes[index]? = some node ∧ node.isFile = true

theorem isFile_iff : tree.IsFile file ↔
    (∃ bytes, tree.content? file = some (.file bytes)) ∨
      ∃ name, tree.content? file = some (.program name) := by
  unfold IsFile content?
  cases tree.nodes[file]? with
  | none => simp
  | some node => cases content : node.content <;> simp [Node.isFile, content]

theorem IsFile.isLeaf (isFile : tree.IsFile file) : tree.IsLeaf file := by
  intro content there
  obtain ⟨bytes, here⟩ | ⟨name, here⟩ := isFile_iff.mp isFile
  · cases here.symm.trans there
    rfl
  · cases here.symm.trans there
    rfl

theorem IsFile.isSimple (isFile : tree.IsFile file) : tree.IsSimple file := by
  obtain ⟨bytes, here⟩ | ⟨name, here⟩ := isFile_iff.mp isFile
  · exact ⟨_, here, by simp⟩
  · exact ⟨_, here, by simp⟩

theorem IsSimple.ne_size (simple : tree.IsSimple file) : file ≠ tree.nodes.size := by
  obtain ⟨_, here, _⟩ := simple
  exact FileTree.ne_size here

theorem IsSimple.ne_directory {directory parent : Nat} {entries : List (String × Nat)}
    (simple : tree.IsSimple file)
    (here : tree.content? directory = some (.directory parent entries)) : file ≠ directory := by
  rintro rfl
  obtain ⟨content, there, noDirectory⟩ := simple
  exact noDirectory parent entries (Option.some.inj (there.symm.trans here))

/-- A node has the content and the names that it had before. -/
structure Stays (file : Nat) (before after : FileTree) : Prop where
  content_eq : after.content? file = before.content? file
  entry {directory : Nat} {name : String} :
    (before.entries directory).lookup name = some file →
      (after.entries directory).lookup name = some file

/-- Besides, the paths that led to it do so. -/
structure Spares (file : Nat) (before after : FileTree) : Prop extends
    Stays file before after where
  led {follow : Bool} {links index : Nat} {names : List String} {location : Location} :
    before.walk follow links index names = .ok location → location.node? = some file →
      after.walk follow links index names = .ok location

/-- Besides, no other paths lead to it, and there are no new links. -/
structure Avoids (file : Nat) (before after : FileTree) : Prop extends
    Spares file before after where
  link {index : Nat} {target : String} :
    after.content? index = some (.link target) → before.content? index = some (.link target)
  leads {follow : Bool} {links index : Nat} {names : List String} {location : Location} :
    after.walk follow links index names = .ok location → location.node? = some file →
      before.walk follow links index names = .ok location

theorem Spares.refl (file : Nat) (tree : FileTree) : Spares file tree tree :=
  ⟨⟨rfl, id⟩, fun led _ => led⟩

theorem Spares.isSimple (spares : Spares file before after) (simple : before.IsSimple file) :
    after.IsSimple file := by
  rwa [IsSimple, spares.content_eq]

theorem Spares.isFile_iff (spares : Spares file before after) :
    after.IsFile file ↔ before.IsFile file := by
  rw [FileTree.isFile_iff, spares.content_eq, ← FileTree.isFile_iff]

theorem Stays.trans (first : Stays file before between) (second : Stays file between after) :
    Stays file before after where
  content_eq := second.content_eq.trans first.content_eq
  entry named := second.entry (first.entry named)

theorem Spares.trans (first : Spares file before between) (second : Spares file between after) :
    Spares file before after where
  toStays := first.toStays.trans second.toStays
  led led there := second.led (first.led led there) there

theorem Avoids.refl (file : Nat) (tree : FileTree) : Avoids file tree tree :=
  ⟨.refl file tree, id, fun led _ => led⟩

theorem Avoids.trans (first : Avoids file before between) (second : Avoids file between after) :
    Avoids file before after where
  toSpares := first.toSpares.trans second.toSpares
  link there := first.link (second.link there)
  leads led there := first.leads (second.leads led there) there

theorem Keeps.spares (keeps : Keeps lost before after)
    (leaves : ∀ index, lost index → before.IsLeaf index) (spared : ¬lost file)
    (content_eq : after.content? file = before.content? file) : Spares file before after where
  content_eq := content_eq
  entry named := keeps.entry spared named
  led led there := keeps.walk leaves led there spared

theorem Spares.avoids (spares : Spares file before after) (back : Keeps fresh after before)
    (leaves : ∀ index, fresh index → after.IsLeaf index) (old : ¬fresh file) :
    Avoids file before after where
  toSpares := spares
  link := back.link.mpr
  leads led there := back.walk leaves led there old

theorem Spares.find (spares : Spares file before after) {path : String} {follow : Bool}
    (found : before.find cwd path follow = .ok file) : after.find cwd path follow = .ok file := by
  obtain ⟨checked, fits, location, there, led⟩ := find_eq_ok_iff.mp found
  refine find_eq_ok_iff.mpr ⟨checked, ?_, location, there, spares.led led there⟩
  simpa only [isDirectoryNode, spares.content_eq] using fits

theorem Avoids.find_iff (avoids : Avoids file before after) {path : String} {follow : Bool} :
    after.find cwd path follow = .ok file ↔ before.find cwd path follow = .ok file := by
  refine ⟨fun found => ?_, avoids.find⟩
  obtain ⟨checked, fits, location, there, led⟩ := find_eq_ok_iff.mp found
  refine find_eq_ok_iff.mpr ⟨checked, ?_, location, there, avoids.leads led there⟩
  simpa only [isDirectoryNode, avoids.content_eq] using fits

/-! Elementary changes. -/

theorem content?_setEntries {parent : Nat} {entries : List (String × Nat)}
    (here : tree.content? index = some (.directory parent entries))
    (entries' : List (String × Nat)) (now other : Nat) :
    (tree.setEntries index entries' now).content? other =
      if other = index then some (.directory parent entries') else tree.content? other := by
  simp [setEntries, content?_setContent, here, FileTree.parent]

theorem Avoids.of_same (file : Nat)
    (same : ∀ other, after.content? other = before.content? other) : Avoids file before after := by
  have keeps : Keeps (fun _ => False) before after :=
    ⟨fun here => ⟨_, (same _).trans here, fun _ _ _ found => found⟩, by simp [same]⟩
  have back : Keeps (fun _ => False) after before :=
    ⟨fun here => ⟨_, (same _).symm.trans here, fun _ _ _ found => found⟩, by simp [same]⟩
  exact (keeps.spares (by simp) id (same file)).avoids back (by simp) id

variable {directory parent : Nat} {name : String} {entries : List (String × Nat)}
  {content : Content}

theorem Avoids.setContent (leaf : tree.IsLeaf index) (leaf' : content.isLeaf = true)
    (apart : index ≠ file) (now : Nat) : Avoids file tree (tree.setContent index content now) := by
  have changed : (tree.setContent index content now).IsLeaf index := by
    intro content' here
    rw [content?_setContent, if_pos rfl, Option.map_eq_some_iff] at here
    obtain ⟨_, _, rfl⟩ := here
    exact leaf'
  have same (other : Nat) (distinct : other ≠ index) :
      (tree.setContent index content now).content? other = tree.content? other := by
    rw [content?_setContent, if_neg distinct]
  have keeps : Keeps (fun _ => False) tree (tree.setContent index content now) :=
    .of_leaf _ leaf changed.not_link same
  have back : Keeps (fun _ => False) (tree.setContent index content now) tree :=
    .of_leaf _ changed leaf.not_link fun other distinct => (same other distinct).symm
  exact (keeps.spares (by simp) id (same file apart.symm)).avoids back (by simp) id

theorem content?_unbind (here : tree.content? directory = some (.directory parent entries))
    (name : String) (now other : Nat) :
    (tree.unbind directory name now).content? other =
      if other = directory then some (.directory parent (entries.filter (·.1 ≠ name)))
      else tree.content? other := by
  rw [unbind, entries_eq here, content?_setEntries here]

theorem Keeps.unbind (here : tree.content? directory = some (.directory parent entries))
    (named : entries.lookup name = some index) (now : Nat) :
    Keeps (· = index) tree (tree.unbind directory name now) := by
  refine .of_entries here (by rw [content?_unbind here, if_pos rfl])
    (fun other distinct => by rw [content?_unbind here, if_neg distinct]) ?_
  intro other below spared found
  rw [lookup_filter, if_neg ?_]
  · exact found
  · rintro rfl
    exact spared (Option.some.inj (found.symm.trans named))

theorem Avoids.unbind (here : tree.content? directory = some (.directory parent entries))
    (named : entries.lookup name = some index) (leaf : tree.IsLeaf index) (apart : index ≠ file)
    (simple : tree.IsSimple file) (now : Nat) :
    Avoids file tree (tree.unbind directory name now) := by
  have same (other : Nat) (distinct : other ≠ directory) :
      (tree.unbind directory name now).content? other = tree.content? other := by
    rw [content?_unbind here, if_neg distinct]
  have back : Keeps (fun _ => False) (tree.unbind directory name now) tree := by
    refine .of_entries (by rw [content?_unbind here, if_pos rfl]) here
      (fun other distinct => (same other distinct).symm) ?_
    intro other below _ found
    rw [lookup_filter] at found
    split at found
    · cases found
    · exact found
  have content_eq := same file (simple.ne_directory here)
  refine ((Keeps.unbind here named now).spares ?_ apart.symm content_eq).avoids back (by simp) id
  rintro _ rfl
  exact leaf

def pushed (tree : FileTree) (node : Node) : FileTree where
  nodes := tree.nodes.push node

theorem content?_pushed (node : Node) (other : Nat) :
    (tree.pushed node).content? other =
      if other = tree.nodes.size then some node.content else tree.content? other := by
  simp only [content?, pushed, Array.getElem?_push]
  split <;> rfl

theorem content?_pushed_of_some {other : Nat} {content : Content} (node : Node)
    (here : tree.content? other = some content) :
    (tree.pushed node).content? other = some content := by
  rw [content?_pushed, if_neg (ne_size here), here]

theorem add_eq (directory : Nat) (name : String) (content : Content) (mode now : Nat) :
    (tree.add directory name content mode now).2 =
      (tree.pushed ⟨content, mode, now⟩).bind directory name tree.nodes.size now := rfl

theorem content?_bind (here : tree.content? directory = some (.directory parent entries))
    (name : String) (index now other : Nat) :
    (tree.bind directory name index now).content? other =
      if other = directory then
        some (.directory parent ((name, index) :: entries.filter (·.1 ≠ name)))
      else tree.content? other := by
  rw [bind, entries_eq here, content?_setEntries here]

theorem lookup_bound (entries : List (String × Nat)) (name other : String) (index : Nat) :
    ((name, index) :: entries.filter (·.1 ≠ name)).lookup other =
      if other = name then some index else entries.lookup other := by
  by_cases same : other = name
  · subst same
    simp
  · rw [List.lookup_cons, beq_false_of_ne same, lookup_filter, if_neg same, if_neg same]

theorem Keeps.bind (lost : Nat → Prop)
    (here : tree.content? directory = some (.directory parent entries))
    (free : entries.lookup name = none) (index now : Nat) :
    Keeps lost tree (tree.bind directory name index now) := by
  refine .of_entries here (by rw [content?_bind here, if_pos rfl])
    (fun other distinct => by rw [content?_bind here, if_neg distinct]) ?_
  intro other below _ found
  rw [lookup_bound, if_neg ?_]
  · exact found
  · rintro rfl
    cases found.symm.trans free

theorem isLeaf_size (tree : FileTree) : tree.IsLeaf tree.nodes.size := by
  intro content here
  exact absurd rfl (ne_size here)

theorem Spares.add (here : tree.content? directory = some (.directory parent entries))
    (free : entries.lookup name = none) (noLink : ∀ target, content ≠ .link target)
    (simple : tree.IsSimple file) (mode now : Nat) :
    Spares file tree (tree.add directory name content mode now).2 := by
  have here' := content?_pushed_of_some ⟨content, mode, now⟩ here
  have push : Keeps (fun _ => False) tree (tree.pushed ⟨content, mode, now⟩) := by
    refine .of_leaf _ tree.isLeaf_size ?_ fun other distinct => by
      rw [content?_pushed, if_neg distinct]
    intro target link
    rw [content?_pushed, if_pos rfl] at link
    exact noLink target (Option.some.inj link)
  refine (push.trans (.bind _ here' free tree.nodes.size now)).spares (by simp) id ?_
  rw [content?_bind here', if_neg (simple.ne_directory here), content?_pushed,
    if_neg simple.ne_size]

theorem Avoids.add (here : tree.content? directory = some (.directory parent entries))
    (free : entries.lookup name = none) (leaf : content.isLeaf = true)
    (simple : tree.IsSimple file) (mode now : Nat) :
    Avoids file tree (tree.add directory name content mode now).2 := by
  have noLink : ∀ target, content ≠ .link target := by
    rintro target rfl
    cases leaf
  have here' := content?_pushed_of_some ⟨content, mode, now⟩ here
  have made : (tree.pushed ⟨content, mode, now⟩).IsLeaf tree.nodes.size := by
    intro content' here
    rw [content?_pushed, if_pos rfl] at here
    cases here
    exact leaf
  have pop : Keeps (· = tree.nodes.size) (tree.pushed ⟨content, mode, now⟩) tree :=
    .of_leaf _ made tree.isLeaf_size.not_link fun other distinct => by
      rw [content?_pushed, if_neg distinct]
  have release : Keeps (· = tree.nodes.size) (tree.add directory name content mode now).2
      (tree.pushed ⟨content, mode, now⟩) := by
    refine .of_entries (by rw [add_eq, content?_bind here', if_pos rfl]) here'
      (fun other distinct => by rw [add_eq, content?_bind here', if_neg distinct]) ?_
    intro other below old found
    rw [lookup_bound] at found
    split at found
    · exact absurd (Option.some.inj found).symm old
    · exact found
  refine (Spares.add here free noLink simple mode now).avoids (release.trans pop) ?_ simple.ne_size
  rintro _ rfl
  intro content' there
  rw [add_eq, content?_bind here', if_neg (ne_size here).symm] at there
  exact made content' there

end Bundler.Machine.FileTree
