import Bundler.Source.ModulePath
import Mathlib.Data.List.TakeWhile

/-!
Normal names of paths. A key keeps of a path whether it starts at the root and its normal names,
and nothing else.
-/

namespace Bundler.Path

theorem not_mem_of_mem_splitOn {chars name : List Char} {slash : Char}
    (member : name ∈ chars.splitOn slash) : slash ∉ name := by
  induction chars generalizing name with
  | nil =>
      simp only [List.splitOn_nil, List.mem_singleton] at member
      simp [member]
  | cons c chars ih =>
      rw [List.splitOn_cons_eq_if_modifyHead] at member
      by_cases same : c = slash
      · simp only [same, beq_self_eq_true, ↓reduceIte, List.mem_cons] at member
        rcases member with rfl | later
        · simp
        · exact ih later
      · simp only [beq_iff_eq, same, ↓reduceIte] at member
        cases parts : chars.splitOn slash with
        | nil => exact absurd parts (List.splitOn_ne_nil slash chars)
        | cons first rest =>
            rw [parts] at ih
            rw [parts, List.modifyHead_cons, List.mem_cons] at member
            rcases member with rfl | later
            · have clean := ih List.mem_cons_self
              simp [clean, Ne.symm same]
            · exact ih (List.mem_cons_of_mem _ later)

theorem slash_not_mem_of_mem_names {path name : String} (member : name ∈ names path) :
    '/' ∉ name.toList := by
  obtain ⟨chars, charsMember, rfl⟩ := List.mem_map.mp member
  rw [String.toList_ofList]
  exact not_mem_of_mem_splitOn charsMember

theorem names_of_no_slash {path : String} (clean : '/' ∉ path.toList) : names path = [path] := by
  rw [names, List.splitOn_eq_singleton clean, List.map_singleton, String.ofList_toList]

theorem names_append_slash (above below : List Char) :
    names (String.ofList (above ++ '/' :: below)) =
      names (String.ofList above) ++ names (String.ofList below) := by
  simp only [names, String.toList_ofList, List.splitOn_append_cons_self, List.map_append]

/-- A path of a directory, to which names can be appended. -/
def IsBase (base : String) : Prop :=
  base = "" ∨ ∃ above, base = String.ofList (above ++ ['/'])

theorem IsBase.isAbsolute_append {base : String} (isBase : IsBase base) {path : String}
    (relative : isAbsolute path = false) : isAbsolute (base ++ path) = isAbsolute base := by
  rcases isBase with rfl | ⟨above, rfl⟩
  · rw [String.empty_append, relative]
    rfl
  · cases above <;> simp [isAbsolute]

end Bundler.Path

namespace Bundler.Source

open Bundler.Path (IsBase)

/-! Directories and files. -/

theorem directoryPart_append_filePart (path : String) :
    directoryPart path ++ filePart path = path := by
  rw [directoryPart, filePart, ← String.ofList_append, ← List.reverse_append,
    List.takeWhile_append_dropWhile, List.reverse_reverse, String.ofList_toList]

theorem slash_not_mem_filePart (path : String) : '/' ∉ (filePart path).toList := by
  rw [filePart, String.toList_ofList, List.mem_reverse]
  intro member
  have kept := List.mem_takeWhile_imp member
  simp at kept

theorem isBase_directoryPart (path : String) : IsBase (directoryPart path) := by
  unfold directoryPart
  cases rest : path.toList.reverse.dropWhile (· ≠ '/') with
  | nil => exact .inl rfl
  | cons c above =>
      have stop := List.head?_dropWhile_not (· ≠ '/') path.toList.reverse
      rw [rest] at stop
      have slash : c = '/' := by simpa using stop
      exact .inr ⟨above.reverse, by simp [slash]⟩

theorem filePart_append {base : String} (isBase : IsBase base) (path : String) :
    filePart (base ++ path) = filePart path := by
  rcases isBase with rfl | ⟨above, rfl⟩
  · rw [String.empty_append]
  · simp only [filePart, String.toList_append, String.toList_ofList, List.reverse_append,
      List.reverse_cons, List.reverse_nil, List.nil_append, List.cons_append]
    rw [List.takeWhile_append]
    split
    · rename_i whole
      rw [(List.takeWhile_prefix _).eq_of_length whole]
      simp
    · rfl

theorem hasExtension_append {base : String} (isBase : IsBase base) (path : String) :
    hasExtension (base ++ path) = hasExtension path := by
  rw [hasExtension, filePart_append isBase, hasExtension]

theorem isAbsolute_eq_false_of_no_slash {path : String} (clean : '/' ∉ path.toList) :
    Path.isAbsolute path = false := by
  rw [Path.isAbsolute]
  cases chars : path.toList with
  | nil => rfl
  | cons c rest =>
      rw [chars] at clean
      simp only [List.mem_cons, not_or] at clean
      simp [Ne.symm clean.1]

theorem isAbsolute_directoryPart (path : String) :
    Path.isAbsolute (directoryPart path) = Path.isAbsolute path := by
  have relative := isAbsolute_eq_false_of_no_slash (slash_not_mem_filePart path)
  rw [← (isBase_directoryPart path).isAbsolute_append relative, directoryPart_append_filePart]

end Bundler.Source

namespace Bundler.Source.ModulePath

open Bundler.Path (IsBase names)

/-! Reading paths onto normal paths. -/

/-- Reading all names of a path onto a normal path, last name first. -/
def normalRead (absolute : Bool) (above : List String) (path : String) : List String :=
  (names path).foldl (normalStep absolute) above

theorem normalNames_eq (path : String) :
    normalNames path = (normalRead (Path.isAbsolute path) [] path).reverse := rfl

theorem normalRead_append {base : String} (isBase : IsBase base) (absolute : Bool)
    (above : List String) (path : String) :
    normalRead absolute above (base ++ path) =
      normalRead absolute (normalRead absolute above base) path := by
  have idle : ∀ names, normalStep absolute names "" = names := by simp [normalStep]
  have empty : names "" = [""] := Path.names_of_no_slash (by simp)
  rcases isBase with rfl | ⟨directory, rfl⟩
  · simp [normalRead, empty, idle]
  · have whole : String.ofList (directory ++ ['/']) ++ path =
        String.ofList (directory ++ '/' :: path.toList) := by
      simp [← String.toList_inj]
    simp only [normalRead, whole, Path.names_append_slash, String.ofList_toList,
      String.ofList_nil, empty, List.foldl_append, List.foldl_cons, List.foldl_nil, idle]

/-- A path that names nothing below its directory: its last component is a dot or two. -/
def EndsInDots (path : String) : Prop :=
  filePart path = "." ∨ filePart path = ".."

instance (path : String) : Decidable (EndsInDots path) :=
  inferInstanceAs (Decidable (_ ∨ _))

def Named (path : ModulePath) : Prop :=
  ¬EndsInDots path.text

instance (path : ModulePath) : Decidable path.Named :=
  inferInstanceAs (Decidable (¬_))

theorem filePart_ne_empty (path : ModulePath) : filePart path.text ≠ "" := by
  intro empty
  have extended := path.extended
  rw [hasExtension, empty] at extended
  simp at extended

theorem text_ne_empty (path : ModulePath) : path.text ≠ "" := by
  intro empty
  apply path.filePart_ne_empty
  rw [empty]
  rfl

theorem Named.normalRead_text {path : ModulePath} (named : path.Named) (absolute : Bool) :
    normalRead absolute [] path.text =
      filePart path.text :: normalRead absolute [] (directoryPart path.text) := by
  have whole := directoryPart_append_filePart path.text
  have file := Path.names_of_no_slash (slash_not_mem_filePart path.text)
  have below := normalRead_append (isBase_directoryPart path.text) absolute [] (filePart path.text)
  rw [whole] at below
  simp only [Named, EndsInDots, not_or] at named
  rw [below]
  generalize normalRead absolute [] (directoryPart path.text) = above
  simp [normalRead, file, normalStep, named, filePart_ne_empty]

/-! What a key keeps of a path. -/

def IsName (name : String) : Prop :=
  name ≠ "" ∧ '/' ∉ name.toList

theorem isName_of_mem_normalStep {absolute : Bool} {above : List String} {name : String}
    (inside : ∀ other ∈ above, IsName other) (clean : '/' ∉ name.toList) :
    ∀ other ∈ normalStep absolute above name, IsName other := by
  unfold normalStep
  split
  · exact inside
  · split
    · split
      · split
        · intro other member
          exact inside other (List.mem_cons_of_mem _ member)
        · split
          · exact inside
          · simpa [IsName] using inside
      · cases absolute <;> simp [IsName]
    · rename_i idle parent
      intro other member
      rcases List.mem_cons.mp member with rfl | earlier
      · exact ⟨fun empty => idle (.inl empty), clean⟩
      · exact inside other earlier

theorem isName_of_mem_normalNames (path : String) :
    ∀ name ∈ normalNames path, IsName name := by
  suffices folded : ∀ (absolute : Bool) (below above : List String),
      (∀ name ∈ below, '/' ∉ name.toList) → (∀ name ∈ above, IsName name) →
      ∀ name ∈ below.foldl (normalStep absolute) above, IsName name by
    intro name member
    rw [normalNames, List.mem_reverse] at member
    exact folded _ _ [] (fun _ => Path.slash_not_mem_of_mem_names) (by simp) name member
  intro absolute below
  induction below with
  | nil =>
      intro above _ inside
      exact inside
  | cons name below ih =>
      intro above clean inside
      exact ih _ (fun other member => clean other (List.mem_cons_of_mem _ member))
        (isName_of_mem_normalStep inside (clean name List.mem_cons_self))

theorem isAbsolute_intercalate {parts : List String} (inside : ∀ name ∈ parts, IsName name) :
    Path.isAbsolute (String.intercalate "/" parts) = false := by
  cases parts with
  | nil => rfl
  | cons first rest =>
      have isName := inside first List.mem_cons_self
      cases chars : first.toList with
      | nil => exact absurd (String.toList_eq_nil_iff.mp chars) isName.1
      | cons c below =>
          rw [IsName, chars] at isName
          simp only [List.mem_cons, not_or] at isName
          cases rest <;>
            simp [Path.isAbsolute, String.toList_intercalate, List.intercalate, chars,
              Ne.symm isName.2.1]

theorem filter_names_intercalate {parts : List String} (inside : ∀ name ∈ parts, IsName name) :
    (names (String.intercalate "/" parts)).filter (· ≠ "") = parts := by
  have kept : parts.filter (· ≠ "") = parts := by
    rw [List.filter_eq_self]
    intro name member
    simpa using (inside name member).1
  cases parts with
  | nil => simp [names]
  | cons first rest =>
      have split : names (String.intercalate "/" (first :: rest)) = first :: rest := by
        have clean : ∀ chars ∈ (first :: rest).map String.toList, '/' ∉ chars := by
          intro chars member
          obtain ⟨name, nameMember, rfl⟩ := List.mem_map.mp member
          exact (inside name nameMember).2
        have slash : "/".toList = ['/'] := rfl
        rw [names, String.toList_intercalate, slash,
          List.splitOn_intercalate '/' clean (by simp), List.map_map]
        simp [Function.comp_def]
      rw [split, kept]

theorem isAbsolute_key (path : ModulePath) :
    Path.isAbsolute path.key = Path.isAbsolute path.text := by
  rw [key]
  cases absolute : Path.isAbsolute path.text with
  | true => simp [Path.isAbsolute, String.toList_append]
  | false => simpa using isAbsolute_intercalate (isName_of_mem_normalNames path.text)

theorem filter_names_key (path : ModulePath) :
    (names path.key).filter (· ≠ "") = normalNames path.text := by
  have normal := filter_names_intercalate (isName_of_mem_normalNames path.text)
  rw [key]
  cases absolute : Path.isAbsolute path.text with
  | false => simpa using normal
  | true =>
      generalize String.intercalate "/" (normalNames path.text) = below at normal
      have rooted : "/" ++ below = String.ofList ([] ++ '/' :: below.toList) := by
        simp
      rw [if_pos rfl, rooted, Path.names_append_slash, String.ofList_toList, List.filter_append,
        normal, String.ofList_nil, Path.names_of_no_slash (by simp)]
      rfl

/-- Two paths have one key just when they have one normal path and start at one place. -/
theorem key_eq_iff {path other : ModulePath} : path.key = other.key ↔
    Path.isAbsolute path.text = Path.isAbsolute other.text ∧
      normalNames path.text = normalNames other.text := by
  constructor
  · intro same
    rw [← isAbsolute_key path, ← isAbsolute_key other, ← filter_names_key path,
      ← filter_names_key other, same]
    exact ⟨rfl, rfl⟩
  · rintro ⟨absolute, normal⟩
    rw [key, key, absolute, normal]

/-! Resolving specifiers. -/

theorem ofRaw_append {base : String} (isBase : IsBase base) (raw : String) :
    (ofRaw (base ++ raw)).text = base ++ (ofRaw raw).text := by
  have same := hasExtension_append isBase raw
  by_cases extended : hasExtension raw
  · simp [ofRaw, same, extended]
  · simp [ofRaw, same, extended, String.append_assoc]

theorem isAbsolute_ofRaw (raw : String) :
    Path.isAbsolute (ofRaw raw).text = Path.isAbsolute raw := by
  by_cases extended : hasExtension raw
  · simp [ofRaw, extended]
  · cases chars : raw.toList <;>
      simp [ofRaw, extended, Path.isAbsolute, String.toList_append, chars, defaultExtension]

theorem key_resolve_eq {path other : ModulePath} (named : path.Named) (otherNamed : other.Named)
    (same : path.key = other.key) (specifier : String) :
    (resolve path.baseDir specifier).key = (resolve other.baseDir specifier).key := by
  by_cases absolute : Path.isAbsolute specifier = true
  · rw [resolve, resolve, if_pos absolute, if_pos absolute]
  · obtain ⟨anchor, normal⟩ := key_eq_iff.mp same
    rw [normalNames_eq, normalNames_eq, List.reverse_inj, named.normalRead_text,
      otherNamed.normalRead_text, List.cons.injEq, anchor] at normal
    have relative : Path.isAbsolute (ofRaw specifier).text = false := by
      rw [isAbsolute_ofRaw]
      simpa using absolute
    have base := isBase_directoryPart path.text
    have otherBase := isBase_directoryPart other.text
    rw [resolve, resolve, if_neg absolute, if_neg absolute, key_eq_iff, baseDir, baseDir,
      ofRaw_append base, ofRaw_append otherBase, base.isAbsolute_append relative,
      otherBase.isAbsolute_append relative, isAbsolute_directoryPart, isAbsolute_directoryPart]
    refine ⟨anchor, ?_⟩
    rw [normalNames_eq, normalNames_eq, base.isAbsolute_append relative,
      otherBase.isAbsolute_append relative, isAbsolute_directoryPart, isAbsolute_directoryPart,
      normalRead_append base, normalRead_append otherBase, anchor, normal.2]

/-- The directory of a path that ends in dots is not the one that holds what its key names. -/
example :
    (ofRaw "a/..").key = (ofRaw ".").key ∧
      (resolve (ofRaw "a/..").baseDir "m").key ≠ (resolve (ofRaw ".").baseDir "m").key := by
  decide +kernel

theorem EndsInDots.getLast? {path : String} (dots : EndsInDots path) :
    path.toList.getLast? = some '.' := by
  rw [← directoryPart_append_filePart path, String.toList_append]
  rcases dots with dot | dots
  · simp [dot]
  · simp [dots]

theorem named_ofRaw {raw : String} (proper : ¬EndsInDots raw) : (ofRaw raw).Named := by
  by_cases extended : hasExtension raw
  · simpa [Named, ofRaw, extended] using proper
  · intro dots
    have last := dots.getLast?
    simp [ofRaw, extended, defaultExtension, String.toList_append] at last

theorem named_resolve {base specifier : String} (isBase : IsBase base)
    (proper : ¬EndsInDots specifier) : (resolve base specifier).Named := by
  unfold resolve
  split
  · exact named_ofRaw proper
  · apply named_ofRaw
    rwa [EndsInDots, filePart_append isBase]

/-! Candidates. -/

theorem climb_zero (path : String) : climb 0 path = path := by
  simp [climb]

theorem climb_succ (levels : Nat) (path : String) :
    climb (levels + 1) path = "../" ++ climb levels path := by
  simp [climb, List.replicate_succ, String.append_assoc]

theorem isBase_parent : IsBase "../" :=
  .inr ⟨['.', '.'], rfl⟩

/-- The path at which a module is looked for from the directory so many levels up. -/
def climbed (levels : Nat) (path : ModulePath) : ModulePath where
  text := climb levels path.text
  extended := by
    induction levels with
    | zero => simpa [climb_zero] using path.extended
    | succ levels ih => rwa [climb_succ, hasExtension_append isBase_parent]

theorem normalStep_parents {parents : List String} (all : ∀ name ∈ parents, name = "..")
    (above : List String) (name : String) :
    normalStep false (above ++ parents) name = normalStep false above name ++ parents := by
  unfold normalStep
  by_cases idle : name = "" ∨ name = "."
  · rw [if_pos idle, if_pos idle]
  · rw [if_neg idle, if_neg idle]
    by_cases up : name = ".."
    · rw [if_pos up, if_pos up]
      cases above with
      | cons last above => by_cases parent : last = ".." <;> simp [parent]
      | nil =>
          cases parents with
          | nil => rfl
          | cons first rest => simp [all first List.mem_cons_self]
    · rw [if_neg up, if_neg up, List.cons_append]

theorem normalRead_parents {parents : List String} (all : ∀ name ∈ parents, name = "..")
    (above : List String) (path : String) :
    normalRead false (above ++ parents) path = normalRead false above path ++ parents := by
  unfold normalRead
  induction names path generalizing above with
  | nil => rfl
  | cons name names ih => rw [List.foldl_cons, normalStep_parents all, ih, List.foldl_cons]

theorem normalNames_parent {path : String} (relative : Path.isAbsolute path = false) :
    normalNames ("../" ++ path) = ".." :: normalNames path := by
  have parent : normalRead false [] "../" = [] ++ [".."] := by decide +kernel
  have absolute : Path.isAbsolute "../" = false := by decide +kernel
  rw [normalNames_eq, normalNames_eq, isBase_parent.isAbsolute_append relative, absolute, relative,
    normalRead_append isBase_parent, parent, normalRead_parents (by simp), List.reverse_append]
  rfl

theorem isAbsolute_climb {path : String} (relative : Path.isAbsolute path = false)
    (levels : Nat) : Path.isAbsolute (climb levels path) = false := by
  induction levels with
  | zero => rwa [climb_zero]
  | succ levels ih =>
      rw [climb_succ, isBase_parent.isAbsolute_append ih]
      decide +kernel

theorem normalNames_climb {path : String} (relative : Path.isAbsolute path = false)
    (levels : Nat) :
    normalNames (climb levels path) = List.replicate levels ".." ++ normalNames path := by
  induction levels with
  | zero => rw [climb_zero, List.replicate_zero, List.nil_append]
  | succ levels ih =>
      rw [climb_succ, normalNames_parent (isAbsolute_climb relative levels), ih,
        List.replicate_succ, List.cons_append]

theorem key_climbed_eq {path other : ModulePath} (relative : Path.isAbsolute path.text = false)
    (same : path.key = other.key) (levels : Nat) :
    (path.climbed levels).key = (other.climbed levels).key := by
  obtain ⟨anchor, normal⟩ := key_eq_iff.mp same
  have otherRelative : Path.isAbsolute other.text = false := by rw [← anchor, relative]
  rw [key_eq_iff, climbed, climbed, isAbsolute_climb relative, isAbsolute_climb otherRelative,
    normalNames_climb relative, normalNames_climb otherRelative, normal]
  exact ⟨rfl, rfl⟩

/-! What spellings of one path have in common. -/

/-- The path that a specifier in a directory stands for as it is written. -/
def written (base specifier : String) : String :=
  if Path.isAbsolute specifier then specifier else base ++ specifier

def Completes (base specifier : String) : Prop :=
  (resolve base specifier).text = written base specifier ++ defaultExtension

theorem isBase_baseDir (path : ModulePath) : IsBase path.baseDir :=
  isBase_directoryPart path.text

theorem resolve_eq_ofRaw (base specifier : String) :
    resolve base specifier = ofRaw (written base specifier) := by
  unfold resolve written
  split <;> rfl

theorem hasExtension_written {base : String} (isBase : IsBase base) (specifier : String) :
    hasExtension (written base specifier) = hasExtension specifier := by
  unfold written
  split
  · rfl
  · exact hasExtension_append isBase specifier

theorem completes_iff {base : String} (isBase : IsBase base) (specifier : String) :
    Completes base specifier ↔ hasExtension specifier = false := by
  rw [Completes, resolve_eq_ofRaw, ← hasExtension_written isBase]
  generalize written base specifier = raw
  cases extended : hasExtension raw with
  | true =>
      have longer : raw ≠ raw ++ defaultExtension := by
        simp [← String.toList_inj, String.toList_append, defaultExtension]
      simpa [ofRaw, extended] using longer
  | false => simp [ofRaw, extended]

theorem ofRaw_climb (levels : Nat) (path : ModulePath) :
    ofRaw (climb levels path.text) = path.climbed levels :=
  dif_pos (path.climbed levels).extended

/-- Modules with one key, whose paths end in the name of a file, resolve each specifier to one key.
Whether it is given an extension is the same in all directories. If the paths are relative, modules
with one key are looked for at paths with one key from each directory above. -/
theorem resolve_congr {path other : ModulePath} (same : path.key = other.key) :
    (path.Named → other.Named → ∀ specifier,
      (resolve path.baseDir specifier).key = (resolve other.baseDir specifier).key) ∧
    (∀ specifier, Completes path.baseDir specifier ↔ Completes other.baseDir specifier) ∧
    (Path.isAbsolute path.text = false → ∀ levels,
      (ofRaw (climb levels path.text)).key = (ofRaw (climb levels other.text)).key) := by
  refine ⟨fun named otherNamed => key_resolve_eq named otherNamed same, ?_, ?_⟩
  · intro specifier
    rw [completes_iff path.isBase_baseDir, completes_iff other.isBase_baseDir]
  · intro relative levels
    rw [ofRaw_climb, ofRaw_climb]
    exact key_climbed_eq relative same levels

theorem resolve_congr_climbing :
    (ofRaw "x/../lib/./m").key = (ofRaw "lib//m").key ∧
    (resolve (ofRaw "x/../lib/./m").baseDir "../../../up/").key = "../../up/.kooix" ∧
    (resolve (ofRaw "lib//m").baseDir "../../../up/").key = "../../up/.kooix" ∧
    (Completes (ofRaw "x/../lib/./m").baseDir "../../../up/" ↔
      Completes (ofRaw "lib//m").baseDir "../../../up/") ∧
    (ofRaw (climb 2 (ofRaw "x/../lib/./m").text)).key =
      (ofRaw (climb 2 (ofRaw "lib//m").text)).key := by
  have same : (ofRaw "x/../lib/./m").key = (ofRaw "lib//m").key := by decide +kernel
  have above : (resolve (ofRaw "lib//m").baseDir "../../../up/").key = "../../up/.kooix" := by
    decide +kernel
  obtain ⟨resolved, completed, climbed⟩ := resolve_congr same
  have resolved := resolved (by decide +kernel) (by decide +kernel) "../../../up/"
  exact ⟨same, resolved.trans above, above, completed _, climbed (by decide +kernel) 2⟩

end Bundler.Source.ModulePath
