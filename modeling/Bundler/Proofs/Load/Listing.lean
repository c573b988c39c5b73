import Mathlib.Data.List.Forall2
import Mathlib.Logic.Relation

/-!
Loads told by keys alone. `Lists` relates keys that are visited in order, and keys that were met
before, to the modules that are listed on the way. It is about any relation that says what the
module of a key asks for.
-/

namespace Bundler.Source

open Relation (ReflTransGen)

/-- A module as it appears in a unit, whatever the spelling of its path. -/
structure Listed where
  key : String
  text : String
  deriving DecidableEq, Repr

namespace Listed

def without (listing : List Listed) (keys : List String) : List Listed :=
  listing.filter (·.key ∉ keys)

/-- A listing behind another, less what is listed already. -/
def merge (listing more : List Listed) : List Listed :=
  listing ++ without more (listing.map key)

theorem mem_keys_without {listing : List Listed} {keys : List String} {other : String} :
    other ∈ (without listing keys).map key ↔ other ∈ listing.map key ∧ other ∉ keys := by
  simp only [without, List.mem_map, List.mem_filter, decide_eq_true_eq]
  constructor
  · rintro ⟨listed, ⟨member, kept⟩, rfl⟩
    exact ⟨⟨listed, member, rfl⟩, kept⟩
  · rintro ⟨⟨listed, member, rfl⟩, kept⟩
    exact ⟨listed, ⟨member, kept⟩, rfl⟩

theorem without_append (listing more : List Listed) (keys : List String) :
    without (listing ++ more) keys = without listing keys ++ without more keys :=
  List.filter_append listing more

theorem without_cons_of_mem {listed : Listed} {keys : List String} (member : listed.key ∈ keys)
    (listing : List Listed) : without (listed :: listing) keys = without listing keys :=
  List.filter_cons_of_neg (by simpa using member)

theorem without_cons_of_not_mem {listed : Listed} {keys : List String}
    (other : listed.key ∉ keys) (listing : List Listed) :
    without (listed :: listing) keys = listed :: without listing keys :=
  List.filter_cons_of_pos (by simpa using other)

theorem without_nil (listing : List Listed) : without listing [] = listing := by
  simp [without]

theorem without_eq_nil {listing : List Listed} {keys : List String}
    (covered : ∀ other ∈ listing.map key, other ∈ keys) : without listing keys = [] := by
  simp only [without, List.filter_eq_nil_iff, decide_eq_true_eq, not_not]
  intro listed member
  exact covered listed.key (List.mem_map_of_mem member)

end Listed

/-- Keys are visited in order, and the modules that were not met before are listed, each behind
those it asks for. -/
inductive Lists (asks : String → String → List String → Prop) :
    List String → List String → List Listed → Prop
  | nil {met : List String} : Lists asks [] met []
  | again {key : String} {keys met : List String} {listing : List Listed}
      (old : key ∈ met) (rest : Lists asks keys met listing) :
      Lists asks (key :: keys) met listing
  | fresh {key text : String} {keys below met : List String} {inner outer : List Listed}
      (new : key ∉ met) (asked : asks key text below)
      (inside : Lists asks below (key :: met) inner)
      (rest : Lists asks keys (inner.map Listed.key ++ key :: met) outer) :
      Lists asks (key :: keys) met (inner ++ ⟨key, text⟩ :: outer)

variable {asks : String → String → List String → Prop} {keys met : List String}
  {listing : List Listed}

def Wants (asks : String → String → List String → Prop) (key other : String) : Prop :=
  ∃ text below, asks key text below ∧ other ∈ below

/-- A key has at most one text, and asks for the same keys each time. -/
def Functional (asks : String → String → List String → Prop) : Prop :=
  ∀ key text below text' below', asks key text below → asks key text' below' →
    text = text' ∧ below = below'

namespace Lists

theorem unique (functional : Functional asks) (run : Lists asks keys met listing)
    {other : List Listed} (again : Lists asks keys met other) : listing = other := by
  induction run generalizing other with
  | nil =>
      cases again
      rfl
  | again old _ tail =>
      cases again with
      | again _ rest => exact tail rest
      | fresh new => exact absurd old new
  | fresh new asked _ _ below tail =>
      cases again with
      | again old => exact absurd old new
      | fresh _ asked' inside' rest' =>
          obtain ⟨rfl, rfl⟩ := functional _ _ _ _ _ asked asked'
          obtain rfl := below inside'
          rw [tail rest']

theorem inside_closed (run : Lists asks keys met listing) {closed : String → Prop}
    (step : ∀ key other, closed key → Wants asks key other → closed other)
    (start : ∀ key ∈ keys, closed key) : ∀ key ∈ listing.map Listed.key, closed key := by
  induction run with
  | nil => simp
  | again _ _ tail => exact tail (List.forall_mem_cons.mp start).2
  | @fresh key text _ _ _ _ _ _ asked _ _ below tail =>
      obtain ⟨first, later⟩ := List.forall_mem_cons.mp start
      have inside := below fun other member => step key other first ⟨text, _, asked, member⟩
      have outside := tail later
      intro other member
      rw [List.map_append, List.map_cons, List.mem_append, List.mem_cons] at member
      rcases member with earlier | rfl | later
      · exact inside other earlier
      · exact first
      · exact outside other later

theorem keys_met (run : Lists asks keys met listing) :
    ∀ key ∈ keys, key ∈ listing.map Listed.key ∨ key ∈ met := by
  induction run with
  | nil => simp
  | again old _ tail =>
      intro key member
      rcases List.mem_cons.mp member with rfl | later
      · exact .inr old
      · exact tail key later
  | fresh _ _ _ _ _ tail =>
      intro key member
      rcases List.mem_cons.mp member with rfl | later
      · simp
      · have := tail key later
        simp only [List.map_append, List.map_cons, List.mem_append, List.mem_cons] at this ⊢
        grind

theorem followed (functional : Functional asks) (run : Lists asks keys met listing) :
    ∀ key ∈ listing.map Listed.key, ∀ other, Wants asks key other →
      other ∈ listing.map Listed.key ∨ other ∈ met := by
  induction run with
  | nil => simp
  | again _ _ tail => exact tail
  | fresh _ asked inside _ below tail =>
      intro key member other wants
      simp only [List.map_append, List.map_cons, List.mem_append, List.mem_cons] at member ⊢
      rcases member with earlier | rfl | later
      · have := below key earlier other wants
        simp only [List.mem_cons] at this
        grind
      · obtain ⟨_, _, asked', wanted⟩ := wants
        obtain ⟨rfl, rfl⟩ := functional _ _ _ _ _ asked asked'
        have := inside.keys_met other wanted
        simp only [List.mem_cons] at this
        grind
      · have := tail key later other wants
        simp only [List.mem_append, List.mem_cons] at this
        grind

/-- Visits that start with more keys met list the same modules less those keys, provided that what
the additional modules ask for was met as well. This may fail for keys that are not reached. -/
theorem without (run : Lists asks keys met listing) {done joint : List String}
    (region : String → Prop)
    (step : ∀ key other, region key → Wants asks key other → region other)
    (closed : ∀ key ∈ done, region key → ∀ other, Wants asks key other → other ∈ done)
    (start : ∀ key ∈ keys, region key)
    (agree : ∀ key, region key → (key ∈ joint ↔ key ∈ met ∨ key ∈ done)) :
    Lists asks keys joint (Listed.without listing done) := by
  induction run generalizing joint with
  | nil => exact .nil
  | again old _ tail =>
      obtain ⟨first, later⟩ := List.forall_mem_cons.mp start
      exact .again ((agree _ first).mpr (.inl old)) (tail later agree)
  | @fresh key text keys below met inner outer new asked inside _ under tail =>
      obtain ⟨first, later⟩ := List.forall_mem_cons.mp start
      by_cases skipped : key ∈ done
      -- What would be listed below the key is in the closed set, so nothing of it is missing.
      · have advance : ∀ key other, key ∈ done ∧ region key → Wants asks key other →
            other ∈ done ∧ region other := fun key other within wants =>
          ⟨closed key within.1 within.2 other wants, step key other within.2 wants⟩
        have covered := inside.inside_closed advance fun other member =>
          advance key other ⟨skipped, first⟩ ⟨text, below, asked, member⟩
        have nothing := Listed.without_eq_nil fun other member => (covered other member).1
        have agree' : ∀ other, region other → (other ∈ joint ↔
            other ∈ inner.map Listed.key ++ key :: met ∨ other ∈ done) := by
          intro other within
          have := agree other within
          have := covered other
          simp only [List.mem_append, List.mem_cons]
          grind
        have rest := tail later agree'
        rw [Listed.without_append, nothing, Listed.without_cons_of_mem skipped, List.nil_append]
        exact .again ((agree key first).mpr (.inr skipped)) rest
      · rw [Listed.without_append, Listed.without_cons_of_not_mem skipped]
        refine .fresh ?_ asked (under ?_ ?_) (tail later ?_)
        · rw [agree key first]
          simp [new, skipped]
        · intro other member
          exact step key other first ⟨text, below, asked, member⟩
        · intro other within
          have := agree other within
          simp only [List.mem_cons]
          grind
        · intro other within
          have := agree other within
          simp only [List.mem_append, List.mem_cons, Listed.mem_keys_without]
          grind

theorem congr (run : Lists asks keys met listing) {same : List String}
    (agree : ∀ key, key ∈ same ↔ key ∈ met) : Lists asks keys same listing := by
  have all : Lists asks keys same (Listed.without listing []) :=
    run.without (fun _ => True) (fun _ _ _ _ => trivial) (by simp) (fun _ _ => trivial)
      (by simp [agree])
  rwa [Listed.without_nil] at all

theorem cons_split {key : String} (run : Lists asks (key :: keys) met listing) :
    ∃ first rest, Lists asks [key] met first ∧
      Lists asks keys (first.map Listed.key ++ met) rest ∧ listing = first ++ rest := by
  cases run with
  | again old rest => exact ⟨[], _, .again old .nil, rest, rfl⟩
  | @fresh _ text _ _ _ inner outer new asked inside rest =>
      refine ⟨inner ++ [⟨key, text⟩], outer, .fresh new asked inside .nil, ?_, by simp⟩
      simpa using rest

def unmet (known met : List String) : Nat :=
  known.countP (· ∉ met)

theorem unmet_le (known : List String) {met more : List String} (grown : ∀ key ∈ met, key ∈ more) :
    unmet known more ≤ unmet known met := by
  apply List.countP_mono_left
  intro key _ kept
  simp only [decide_eq_true_eq] at kept ⊢
  exact fun old => kept (grown key old)

theorem unmet_lt {known met : List String} {key : String} (member : key ∈ known)
    (new : key ∉ met) : unmet known (key :: met) < unmet known met := by
  obtain ⟨before, after, rfl⟩ := List.append_of_mem member
  have grown : ∀ other ∈ met, other ∈ key :: met := fun _ => List.mem_cons_of_mem _
  have first := unmet_le before grown
  have last := unmet_le after grown
  simp only [unmet] at first last
  simp only [unmet, List.countP_append, List.countP_cons, new, List.mem_cons_self]
  simp only [not_true, decide_false, not_false_eq_true, decide_true, if_true]
  simp only [Bool.false_eq_true, if_false]
  omega

theorem exists_of_closed {known : List String}
    (step : ∀ key ∈ known, ∃ text below, asks key text below ∧ ∀ other ∈ below, other ∈ known)
    (start : ∀ key ∈ keys, key ∈ known) (met : List String) :
    ∃ listing, Lists asks keys met listing := by
  obtain ⟨left, bound⟩ : ∃ left, unmet known met ≤ left := ⟨_, Nat.le_refl _⟩
  induction left using Nat.strongRecOn generalizing keys met with
  | ind left deeper =>
      induction keys generalizing met with
      | nil => exact ⟨[], .nil⟩
      | cons key keys tail =>
          obtain ⟨member, later⟩ := List.forall_mem_cons.mp start
          by_cases old : key ∈ met
          · obtain ⟨listing, rest⟩ := tail later met bound
            exact ⟨listing, .again old rest⟩
          · obtain ⟨text, below, asked, inside⟩ := step key member
            have fewer := unmet_lt member old
            obtain ⟨inner, under⟩ := deeper _ (by omega) inside (key :: met) (Nat.le_refl _)
            have grown : unmet known (inner.map Listed.key ++ key :: met) ≤ unmet known met :=
              unmet_le known fun other old => by simp [old]
            obtain ⟨outer, rest⟩ := tail later _ (Nat.le_trans grown bound)
            exact ⟨_, .fresh old asked under rest⟩

/-- What the keys list one after another is what each of them lists on its own, less what is listed
already. The importer has been met but is not listed, and none of the keys leads to it. -/
theorem merge (functional : Functional asks) {parts : List (List Listed)} {listed : List Listed}
    {importer : String}
    (alone : List.Forall₂ (fun key part => Lists asks [key] [] part) keys parts)
    (run : Lists asks keys (listed.map Listed.key ++ [importer]) listing)
    (complete : ∀ key ∈ listed.map Listed.key, ∀ other, Wants asks key other →
      other ∈ listed.map Listed.key ∨ other = importer)
    (apart : ∀ key ∈ keys, ¬ReflTransGen (Wants asks) key importer) :
    listed ++ listing = parts.foldl Listed.merge listed := by
  induction alone generalizing listed listing with
  | nil =>
      cases run
      simp
  | @cons key part keys parts own _ tail =>
      obtain ⟨first, rest, firstRun, restRun, rfl⟩ := run.cons_split
      obtain ⟨outside, later⟩ := List.forall_mem_cons.mp apart
      have firstEq : first = Listed.without part (listed.map Listed.key) := by
        apply firstRun.unique functional
        apply own.without (ReflTransGen (Wants asks) key)
        · intro middle other reached wants
          exact reached.tail wants
        · intro middle member reached other wants
          rcases complete middle member other wants with within | rfl
          · exact within
          · exact absurd (reached.tail wants) outside
        · simpa using ReflTransGen.refl
        · intro other reached
          have distinct : other ≠ importer := by
            rintro rfl
            exact outside reached
          simp [distinct]
      have merged : Listed.merge listed part = listed ++ first := by rw [Listed.merge, firstEq]
      rw [List.foldl_cons, merged, ← List.append_assoc]
      refine tail (restRun.congr ?_) ?_ later
      · intro other
        simp only [List.map_append, List.mem_append]
        grind
      · intro middle member other wants
        simp only [List.map_append, List.mem_append] at member ⊢
        rcases member with before | now
        · have := complete middle before other wants
          grind
        · have := firstRun.followed functional middle now other wants
          simp only [List.mem_append, List.mem_singleton] at this
          grind

end Lists

end Bundler.Source
