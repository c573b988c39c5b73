import Bundler.Proofs.Tree.Appearances
import Bundler.Proofs.Tree.Replay
import Mathlib.Data.List.Lex

/-!
Ways along the imports of a graph. A way is the list of the places that the imports followed have in
their modules. A listing finds each key on a way that leads to it, and no import leads on to a key
that is found later than through it.
-/

namespace Bundler.Source

open Relation (ReflTransGen TransGen)

/-- The imports at some places lead from one key to another. -/
inductive Route (modules : List Module) : String → List Nat → String → Prop
  | nil {key : String} : Route modules key [] key
  | cons {module : Module} {edge : Import} {place : Nat} {places : List Nat} {other : String}
      (member : module ∈ modules) (followed : module.imports[place]? = some edge)
      (rest : Route modules edge.target.key places other) :
      Route modules module.key (place :: places) other

namespace Route

variable {modules : List Module} {key middle other : String} {places more : List Nat}

theorem eq_of_nil (route : Route modules key [] other) : key = other := by
  cases route
  rfl

theorem of_cons {place : Nat} (route : Route modules key (place :: places) other) :
    ∃ module ∈ modules, module.key = key ∧ ∃ edge, module.imports[place]? = some edge ∧
      Route modules edge.target.key places other := by
  cases route with
  | cons member followed rest => exact ⟨_, member, rfl, _, followed, rest⟩

theorem snoc (route : Route modules key places middle) {module : Module}
    (member : module ∈ modules) (keyed : module.key = middle) {place : Nat} {edge : Import}
    (followed : module.imports[place]? = some edge) :
    Route modules key (places ++ [place]) edge.target.key := by
  induction route with
  | nil =>
      subst keyed
      exact .cons member followed .nil
  | cons first start _ ih => exact .cons first start (ih keyed)

theorem exists_split (route : Route modules key (places ++ more) other) :
    ∃ middle, Route modules key places middle ∧ Route modules middle more other := by
  induction places generalizing key with
  | nil => exact ⟨key, .nil, route⟩
  | cons place places ih =>
      cases route with
      | cons member followed rest =>
          obtain ⟨middle, first, last⟩ := ih rest
          exact ⟨middle, .cons member followed first, last⟩

theorem unique (nodup : (modules.map Module.key).Nodup) (route : Route modules key places middle)
    (again : Route modules key places other) : middle = other := by
  induction route with
  | nil => exact again.eq_of_nil
  | cons member followed _ ih =>
      obtain ⟨module, member', same, edge, followed', rest⟩ := again.of_cons
      obtain rfl := List.inj_on_of_nodup_map nodup member' member same
      obtain rfl := Option.some.inj (followed.symm.trans followed')
      exact ih rest

theorem leads (route : Route modules key places other) :
    ReflTransGen (Leads modules) key other := by
  induction route with
  | nil => exact .refl
  | cons member followed _ ih => exact .head (.intro member (List.mem_of_getElem? followed)) ih

theorem leads_of_ne_nil (route : Route modules key places other) (moves : places ≠ []) :
    TransGen (Leads modules) key other := by
  cases route with
  | nil => exact absurd rfl moves
  | cons member followed rest =>
      exact .head' (.intro member (List.mem_of_getElem? followed)) rest.leads

end Route

/-! The routes of a listing. -/

namespace Outline

/-- The paths that are expanded, each behind those below it, with the places of the entries on the
way. -/
def found (route : List Nat) (place : Nat) : Outline → List (ModulePath × List Nat)
  | empty => []
  | entry path mark below after =>
      found (route ++ [place]) 0 below ++
        (if mark = .expanded then [(path, route ++ [place])] else []) ++
        found route (place + 1) after

theorem map_fst_found (outline : Outline) (route : List Nat) (place : Nat) :
    (outline.found route place).map Prod.fst = outline.postorder := by
  induction outline generalizing route place with
  | empty => rfl
  | entry path mark below after ihBelow ihAfter =>
      by_cases expanded : mark = .expanded <;>
        simp [found, postorder, expanded, ihBelow, ihAfter]

theorem mem_found {route : List Nat} {place : Nat} {path : ModulePath} {mark : Mark}
    {below after : Outline} {item : ModulePath × List Nat} :
    item ∈ (entry path mark below after).found route place ↔
      item ∈ below.found (route ++ [place]) 0 ∨
        (mark = .expanded ∧ item = (path, route ++ [place])) ∨
        item ∈ after.found route (place + 1) := by
  by_cases expanded : mark = .expanded <;> simp [found, expanded]

theorem route_of_mem_found {outline : Outline} {route : List Nat} {place : Nat}
    {item : ModulePath × List Nat} (member : item ∈ outline.found route place) :
    ∃ step rest, place ≤ step ∧ item.2 = route ++ step :: rest := by
  induction outline generalizing route place with
  | empty => cases member
  | entry path mark below after ihBelow ihAfter =>
      rcases mem_found.mp member with inside | ⟨_, rfl⟩ | later
      · obtain ⟨step, rest, _, same⟩ := ihBelow inside
        exact ⟨place, step :: rest, Nat.le_refl _, by simp [same]⟩
      · exact ⟨place, [], Nat.le_refl _, rfl⟩
      · obtain ⟨step, rest, bound, same⟩ := ihAfter later
        exact ⟨step, rest, Nat.le_of_succ_le bound, same⟩

/-- One way goes on behind another, or comes first. -/
def Closes (earlier later : List Nat) : Prop :=
  (∃ step rest, earlier = later ++ step :: rest) ∨ earlier < later

theorem lt_of_place_lt {route rest more : List Nat} {place later : Nat} (before : place < later) :
    route ++ place :: rest < route ++ later :: more :=
  List.append_left_lt (List.cons_lt_cons_iff.mpr (.inl before))

theorem pairwise_found (outline : Outline) (route : List Nat) (place : Nat) :
    (outline.found route place).Pairwise fun earlier later => Closes earlier.2 later.2 := by
  induction outline generalizing route place with
  | empty => exact .nil
  | entry path mark below after ihBelow ihAfter =>
      -- The entry and those below it are found through `place`, the others through later places.
      have apart : ∀ (item : ModulePath × List Nat) rest, item.2 = route ++ place :: rest →
          ∀ later ∈ after.found route (place + 1), Closes item.2 later.2 := by
        intro item rest same later member
        obtain ⟨step, more, bound, same'⟩ := route_of_mem_found member
        rw [same, same']
        exact .inr (lt_of_place_lt bound)
      have own : (if mark = .expanded then [(path, route ++ [place])] else []).Pairwise
          fun earlier later => Closes earlier.2 later.2 := by
        split <;> simp
      rw [found, List.pairwise_append, List.pairwise_append]
      refine ⟨⟨ihBelow _ 0, own, ?_⟩, ihAfter route (place + 1), ?_⟩
      · intro item member last lastMember
        obtain ⟨step, rest, _, same⟩ := route_of_mem_found member
        obtain ⟨_, rfl⟩ : mark = .expanded ∧ last = (path, route ++ [place]) := by
          split at lastMember <;> simp_all
        exact .inl ⟨step, rest, same⟩
      · intro item member
        rcases List.mem_append.mp member with inside | last
        · obtain ⟨step, rest, _, same⟩ := route_of_mem_found inside
          exact apart item (step :: rest) (by simp [same])
        · obtain ⟨_, rfl⟩ : mark = .expanded ∧ item = (path, route ++ [place]) := by
            split at last <;> simp_all
          exact apart _ [] rfl

end Outline

/-- Keys were met on ways that come before a place in a module's imports. -/
def Timely (routes : String → List Nat) (route : List Nat) (place : Nat) (met : List String) :
    Prop :=
  ∀ key ∈ met, routes key < route ++ [place]

namespace Timely

variable {routes : String → List Nat} {route : List Nat} {place : Nat} {met : List String}
  {key : String}

theorem next (timely : Timely routes route place met) : Timely routes route (place + 1) met := by
  intro key member
  exact (timely key member).trans (Outline.lt_of_place_lt (Nat.lt_succ_self place))

theorem next_cons (timely : Timely routes route place met) (here : routes key = route ++ [place]) :
    Timely routes route (place + 1) (key :: met) := by
  rw [Timely, List.forall_mem_cons, here]
  exact ⟨Outline.lt_of_place_lt (Nat.lt_succ_self place), timely.next⟩

theorem descend (timely : Timely routes route place met) (here : routes key = route ++ [place]) :
    Timely routes (route ++ [place]) 0 (key :: met) := by
  have deeper : route ++ [place] < route ++ [place] ++ [0] := by
    rw [List.append_assoc]
    exact List.append_left_lt (List.cons_lt_cons_iff.mpr (.inr ⟨rfl, List.nil_lt_cons _ _⟩))
  rw [Timely, List.forall_mem_cons, here]
  exact ⟨deeper, fun other member => (timely other member).trans deeper⟩

theorem ascend {inner : List String} {count : Nat}
    (timely : Timely routes (route ++ [place]) count inner) :
    Timely routes route (place + 1) inner := by
  intro key member
  have before := timely key member
  rw [List.append_assoc] at before
  exact before.trans (Outline.lt_of_place_lt (Nat.lt_succ_self place))

end Timely

def Assigns (routes : String → List Nat) (outline : Outline) (route : List Nat) (place : Nat) :
    Prop :=
  ∀ item ∈ outline.found route place, routes item.1.key = item.2

namespace Assigns

variable {routes : String → List Nat} {route : List Nat} {place : Nat} {path : ModulePath}
  {mark : Mark} {below after : Outline}

theorem here (assigns : Assigns routes (.entry path .expanded below after) route place) :
    routes path.key = route ++ [place] :=
  assigns (path, route ++ [place]) (Outline.mem_found.mpr (.inr (.inl ⟨rfl, rfl⟩)))

theorem inside (assigns : Assigns routes (.entry path mark below after) route place) :
    Assigns routes below (route ++ [place]) 0 := fun item member =>
  assigns item (Outline.mem_found.mpr (.inl member))

theorem rest (assigns : Assigns routes (.entry path mark below after) route place) :
    Assigns routes after route (place + 1) := fun item member =>
  assigns item (Outline.mem_found.mpr (.inr (.inr member)))

end Assigns

def Leading (modules : List Module) (origin : String) (route : List Nat) (place : Nat)
    (paths : List ModulePath) : Prop :=
  ∀ (step : Nat) path, paths[step]? = some path →
    Route modules origin (route ++ [place + step]) path.key

section

variable {modules : List Module} {origin : String} {route : List Nat} {place : Nat}
  {path : ModulePath} {paths : List ModulePath}

theorem Leading.head (leading : Leading modules origin route place (path :: paths)) :
    Route modules origin (route ++ [place]) path.key :=
  leading 0 path rfl

theorem Leading.tail (leading : Leading modules origin route place (path :: paths)) :
    Leading modules origin route (place + 1) paths := by
  intro step path listed
  rw [Nat.add_right_comm]
  exact leading (step + 1) path listed

theorem Route.leading (here : Route modules origin route path.key) {module : Module}
    (member : module ∈ modules) (keyed : module.key = path.key) :
    Leading modules origin route 0 (module.imports.map (·.target)) := by
  intro step target listed
  rw [List.getElem?_map, Option.map_eq_some_iff] at listed
  obtain ⟨edge, followed, rfl⟩ := listed
  rw [Nat.zero_add]
  exact here.snoc member keyed followed

end

namespace Draws

variable {recorded : List (String × Module)} {above met final : List String}
  {paths : List ModulePath} {outline : Outline} {route : List Nat} {place : Nat}
  {routes : String → List Nat}

theorem timely (drawn : Draws recorded above met paths outline final)
    (assigns : Assigns routes outline route place) (start : Timely routes route place met) :
    Timely routes route (place + paths.length) final := by
  induction drawn generalizing route place with
  | nil => exact start
  | cycle _ _ ih | seen _ _ _ ih =>
      have later := ih assigns.rest start.next
      rwa [Nat.add_right_comm] at later
  | missing _ _ _ _ ih =>
      have later := ih assigns.rest (start.next_cons assigns.here)
      rwa [Nat.add_right_comm] at later
  | expanded _ _ _ _ _ ihInside ihRest =>
      have inner := ihInside assigns.inside (start.descend assigns.here)
      have later := ihRest assigns.rest inner.ascend
      rwa [Nat.add_right_comm] at later

/-- The first path that is listed was found there or on a way that comes before, and the others are
listed from the next place on. -/
theorem uncons {path : ModulePath} (drawn : Draws recorded above met (path :: paths) outline final)
    (stack : above ⊆ met) (assigns : Assigns routes outline route place)
    (start : Timely routes route place met) :
    routes path.key ≤ route ++ [place] ∧
      ∃ more after, Draws recorded above more paths after final ∧
        above ⊆ more ∧ Assigns routes after route (place + 1) ∧
        Timely routes route (place + 1) more := by
  cases drawn with
  | cycle inside rest =>
      exact ⟨(start _ (stack inside)).le, met, _, rest, stack, assigns.rest, start.next⟩
  | seen _ old rest => exact ⟨(start _ old).le, met, _, rest, stack, assigns.rest, start.next⟩
  | missing _ _ _ rest =>
      exact ⟨assigns.here.le, _, _, rest, List.subset_cons_of_subset _ stack, assigns.rest,
        start.next_cons assigns.here⟩
  | expanded _ _ _ inside rest =>
      have after := (inside.timely assigns.inside (start.descend assigns.here)).ascend
      exact ⟨assigns.here.le, _, _, rest, inside.above_subset stack, assigns.rest, after⟩

theorem routes_le (drawn : Draws recorded above met paths outline final)
    (stack : above ⊆ met) (assigns : Assigns routes outline route place)
    (start : Timely routes route place met) {step : Nat} {path : ModulePath}
    (listed : paths[step]? = some path) : routes path.key ≤ route ++ [place + step] := by
  induction paths generalizing met outline place step with
  | nil => cases listed
  | cons first paths ih =>
      obtain ⟨here, more, after, rest, stack, assigns, start⟩ := drawn.uncons stack assigns start
      cases step with
      | zero =>
          cases listed
          exact here
      | succ step =>
          have later := ih rest stack assigns start listed
          rwa [Nat.add_right_comm] at later

/-- No import leads on from a module to one that was found later than on the way through it. -/
theorem routes_target_le (drawn : Draws recorded above met paths outline final)
    (stack : above ⊆ met) (assigns : Assigns routes outline route place)
    (start : Timely routes route place met) :
    ∀ item ∈ outline.found route place, ∀ module, recorded.lookup item.1.key = some module →
      ∀ (step : Nat) edge, module.imports[step]? = some edge →
        routes edge.target.key ≤ item.2 ++ [step] := by
  induction drawn generalizing route place with
  | nil => simp [Outline.found]
  | cycle _ _ ih | seen _ _ _ ih => exact ih stack assigns.rest start.next
  | missing _ _ unknown _ ih =>
      intro item member module known
      rcases Outline.mem_found.mp member with none | ⟨_, rfl⟩ | later
      · cases none
      · rw [unknown] at known
        cases known
      · exact ih (List.subset_cons_of_subset _ stack) assigns.rest (start.next_cons assigns.here)
          item later module known
  | @expanded _ _ _ _ path _ module _ _ _ _ known inside _ ihInside ihRest =>
      have inner := start.descend assigns.here
      have innerStack := List.cons_subset_cons path.key stack
      intro item member other known'
      rcases Outline.mem_found.mp member with below | ⟨_, rfl⟩ | later
      · exact ihInside innerStack assigns.inside inner item below other known'
      · obtain rfl := Option.some.inj (known.symm.trans known')
        intro step edge followed
        have listed : (module.imports.map (·.target))[step]? = some edge.target := by
          simp [followed]
        have behind := inside.routes_le innerStack assigns.inside inner listed
        rwa [Nat.zero_add] at behind
      · have after := (inside.timely assigns.inside inner).ascend
        exact ihRest (inside.above_subset stack) assigns.rest after item later other known'

theorem route_of_found {modules : List Module} {origin : String}
    (drawn : Draws recorded above met paths outline final)
    (known : ∀ key module, recorded.lookup key = some module → module ∈ modules ∧ module.key = key)
    (leading : Leading modules origin route place paths) :
    ∀ item ∈ outline.found route place, Route modules origin item.2 item.1.key := by
  induction drawn generalizing route place with
  | nil => simp [Outline.found]
  | cycle _ _ ih | seen _ _ _ ih => exact ih leading.tail
  | missing _ _ _ _ ih =>
      intro item member
      rcases Outline.mem_found.mp member with none | ⟨_, rfl⟩ | later
      · cases none
      · exact leading.head
      · exact ih leading.tail item later
  | expanded _ _ found _ _ ihInside ihRest =>
      obtain ⟨recorded, keyed⟩ := known _ _ found
      intro item member
      rcases Outline.mem_found.mp member with below | ⟨_, rfl⟩ | later
      · exact ihInside (leading.head.leading recorded keyed) item below
      · exact leading.head
      · exact ihRest leading.tail item later

end Draws

end Bundler.Source
