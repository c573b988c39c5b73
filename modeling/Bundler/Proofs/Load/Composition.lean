import Bundler.Proofs.Load.Closure
import Bundler.Proofs.Load.Listing
import Bundler.Proofs.Load.Sources
import Bundler.Proofs.Path.Normal

/-!
Loads are composed of the loads of what is imported. With a reader to which all spellings of a path
are the same, keys decide what visits list.
-/

namespace Bundler.Source

open ModulePath (EndsInDots)
open Relation (ReflTransGen)

namespace Reader

def textAt? (reader : Reader) (path : ModulePath) : Option String :=
  (locate reader path).toOption.map (·.text)

/-- All spellings of a path lead to one text, or none of them leads to any. -/
def Uniform (reader : Reader) : Prop :=
  ∀ path other : ModulePath, path.key = other.key → reader.textAt? path = reader.textAt? other

/-- The module of a key has the text, and asks for the keys below. -/
def Asks (reader : Reader) (key text : String) (below : List String) : Prop :=
  ∃ path : ModulePath, path.Named ∧ path.key = key ∧ reader.textAt? path = some text ∧
    (∀ specifier ∈ imports text, ¬EndsInDots specifier) ∧
    (targetsOf path text).map ModulePath.key = below

end Reader

def Module.listed (reader : Reader) (module : Module) : Listed :=
  ⟨module.key, (reader.textAt? module.path).getD ""⟩

def Module.wants (module : Module) : List String :=
  module.imports.map fun edge => edge.target.key

variable {reader : Reader} {importer? : Option ModulePath} {path : ModulePath}
  {paths : List ModulePath} {state inner final : Traversal} {source : Located}

theorem textAt?_eq_some {text : String} :
    reader.textAt? path = some text ↔ ∃ location, locate reader path = .ok ⟨location, text⟩ := by
  rw [Reader.textAt?]
  cases found : locate reader path with
  | error error => simp [Except.toOption]
  | ok source =>
      obtain ⟨location, text'⟩ := source
      simp [Except.toOption]

theorem textAt?_of_locate (found : locate reader path = .ok source) :
    reader.textAt? path = some source.text :=
  textAt?_eq_some.mpr ⟨source.location, found⟩

@[simp] theorem Module.key_listed (module : Module) : (module.listed reader).key = module.key := rfl

theorem Module.listed_of_locate (found : locate reader path = .ok source) (edges : List Import) :
    Module.listed reader ⟨path, source.location, edges⟩ = ⟨path.key, source.text⟩ := by
  rw [Module.listed, textAt?_of_locate found, Option.getD_some, Module.key]

theorem map_key_listed (modules : List Module) :
    (modules.map (Module.listed reader)).map Listed.key = modules.map Module.key := by
  simp [Function.comp_def]

theorem targetsOf_eq_map (path : ModulePath) (text : String) :
    targetsOf path text = (imports text).map (.resolve path.baseDir) := by
  simp [targetsOf, importsOf, Function.comp_def]

theorem specifiers_importsOf (path : ModulePath) (text : String) :
    (importsOf path text).map (·.specifier) = imports text := by
  simp [importsOf, Function.comp_def]

theorem proper_of_importsOf (path : ModulePath) (text : String)
    (proper : ∀ edge ∈ importsOf path text, ¬EndsInDots edge.specifier) :
    ∀ specifier ∈ imports text, ¬EndsInDots specifier := by
  intro specifier member
  rw [← specifiers_importsOf path, List.mem_map] at member
  obtain ⟨edge, edgeMember, rfl⟩ := member
  exact proper edge edgeMember

theorem named_of_mem_targetsOf (path : ModulePath) {text : String}
    (proper : ∀ specifier ∈ imports text, ¬EndsInDots specifier) :
    ∀ target ∈ targetsOf path text, target.Named := by
  intro target member
  rw [targetsOf_eq_map, List.mem_map] at member
  obtain ⟨specifier, specifierMember, rfl⟩ := member
  exact ModulePath.named_resolve (isBase_directoryPart path.text) (proper specifier specifierMember)

theorem keys_targetsOf_eq {other : ModulePath} (named : path.Named) (otherNamed : other.Named)
    (same : path.key = other.key) (text : String) :
    (targetsOf path text).map ModulePath.key = (targetsOf other text).map ModulePath.key := by
  rw [targetsOf_eq_map, targetsOf_eq_map, List.map_map, List.map_map]
  apply List.map_congr_left
  intro specifier _
  exact ModulePath.key_resolve_eq named otherNamed same specifier

theorem Reader.Uniform.functional (uniform : reader.Uniform) : Functional reader.Asks := by
  rintro key text below text' below' ⟨path, named, rfl, read, _, rfl⟩
    ⟨other, otherNamed, same, otherRead, _, rfl⟩
  have texts : some text = some text' := by
    rw [← read, ← otherRead]
    exact uniform path other same.symm
  obtain rfl := Option.some.inj texts
  exact ⟨rfl, keys_targetsOf_eq named otherNamed same.symm text⟩

/-! Visits and their listings. -/

namespace Visits

theorem lists (run : Visits reader importer? paths state final)
    (named : ∀ path ∈ paths, path.Named)
    (proper : ∀ module ∈ final.modules, ∀ edge ∈ module.imports, ¬EndsInDots edge.specifier) :
    ∃ added, final.modules = state.modules ++ added ∧
      (∀ key, key ∈ final.visited ↔ key ∈ added.map Module.key ∨ key ∈ state.visited) ∧
      (∀ module ∈ added,
        reader.Asks module.key (module.listed reader).text module.wants) ∧
      Lists reader.Asks (paths.map ModulePath.key) state.visited
        (added.map (Module.listed reader)) := by
  induction run with
  | nil => exact ⟨[], by simp, by simp, by simp, .nil⟩
  | again met _ tail =>
      obtain ⟨added, modules, visited, asked, listed⟩ :=
        tail (List.forall_mem_cons.mp named).2 proper
      simp only [Traversal.modules_revisit, Traversal.visited_revisit] at modules visited listed
      exact ⟨added, modules, visited, asked, .again met listed⟩
  | @fresh _ path paths source state inner final new found below rest under tail =>
      obtain ⟨pathNamed, later⟩ := List.forall_mem_cons.mp named
      have kept : ∀ module ∈ (inner.close path source (importsOf path source.text)).modules,
          ∀ edge ∈ module.imports, ¬EndsInDots edge.specifier := fun module member =>
        proper module (rest.modules_prefix.subset member)
      have specifiers := proper_of_importsOf path source.text
        (kept ⟨path, source.location, importsOf path source.text⟩ (by simp))
      have asks : reader.Asks path.key source.text
          ((targetsOf path source.text).map ModulePath.key) :=
        ⟨path, pathNamed, rfl, textAt?_of_locate found, specifiers, rfl⟩
      obtain ⟨added, modules, visited, asked, listed⟩ :=
        under (named_of_mem_targetsOf path specifiers) fun module member =>
          kept module (by simp [member])
      obtain ⟨more, modules', visited', asked', listed'⟩ :=
        tail later proper
      obtain ⟨module, closed⟩ : ∃ module : Module,
          module = ⟨path, source.location, importsOf path source.text⟩ := ⟨_, rfl⟩
      have keyed : module.key = path.key := by rw [closed, Module.key]
      have moduleListed : module.listed reader = ⟨path.key, source.text⟩ := by
        rw [closed, Module.listed_of_locate found]
      have wants : module.wants = (targetsOf path source.text).map ModulePath.key := by
        simp [closed, Module.wants, targetsOf, Function.comp_def]
      refine ⟨added ++ module :: more, ?_, ?_, ?_, ?_⟩
      · rw [modules', Traversal.modules_close, modules, Traversal.modules_opening, ← closed]
        simp
      · intro key
        rw [visited' key, Traversal.visited_close, visited key, Traversal.visited_opening,
          List.map_append, List.map_cons, List.mem_append, List.mem_cons, List.mem_cons, keyed]
        simp only [or_assoc, or_left_comm]
      · intro other member
        rcases List.mem_append.mp member with before | now
        · exact asked other before
        · rcases List.mem_cons.mp now with rfl | after
          · rw [moduleListed, wants, keyed]
            exact asks
          · exact asked' other after
      · rw [Traversal.visited_opening] at listed
        have after : Lists reader.Asks (paths.map ModulePath.key)
            ((added.map (Module.listed reader)).map Listed.key ++ path.key :: state.visited)
            (more.map (Module.listed reader)) := by
          apply listed'.congr
          intro key
          rw [map_key_listed, Traversal.visited_close, visited key, Traversal.visited_opening,
            List.mem_append]
        rw [List.map_append, List.map_cons, List.map_cons, moduleListed]
        exact .fresh new asks listed after

theorem of_lists (uniform : reader.Uniform) {keys met : List String} {listing : List Listed}
    (listed : Lists reader.Asks keys met listing) (importer? : Option ModulePath)
    (paths : List ModulePath) (state : Traversal) (named : ∀ path ∈ paths, path.Named)
    (spelled : paths.map ModulePath.key = keys)
    (agree : ∀ key, key ∈ state.visited ↔ key ∈ met) :
    ∃ final added, Visits reader importer? paths state final ∧
      final.modules = state.modules ++ added ∧
      added.map (Module.listed reader) = listing ∧
      ∀ key, key ∈ final.visited ↔ key ∈ listing.map Listed.key ∨ key ∈ met := by
  induction listed generalizing importer? paths state with
  | nil =>
      obtain rfl := List.map_eq_nil_iff.mp spelled
      exact ⟨state, [], .nil, by simp, rfl, by simpa using agree⟩
  | again old _ tail =>
      obtain ⟨path, paths, rfl, rfl, rfl⟩ := List.map_eq_cons_iff.mp spelled
      obtain ⟨_, later⟩ := List.forall_mem_cons.mp named
      obtain ⟨final, added, rest, modules, listed, visited⟩ :=
        tail importer? paths (state.revisit importer? path) later rfl (by simpa using agree)
      refine ⟨final, added, .again ((agree _).mpr old) rest, ?_, listed, visited⟩
      simpa using modules
  | @fresh key text keys below met inner outer new asked inside _ under tail =>
      obtain ⟨path, paths, rfl, rfl, rfl⟩ := List.map_eq_cons_iff.mp spelled
      obtain ⟨other, otherNamed, same, otherRead, proper, rfl⟩ := asked
      obtain ⟨pathNamed, later⟩ := List.forall_mem_cons.mp named
      have read : reader.textAt? path = some text := by
        rw [uniform path other same.symm]
        exact otherRead
      obtain ⟨location, found⟩ := textAt?_eq_some.mp read
      have opened : ∀ key, key ∈ (state.opening reader path).visited ↔ key ∈ path.key :: met := by
        intro key
        rw [Traversal.visited_opening, List.mem_cons, List.mem_cons, agree]
      obtain ⟨middle, added, below, modules, listed, visited⟩ :=
        under (some path) (targetsOf path text) (state.opening reader path)
          (named_of_mem_targetsOf path proper)
          (keys_targetsOf_eq pathNamed otherNamed same.symm text) opened
      have closed : ∀ key,
          key ∈ (middle.close path ⟨location, text⟩ (importsOf path text)).visited ↔
          key ∈ inner.map Listed.key ++ path.key :: met := by
        intro key
        rw [Traversal.visited_close, visited key, List.mem_append]
      obtain ⟨final, more, rest, modules', listed', visited'⟩ :=
        tail importer? paths (middle.close path ⟨location, text⟩ (importsOf path text)) later rfl
          closed
      refine ⟨final, added ++ ⟨path, location, importsOf path text⟩ :: more,
        .fresh ?_ found below rest, ?_, ?_, ?_⟩
      · rw [agree]
        exact new
      · rw [modules', Traversal.modules_close, modules, Traversal.modules_opening]
        simp
      · rw [List.map_append, List.map_cons, listed, listed', Module.listed_of_locate found]
      · intro key
        rw [visited' key, List.map_append, List.map_cons, List.mem_append, List.mem_append,
          List.mem_cons, List.mem_cons]
        simp only [or_assoc, or_left_comm]

end Visits

/-! Whole loads. -/

def Loaded.listing (loaded : Loaded) : List Listed :=
  List.zipWith (fun module segment => ⟨module.key, loaded.unit.textOf segment⟩)
    loaded.graph.modules loaded.unit.segments

theorem Module.ReadAs.listed_eq {module : Module} {text : String}
    (readAs : module.ReadAs reader text) : module.listed reader = ⟨module.key, text⟩ :=
  Module.listed_of_locate readAs.located module.imports

theorem zipWith_textOf_eq {modules : List Module} {segments : List Segment} {texts : List String}
    {unit : CompilationUnit} (read : List.Forall₂ (Module.ReadAs reader) modules texts)
    (selected : List.Forall₂ (fun segment text => unit.textOf segment = text) segments texts) :
    List.zipWith (fun module segment => ⟨module.key, unit.textOf segment⟩) modules segments =
      modules.map (Module.listed reader) := by
  induction read generalizing segments with
  | nil => simp
  | cons readAs _ tail =>
      cases selected with
      | cons text rest =>
          rw [List.zipWith_cons_cons, List.map_cons, tail rest, text, readAs.listed_eq]

theorem Traversal.Sourced.listing_loaded (sourced : final.Sourced reader) (entry : ModulePath) :
    (final.loaded entry).listing = final.modules.map (Module.listed reader) := by
  obtain ⟨texts, read, unit⟩ := sourced
  have sizes : texts.length = (final.modules.map (·.path)).length := by
    rw [List.length_map]
    exact read.length_eq.symm
  have selected := CompilationUnit.textOf_ofTexts ((final.modules.map (·.path)).zip texts)
  rw [List.map_snd_zip (Nat.le_of_eq sizes), ← unit] at selected
  exact zipWith_textOf_eq read (selected.imp fun _ _ both => both.1)

theorem exists_forall₂ {α β : Type} {related : α → β → Prop} {items : List α}
    (each : ∀ item ∈ items, ∃ other, related item other) :
    ∃ others, List.Forall₂ related items others := by
  induction items with
  | nil => exact ⟨[], .nil⟩
  | cons item items tail =>
      obtain ⟨other, first⟩ := each item List.mem_cons_self
      obtain ⟨others, rest⟩ := tail fun item member => each item (List.mem_cons_of_mem _ member)
      exact ⟨other :: others, .cons first rest⟩

/-- Modules that ask for what their texts ask for, and that have all of it among them. -/
structure SelfContained (reader : Reader) (modules : List Module) : Prop where
  asks : ∀ module ∈ modules, reader.Asks module.key (module.listed reader).text module.wants
  complete : ∀ module ∈ modules, ∀ edge ∈ module.imports,
    edge.target.key ∈ modules.map Module.key

namespace SelfContained

variable {modules : List Module} {key other : String}

theorem leads_of_wants (contained : SelfContained reader modules) (uniform : reader.Uniform)
    (member : key ∈ modules.map Module.key) (wants : Wants reader.Asks key other) :
    Leads modules key other := by
  obtain ⟨module, moduleMember, rfl⟩ := List.mem_map.mp member
  obtain ⟨text, below, asks, wanted⟩ := wants
  obtain ⟨_, rfl⟩ := uniform.functional _ _ _ _ _ asks (contained.asks module moduleMember)
  obtain ⟨edge, edgeMember, rfl⟩ := List.mem_map.mp wanted
  exact .intro moduleMember edgeMember

theorem mem_of_leads (contained : SelfContained reader modules) (leads : Leads modules key other) :
    other ∈ modules.map Module.key := by
  obtain ⟨module, moduleMember, _, edge, edgeMember, rfl⟩ := leads
  exact contained.complete module moduleMember edge edgeMember

theorem reaches_of_wants (contained : SelfContained reader modules) (uniform : reader.Uniform)
    (member : key ∈ modules.map Module.key)
    (reached : ReflTransGen (Wants reader.Asks) key other) :
    ReflTransGen (Leads modules) key other := by
  suffices both : other ∈ modules.map Module.key ∧ ReflTransGen (Leads modules) key other from
    both.2
  induction reached with
  | refl => exact ⟨member, .refl⟩
  | tail _ wants before =>
      have leads := contained.leads_of_wants uniform before.1 wants
      exact ⟨contained.mem_of_leads leads, before.2.tail leads⟩

theorem load_alone (contained : SelfContained reader modules) (uniform : reader.Uniform)
    (named : path.Named) (member : path.key ∈ modules.map Module.key) :
    ∃ part : Loaded,
      (∀ limit, modules.length ≤ limit → (load reader limit path.text).result = .ok part) ∧
      Lists reader.Asks [path.key] [] part.listing := by
  have start : ∀ key ∈ [path.key], key ∈ modules.map Module.key := by
    intro key keyMember
    rw [List.mem_singleton.mp keyMember]
    exact member
  have step : ∀ key ∈ modules.map Module.key, ∃ text below, reader.Asks key text below ∧
      ∀ other ∈ below, other ∈ modules.map Module.key := by
    intro key keyMember
    obtain ⟨module, moduleMember, rfl⟩ := List.mem_map.mp keyMember
    refine ⟨_, _, contained.asks module moduleMember, ?_⟩
    intro other wanted
    obtain ⟨edge, edgeMember, rfl⟩ := List.mem_map.mp wanted
    exact contained.complete module moduleMember edge edgeMember
  obtain ⟨listing, listed⟩ := Lists.exists_of_closed step start []
  have inside := listed.inside_closed
    (fun key other keyMember wants =>
      contained.mem_of_leads (contained.leads_of_wants uniform keyMember wants)) start
  obtain ⟨final, added, run, modulesEq, listedEq, _⟩ :=
    Visits.of_lists uniform listed none [path] {} (by simpa using named) rfl (by simp)
  obtain rfl : final.modules = added := by simpa using modulesEq
  have few : final.modules.length ≤ modules.length := by
    have nodup := run.entry_balanced.keys_nodup
    rw [← listedEq, map_key_listed] at inside
    simpa using nodup.length_le_of_subset inside
  refine ⟨final.loaded path, ?_, ?_⟩
  · intro limit enough
    have run' : Visits reader none [.ofRaw path.text] {} final := by
      rw [ModulePath.ofRaw_text]
      exact run
    have result := load_of_visits path.text_ne_empty run' (Nat.le_trans few enough)
    rwa [ModulePath.ofRaw_text] at result
  · rw [run.entry_sourced.listing_loaded, listedEq]
    exact listed

/-- What modules among them list one after another, while their importer is open, is what each of
them lists when it is loaded on its own. -/
theorem load_each (contained : SelfContained reader modules) (uniform : reader.Uniform)
    {edges : List Import} {importer : String} {listing : List Listed}
    (named : ∀ edge ∈ edges, edge.target.Named)
    (members : ∀ edge ∈ edges, edge.target.key ∈ modules.map Module.key)
    (apart : ∀ edge ∈ edges, ¬ReflTransGen (Leads modules) edge.target.key importer)
    (lists : Lists reader.Asks (edges.map fun edge => edge.target.key) [importer] listing) :
    ∃ parts : List Loaded,
      List.Forall₂
        (fun edge part => ∀ limit, modules.length ≤ limit →
          (load reader limit edge.target.text).result = .ok part)
        edges parts ∧
      listing = (parts.map Loaded.listing).foldl Listed.merge [] := by
  obtain ⟨parts, loads⟩ := exists_forall₂ fun edge edgeMember =>
    contained.load_alone uniform (named edge edgeMember) (members edge edgeMember)
  refine ⟨parts, loads.imp fun _ _ both => both.1, ?_⟩
  have alone : List.Forall₂ (fun key part => Lists reader.Asks [key] [] part)
      (edges.map fun edge => edge.target.key) (parts.map Loaded.listing) := by
    rw [List.forall₂_map_left_iff, List.forall₂_map_right_iff]
    exact loads.imp fun _ _ both => both.2
  have outside : ∀ key ∈ edges.map fun edge => edge.target.key,
      ¬ReflTransGen (Wants reader.Asks) key importer := by
    intro key keyMember reached
    obtain ⟨edge, edgeMember, rfl⟩ := List.mem_map.mp keyMember
    exact apart edge edgeMember
      (contained.reaches_of_wants uniform (members edge edgeMember) reached)
  have merged : [] ++ listing = (parts.map Loaded.listing).foldl Listed.merge [] :=
    Lists.merge uniform.functional alone lists (by simp) outside
  exact merged

end SelfContained

/-- A load lists what its entry's imports list when each is loaded alone, one after another and
without what is listed already, and then the entry. None of the imports may lead back to it. -/
theorem load_composed {depth : Nat} {entry : String} {loaded : Loaded} {main : Module}
    (uniform : reader.Uniform)
    (success : (load reader depth entry).result = .ok loaded)
    (entryProper : ¬EndsInDots entry)
    (proper : ∀ module ∈ loaded.graph.modules, ∀ edge ∈ module.imports,
      ¬EndsInDots edge.specifier)
    (member : main ∈ loaded.graph.modules) (isEntry : main.path = loaded.graph.entry)
    (apart : ∀ edge ∈ main.imports,
      ¬ReflTransGen (Leads loaded.graph.modules) edge.target.key main.key) :
    ∃ (parts : List Loaded) (text : String),
      List.Forall₂
        (fun edge part => ∀ limit, loaded.graph.size ≤ limit →
          (load reader limit edge.target.text).result = .ok part)
        main.imports parts ∧
      reader.textAt? main.path = some text ∧
      loaded.listing = (parts.map Loaded.listing).foldl Listed.merge [] ++ [⟨main.key, text⟩] := by
  obtain ⟨final, run, rfl⟩ := visits_of_load success
  have named := ModulePath.named_ofRaw entryProper
  have listing := run.entry_sourced.listing_loaded (.ofRaw entry)
  rw [listing]
  simp only [Traversal.loaded, Graph.size] at proper member isEntry apart ⊢
  clear listing success entryProper
  generalize ModulePath.ofRaw entry = path at *
  obtain ⟨added, modules, _, asks, _⟩ := run.lists (by simpa using named) proper
  obtain rfl : final.modules = added := by simpa using modules
  have contained : SelfContained reader final.modules := ⟨asks, run.entry_followed⟩
  have nodup := run.entry_balanced.keys_nodup
  obtain ⟨source, inner, found, below, rfl⟩ := run.of_unmet (by simp)
  obtain ⟨module, closed⟩ : ∃ module : Module,
      module = ⟨path, source.location, importsOf path source.text⟩ := ⟨_, rfl⟩
  have last : module ∈ (inner.close path source (importsOf path source.text)).modules := by
    simp [closed]
  obtain rfl : main = module :=
    List.inj_on_of_nodup_map nodup member last (by rw [Module.key, isEntry, Module.key, closed])
  have edges : main.imports = importsOf path source.text := by rw [closed]
  have keyed : main.key = path.key := by rw [Module.key, isEntry]
  have specifiers := proper_of_importsOf path source.text fun edge edgeMember =>
    proper main last edge (edges ▸ edgeMember)
  have targetsNamed := named_of_mem_targetsOf path specifiers
  obtain ⟨lower, lowerModules, _, _, lists⟩ := below.lists targetsNamed
    fun module moduleMember => proper module (by simp [moduleMember])
  obtain rfl : inner.modules = lower := by simpa using lowerModules
  simp only [targetsOf, ← edges, List.map_map, Function.comp_def, Traversal.visited_opening]
    at lists targetsNamed
  rw [keyed] at apart
  obtain ⟨parts, loads, merged⟩ := contained.load_each uniform
    (fun edge edgeMember => targetsNamed edge.target (List.mem_map_of_mem edgeMember))
    (contained.complete main last) apart lists
  have mainListed : main.listed reader = ⟨path.key, source.text⟩ := by
    rw [closed, Module.listed_of_locate found]
  refine ⟨parts, source.text, loads, ?_, ?_⟩
  · rw [isEntry]
    exact textAt?_of_locate found
  · rw [keyed, ← merged, Traversal.modules_close, ← closed, List.map_append, List.map_singleton,
      mainListed]

def sharedText : String → String
  | "m.kooix" => "import \"a\";\nimport \"./b\";\n"
  | "a.kooix" => "import \"d\";\n"
  | "b.kooix" => "import \"c\";\nimport \"x/../d\";\n"
  | "c.kooix" => "import \"b\";\n"
  | _ => ""

def shared : Reader := fun path =>
  .ok ⟨sharedText (ModulePath.ofRaw path).key, true⟩

theorem uniform_shared : shared.Uniform := by
  have read (path : ModulePath) : shared.textAt? path = some (sharedText path.key) := by
    have content : shared path.text = .ok ⟨sharedText path.key, true⟩ := by
      rw [shared, ModulePath.ofRaw_text]
    exact textAt?_of_locate (locate_of_read content)
  intro path other same
  rw [read, read, same]

theorem load_composed_shared :
    ∃ (loaded : Loaded) (parts : List Loaded) (text : String),
      (load shared 4 "m").result = .ok loaded ∧
      loaded.listing.map Listed.key =
        ["d.kooix", "a.kooix", "c.kooix", "b.kooix", "m.kooix"] ∧
      loaded.listing =
        (parts.map Loaded.listing).foldl Listed.merge [] ++ [⟨"m.kooix", text⟩] := by
  have outcome : ((load shared 4 "m").result.toOption.map fun loaded =>
      (loaded.listing.map Listed.key,
        decide (∀ module ∈ loaded.graph.modules, ∀ edge ∈ module.imports,
          ¬EndsInDots edge.specifier ∧ edge.target.key ≠ "m.kooix"),
        decide (∃ module ∈ loaded.graph.modules, module.path = loaded.graph.entry ∧
          module.key = "m.kooix"))) =
      some (["d.kooix", "a.kooix", "c.kooix", "b.kooix", "m.kooix"], true, true) := by
    decide +kernel
  obtain ⟨loaded, success, shape⟩ := exists_ok_of_map_eq outcome
  simp only [Prod.mk.injEq, decide_eq_true_eq] at shape
  obtain ⟨keys, edges, main, member, isEntry, keyed⟩ := shape
  -- No module at all imports the entry.
  have apart : ∀ edge ∈ main.imports,
      ¬ReflTransGen (Leads loaded.graph.modules) edge.target.key main.key := by
    intro edge edgeMember reached
    rw [keyed] at reached
    rcases reached.cases_tail with same | ⟨_, _, module, moduleMember, _, last, lastMember, same⟩
    · exact (edges main member edge edgeMember).2 same.symm
    · exact (edges module moduleMember last lastMember).2 same
  obtain ⟨parts, text, _, _, listing⟩ := load_composed uniform_shared success
    (by decide +kernel) (fun module moduleMember edge edgeMember =>
      (edges module moduleMember edge edgeMember).1) member isEntry apart
  rw [keyed] at listing
  exact ⟨loaded, parts, text, success, keys, listing⟩

end Bundler.Source
