import EpsBridge.Bridge.Load
import EpsBridge.Host
import EpsBridge.Proofs.FileStore.Contents
import EpsBridge.Proofs.Library.Linker
import EpsBridge.Proofs.Trace

/-!
# The library that the environment names

Whether something is there is asked of the files, where a name is looked for in the working
directory.  Binding is done by the loader, which takes a name for a path only if there is a
slash in it, and looks for any other where it sees fit (`Follows`).  So a complete library that
the environment names is bound exactly if its name has a slash in it, or the loader comes upon
the same file by itself (`Reached`, `honoured_iff`).

A library in use goes by its names, whatever has become of its file: one that was replaced
meanwhile is bound as it was.
-/

namespace EpsBridge.LibrarySearch

variable {σ ι : Type} {platform : Platform σ ι} {loader : Loader σ ι} {workspace : Workspace}
  {state : σ} {path : Path} {text : String} {place : Location} {offered : List String}
  {modified : Int} {library : ι}

/-! ## What loaders do with names -/

/-- How a loader goes about names, and which file a library is of. -/
structure Naming (σ ι : Type) where
  /-- The file that a library was read from. -/
  place : ι → Option Location
  /-- The library in use that goes by a name. -/
  inUse? : σ → List UInt8 → Option ι
  /-- The file that the loader comes upon by a name without a slash. -/
  lookUp? : Workspace → σ → List UInt8 → Option Location

variable {naming : Naming σ ι}

/-- A library that was read from a place, where some entry points are offered. -/
structure IsOf (loader : Loader σ ι) (naming : Naming σ ι) (library : ι) (place : Location)
    (offered : List String) : Prop where
  place : naming.place library = some place
  offers : ∀ symbol, loader.offers library symbol = true ↔ symbol ∈ offered

/-- Bytes that can be the name of something. -/
structure IsName (name : List UInt8) : Prop where
  nonempty : name ≠ []
  noNul : 0 ∉ name

/-- What is documented of loaders: which libraries are opened by names. -/
structure Follows (loader : Loader σ ι) (naming : Naming σ ι) (workspace : Workspace)
    (state : σ) : Prop where
  /-- A library in use is not opened anew. -/
  inUse : ∀ path library, IsName path.bytes → naming.inUse? state path.bytes = some library →
    (loader.openLibrary workspace state path).1 = .ok library
  /-- A name with a slash is a path. -/
  path : ∀ path place offered modified, IsName path.bytes →
    naming.inUse? state path.bytes = none → Path.slash ∈ path.bytes →
    workspace.store.locate workspace.here path = .ok (place, .library offered modified) →
    ∃ library, (loader.openLibrary workspace state path).1 = .ok library ∧
      IsOf loader naming library place offered
  /-- What the loader comes upon by any other name is opened, -/
  found : ∀ path place offered modified, IsName path.bytes →
    naming.inUse? state path.bytes = none → Path.slash ∉ path.bytes →
    naming.lookUp? workspace state path.bytes = some place →
    workspace.store.node? place = some (.library offered modified) →
    ∃ library, (loader.openLibrary workspace state path).1 = .ok library ∧
      IsOf loader naming library place offered
  /-- and nothing else is. -/
  only : ∀ path library, IsName path.bytes →
    naming.inUse? state path.bytes = none → Path.slash ∉ path.bytes →
    (loader.openLibrary workspace state path).1 = .ok library →
    naming.place library = naming.lookUp? workspace state path.bytes

/-- A loader opens the library at a place, which offers some entry points, by a name. -/
inductive Reached (loader : Loader σ ι) (naming : Naming σ ι) (workspace : Workspace) (state : σ)
    (name : List UInt8) (place : Location) (offered : List String) : Prop
  /-- The library in use under the name is the one at the place, as it is now. -/
  | inUse {library : ι} (hused : naming.inUse? state name = some library)
      (hof : IsOf loader naming library place offered)
  | path (hunused : naming.inUse? state name = none) (hslash : Path.slash ∈ name)
  | found (hunused : naming.inUse? state name = none)
      (hfound : naming.lookUp? workspace state name = some place)

theorem isName_of_locate {found : Location × FileNode}
    (hlocate : workspace.store.locate workspace.here path = .ok found) : IsName path.bytes := by
  obtain ⟨hreach, -⟩ := FileStore.locate_eq_ok_iff.mp hlocate
  obtain ⟨hcheck, -⟩ := FileStore.reach?_eq_some_iff.mp hreach
  unfold FileStore.checkPath at hcheck
  split at hcheck
  · cases hcheck
  · next hnul =>
      split at hcheck
      · cases hcheck
      · next hempty =>
          exact ⟨mt List.isEmpty_iff.mpr hempty, mt List.contains_iff_mem.mpr hnul⟩

/-- What a path leads to is opened by the path, if the loader comes upon it. -/
theorem openLibrary_iff_reached (hfollows : Follows loader naming workspace state)
    (hlocate : workspace.store.locate workspace.here path =
      .ok (place, .library offered modified)) :
    (∃ library, (loader.openLibrary workspace state path).1 = .ok library ∧
      IsOf loader naming library place offered) ↔
        Reached loader naming workspace state path.bytes place offered := by
  have hname := isName_of_locate hlocate
  obtain ⟨-, hnode⟩ := FileStore.locate_eq_ok_iff.mp hlocate
  constructor
  · rintro ⟨library, hopened, hof⟩
    rcases hused : naming.inUse? state path.bytes with _ | known
    · by_cases hslash : Path.slash ∈ path.bytes
      · exact .path hused hslash
      · exact .found hused ((hfollows.only path library hname hused hslash hopened) ▸ hof.place)
    · have hknown := hfollows.inUse path known hname hused
      obtain rfl := Except.ok.inj (hknown.symm.trans hopened)
      exact .inUse hused hof
  · rintro (⟨hused, hof⟩ | ⟨hunused, hslash⟩ | ⟨hunused, hfound⟩)
    · exact ⟨_, hfollows.inUse path _ hname hused, hof⟩
    · exact hfollows.path path place offered modified hname hunused hslash hlocate
    · by_cases hslash : Path.slash ∈ path.bytes
      · exact hfollows.path path place offered modified hname hunused hslash hlocate
      · exact hfollows.found path place offered modified hname hunused hslash hfound hnode

end EpsBridge.LibrarySearch

/-! ## The linker -/

namespace EpsBridge.Linker

open LibrarySearch (Naming IsOf IsName Follows)

variable {workspace : Workspace} {state : State} {path : Path} {name : List UInt8}
  {place : Location} {offered : List String} {modified : Int} {image : Image}

/-- How the linker goes about names. -/
def naming : Naming State Image where
  place := Image.place
  inUse? := knownAs?
  lookUp? workspace state name := (found? workspace state name).map fun found => found.2.1

theorem isOf_iff : IsOf loader naming image place offered ↔
    image.place = some place ∧ ∀ symbol, symbol ∈ image.symbols ↔ symbol ∈ offered := by
  constructor
  · rintro ⟨hplace, hoffers⟩
    exact ⟨hplace, fun symbol => List.contains_iff_mem.symm.trans (hoffers symbol)⟩
  · rintro ⟨hplace, hoffers⟩
    exact ⟨hplace, fun symbol => List.contains_iff_mem.trans (hoffers symbol)⟩

theorem place_share (state : State) (image : Image) :
    (share state image).1.place = image.place ∧ (share state image).1.symbols = image.symbols := by
  unfold share
  split
  · next known hfound =>
      obtain ⟨hplace, hsymbols⟩ := Image.sameFile_iff.mp (List.find?_some hfound)
      exact ⟨hplace.symm, hsymbols.symm⟩
  · exact ⟨rfl, rfl⟩

theorem attempt_of_isName (state : State) (hname : IsName path.bytes) :
    attempt workspace state path =
      match knownAs? state path.bytes with
      | some image => .known image
      | none => .file (attemptFile workspace state path.bytes) := by
  have hended : ¬ path.bytes.getLast? = some 0 := fun hlast =>
    hname.noNul (List.mem_of_getLast? hlast)
  unfold attempt attemptName
  dsimp only
  rw [if_neg hended, if_neg (mt List.contains_iff_mem.mp hname.noNul)]
  exact if_neg (mt List.isEmpty_iff.mp hname.nonempty)

/-- A library in use is opened by its names, and a file otherwise. -/
theorem openLibrary_of_isName (workspace : Workspace) (hended : WellEnded state)
    (hname : IsName path.bytes) :
    (openLibrary workspace state path).1 =
      match knownAs? state path.bytes with
      | some image => .ok image
      | none => (concludeOpening state (attemptFile workspace state path.bytes)).1 := by
  obtain ⟨after, halike, hopened⟩ := openLibrary_spec hended (.refl workspace state) path
  rw [hopened, attempt_of_isName state hname, conclude_of_resident halike.resident]
  cases knownAs? state path.bytes <;> rfl

/-- A library is opened if it is the file that an attempt comes upon. -/
theorem exists_openLibrary (hended : WellEnded state) (hname : IsName path.bytes)
    (hunused : knownAs? state path.bytes = none) {shownName : String}
    {names : List (List UInt8)}
    (hattempt : attemptFile workspace state path.bytes =
      openNode shownName names place (.library offered modified)) :
    ∃ image, (openLibrary workspace state path).1 = .ok image ∧
      IsOf loader naming image place offered := by
  have hopened := openLibrary_of_isName workspace hended hname
  rw [hunused, hattempt] at hopened
  obtain ⟨hplace, hsymbols⟩ := place_share state ⟨names, some place, shownName, offered⟩
  exact ⟨_, hopened, isOf_iff.mpr ⟨hplace, fun symbol => by rw [hsymbols]⟩⟩

theorem place_of_openNode {shownName : String} {names : List (List UInt8)} {node : FileNode}
    (hopened : openNode shownName names place node = .ok image) : image.place = some place := by
  unfold openNode at hopened
  split at hopened
  · cases hopened
    rfl
  · cases hopened
  · split at hopened <;> cases hopened

theorem attemptFile_of_slash (hslash : Path.slash ∈ name) :
    attemptFile workspace state name = openAlong workspace name :=
  if_pos (List.contains_iff_mem.mpr hslash)

theorem attemptFile_of_not_slash (hslash : Path.slash ∉ name) :
    attemptFile workspace state name = openFound name (found? workspace state name) :=
  if_neg (mt List.contains_iff_mem.mp hslash)

/-- The linker does with names what is documented of loaders. -/
theorem follows_loader (hended : WellEnded state) (workspace : Workspace) :
    Follows loader naming workspace state where
  inUse path image hname hused := by
    have hopened := openLibrary_of_isName workspace hended hname
    rwa [show knownAs? state path.bytes = some image from hused] at hopened
  path path place offered modified hname hunused hslash hlocate := by
    have hattempt : attemptFile workspace state path.bytes =
        openNode (Utf8.decode path.bytes) [path.bytes] place (.library offered modified) := by
      rw [attemptFile_of_slash hslash, openAlong, hlocate]
    exact exists_openLibrary hended hname hunused hattempt
  found path place offered modified hname hunused hslash hfound hnode := by
    obtain ⟨⟨along, found, node⟩, hlook, rfl⟩ := Option.map_eq_some_iff.mp hfound
    obtain ⟨-, hthere⟩ := FileStore.locate_eq_ok_iff.mp (locate_of_found? hlook)
    obtain rfl := Option.some.inj (hthere.symm.trans hnode)
    have hattempt : attemptFile workspace state path.bytes =
        openNode (Utf8.decode along) [along, path.bytes] found (.library offered modified) := by
      rw [attemptFile_of_not_slash hslash, hlook, openFound]
    exact exists_openLibrary hended hname hunused hattempt
  only path image hname hunused hslash hopened := by
    have hunused : knownAs? state path.bytes = none := hunused
    have hopened := (openLibrary_of_isName workspace hended hname).symm.trans hopened
    rw [hunused, attemptFile_of_not_slash hslash] at hopened
    change image.place = (found? workspace state path.bytes).map fun found => found.2.1
    rcases hfound : found? workspace state path.bytes with _ | ⟨along, found, node⟩ <;>
      rw [hfound] at hopened
    · cases hopened
    · dsimp only [openFound] at hopened
      rcases hnode : openNode (Utf8.decode along) [along, path.bytes] found node with
        reason | opened <;> rw [hnode] at hopened
      · cases hopened
      · obtain rfl := Except.ok.inj hopened
        rw [(place_share state opened).1, place_of_openNode hnode]
        rfl

end EpsBridge.Linker

namespace EpsBridge.LibrarySearch.Session

open Linker (Sound)

variable {σ ι : Type} {platform : Platform σ ι} {naming : Naming σ ι} {session : Session σ}
  {path : Path} {text : String} {place : Location} {offered : List String} {modified : Int}

/-! ## What the environment names -/

/-- The library at a place is bound by the path that the environment names. -/
structure Honoured (platform : Platform σ ι) (naming : Naming σ ι) (session : Session σ)
    (path : Path) (place : Location) (offered : List String) : Prop where
  bound : ∃ library, session.answer platform none = .ok (path, library) ∧
    IsOf platform.loader naming library place offered
  /-- A bridge of a caller who asks for nothing is a bridge over it, wherever libraries are
  loaded by such a search. -/
  loaded : ∀ {ε τ : Type} (handler : Program.Handler ε τ) (refer : Path → ε) (state : τ),
    (handler (.load none) state).1 =
      (session.answer platform none).map (fun bound => refer bound.1) →
    ((Bridge.load .default).run handler state).1 = .ok ⟨refer path, .default⟩

theorem honoured_of_answer {library : ι}
    (hanswer : session.answer platform none = .ok (path, library))
    (hof : IsOf platform.loader naming library place offered) :
    Honoured platform naming session path place offered := by
  refine ⟨⟨library, hanswer, hof⟩, fun handler refer state hload => ?_⟩
  rw [hanswer] at hload
  have hload : (handler (.load none) state).1 = .ok (refer path) := hload
  simp only [Bridge.load, Program.perform, Program.run_bind, Program.run_act,
    Program.run_done, Config.default, hload, Program.run_pure]

/-- What a host loads is what a search binds. -/
theorem load_eq (host : Host) (path : Option Path) :
    (host.load path).1 =
      (answer Linux.platform ⟨host.workspace, host.search⟩ path).map fun bound =>
        .library bound.1 := by
  unfold Host.load answer
  dsimp only
  rcases bindLibrary Linux.platform host.workspace host.search path with ⟨error | bound, search⟩ <;>
    rfl

/-- A bridge of a caller who asks for nothing is a bridge over it on hosts. -/
theorem run_load_of_honoured {naming : Naming Linker.State Linker.Image} (host : Host)
    (hhonoured : Honoured Linux.platform naming ⟨host.workspace, host.search⟩ path place offered) :
    (host.run (Bridge.load .default)).1 = .ok ⟨.library path, .default⟩ :=
  hhonoured.loaded (Host.handle Host.firstThread) .library host (load_eq host none)

/-- What the environment names comes first, if it is there. -/
theorem head?_candidates (platform : Platform σ ι)
    (hnamed : namedPath? session.search.environment = some path)
    (hexists : session.workspace.exists? path = true) :
    (session.candidates platform).head? = some path := by
  obtain ⟨⟨named, cached, hthere, -, hfirsts⟩, -, -⟩ :=
    listed_candidates platform session.workspace session.search
  rw [hnamed] at hthere
  rw [candidates, hfirsts.head?_eq, hthere.eq_singleton hexists]
  rfl

/-- **The library that the environment names** is bound exactly if its name is a path with a
slash, or the loader comes upon the same file by that name, and no library that was in its
place is still in use; whatever else the environment holds and whatever was found before. -/
theorem honoured_iff
    (hfollows : Follows platform.loader naming session.workspace session.search.loader)
    (hnamed : session.search.environment.text? "GS_LIB_PATH" = some text)
    (hlocate : session.workspace.store.locate session.workspace.here (.ofString text) =
      .ok (place, .library offered modified))
    (hoffered : ∀ symbol ∈ entryPoints, symbol ∈ offered) :
    Honoured platform naming session (.ofString text) place offered ↔
      Reached platform.loader naming session.workspace session.search.loader
        (Path.ofString text).bytes place offered := by
  rw [← openLibrary_iff_reached hfollows hlocate]
  have hpath : namedPath? session.search.environment = some (.ofString text) := by
    rw [namedPath?, hnamed, Option.map_some]
  have hexists : session.workspace.exists? (.ofString text) = true := by
    rw [Workspace.exists?, FileStore.exists?, hlocate]
    rfl
  obtain ⟨rest, hcandidates⟩ :=
    List.head?_eq_some_iff.mp (head?_candidates platform hpath hexists)
  have hsearched := searchedInTurn_answer platform session
  rw [hcandidates] at hsearched
  constructor
  · rintro ⟨⟨library, hanswer, hof⟩, -⟩
    have hdistinct := (listed_candidates platform session.workspace session.search).distinct
    rw [← candidates, hcandidates, List.pairwise_cons] at hdistinct
    have hfresh : Path.ofString text ∉ rest := fun hmem =>
      Bool.noConfusion ((hdistinct.1 _ hmem).symm.trans (leadsLike_iff.mpr rfl))
    rw [hanswer] at hsearched
    cases hsearched.loaded_of_head hfresh with
    | bound hopened _ => exact ⟨library, hopened, hof⟩
  · rintro ⟨library, hopened, hof⟩
    have hcomplete : Complete platform.loader library := fun symbol hsymbol =>
      (hof.offers symbol).mpr (hoffered symbol hsymbol)
    obtain ⟨bound, hanswer, hloaded⟩ :=
      hsearched.exists_ok_of_head ⟨library, hopened, hcomplete⟩
    cases hloaded with
    | bound hother _ =>
        obtain rfl := Except.ok.inj (hother.symm.trans hopened)
        exact honoured_of_answer hanswer hof

/-! ## Processes on Linux -/

/-- What is documented of loaders. -/
structure Documented (loader : Loader σ ι) (naming : Naming σ ι) (session : Session σ) : Prop where
  undisturbed : Undisturbed loader session.workspace session.search.loader
  follows : Follows loader naming session.workspace session.search.loader

/-- It holds of the linker at all times, whatever a process binds. -/
theorem documented_run (workspace : Workspace) (environment : Environment)
    {events : List (Event Linker.State)} (hspares : ∀ event ∈ events, Linker.Spares event) :
    Documented Linux.platform.loader Linker.naming
      ((start workspace environment (Linux.startLinker environment)).run Linux.platform
        events) := by
  have hstart : Sound (start workspace environment
      (Linux.startLinker environment)).search.loader := Linker.sound_start _
  have hsound := Linker.sound_run hstart hspares
  exact ⟨Linker.undisturbed_loader hsound _, Linker.follows_loader hsound.ended _⟩

/-- Where the library of a workspace lies. -/
def libraryPlace : Location := [Utf8.encode "gs.so", Utf8.encode "w"]

/-- A workspace with a complete library in the working directory. -/
def libraryWorkspace : Workspace :=
  let files := Workspace.empty (.ofString "/w") (.ofString "/tmp") 0
  { files with store := files.store.insert libraryPlace (.library entryPoints 0) }

/-- A process on Linux whose environment names a library. -/
def startNaming (text : String) : Session Linker.State :=
  let environment := [("GS_LIB_PATH", Utf8.encode text)]
  start libraryWorkspace environment (Linux.startLinker environment)

theorem locate_library {text : String}
    (hreach : libraryWorkspace.store.reach? libraryWorkspace.here (.ofString text) =
      some libraryPlace) :
    libraryWorkspace.store.locate libraryWorkspace.here (.ofString text) =
      .ok (libraryPlace, .library entryPoints 0) :=
  FileStore.locate_eq_ok_iff.mpr
    ⟨hreach, FileStore.node?_insert_self _ (List.cons_ne_nil _ _) _⟩

/-- A library that is named by a path with a slash is bound. -/
theorem honoured_iff_dotted :
    let session := startNaming "./gs.so"
    Follows Linux.platform.loader Linker.naming session.workspace session.search.loader ∧
      session.search.environment.text? "GS_LIB_PATH" = some "./gs.so" ∧
      session.workspace.store.locate session.workspace.here (.ofString "./gs.so") =
        .ok (libraryPlace, .library entryPoints 0) ∧
      Honoured Linux.platform Linker.naming session (.ofString "./gs.so") libraryPlace
        entryPoints := by
  intro session
  have hfollows : Follows Linux.platform.loader Linker.naming session.workspace
      session.search.loader :=
    (documented_run libraryWorkspace [("GS_LIB_PATH", Utf8.encode "./gs.so")]
      (List.forall_mem_nil _)).follows
  have hnamed : session.search.environment.text? "GS_LIB_PATH" = some "./gs.so" := by decide +kernel
  have hlocate := @locate_library "./gs.so" (by decide +kernel)
  refine ⟨hfollows, hnamed, hlocate, ?_⟩
  refine (honoured_iff hfollows hnamed hlocate fun _ hsymbol => hsymbol).mpr (.path rfl ?_)
  decide +kernel

/-- The same library, named without a slash, is not bound, nor is any other. -/
theorem not_honoured_bareName :
    let session := startNaming "gs.so"
    session.search.environment.text? "GS_LIB_PATH" = some "gs.so" ∧
      session.workspace.store.locate session.workspace.here (.ofString "gs.so") =
        .ok (libraryPlace, .library entryPoints 0) ∧
      (∀ bound, session.answer Linux.platform none ≠ .ok bound) ∧
      ¬ Honoured Linux.platform Linker.naming session (.ofString "gs.so") libraryPlace
        entryPoints := by
  intro session
  have hnone : (session.answer Linux.platform none).toOption = none := by decide +kernel
  have hfails : ∀ bound, session.answer Linux.platform none ≠ .ok bound := by
    intro bound hanswer
    rw [hanswer] at hnone
    cases hnone
  refine ⟨by decide +kernel, locate_library (by decide +kernel), hfails, ?_⟩
  rintro ⟨⟨library, hanswer, -⟩, -⟩
  exact hfails _ hanswer

end EpsBridge.LibrarySearch.Session
