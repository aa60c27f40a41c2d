import EpsBridge.Library.Session
import EpsBridge.Proofs.Library.Candidates

/-!
# Searches over the life of a process

A search judges each candidate by the loader as it then is (`SearchedInTurn`).  Of a loader
that is undisturbed by what fails to be bound, this is how each candidate would be judged by
itself, so the search binds the first candidate that could be bound, or says of each why it
could not (`SearchedInTurn.searched`).

What a process remembers is what its first successful search found (`remembered_run`).
-/

namespace EpsBridge.LibrarySearch

variable {σ ι : Type} {platform : Platform σ ι} {loader : Loader σ ι} {workspace : Workspace}
  {state now : σ} {path : Path} {library : ι}

/-! ## Binding one library -/

/-- The entry points that are needed. -/
def entryPoints : List String :=
  ["gsapi_revision", "gsapi_new_instance", "gsapi_delete_instance", "gsapi_set_arg_encoding",
    "gsapi_set_stdio_with_handle", "gsapi_init_with_args", "gsapi_exit"]

/-- A library with all entry points. -/
def Complete (loader : Loader σ ι) (library : ι) : Prop :=
  ∀ symbol ∈ entryPoints, loader.offers library symbol = true

/-- A library can be bound at a path: it opens there, and has all entry points. -/
def Binds (loader : Loader σ ι) (workspace : Workspace) (state : σ) (path : Path) : Prop :=
  ∃ library, (loader.openLibrary workspace state path).1 = .ok library ∧ Complete loader library

/-- What binding the library at a path comes to. -/
inductive Loaded (loader : Loader σ ι) (workspace : Workspace) (state : σ) (path : Path) :
    Except LibraryError ι → Prop
  | bound {library : ι} (hopened : (loader.openLibrary workspace state path).1 = .ok library)
      (hcomplete : Complete loader library) : Loaded loader workspace state path (.ok library)
  | unopened {reason : String}
      (hopened : (loader.openLibrary workspace state path).1 = .error reason) :
      Loaded loader workspace state path (.error (.bind path reason))
  /-- The first entry point that is missing is the one that is complained about. -/
  | lacking {library : ι} {before after : List String} {symbol : String}
      (hopened : (loader.openLibrary workspace state path).1 = .ok library)
      (hsymbols : entryPoints = before ++ symbol :: after)
      (hbefore : ∀ earlier ∈ before, loader.offers library earlier = true)
      (hlacks : loader.offers library symbol = false) :
      Loaded loader workspace state path
        (.error (.missingSymbol path symbol (loader.complaint library symbol)))

theorem loaded_bindPath (loader : Loader σ ι) (workspace : Workspace) (state : σ) (path : Path) :
    Loaded loader workspace state path (bindPath loader workspace state path).1 := by
  unfold bindPath
  rcases hopened : loader.openLibrary workspace state path with ⟨reason | library, after⟩
  · exact .unopened (by rw [hopened])
  · dsimp only
    split
    · next symbol hfound =>
        obtain ⟨hlacks, before, after, hsymbols, hbefore⟩ := List.find?_eq_some_iff_append.mp hfound
        refine .lacking (by rw [hopened]) hsymbols ?_ (by simpa using hlacks)
        intro earlier hearlier
        simpa using hbefore earlier hearlier
    · next hfound =>
        refine .bound (by rw [hopened]) fun symbol hsymbol => ?_
        simpa using List.find?_eq_none.mp hfound symbol hsymbol

theorem bindPath_state (loader : Loader σ ι) (workspace : Workspace) (state : σ) (path : Path) :
    (bindPath loader workspace state path).2 = (loader.openLibrary workspace state path).2 := by
  unfold bindPath
  split
  · next hopened => rw [hopened]
  · next hopened =>
      rw [hopened]
      split <;> rfl

namespace Loaded

theorem not_binds {error : LibraryError}
    (hloaded : Loaded loader workspace state path (.error error)) :
    ¬ Binds loader workspace state path := by
  rintro ⟨library, hopened, hcomplete⟩
  cases hloaded with
  | unopened hother => cases hother.symm.trans hopened
  | lacking hother hsymbols _ hlacks =>
      cases hother.symm.trans hopened
      have hneeded := hcomplete _ (hsymbols ▸ List.mem_append_right _ List.mem_cons_self)
      cases hlacks.symm.trans hneeded

/-- What binding comes to depends on what opening comes to. -/
theorem of_open (hsame : (loader.openLibrary workspace now path).1 =
    (loader.openLibrary workspace state path).1) {result : Except LibraryError ι}
    (hloaded : Loaded loader workspace now path result) :
    Loaded loader workspace state path result := by
  cases hloaded with
  | bound hopened hcomplete => exact .bound (hsame ▸ hopened) hcomplete
  | unopened hopened => exact .unopened (hsame ▸ hopened)
  | lacking hopened hsymbols hbefore hlacks =>
      exact .lacking (hsame ▸ hopened) hsymbols hbefore hlacks

end Loaded

/-! ## One search -/

/-- Candidates that fail one after another, each judged by the loader as the ones before it
left it, with an entry for each. -/
inductive Tried (loader : Loader σ ι) (workspace : Workspace) :
    σ → List Path → List String → σ → Prop
  | nil {state : σ} : Tried loader workspace state [] [] state
  | cons {state after : σ} {path : Path} {rest : List Path} {entries : List String}
      {error : LibraryError} (hfails : Loaded loader workspace state path (.error error))
      (hrest : Tried loader workspace (loader.openLibrary workspace state path).2 rest entries
        after) :
      Tried loader workspace state (path :: rest)
        ((path.display ++ " (" ++ error.message ++ ")") :: entries) after

/-- What a search through candidates comes to, each of which is judged in its turn. -/
inductive SearchedInTurn (loader : Loader σ ι) (workspace : Workspace) (state : σ)
    (candidates : List Path) : Except LibraryError (Path × ι) → Prop
  /-- The candidates in front of the one that is bound have failed. -/
  | found {before after : List Path} {entries : List String} {now : σ} {path : Path} {library : ι}
      (hcandidates : candidates = before ++ path :: after)
      (hbefore : Tried loader workspace state before entries now)
      (hloaded : Loaded loader workspace now path (.ok library)) :
      SearchedInTurn loader workspace state candidates (.ok (path, library))
  /-- All candidates have failed. -/
  | notFound {entries : List String} {now : σ}
      (htried : Tried loader workspace state candidates entries now) :
      SearchedInTurn loader workspace state candidates (.error (.notFound entries))

/-- The candidates that are left are searched after some that were tried. -/
theorem searchedInTurn_bindFirst (loader : Loader σ ι) (workspace : Workspace) (state : σ)
    (tried : List String) (candidates : List Path) :
    ∃ result, SearchedInTurn loader workspace state candidates result ∧
      (bindFirst loader workspace state tried candidates).1 = match result with
        | .error (.notFound entries) => .error (.notFound (tried.reverse ++ entries))
        | result => result := by
  induction candidates generalizing state tried with
  | nil =>
      refine ⟨_, .notFound .nil, ?_⟩
      dsimp only
      rw [List.append_nil, bindFirst]
  | cons path rest ih =>
      have hloaded := loaded_bindPath loader workspace state path
      have hstate := bindPath_state loader workspace state path
      rw [bindFirst]
      rcases hbound : bindPath loader workspace state path with ⟨error | library, after⟩ <;>
        rw [hbound] at hloaded hstate <;> dsimp only at hloaded hstate ⊢
      · obtain ⟨result, hsearched, hresult⟩ := ih after (attemptText path error :: tried)
        rw [hresult]
        rw [hstate] at hsearched
        cases hsearched with
        | found hcandidates hbefore hfound =>
            exact ⟨_, .found (congrArg (path :: ·) hcandidates) (.cons hloaded hbefore) hfound, rfl⟩
        | notFound htried =>
            refine ⟨_, .notFound (.cons hloaded htried), ?_⟩
            dsimp only
            rw [List.reverse_cons, List.append_assoc]
            rfl
      · exact ⟨_, .found rfl .nil hloaded, rfl⟩

/-- The first candidate is found if it can be bound. -/
theorem SearchedInTurn.exists_ok_of_head {rest : List Path}
    {result : Except LibraryError (Path × ι)}
    (hsearched : SearchedInTurn loader workspace state (path :: rest) result)
    (hbinds : Binds loader workspace state path) :
    ∃ library, result = .ok (path, library) ∧
      Loaded loader workspace state path (.ok library) := by
  cases hsearched with
  | @found before _ _ _ _ library hcandidates hbefore hloaded =>
      cases hbefore with
      | nil =>
          obtain ⟨rfl, -⟩ := List.cons.inj hcandidates
          exact ⟨library, rfl, hloaded⟩
      | cons hfails _ =>
          obtain ⟨rfl, -⟩ := List.cons.inj hcandidates
          exact absurd hbinds hfails.not_binds
  | notFound htried =>
      cases htried with
      | cons hfails _ => exact absurd hbinds hfails.not_binds

/-- A candidate that comes first, and only there, was judged first if it was bound. -/
theorem SearchedInTurn.loaded_of_head {rest : List Path} (hfresh : path ∉ rest)
    (hsearched : SearchedInTurn loader workspace state (path :: rest) (.ok (path, library))) :
    Loaded loader workspace state path (.ok library) := by
  cases hsearched with
  | found hcandidates hbefore hloaded =>
      cases hbefore with
      | nil => exact hloaded
      | cons _ _ =>
          obtain ⟨-, rfl⟩ := List.cons.inj hcandidates
          exact absurd (List.mem_append_right _ List.mem_cons_self) hfresh

/-! ### Candidates by themselves -/

/-- A loader that is undisturbed: what fails to open, or is let go of for lack of an entry point,
leaves everything to open as it would have opened before. -/
def Undisturbed (loader : Loader σ ι) (workspace : Workspace) (state : σ) : Prop :=
  ∀ candidates entries now, Tried loader workspace state candidates entries now →
    ∀ path, (loader.openLibrary workspace now path).1 =
      (loader.openLibrary workspace state path).1

/-- An entry in the list of candidates that failed. -/
def Refused (loader : Loader σ ι) (workspace : Workspace) (state : σ) (path : Path)
    (entry : String) : Prop :=
  ∃ error : LibraryError, Loaded loader workspace state path (.error error) ∧
    entry = path.display ++ " (" ++ error.message ++ ")"

/-- What a search through candidates comes to, each of which is judged by itself. -/
inductive Searched (loader : Loader σ ι) (workspace : Workspace) (state : σ)
    (candidates : List Path) : Except LibraryError (Path × ι) → Prop
  /-- The first candidate that can be bound is bound. -/
  | found {before after : List Path} {path : Path} {library : ι}
      (hcandidates : candidates = before ++ path :: after)
      (hbefore : ∀ earlier ∈ before, ¬ Binds loader workspace state earlier)
      (hloaded : Loaded loader workspace state path (.ok library)) :
      Searched loader workspace state candidates (.ok (path, library))
  /-- There is one entry for each candidate. -/
  | notFound {entries : List String}
      (hentries : List.Forall₂ (Refused loader workspace state) candidates entries) :
      Searched loader workspace state candidates (.error (.notFound entries))

theorem Tried.snoc {candidates : List Path} {entries : List String} {error : LibraryError}
    (htried : Tried loader workspace state candidates entries now)
    (hfails : Loaded loader workspace now path (.error error)) :
    Tried loader workspace state (candidates ++ [path])
      (entries ++ [path.display ++ " (" ++ error.message ++ ")"])
      (loader.openLibrary workspace now path).2 := by
  induction htried with
  | nil => exact .cons hfails .nil
  | cons hfirst _ ih => exact .cons hfirst (ih hfails)

/-- Candidates that fail in their turn, behind some that were tried before, fail by
themselves. -/
theorem Undisturbed.refused (hquiet : Undisturbed loader workspace state) {after : σ}
    {tried candidates : List Path} {before entries : List String}
    (htried : Tried loader workspace state tried before now)
    (hfail : Tried loader workspace now candidates entries after) :
    List.Forall₂ (Refused loader workspace state) candidates entries := by
  induction hfail generalizing tried before with
  | nil => exact .nil
  | @cons _ _ path _ _ error hfails _ ih =>
      exact .cons ⟨error, hfails.of_open (hquiet _ _ _ htried path), rfl⟩ (ih (htried.snoc hfails))

theorem not_binds_of_refused {candidates : List Path} {entries : List String}
    (hentries : List.Forall₂ (Refused loader workspace state) candidates entries) :
    ∀ path ∈ candidates, ¬ Binds loader workspace state path := by
  induction hentries with
  | nil => exact nofun
  | cons hrefused _ ih =>
      obtain ⟨error, hfails, -⟩ := hrefused
      exact List.forall_mem_cons.mpr ⟨hfails.not_binds, ih⟩

/-- Of an undisturbed loader, candidates that are judged in their turn are judged by
themselves. -/
theorem SearchedInTurn.searched {candidates : List Path}
    {result : Except LibraryError (Path × ι)} (hquiet : Undisturbed loader workspace state)
    (hsearched : SearchedInTurn loader workspace state candidates result) :
    Searched loader workspace state candidates result := by
  cases hsearched with
  | @found _ _ _ _ path _ hcandidates hbefore hloaded =>
      exact .found hcandidates (not_binds_of_refused (hquiet.refused .nil hbefore))
        (hloaded.of_open (hquiet _ _ _ hbefore path))
  | notFound htried => exact .notFound (hquiet.refused .nil htried)

/-! ## Processes -/

namespace Session

variable {session : Session σ}

/-- The candidates of a search now. -/
def candidates (platform : Platform σ ι) (session : Session σ) : List Path :=
  LibrarySearch.candidates platform session.workspace session.search none

theorem searchedInTurn_answer (platform : Platform σ ι) (session : Session σ) :
    SearchedInTurn platform.loader session.workspace session.search.loader
      (session.candidates platform) (session.answer platform none) := by
  obtain ⟨result, hsearched, hresult⟩ := searchedInTurn_bindFirst platform.loader
    session.workspace session.search.loader [] (session.candidates platform)
  have hanswer : session.answer platform none = result := by
    refine hresult.trans ?_
    cases hsearched <;> rfl
  rw [hanswer]
  exact hsearched

/-- A path that is given is bound by itself, whatever else could be bound. -/
theorem bindLibrary_explicit (platform : Platform σ ι) (session : Session σ) (path : Path) :
    bindLibrary platform session.workspace session.search (some path) =
      ((bindPath platform.loader session.workspace session.search.loader path).1.map (path, ·),
        { session.search with
          loader :=
            (platform.loader.openLibrary session.workspace session.search.loader path).2 }) := by
  rw [← bindPath_state]
  rfl

/-- Binding searches, and if a library was found and is to be kept, it is in use from then on. -/
theorem bind_cases (platform : Platform σ ι) (session : Session σ) (explicit : Option Path)
    (keeps : Bool) :
    let after := (bindLibrary platform session.workspace session.search explicit).2
    session.bind platform explicit keeps = { session with search := after } ∨
      ∃ path library, session.answer platform explicit = .ok (path, library) ∧
        session.bind platform explicit keeps =
          { session with
            search := { after with loader := platform.loader.keep after.loader library } } := by
  unfold bind answer
  rcases bindLibrary platform session.workspace session.search explicit with
    ⟨error | ⟨path, library⟩, after⟩
  · exact .inl rfl
  · cases keeps with
    | false => exact .inl rfl
    | true => exact .inr ⟨path, library, rfl, rfl⟩

/-! ### What a process remembers -/

/-- The path that the first successful search found. -/
def firstFound? (calls : List (Call ι)) : Option Path := calls.findSome? Call.found?

/-- Only a search writes what is remembered, and only if there was nothing. -/
theorem remembered_bindLibrary (platform : Platform σ ι) (session : Session σ)
    (explicit : Option Path) :
    (bindLibrary platform session.workspace session.search explicit).2.remembered =
      session.search.remembered.or
        (Call.found? ⟨explicit, session.answer platform explicit⟩) := by
  cases explicit with
  | some path => exact Option.or_none.symm
  | none =>
      unfold answer bindLibrary
      dsimp only
      rcases bindFirst platform.loader session.workspace session.search.loader []
        (LibrarySearch.candidates platform session.workspace session.search none) with
        ⟨error | ⟨path, library⟩, loader⟩
      · exact Option.or_none.symm
      · cases session.search.remembered <;> rfl

theorem remembered_step (platform : Platform σ ι) (session : Session σ) (event : Event σ) :
    (session.step platform event).search.remembered =
      session.search.remembered.or ((session.call? platform event).bind Call.found?) := by
  cases event with
  | bind explicit keeps =>
      have hremembered := remembered_bindLibrary platform session explicit
      rcases bind_cases platform session explicit keeps with hbind | ⟨path, library, -, hbind⟩ <;>
        rw [step, hbind] <;> exact hremembered
  | changeLoader loader => exact Option.or_none.symm
  | changeWorkspace workspace => exact Option.or_none.symm
  | changeEnvironment environment => exact Option.or_none.symm

theorem findSome?_toList (call? : Option (Call ι)) :
    call?.toList.findSome? Call.found? = call?.bind Call.found? := by
  cases call? with
  | none => rfl
  | some call => exact List.findSome?_singleton

theorem remembered_run (platform : Platform σ ι) (session : Session σ) (events : List (Event σ)) :
    (session.run platform events).search.remembered =
      session.search.remembered.or (firstFound? (session.calls platform events)) := by
  induction events generalizing session with
  | nil => exact Option.or_none.symm
  | cons event rest ih =>
      calc (session.run platform (event :: rest)).search.remembered
          = ((session.step platform event).run platform rest).search.remembered := rfl
        _ = (session.step platform event).search.remembered.or
              (firstFound? ((session.step platform event).calls platform rest)) := ih _
        _ = session.search.remembered.or (((session.call? platform event).bind Call.found?).or
              (firstFound? ((session.step platform event).calls platform rest))) := by
            rw [remembered_step, Option.or_assoc]
        _ = session.search.remembered.or
              (firstFound? (session.calls platform (event :: rest))) := by
            rw [calls, firstFound?, firstFound?, List.findSome?_append,
              findSome?_toList (session.call? platform event)]

/-! ### Searches of a process -/

/-- What a process comes to when it asks for a library, given what it asked for before. -/
structure Searches (platform : Platform σ ι) (past : List (Call ι)) (session : Session σ) :
    Prop where
  /-- A search binds the first candidate that can be bound in its turn, or lists them all. -/
  search : SearchedInTurn platform.loader session.workspace session.search.loader
    (session.candidates platform) (session.answer platform none)
  /-- So it is for candidates by themselves, unless those that fail disturb the loader. -/
  apart : Undisturbed platform.loader session.workspace session.search.loader →
    Searched platform.loader session.workspace session.search.loader
      (session.candidates platform) (session.answer platform none)
  listed : Listed platform session.workspace session.search (session.candidates platform)
  /-- A path that is given is bound by itself or not at all. -/
  alone : ∀ path, ∃ result,
    Loaded platform.loader session.workspace session.search.loader path result ∧
      bindLibrary platform session.workspace session.search (some path) =
        (result.map (path, ·), { session.search with
          loader :=
            (platform.loader.openLibrary session.workspace session.search.loader path).2 })
  /-- The first search with success is the one that is remembered, -/
  remembered : session.search.remembered = firstFound? past
  /-- and it is remembered from then on. -/
  stays : ∀ path, session.search.remembered = some path →
    ∀ events, (session.run platform events).search.remembered = some path
  /-- It is found again while it can be bound, unless the environment names something. -/
  again : ∀ path, session.search.remembered = some path →
    (∀ named, namedPath? session.search.environment = some named →
      session.workspace.exists? named = false) →
    Binds platform.loader session.workspace session.search.loader path →
    ∃ library, session.answer platform none = .ok (path, library)

theorem exists_ok_of_remembered (hremembered : session.search.remembered = some path)
    (hnamed : ∀ named, namedPath? session.search.environment = some named →
      session.workspace.exists? named = false)
    (hbinds : Binds platform.loader session.workspace session.search.loader path) :
    ∃ library, session.answer platform none = .ok (path, library) := by
  have hsearched := searchedInTurn_answer platform session
  obtain ⟨⟨named, cached, hthere, -, hfirsts⟩, -, -⟩ :=
    listed_candidates platform session.workspace session.search
  have hhead : (session.candidates platform).head? = some path := by
    rw [candidates, hfirsts.head?_eq, hthere.eq_nil hnamed, hremembered]
    rfl
  obtain ⟨rest, hcandidates⟩ := List.head?_eq_some_iff.mp hhead
  rw [hcandidates] at hsearched
  obtain ⟨library, hanswer, -⟩ := hsearched.exists_ok_of_head hbinds
  exact ⟨library, hanswer⟩

/-- **Searches.**  On whatever platform, whatever a process binds, and however its loader, its
files and its environment change meanwhile, a search binds the first of its candidates that can
be bound or says of each why it could not, a path that is given is bound by itself, and the
first search with success is remembered for good. -/
theorem searches_run (platform : Platform σ ι) (workspace : Workspace) (environment : Environment)
    (loader : σ) (events : List (Event σ)) :
    Searches platform ((start workspace environment loader).calls platform events)
      ((start workspace environment loader).run platform events) := by
  have hsearched := searchedInTurn_answer platform
    ((start workspace environment loader).run platform events)
  refine ⟨hsearched, fun hquiet => hsearched.searched hquiet, listed_candidates platform _ _,
    fun path => ?_, ?_, fun path hremembered more => ?_, fun path => exists_ok_of_remembered⟩
  · exact ⟨_, loaded_bindPath _ _ _ path, bindLibrary_explicit platform _ path⟩
  · exact (remembered_run platform _ events).trans Option.none_or
  · rw [remembered_run, hremembered, Option.some_or]

end Session

end EpsBridge.LibrarySearch
