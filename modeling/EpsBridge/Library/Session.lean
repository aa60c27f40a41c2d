import EpsBridge.Library.Search

/-!
# Processes that bind libraries

What a process does as far as libraries are concerned: it binds one and perhaps
keeps it in use, and meanwhile everything else that a search depends on may change,
that is the state of the loader, the files with the working directory, and the
environment.
-/

namespace EpsBridge.LibrarySearch

variable {σ ι : Type}

/-- A process that binds libraries. -/
structure Session (σ : Type) where
  workspace : Workspace
  search : State σ

/-- What happens in a process that binds libraries. -/
inductive Event (σ : Type) where
  /-- A library is bound, at a path if one is given. -/
  | bind (explicit : Option Path) (keeps : Bool)
  /-- Libraries are let go of, or others are opened. -/
  | changeLoader (loader : σ)
  | changeWorkspace (workspace : Workspace)
  | changeEnvironment (environment : Environment)

/-- A request for a library, and what it came to. -/
structure Call (ι : Type) where
  explicit : Option Path
  result : Except LibraryError (Path × ι)

namespace Session

/-- A process that has bound nothing. -/
def start (workspace : Workspace) (environment : Environment) (loader : σ) : Session σ :=
  ⟨workspace, environment, loader, none⟩

variable (platform : Platform σ ι) (session : Session σ)

/-- What binding a library comes to now. -/
def answer (explicit : Option Path) : Except LibraryError (Path × ι) :=
  (bindLibrary platform session.workspace session.search explicit).1

/-- Binds a library, and keeps it in use if asked to. -/
def bind (explicit : Option Path) (keeps : Bool) : Session σ :=
  let (result, search) := bindLibrary platform session.workspace session.search explicit
  match result with
  | .ok (_, library) =>
    if keeps then
      { session with
        search := { search with loader := platform.loader.keep search.loader library } }
    else { session with search }
  | .error _ => { session with search }

/-- The process after something happened. -/
def step : Event σ → Session σ
  | .bind explicit keeps => session.bind platform explicit keeps
  | .changeLoader loader => { session with search.loader := loader }
  | .changeWorkspace workspace => { session with workspace }
  | .changeEnvironment environment => { session with search.environment := environment }

/-- The process after all that happened. -/
def run (events : List (Event σ)) : Session σ :=
  events.foldl (step platform) session

/-- The request that something that happens is. -/
def call? : Event σ → Option (Call ι)
  | .bind explicit _ => some ⟨explicit, session.answer platform explicit⟩
  | _ => none

/-- The requests for libraries among all that happens. -/
def calls (platform : Platform σ ι) (session : Session σ) : List (Event σ) → List (Call ι)
  | [] => []
  | event :: rest =>
    (session.call? platform event).toList ++ (session.step platform event).calls platform rest

end Session

/-- The path that a successful search found. -/
def Call.found? (call : Call ι) : Option Path :=
  match call.explicit, call.result with
  | none, .ok (path, _) => some path
  | _, _ => none

end EpsBridge.LibrarySearch
