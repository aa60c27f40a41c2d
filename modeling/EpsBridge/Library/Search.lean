import EpsBridge.Library.Loader
import EpsBridge.LibraryError

/-!
# Searching for the engine library

A library is bound when it opens and has every entry point.  Given a path, that
path alone is tried.  Otherwise the candidates are, in order: the path that the
environment names, if something is there; the path that was found by the first
successful search of this process; a copy in the cache, if there is one; and the
names by which systems know the library.  Paths with the same steps count once.
What a path or a name stands for is the affair of the loader.
-/

namespace EpsBridge.LibrarySearch

variable {σ ι : Type}

/-- What a search reads and remembers. -/
structure State (σ : Type) where
  environment : Environment
  /-- What the loader remembers. -/
  loader : σ
  /-- The path that the first successful search found. -/
  remembered : Option Path

/-- The names by which systems know the library. -/
def defaultNames : List String := ["libgs.so.10", "libgs.so.9", "libgs.so"]

/-- The name of the copy in the cache. -/
def cachedName : String := "libgs.so"

/-- The entry points that are needed, in the order in which they are looked
for. -/
def symbols : List String :=
  ["gsapi_revision", "gsapi_new_instance", "gsapi_delete_instance", "gsapi_set_arg_encoding",
    "gsapi_set_stdio_with_handle", "gsapi_init_with_args", "gsapi_exit"]

/-! ## Candidates -/

/-- The directory for caches of all programs. -/
def cacheBase (platform : Platform σ ι) (workspace : Workspace) (environment : Environment) :
    Path :=
  ((platform.cacheDirectory? environment).or
    ((platform.homeDirectory? environment).map (·.join (.ofString ".cache")))).getD
      workspace.temporaryPath

/-- The directory for a copy of the library. -/
def cacheDirectory (platform : Platform σ ι) (workspace : Workspace) (environment : Environment) :
    Path :=
  match environment.text? "LIBGS_AUTO_CACHE_DIR" with
  | some directory => (Path.ofString directory).join (.ofString "libgs")
  | none =>
    ((cacheBase platform workspace environment).join (.ofString "gsbridge")).join
      (.ofString "libgs")

/-- Adds a path to some candidates, unless one of them has the same steps. -/
def addCandidate (candidates : List Path) (path : Path) : List Path :=
  if candidates.any (·.leadsLike path) then candidates else candidates ++ [path]

/-- A path as a list, if something lies at its end. -/
def ifThere (workspace : Workspace) (path : Path) : List Path :=
  if workspace.exists? path then [path] else []

/-- All paths that a search considers, repetitions included. -/
def considered (platform : Platform σ ι) (workspace : Workspace) (state : State σ)
    (explicit : Option Path) : List Path :=
  let named := (state.environment.text? "GS_LIB_PATH").map Path.ofString
  let cached := (cacheDirectory platform workspace state.environment).join (.ofString cachedName)
  explicit.toList ++ (named.map (ifThere workspace)).getD [] ++ state.remembered.toList ++
    ifThere workspace cached ++ defaultNames.map Path.ofString

/-- The candidates of a search, in order. -/
def candidates (platform : Platform σ ι) (workspace : Workspace) (state : State σ)
    (explicit : Option Path) : List Path :=
  (considered platform workspace state explicit).foldl addCandidate []

/-! ## Binding -/

/-- Binds the library at a path. -/
def bindPath (loader : Loader σ ι) (workspace : Workspace) (state : σ) (path : Path) :
    Except LibraryError ι × σ :=
  match loader.openLibrary workspace state path with
  | (.error reason, state) => (.error (.bind path reason), state)
  | (.ok library, state) =>
    match symbols.find? fun symbol => !loader.offers library symbol with
    | some symbol =>
      (.error (.missingSymbol path symbol (loader.complaint library symbol)), state)
    | none => (.ok library, state)

/-- How a search lists a candidate that failed. -/
def attemptText (path : Path) (error : LibraryError) : String :=
  path.display ++ " (" ++ error.message ++ ")"

/-- Binds the first of some candidates that can be bound.  `tried` lists those
that could not, last first. -/
def bindFirst (loader : Loader σ ι) (workspace : Workspace) (state : σ) (tried : List String) :
    List Path → Except LibraryError (Path × ι) × σ
  | [] => (.error (.notFound tried.reverse), state)
  | path :: rest =>
    match bindPath loader workspace state path with
    | (.ok library, state) => (.ok (path, library), state)
    | (.error error, state) =>
      bindFirst loader workspace state (attemptText path error :: tried) rest

/-- Binds a library, at a path if one is given. -/
def bindLibrary (platform : Platform σ ι) (workspace : Workspace) (state : State σ)
    (explicit : Option Path) : Except LibraryError (Path × ι) × State σ :=
  match explicit with
  | some path =>
    let (result, loader) := bindPath platform.loader workspace state.loader path
    (result.map fun library => (path, library), { state with loader })
  | none =>
    let (result, loader) := bindFirst platform.loader workspace state.loader []
      (candidates platform workspace state none)
    let remembered := match result, state.remembered with
      | .ok (path, _), none => some path
      | _, remembered => remembered
    (result, { state with loader, remembered })

end EpsBridge.LibrarySearch
