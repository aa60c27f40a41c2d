import EpsBridge.Environment
import EpsBridge.FileStore.Workspace

/-!
# Platforms

What binding a library leaves to the platform: a loader opens shared libraries,
and the account that the process runs under has directories of its own.  Loaders
differ in where they look for names and in what they remember, so nothing here
depends on how one of them works.
-/

namespace EpsBridge

/-- A loader of shared libraries, which keeps a state `σ` and gives libraries `ι`. -/
structure Loader (σ ι : Type) where
  /-- Opens the library at a path, or says why it cannot.  The state is the one in
  which the library has been let go of again. -/
  openLibrary : Workspace → σ → Path → Except String ι × σ
  /-- Keeps a library in use that was opened. -/
  keep : σ → ι → σ
  /-- Whether a library has an entry point. -/
  offers : ι → String → Bool
  /-- What is said of an entry point that is missing. -/
  complaint : ι → String → String

/-- A loader, and the directories of an account by the environment. -/
structure Platform (σ ι : Type) where
  loader : Loader σ ι
  homeDirectory? : Environment → Option Path
  /-- The directory for caches of all programs. -/
  cacheDirectory? : Environment → Option Path

end EpsBridge
