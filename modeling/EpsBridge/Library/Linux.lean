import EpsBridge.Library.Linker

/-!
# Linux

A platform whose loader is the dynamic linker.  The environment names the directories
of the account, and the directories in which the linker looks for names.
-/

namespace EpsBridge.Linux

/-- The home directory of the account that programs run under. -/
def accountHome : Path := .ofString "/root"

/-- The home directory. -/
def homeDirectory (environment : Environment) : Path :=
  match environment.value? "HOME" with
  | none | some [] => accountHome
  | some bytes => ⟨bytes⟩

/-- The directory for caches of all programs. -/
def cacheDirectory (environment : Environment) : Path :=
  let fallback := (homeDirectory environment).join (.ofString ".cache")
  match environment.value? "XDG_CACHE_HOME" with
  | some bytes => if Path.isAbsolute ⟨bytes⟩ then ⟨bytes⟩ else fallback
  | none => fallback

def platform : Platform Linker.State Linker.Image where
  loader := Linker.loader
  homeDirectory? environment := some (homeDirectory environment)
  cacheDirectory? environment := some (cacheDirectory environment)

/-- The linker of a process that starts. -/
def startLinker (environment : Environment) : Linker.State :=
  .start ((environment.value? "LD_LIBRARY_PATH").getD [])

end EpsBridge.Linux
