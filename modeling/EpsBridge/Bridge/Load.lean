import EpsBridge.Program

/-!
# Bridges over the engine library
-/

namespace EpsBridge.Bridge

open Program

/-- Binds the engine library and builds a bridge over it. -/
def load {ε : Type} (config : Config) : Program ε (Except Error (Bridge ε)) := do
  match ← perform (.load config.libraryPath) with
  | .ok engine => return .ok ⟨engine, config⟩
  | .error error => return .error (.ofLibrary error)

end EpsBridge.Bridge
