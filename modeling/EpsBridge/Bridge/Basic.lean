import EpsBridge.Config

/-!
# Bridges
-/

namespace EpsBridge

/-- An engine, by whatever refers to it, and the defaults to use with it. -/
structure Bridge (ε : Type) where
  engine : ε
  config : Config

end EpsBridge
