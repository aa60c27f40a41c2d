import EpsBridge.FileError

/-!
# Errors of the library search

Why no engine library could be bound, or why a bound one would not say its
revision.
-/

namespace EpsBridge

/-- Why a library is of no use. -/
inductive LibraryError where
  /-- No candidate could be bound; each is listed with its reason. -/
  | notFound (tried : List String)
  /-- The library at a path could not be opened. -/
  | bind (path : Path) (reason : String)
  /-- The library at a path lacks an entry point. -/
  | missingSymbol (path : Path) (symbol reason : String)
  | cacheDirectory (cause : FileError)
  /-- The revision query returned a code. -/
  | revision (code : Int32)
deriving DecidableEq, Repr

namespace LibraryError

/-- The text of an error. -/
def message : LibraryError → String
  | notFound tried =>
    "Ghostscript library not found (tried: " ++ String.intercalate ", " tried ++ ")"
  | bind path reason => "Failed to load libgs from '" ++ path.display ++ "': " ++ reason
  | missingSymbol path symbol reason =>
    "libgs at '" ++ path.display ++ "' has no symbol '" ++ symbol ++ "': " ++ reason
  | cacheDirectory cause => "Cache directory error: " ++ cause.message
  | revision code => "gsapi_revision failed with code " ++ Decimal.ofInt32 code

end LibraryError

end EpsBridge
