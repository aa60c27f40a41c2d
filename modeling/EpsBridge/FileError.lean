import EpsBridge.Path
import EpsBridge.FileError.SystemText

/-!
# Errors of the file system

A call that fails gives the number of a system error, or the library in between
states the fault itself.
-/

namespace EpsBridge

/-- Why a call on files failed. -/
inductive FileError where
  /-- The system refused, with the number of its error. -/
  | system (number : Int)
  /-- The call was refused before it reached the system. -/
  | stated (text : String)
  /-- A failure with the path that it concerns. -/
  | located (cause : FileError) (path : Path)
deriving DecidableEq, Repr

namespace FileError

/-- No such file or directory. -/
def noEntry : FileError := .system 2

/-- The file or directory is in use. -/
def busy : FileError := .system 16

/-- Something of that name exists. -/
def alreadyExists : FileError := .system 17

/-- A step of the path is not a directory. -/
def notDirectory : FileError := .system 20

/-- The call does not work on directories. -/
def isDirectory : FileError := .system 21

/-- The call was made with something it cannot work on. -/
def invalid : FileError := .system 22

/-- A name is longer than a file system stores. -/
def nameTooLong : FileError := .system 36

/-- A path holds a zero byte. -/
def unexpectedNul : FileError := .stated "file name contained an unexpected NUL byte"

/-- The text of a failure. -/
def message : FileError → String
  | .system number => systemText number ++ " (os error " ++ Decimal.ofInt number ++ ")"
  | .stated text => text
  | .located cause path => cause.message ++ " at path " ++ path.quoted

end FileError

end EpsBridge
