/-!
# Access to files

What can go wrong with a file, and the operations on files that a command needs.  The operations
are a value, so that a command runs on real files or on a `FileTree` alike.
-/

namespace NestingRules

/-- Why a file operation fails. -/
inductive FileError where
  | notFound
  | notADirectory
  | isADirectory
  | nameTooLong
  | tooLarge
  /-- The path contains the character NUL. -/
  | nulInPath
  /-- Any other failure, in the words of the system. -/
  | other (text : String)
  deriving DecidableEq, Repr

/-- The failure in words, with its number. -/
def FileError.message : FileError → String
  | notFound => "No such file or directory (os error 2)"
  | notADirectory => "Not a directory (os error 20)"
  | isADirectory => "Is a directory (os error 21)"
  | nameTooLong => "File name too long (os error 36)"
  | tooLarge => "File too large (os error 27)"
  | nulInPath => "file name contained an unexpected NUL byte"
  | other text => text

/-- What comes of opening a file in order to read it. -/
inductive Opened where
  /-- It cannot be opened. -/
  | refused (e : FileError)
  /-- It can be opened but not read. -/
  | unreadable (e : FileError)
  | file (bytes : List UInt8)
  deriving DecidableEq, Repr

/-- Operations on files. -/
structure FileAccess (m : Type → Type) where
  /-- Open a file and read all of it. -/
  read : String → m Opened
  /-- Give a file these bytes and no others; the file is made if there is none. -/
  write : String → List UInt8 → m (Except FileError Unit)
  /-- Put bytes at the end of a file; the file is made if there is none. -/
  append : String → List UInt8 → m (Except FileError Unit)

/-- The operations with more state. -/
def FileAccess.lift {m : Type → Type} [Monad m] {σ : Type} (files : FileAccess m) :
    FileAccess (StateT σ m) where
  read path := StateT.lift (files.read path)
  write path bytes := StateT.lift (files.write path bytes)
  append path bytes := StateT.lift (files.append path bytes)

end NestingRules
