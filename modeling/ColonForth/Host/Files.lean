import ColonForth.Error
import ColonForth.Text.Quoted
import ColonForth.Text.Utf8

/-!
# Files and faults

Hosts read whole files, whose bytes are text in UTF-8 or not text at all.  A folder is seen as
the function from names to the files that are opened under them.  A fault is anything that ends a
host without its cooperation.
-/

namespace ColonForth.Host

/-- What reading a file or the standard input gives. -/
inductive Source where
  /-- Its text. -/
  | text (t : Text)
  /-- Its bytes are no text; the given text is what is read of them line by line before that
  shows. -/
  | undecodable (before : Text)
deriving DecidableEq, Repr

/-- The source with the given bytes. -/
def Source.ofBytes (bytes : ByteArray) : Source :=
  match Text.Utf8.read bytes with
  | (t, true) => .text t
  | (t, false) => .undecodable t

/-- Why no file is opened under a name. -/
inductive OpenError where
  /-- There is nothing of that name. -/
  | absent
  /-- The name is that of a folder. -/
  | isFolder
  /-- The name goes on behind the name of a file. -/
  | notFolder
  /-- The name, or a part of it, is longer than names can be. -/
  | nameTooLong
  /-- The name holds a zero character, which no name does. -/
  | zeroInName
  /-- The file may not be read. -/
  | forbidden
deriving DecidableEq, Repr

/-- The wording of the reason why no file is opened under the given name. -/
def OpenError.message (name : Text) : OpenError → Text
  | .absent => "[Errno 2] No such file or directory: ".toList ++ Text.quote name
  | .forbidden => "[Errno 13] Permission denied: ".toList ++ Text.quote name
  | .notFolder => "[Errno 20] Not a directory: ".toList ++ Text.quote name
  | .isFolder => "[Errno 21] Is a directory: ".toList ++ Text.quote name
  | .nameTooLong => "[Errno 36] File name too long: ".toList ++ Text.quote name
  | .zeroInName => "embedded null byte".toList

/-- The working folder: the file that is opened under each name, or why there is none. -/
abbrev Folder := Text → Except OpenError Source

/-- What ends a host. -/
inductive Fault where
  /-- An evaluation failed and is not recovered from. -/
  | evaluation (failure : Failure)
  /-- No file is opened under the given name. -/
  | unopened (name : Text) (reason : OpenError)
  /-- A file is to be opened and no name is given for it. -/
  | unnamedFile
  /-- The bytes of a file are no text. -/
  | undecodable
  /-- A value was refused for the given reason. -/
  | refused (reason : Text)
deriving DecidableEq, Repr

namespace Fault

/-- The wording of a fault. -/
def message : Fault → Text
  | .evaluation failure => failure.message
  | .unopened name reason => reason.message name
  | .unnamedFile => "expected str, bytes or os.PathLike object, not list".toList
  | .undecodable => "the bytes are not UTF-8".toList
  | .refused reason => reason

/-- Whether a word failed. -/
def isWordError : Fault → Bool
  | .evaluation failure => failure.isWordError
  | _ => false

/-- Whether a host recovers from the fault when it arises in an evaluation. -/
def isRecoverable : Fault → Bool
  | .evaluation failure => failure.isRecoverable
  | _ => false

end Fault

end ColonForth.Host
