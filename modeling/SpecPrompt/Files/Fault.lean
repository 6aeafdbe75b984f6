/-!
# File-system faults

The ways in which a file-system operation fails, and how each is worded.
-/

namespace SpecPrompt

/-- Why a file-system operation failed. -/
inductive Fault where
  /-- Nothing is there. -/
  | missing
  /-- The file's bytes are not UTF-8. -/
  | malformed
  | alreadyExists
  | isDirectory
  | notDirectory
  | tooManyLinks
  | nameTooLong
  | busy
  /-- Only a regular file can be copied. -/
  | notRegularFile
  | nulInPath
  | emptyPath
  | noRoot
  /-- A fault in the words of whoever met it. -/
  | other (description : String)
  deriving DecidableEq, Repr

/-- The wording of a fault. -/
def Fault.message : Fault → String
  | .missing => "No such file or directory (os error 2)"
  | .malformed => "stream did not contain valid UTF-8"
  | .alreadyExists => "File exists (os error 17)"
  | .isDirectory => "Is a directory (os error 21)"
  | .notDirectory => "Not a directory (os error 20)"
  | .tooManyLinks => "Too many levels of symbolic links (os error 40)"
  | .nameTooLong => "File name too long (os error 36)"
  | .busy => "Device or resource busy (os error 16)"
  | .notRegularFile => "the source path is neither a regular file nor a symlink to a regular file"
  | .nulInPath => "file name contained an unexpected NUL byte"
  | .emptyPath => "cannot make an empty path absolute"
  | .noRoot => "failed to create whole tree"
  | .other description => description

end SpecPrompt
