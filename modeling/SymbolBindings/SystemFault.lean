/-!
Faults of the surrounding system: why a file could not be read or written, or a program not be
started.
-/

namespace SymbolBindings

inductive SystemFault
  | notFound
  | permissionDenied
  | notDirectory
  | isDirectory
  | noSpace
  /-- A name, or a path as a whole, is longer than a file system takes. -/
  | nameTooLong
  /-- A command has more to hand to its program than a program takes. -/
  | argumentsTooLong
  /-- A path held the character U+0000, which no file name can. -/
  | zeroInName
  /-- A command held the character U+0000. -/
  | zeroInCommand
  /-- The contents are not well-formed UTF-8. -/
  | illFormedText
  /-- The empty path names no place to start from. -/
  | emptyPath
  /-- A writer took nothing although there was something left to take. -/
  | nothingTaken
  /-- A fault known by its description alone. -/
  | described (description : String)
  deriving DecidableEq, Repr

def SystemFault.message : SystemFault → String
  | notFound => "No such file or directory (os error 2)"
  | permissionDenied => "Permission denied (os error 13)"
  | notDirectory => "Not a directory (os error 20)"
  | isDirectory => "Is a directory (os error 21)"
  | noSpace => "No space left on device (os error 28)"
  | nameTooLong => "File name too long (os error 36)"
  | argumentsTooLong => "Argument list too long (os error 7)"
  | zeroInName => "file name contained an unexpected NUL byte"
  | zeroInCommand => "nul byte found in provided data"
  | illFormedText => "stream did not contain valid UTF-8"
  | emptyPath => "cannot make an empty path absolute"
  | nothingTaken => "failed to write whole buffer"
  | described description => description

end SymbolBindings
