import SymbolBindings.PathText
import SymbolBindings.SystemFault

/-!
Path names: names of directories and files with slashes between them. A path that starts with a
slash is absolute, and any other is meant from the current directory.
-/

namespace SymbolBindings.PathName

open PathText (letters ofLetters slash dot isEmpty)

variable {σ α : Type} [PathText σ α] [DecidableEq α]

def isAbsolute (path : σ) : Bool :=
  (letters path).head? == some (slash σ)

def endsWithSlash (path : σ) : Bool :=
  (letters path).getLast? == some (slash σ)

/-- A path without the slashes at its end. -/
def withoutEndSlashes (path : σ) : σ :=
  ofLetters ((letters path).reverse.dropWhile (· == slash σ)).reverse

/-- The path that `addition` names from the directory `base`. An absolute addition stands alone, and
an empty one leaves a slash at the end. -/
def join (base addition : σ) : σ :=
  if isAbsolute addition then addition
  else if isEmpty base ∨ endsWithSlash base then base ++ addition
  else base ++ ofLetters [slash σ] ++ addition

def joinAll (base : σ) (additions : List σ) : σ :=
  additions.foldl join base

/-- The names between the slashes. Nothing stands between two slashes, before a leading one or after
a trailing one. -/
def parts (path : σ) : List σ :=
  ((letters path).splitOn (slash σ)).map ofLetters

/-- Whether a part leads away from the directory before it. -/
def isStep (part : σ) : Bool :=
  letters part != [] && letters part != [dot σ]

/-- Whether a part leads to the directory above. -/
def isUpward (part : σ) : Bool :=
  letters part == [dot σ, dot σ]

/-- The root an absolute path starts from. Two slashes at the start stay two, since systems may give
them a meaning of their own, and three or more count as one. -/
def root (path : σ) : σ :=
  let slashes := (letters path).takeWhile (· == slash σ)
  ofLetters (if slashes.length = 2 then slashes else [slash σ])

/-- The absolute path with the same meaning in the directory `current`. Parts that lead nowhere are
left out, those that lead upwards stay, and so does a slash at the end. -/
def absolute (current path : σ) : Except SystemFault σ :=
  if isEmpty path then .error .emptyPath
  else
    let start := if isAbsolute path then root path else current
    let walked := joinAll start ((parts path).filter isStep)
    .ok (if endsWithSlash path then join walked (ofLetters []) else walked)

/-- A path as seen from the directory `current`. A relative one loses the parts that lead nowhere,
and an absolute one stays as it is written. -/
def seenFrom (current path : σ) : σ :=
  if isAbsolute path then path else joinAll current ((parts path).filter isStep)

example : seenFrom "/work" "./bin//../f" = "/work/bin/../f" := rfl

example : absolute "/work" "./a//../b/." = .ok "/work/a/../b" := rfl

example : absolute "/work" "." = .ok "/work" := rfl

example : absolute "/work" "//a/" = .ok "//a/" := rfl

end SymbolBindings.PathName
