import Siblings.Text.Basic

/-!
# Paths

A path is a text of names between slashes. Empty names and single dots lead nowhere; two dots
lead to the directory above.
-/

namespace Siblings.Path

/-- The name of the directory that a path is in already. -/
def dot : Text := ".".toList

/-- The name of the directory above. -/
def dotDot : Text := "..".toList

/-- The names in a path. -/
def parts (path : Text) : List Text := (Text.splitOn '/' path).filter fun name => !name.isEmpty

/-- Whether a path starts at the root. -/
def isAbsolute (path : Text) : Bool := path.head? == some '/'

/-- Whether a path can only be that of a directory. -/
def endsInSlash (path : Text) : Bool := path.getLast? == some '/'

/-- **A name below a directory.** A name that starts at the root stands alone. -/
def join (directory name : Text) : Text :=
  if isAbsolute name || directory.isEmpty then name
  else if endsInSlash directory then directory ++ name
  else directory ++ '/' :: name

/-- The name that a path ends in. A path that ends in two dots has none. -/
def fileName? (path : Text) : Option Text :=
  match ((parts path).filter (· != dot)).getLast? with
  | some name => if name = dotDot then none else some name
  | none => none

/-- A name cut at its last dot, if the dot does not come first. -/
def splitName (name : Text) : Text × Option Text :=
  let ending := name.reverse.takeWhile (· != '.')
  match name.reverse.dropWhile (· != '.') with
  | [] => (name, none)
  | [_] => (name, none)
  | _ :: stem => (stem.reverse, some ending.reverse)

/-- The name that a path ends in, without its ending. -/
def stem? (path : Text) : Option Text := (fileName? path).map fun name => (splitName name).1

/-- The ending of the name that a path ends in. -/
def ending? (path : Text) : Option Text := (fileName? path).bind fun name => (splitName name).2

/-- **A path and those above it,** the longest first. -/
def ancestors (path : Text) : List Text :=
  let start : Text := if isAbsolute path then ['/'] else []
  let names := (parts path).filter (· != dot)
  let above := (List.range names.length).reverse.filterMap fun n =>
    if n = 0 then none else some (start ++ Text.join ['/'] (names.take n))
  if path.isEmpty then [] else path :: above

end Siblings.Path
