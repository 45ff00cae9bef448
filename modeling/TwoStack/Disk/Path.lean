/-!
# Paths

A path is a text in which slashes separate names.  Several slashes in a row count as one, and `.`
names nothing of its own.  The functions here look at the text alone, whatever the disk holds.
-/

namespace TwoStack.Path

/-- The steps by which a path is followed: a name each, or `.` for staying and `..` for going
back. -/
def steps (path : String) : List String := (path.splitOn "/").filter fun step => !step.isEmpty

/-- The names that a path is made of. -/
def components (path : String) : List String := (steps path).filter fun name => name != "."

/-- Whether the last step of a path is a name, and neither `.` nor `..`. -/
def endsInName (path : String) : Bool :=
  match (steps path).getLast? with
  | some "." | some ".." | none => false
  | some _ => true

/-- Whether a path ends in a slash, and so can only mean a directory. -/
def endsInSlash (path : String) : Bool := path.toList.getLast? == some '/'

/-- Whether a path begins with a slash, and so is followed from the root. -/
def isAbsolute (path : String) : Bool := path.toList.head? == some '/'

/-- Leaves out the slashes, and the `.` after a slash, at the end of a path that is given
backwards. -/
def trimEnd : List Char → List Char
  | '/' :: rest => if rest.isEmpty then ['/'] else trimEnd rest
  | '.' :: '/' :: rest => if rest.isEmpty then ['/'] else trimEnd rest
  | path => path

/-- The last name of a path, unless that is `..` or there is none. -/
def name? (path : String) : Option String :=
  match (components path).getLast? with
  | some ".." | none => none
  | name => name

/-- The part of a path before its last name. -/
def parent (path : String) : String :=
  let trimmed := trimEnd path.toList.reverse
  let before := trimmed.dropWhile (· != '/')
  String.ofList (trimEnd before).reverse

/-- The last name of a path without what follows its last dot; a dot in front is part of the
name. -/
def stem? (path : String) : Option String := do
  let name ← name? path
  let reversed := name.toList.reverse
  match reversed.dropWhile (· != '.') with
  | _ :: before => if before.isEmpty then some name else some (String.ofList before.reverse)
  | [] => some name

/-- The path of a name in a directory; an empty path is the current directory. -/
def join (directory name : String) : String :=
  if directory.isEmpty || endsInSlash directory then directory ++ name else directory ++ "/" ++ name

end TwoStack.Path
