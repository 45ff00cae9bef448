import TwoStack.Bytes
import TwoStack.Disk.Path

/-!
# Disks

A disk is a tree of directories and files.  It is kept as a table from places to nodes, where a
place is the list of the names that lead to it from the root; the root is always a directory.
`node?` is the view through which the operations are understood: `put` and `remove` change what is
at one place, and `rename` moves a file onto the place that a path leads to.

A path is followed step by step, from the root if it begins with a slash and from the current
directory otherwise, and each step has to be taken from a directory.  Names and paths can be too long;
a name is found to be too long when it is looked up, a path before it is followed.
-/

namespace TwoStack

/-- What a name on a disk stands for. -/
inductive Node where
  | directory
  | file (content : Bytes)
  deriving DecidableEq, Repr

/-- The names that lead from the root to a node. -/
abbrev Place := List String

/-- The reasons why the disk refuses something. -/
inductive DiskError where
  | notFound
  | notADirectory
  | isADirectory
  /-- A name, or the whole path, has too many bytes. -/
  | nameTooLong
  /-- The path has the character with the code point zero. -/
  | zeroInPath
  /-- The path leads to a directory by `.` or `..`, or is the root. -/
  | busy
  deriving DecidableEq, Repr

namespace DiskError

/-- The wording of a refusal. -/
def message : DiskError → String
  | notFound => "No such file or directory (os error 2)"
  | notADirectory => "Not a directory (os error 20)"
  | isADirectory => "Is a directory (os error 21)"
  | nameTooLong => "File name too long (os error 36)"
  | zeroInPath => "file name contained an unexpected NUL byte"
  | busy => "Device or resource busy (os error 16)"

end DiskError

/-- A tree of directories and files. -/
structure Disk where
  nodes : List (Place × Node)
  /-- The directory from which paths are followed. -/
  current : Place
  deriving Repr

namespace Disk

/-- The disk with nothing but the root. -/
def empty : Disk := ⟨[], []⟩

/-- What is at a place. -/
def node? (disk : Disk) (place : Place) : Option Node :=
  if place = [] then some .directory else disk.nodes.lookup place

/-- Removes what is at a place. -/
def remove (disk : Disk) (place : Place) : Disk :=
  { disk with nodes := disk.nodes.filter fun entry => entry.1 != place }

/-- Puts a node at a place; what was there is gone. -/
def put (disk : Disk) (place : Place) (node : Node) : Disk :=
  { disk with nodes := (place, node) :: (disk.remove place).nodes }

theorem node?_remove_of_ne (disk : Disk) {place other : Place} (h : other ≠ place) :
    (disk.remove place).node? other = disk.node? other := by
  unfold node? remove
  split
  · rfl
  · induction disk.nodes with
    | nil => rfl
    | cons entry nodes ih =>
      obtain ⟨name, node⟩ := entry
      by_cases same : name = place
      · subst same
        simpa [List.lookup_cons, beq_eq_false_iff_ne.2 h] using ih
      · simp only [List.filter_cons, bne_iff_ne, ne_eq, same, not_false_eq_true, ↓reduceIte,
          List.lookup_cons]
        rw [ih]

/-- A node is seen at the place where it was put, unless that is the root. -/
theorem node?_put_self (disk : Disk) {place : Place} (h : place ≠ []) (node : Node) :
    (disk.put place node).node? place = some node := by
  simp [node?, put, h]

/-- Putting a node somewhere does not change what is elsewhere. -/
theorem node?_put_of_ne (disk : Disk) {place other : Place} (h : other ≠ place) (node : Node) :
    (disk.put place node).node? other = disk.node? other := by
  rw [← node?_remove_of_ne disk h]
  simp [node?, put, List.lookup_cons, beq_eq_false_iff_ne.2 h]

/-- The place that one step leads to. -/
def stepFrom (place : Place) (step : String) : Place :=
  if step = "." then place
  else if step = ".." then place.dropLast
  else place ++ [step]

/-- The places that steps from a place pass through, whatever the disk holds. -/
def trail (place : Place) : List String → List Place
  | [] => [place]
  | step :: steps => place :: trail (stepFrom place step) steps

/-- The number of bytes that a name can have. -/
def nameLimit : Nat := 255

/-- The number of bytes that every path falls short of. -/
def pathLimit : Nat := 4096

/-- Whether the last name of a place has too many bytes. -/
def isTooLong (place : Place) : Bool :=
  place.getLast?.any fun name => nameLimit < name.utf8ByteSize

/-- Looks up what is at a place. -/
def lookUp (disk : Disk) (place : Place) : Except DiskError Node :=
  if isTooLong place then .error .nameTooLong
  else
    match disk.node? place with
    | none => .error .notFound
    | some node => .ok node

/-- Follows steps from a place. -/
def follow (disk : Disk) (place : Place) : List String → Except DiskError Place
  | [] => .ok place
  | step :: steps =>
    match disk.lookUp place with
    | .error cause => .error cause
    | .ok (.file _) => .error .notADirectory
    | .ok .directory => disk.follow (stepFrom place step) steps

/-- Where a path is followed from. -/
def origin (disk : Disk) (path : String) : Place :=
  if Path.isAbsolute path then [] else disk.current

/-- The place that a path leads to, whether or not there is something. -/
def locate (disk : Disk) (path : String) : Except DiskError Place :=
  if path.isEmpty then .error .notFound
  else if path.contains '\x00' then .error .zeroInPath
  else if pathLimit ≤ path.utf8ByteSize then .error .nameTooLong
  else disk.follow (disk.origin path) (Path.steps path)

/-- The directory that a path leads to; the empty path leads to the current directory. -/
def directory (disk : Disk) (path : String) : Except DiskError Place :=
  match if path.isEmpty then .ok disk.current else disk.locate path with
  | .error cause => .error cause
  | .ok place =>
    match disk.lookUp place with
    | .error cause => .error cause
    | .ok (.file _) => .error .notADirectory
    | .ok .directory => .ok place

/-- Opens what a path leads to. -/
def openPath (disk : Disk) (path : String) : Except DiskError Node :=
  match disk.locate path with
  | .error cause => .error cause
  | .ok place =>
    match disk.lookUp place with
    | .error cause => .error cause
    | .ok (.file content) =>
      if Path.endsInSlash path then .error .notADirectory else .ok (.file content)
    | .ok .directory => .ok .directory

/-- The content of a file. -/
def readFile (disk : Disk) (path : String) : Except DiskError Bytes :=
  match disk.openPath path with
  | .error cause => .error cause
  | .ok .directory => .error .isADirectory
  | .ok (.file content) => .ok content

/-- Writes a file in place. -/
def writeFile (disk : Disk) (path : String) (content : Bytes) : Except DiskError Disk :=
  match disk.locate path with
  | .error cause => .error cause
  | .ok place =>
    if Path.endsInSlash path || disk.node? place == some .directory then .error .isADirectory
    else if isTooLong place then .error .nameTooLong
    else .ok (disk.put place (.file content))

/-- Moves the file at a place onto the place that a path leads to. -/
def rename (disk : Disk) (source : Place) (path : String) : Except DiskError Disk :=
  match disk.locate path, disk.node? source with
  | .error cause, _ => .error cause
  | .ok _, none => .error .notFound
  | .ok place, some node =>
    if !Path.endsInName path then .error .busy
    else if isTooLong place then .error .nameTooLong
    else if Path.endsInSlash path then .error .notADirectory
    else if disk.node? place = some .directory then .error .isADirectory
    else .ok ((disk.remove source).put place node)

/-- A name that no node of the disk has. -/
def freshName (disk : Disk) : String :=
  let lengths := disk.nodes.flatMap fun entry => entry.1.map String.length
  String.ofList (List.replicate (lengths.foldl max 0 + 1) '~')

/-- The directories on the way to a place. -/
def above (place : Place) : List Place := (List.range place.length).map fun n => place.take n

/-- Puts a node at the place that a path names, and directories on the way to it. -/
def provide (disk : Disk) (path : String) (node : Node) : Disk :=
  let place := disk.origin path ++ Path.components path
  let way := (above place).filter fun place => (disk.node? place).isNone
  (way.foldl (fun disk place => disk.put place .directory) disk).put place node

/-- Whether one place is listed before another: a directory before what is in it, and names in their
order. -/
def listedBefore : Place → Place → Bool
  | [], _ => true
  | _ :: _, [] => false
  | a :: as, b :: bs => if a = b then listedBefore as bs else decide (a < b)

/-- Everything below the current directory, each directory followed by what is in it, in the order of
the names.  Places are given from the current directory. -/
def list (disk : Disk) : List (Place × Node) :=
  let below := disk.nodes.filter fun (place, _) => disk.current.isPrefixOf place && place != disk.current
  let relative := below.map fun (place, node) => (place.drop disk.current.length, node)
  relative.mergeSort fun a b => listedBefore a.1 b.1

end Disk

end TwoStack
