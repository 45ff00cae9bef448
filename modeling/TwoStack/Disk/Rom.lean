import TwoStack.Assembly
import TwoStack.Disk
import TwoStack.Machine

/-!
# Programs on disk

Images are read whole, and only if they fit in memory.  They are written so that the destination
holds either the whole image or what it held before: the bytes go to a file with a fresh name in the
same directory, and that file is then moved onto the destination, or removed if that fails.
`Machine.bootFile` loads the machine straight from a file.

`assembleFile` reads a source text, assembles it and writes the image, in this order, so nothing is
written unless everything before has succeeded.
-/

namespace TwoStack

/-- What was being done to a file. -/
inductive FileAction where
  | openRom
  | readRom
  | create
  | write
  | readSource
  deriving DecidableEq, Repr

/-- Why it failed. -/
inductive FileCause where
  | disk (error : DiskError)
  /-- A text is not UTF-8. -/
  | undecodable
  deriving DecidableEq, Repr

/-- A file operation that failed. -/
structure FileError where
  action : FileAction
  path : String
  cause : FileCause
  deriving DecidableEq, Repr

namespace FileAction

/-- The wording of what could not be done. -/
def message : FileAction → String
  | openRom => "could not open ROM"
  | readRom => "could not read ROM"
  | create => "could not create"
  | write => "could not write"
  | readSource => "could not read source"

end FileAction

namespace FileCause

/-- The wording of a cause. -/
def message : FileCause → String
  | disk error => error.message
  | undecodable => "stream did not contain valid UTF-8"

end FileCause

namespace FileError

/-- The wording of a failure. -/
def message (error : FileError) : String :=
  s!"{error.action.message} {error.path}: {error.cause.message}"

end FileError

/-- The reasons why a file is not loaded as a program. -/
inductive RomError where
  | file (error : FileError)
  | tooLarge (error : ImageTooLarge)
  deriving DecidableEq, Repr

/-- The reasons why a source file is not built. -/
inductive BuildError where
  | file (error : FileError)
  | source (error : AssemblyError)
  deriving DecidableEq, Repr

namespace BuildError

/-- The wording of an error. -/
def message : BuildError → String
  | file error => s!"error: {error.message}"
  | source error => error.message

end BuildError

namespace Image

/-- The target of the notes about images. -/
def noteTarget : String := "qproc_core::image"

/-- Reads a program from disk. -/
def load (disk : Disk) (path : String) (journal : Journal) : Except RomError Image × Journal :=
  match disk.openPath path with
  | .error cause => (.error (.file ⟨.openRom, path, .disk cause⟩), journal)
  | .ok .directory => (.error (.file ⟨.readRom, path, .disk .isADirectory⟩), journal)
  | .ok (.file content) =>
    match ofBytes content with
    | .error refused => (.error (.tooLarge refused), journal)
    | .ok image =>
      (.ok image, journal.add .debug noteTarget fun _ =>
        s!"loaded {image.size} byte ROM from {path}")

/-- Writes a program to disk: the new disk, with the failure if there is one. -/
def save (image : Image) (disk : Disk) (path : String) (journal : Journal) :
    Except FileError Unit × Disk × Journal :=
  match disk.directory (Path.parent path) with
  | .error cause => (.error ⟨.create, path, .disk cause⟩, disk, journal)
  | .ok directory =>
    let temporary := directory ++ [disk.freshName]
    let staged := disk.put temporary (.file image.bytes)
    match staged.rename temporary path with
    | .error cause => (.error ⟨.write, path, .disk cause⟩, staged.remove temporary, journal)
    | .ok disk =>
      (.ok (), disk, journal.add .debug noteTarget fun _ =>
        s!"wrote {image.size} byte ROM to {path}")

end Image

/-- Reads a program from disk and loads it. -/
def Machine.bootFile (disk : Disk) (path : String) (config : Config) (journal : Journal) :
    Except RomError Machine × Journal :=
  match Image.load disk path journal with
  | (.error error, journal) => (.error error, journal)
  | (.ok image, journal) =>
    let (machine, journal) := Machine.boot image config journal
    (.ok machine, journal)

/-- Reads the source text in a file. -/
def readSource (disk : Disk) (path : String) : Except FileError String :=
  match disk.readFile path with
  | .error cause => .error ⟨.readSource, path, .disk cause⟩
  | .ok content =>
    match String.fromUTF8? ⟨content⟩ with
    | none => .error ⟨.readSource, path, .undecodable⟩
    | some source => .ok source

/-- Assembles the source text in one file and writes the program to another. -/
def assembleFile (disk : Disk) (source destination : String) (journal : Journal) :
    Except BuildError Assembly × Disk × Journal :=
  match readSource disk source with
  | .error error => (.error (.file error), disk, journal)
  | .ok text =>
    match assemble text with
    | .error error => (.error (.source error), disk, journal)
    | .ok assembly =>
      match assembly.image.save disk destination (assembly.note journal) with
      | (.error error, disk, journal) => (.error (.file error), disk, journal)
      | (.ok (), disk, journal) =>
        (.ok assembly, disk, journal.add .debug Assembly.noteTarget fun _ =>
          s!"wrote {source} -> {destination}")

end TwoStack
