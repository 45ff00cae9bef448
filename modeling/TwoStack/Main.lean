import TwoStack.Tools.Assembler
import TwoStack.Tools.Emulator

/-!
# The command line

`asm` followed by arguments runs the assembler, `emu` followed by arguments the machine.  The part of
the file system that the arguments can mean is read before the tool runs, and the files that the tool
has changed are written afterwards.
-/

namespace TwoStack.Main

/-- What the file system has under an absolute path. -/
def readNode (path : String) : IO (Option Node) := do
  try
    let path ← IO.FS.realPath path
    if ← path.isDir then return some .directory
    else return some (.file (← IO.FS.readBinFile path).data)
  catch _ =>
    return none

/-- The absolute path of a place. -/
def absolute (place : Place) : String := "/" ++ "/".intercalate place

/-- Reads what is at each of the given places. -/
def readPlaces (disk : Disk) (places : List Place) : IO Disk := do
  let mut disk := disk
  for place in places do
    if (disk.node? place).isNone then
      if let some node ← readNode (absolute place) then
        disk := disk.put place node
  return disk

/-- The paths that the arguments may contain, alone, after an equals sign, or after a letter. -/
def paths (arguments : List String) : List String :=
  arguments.flatMap fun argument =>
    [argument, (argument.splitOn "=").getLastD "", String.ofList (argument.toList.drop 2),
      AssemblerTool.defaultOutput argument]

/-- Reads the part of the file system that the arguments can mean. -/
def readDisk (arguments : List String) : IO Disk := do
  let mut disk := { Disk.empty with current := Path.components (← IO.currentDir).toString }
  disk ← readPlaces disk (Disk.trail [] disk.current)
  for path in paths arguments do
    disk ← readPlaces disk (Disk.trail (disk.origin path) (Path.steps path))
  return disk

/-- Writes the files in which two disks differ. -/
def writeDisk (before after : Disk) : IO Unit := do
  for (place, node) in after.nodes do
    if let .file content := node then
      unless before.node? place = some node do
        IO.FS.writeBinFile (absolute place) ⟨content⟩

/-- Reads standard input to its end. -/
partial def readInput (input : IO.FS.Stream) (done : ByteArray) : IO (List UInt8) := do
  let more ← input.read 65536
  if more.isEmpty then return done.data.toList
  else readInput input (done ++ more)

/-- Shows what a tool has done, and makes it last. -/
def conclude (disk : Disk) (ended : SessionEnd) : IO UInt32 := do
  IO.print ended.stdout
  IO.eprint ended.stderr
  writeDisk disk ended.disk
  return UInt32.ofNat ended.code

end TwoStack.Main

open TwoStack in
def main (arguments : List String) : IO UInt32 := do
  let disk ← Main.readDisk arguments
  let log ← IO.getEnv "QPROC_LOG"
  match arguments with
  | "asm" :: arguments => Main.conclude disk (AssemblerTool.run disk arguments log)
  | "emu" :: arguments =>
    let input ← Main.readInput (← IO.getStdin) .empty
    match EmulatorTool.run disk arguments input log with
    | some ended => Main.conclude disk ended
    | none => return 1
  | _ =>
    IO.eprintln "usage: asm ARGUMENTS | emu ARGUMENTS"
    return 2
