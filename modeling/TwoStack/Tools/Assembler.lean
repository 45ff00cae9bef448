import TwoStack.Tools.Arguments
import TwoStack.Tools.Session

/-!
# The assembler on the command line

`build` assembles a source file into a program image, `disasm` turns an image back into source text.
-/

namespace TwoStack.AssemblerTool

/-- The target of the tool's notes. -/
def noteTarget : String := "qproc_asm"

/-- How the tool is called. -/
def usage : String :=
  "usage: build INPUT [-o OUTPUT] [-v] | disasm ROM [-o OUTPUT]"

/-- The option that names the output. -/
def outputOption : OptionSpec := { long := "output", short := some 'o', takesValue := true }

/-- The option that asks for a listing. -/
def verboseOption : OptionSpec := { long := "verbose", short := some 'v', takesValue := false }

/-- Where an image goes unless something else is asked for: beside the source, with another
ending. -/
def defaultOutput (input : String) : String :=
  Path.join (Path.parent input) ((Path.stem? input).getD "out" ++ ".rom")

/-- Assembles a source file. -/
def build (session : Session) (input output : String) (verbose : Bool) : SessionEnd :=
  match assembleFile session.disk input output session.journal with
  | (.error error, disk, journal) =>
    ({ session with disk }.flush journal).fail s!"failed to assemble {input}: {error.message}"
  | (.ok assembly, disk, journal) =>
    let session := { session with disk }.flush journal
    let session :=
      if verbose then
        assembly.listing.foldl (fun session entry => session.complain entry.row) session
      else
        session
    (session.note .info noteTarget
      s!"assembled {input} ({assembly.image.size} bytes) -> {output}").finish 0

/-- Turns an image back into source text. -/
def disasm (session : Session) (rom : String) (output : Option String) : SessionEnd :=
  match Image.load session.disk rom session.journal with
  | (.error error, journal) => (session.flush journal).fail error.report
  | (.ok image, journal) =>
    let session := session.flush journal
    match disassemble image.bytes with
    | .error error => session.fail s!"failed to disassemble {rom}: {error.message}"
    | .ok rows =>
      match output with
      | none => (session.print (printRows rows)).finish 0
      | some path =>
        match session.disk.writeFile path (printRows rows).toUTF8.data with
        | .error cause => session.fail s!"failed to write {path}: {cause.message}"
        | .ok disk => { session with disk }.finish 0

/-- Runs the tool. -/
def run (disk : Disk) (arguments : List String) (log : Option String) : SessionEnd :=
  let session := Session.start disk log "info"
  match arguments with
  | "build" :: arguments =>
    match Arguments.read? [outputOption, verboseOption] arguments with
    | some arguments =>
      match arguments.operands with
      | [input] =>
        build session input ((arguments.value? "output").getD (defaultOutput input))
          (arguments.has "verbose")
      | _ => session.misuse usage
    | none => session.misuse usage
  | "disasm" :: arguments =>
    match Arguments.read? [outputOption] arguments with
    | some arguments =>
      match arguments.operands with
      | [rom] => disasm session rom (arguments.value? "output")
      | _ => session.misuse usage
    | none => session.misuse usage
  | _ => session.misuse usage

end TwoStack.AssemblerTool
