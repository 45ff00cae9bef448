import TwoStack.Disk.Rom

/-!
# Sessions of a tool

A tool is called with arguments, the text of its standard input, a disk and possibly a log filter,
and it ends with an exit code.  Until then it writes to standard output and to standard error.  The
latter gets notes from the journal and messages of its own, in the order in which they arise, each
with a line feed at its end.
-/

namespace TwoStack

/-- What a tool has done so far. -/
structure Session where
  disk : Disk
  stdout : String := ""
  stderr : String := ""
  journal : Journal

/-- What a tool has done when it ends. -/
structure SessionEnd where
  code : Nat
  stdout : String
  stderr : String
  disk : Disk

namespace Session

/-- Writes a text of one or more lines to standard error. -/
def complain (session : Session) (text : String) : Session :=
  { session with stderr := session.stderr ++ text ++ "\n" }

/-- A session with the log filter that is asked for, or else a given one.  The parts of a filter
that are left out are reported first. -/
def start (disk : Disk) (log : Option String) (filter : String) : Session :=
  let (filter, complaints) := Log.Filter.ofText (log.getD filter)
  complaints.foldl (fun session complaint => session.complain s!"warning: {complaint}, ignoring it")
    { disk, journal := .empty filter }

/-- Writes the notes of a journal to standard error, and goes on with an empty one. -/
def flush (session : Session) (journal : Journal) : Session :=
  journal.notes.foldl (fun session note => session.complain note.shown)
    { session with journal := .empty journal.filter }

/-- Writes to standard output. -/
def print (session : Session) (text : String) : Session :=
  { session with stdout := session.stdout ++ text }

/-- Makes a note. -/
def note (session : Session) (level : Log.Level) (target text : String) : Session :=
  session.flush (session.journal.add level target fun _ => text)

/-- Ends a session. -/
def finish (session : Session) (code : Nat) : SessionEnd :=
  ⟨code, session.stdout, session.stderr, session.disk⟩

/-- Ends a session with a message. -/
def fail (session : Session) (text : String) : SessionEnd := (session.complain text).finish 1

/-- Ends a session whose arguments do not fit the tool. -/
def misuse (session : Session) (usage : String) : SessionEnd := (session.complain usage).finish 2

end Session

/-- The wording of a program that could not be loaded.  The cause of a file error is repeated at the
end. -/
def RomError.report : RomError → String
  | .file error => s!"{error.message}: {error.cause.message}"
  | .tooLarge refused => refused.message

end TwoStack
