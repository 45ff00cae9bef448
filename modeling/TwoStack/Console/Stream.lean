import TwoStack.Console
import TwoStack.Text.Blank

/-!
# Text consoles

A text console reads words from bytes, one line at a time, and writes each word as a line.  The
layout of the input does not matter: the words of a line wait until they are asked for, and blank
lines are passed over.  A line that is not UTF-8 is dropped as a whole and reported once.
-/

namespace TwoStack

/-- Where the output goes: the text stored so far, and how storing may fail. -/
structure Sink where
  text : String
  /-- The number of bytes that can be stored. -/
  limit : Option Nat
  /-- Whether each line is refused after it has been stored. -/
  flushFails : Bool
  deriving DecidableEq, Repr

namespace Sink

/-- An empty sink that stores everything. -/
def unlimited : Sink := ⟨"", none, false⟩

/-- Stores a line of ASCII characters as far as it fits. -/
def write (sink : Sink) (line : String) : Except ConsoleError Unit × Sink :=
  let room := match sink.limit with
    | none => line.length
    | some limit => limit - sink.text.utf8ByteSize
  if line.length ≤ room then
    (if sink.flushFails then .error .flushRefused else .ok (), { sink with text := sink.text ++ line })
  else
    (.error .sinkFull, { sink with text := sink.text ++ String.ofList (line.toList.take room) })

end Sink

/-- A console over bytes not yet read, words of a line not yet asked for, and a sink. -/
structure Stream where
  unread : List UInt8
  pending : List String
  sink : Sink
  deriving DecidableEq, Repr

namespace Stream

/-- A console over an input and an empty sink. -/
def ofInput (input : List UInt8) (sink : Sink) : Stream := ⟨input, [], sink⟩

/-- Splits an input after its first line feed, or at its end. -/
def splitLine (input : List UInt8) : List UInt8 × List UInt8 :=
  match input.dropWhile (· != 10) with
  | [] => (input, [])
  | lineFeed :: rest => (input.takeWhile (· != 10) ++ [lineFeed], rest)

/-- The text of a line, if its bytes are UTF-8. -/
def decodeLine? (line : List UInt8) : Option String := String.fromUTF8? ⟨line.toArray⟩

theorem length_splitLine_lt {input : List UInt8} (h : input ≠ []) :
    (splitLine input).2.length < input.length := by
  have hlen := (List.dropWhile_sublist (l := input) (· != 10)).length_le
  have hpos := List.length_pos_iff.2 h
  unfold splitLine
  split
  · exact hpos
  · next heq =>
    rw [heq, List.length_cons] at hlen
    exact hlen

/-- Takes the next word of the text; lines are read until one has a word. -/
def nextToken (pending : List String) (unread : List UInt8) :
    Except ConsoleError String × List String × List UInt8 :=
  match pending with
  | token :: pending => (.ok token, pending, unread)
  | [] =>
    if h : unread = [] then
      (.error .closed, [], [])
    else
      have := length_splitLine_lt h
      match decodeLine? (splitLine unread).1 with
      | none => (.error .undecodable, [], (splitLine unread).2)
      | some line => nextToken (words line) (splitLine unread).2
  termination_by unread.length

/-- Takes the next word of the text and reads it as a machine word. -/
def read (stream : Stream) : Except ConsoleError Word × Stream :=
  let (token, pending, unread) := nextToken stream.pending stream.unread
  let word := match token with
    | .error error => .error error
    | .ok token =>
      match Word.ofText? token with
      | none => .error (.malformed token)
      | some word => .ok word
  (word, { stream with pending, unread })

/-- Writes a word as a line. -/
def write (stream : Stream) (word : Word) : Except ConsoleError Unit × Stream :=
  let (answer, sink) := stream.sink.write (word.text ++ "\n")
  (answer, { stream with sink })

instance : Console Stream := ⟨read, write⟩

end Stream

end TwoStack
