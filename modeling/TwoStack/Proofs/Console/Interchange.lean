import TwoStack.Console.Scripted
import TwoStack.Proofs.Machine.Simulation
import TwoStack.Proofs.Text.Utf8
import TwoStack.Proofs.Text.Words

/-!
# A script and a text

A text console over a text whose words are numerals, and a scripted console with the words that the
numerals denote, answer alike, however the text is laid out in lines (`Scripted.alike_spells`).  So a
machine cannot tell one from the other, and what one collects is what the other prints
(`Machine.consoles_interchange`).

The text console holds some words of a line that it has read already, and the bytes after that line.
What both hold together is `Scripted.Spells`: the words waiting and the words of the bytes not yet
read are the numerals of the script's words.
-/

namespace TwoStack

/-! ## The next word of a text -/

/-- The answer to a request for the next of these words, where they are all that is left. -/
def Stream.Gives (answer : Except ConsoleError String × List String × List UInt8) :
    List String → Prop
  | [] => answer = (.error .closed, [], [])
  | token :: tokens => ∃ later rest, answer = (.ok token, later, utf8Bytes rest) ∧
      later ++ words (String.ofList rest) = tokens

/-- A line is read when no word is waiting. -/
theorem Stream.nextToken_line {unread : List UInt8} {line : List Char} {rest : List UInt8}
    (more : unread ≠ []) (split : Stream.splitLine unread = (utf8Bytes line, rest)) :
    Stream.nextToken [] unread = Stream.nextToken (words (String.ofList line)) rest := by
  rw [Stream.nextToken, dif_neg more]
  dsimp only
  rw [split, Stream.decodeLine?_utf8Bytes]

theorem Stream.gives_pending {rest : List Char}
    (gives : Stream.Gives (Stream.nextToken [] (utf8Bytes rest)) (words (String.ofList rest)))
    (pending : List String) :
    Stream.Gives (Stream.nextToken pending (utf8Bytes rest))
      (pending ++ words (String.ofList rest)) := by
  cases pending with
  | nil => exact gives
  | cons token pending =>
      rw [Stream.nextToken]
      exact ⟨pending, rest, rfl, rfl⟩

/-- The next word is the first that waits or, line by line, the first of the text. -/
theorem Stream.nextToken_gives (pending : List String) (rest : List Char) :
    Stream.Gives (Stream.nextToken pending (utf8Bytes rest))
      (pending ++ words (String.ofList rest)) := by
  refine Stream.gives_pending ?_ pending
  induction rest using lines_induction with
  | last line plain =>
      rcases Decidable.em (line = []) with rfl | more
      · rw [Stream.nextToken]
        exact rfl
      · have split := Stream.splitLine_utf8Bytes_last plain
        have ended : Stream.Gives (Stream.nextToken [] []) [] := by
          rw [Stream.nextToken]
          exact rfl
        have last := @Stream.gives_pending [] ended (words (String.ofList line))
        rw [Stream.nextToken_line (utf8Bytes_ne_nil more) split]
        rwa [show words (String.ofList []) = [] from rfl, List.append_nil] at last
  | line line rest plain ih =>
      have split := Stream.splitLine_utf8Bytes plain rest
      have cut : words (String.ofList (line ++ '\n' :: rest)) = _ :=
        words_cut (by decide) line rest
      have more : line ++ '\n' :: rest ≠ [] :=
        List.append_ne_nil_of_right_ne_nil _ (List.cons_ne_nil _ _)
      rw [Stream.nextToken_line (utf8Bytes_ne_nil more) split, cut]
      exact Stream.gives_pending ih _

/-! ## A script that a text spells -/

/-- The text console will give the words of the script, then none, and has printed the words that
the scripted console has collected. -/
structure Scripted.Spells (script : Scripted) (stream : Stream) : Prop where
  input : ∃ rest, stream.unread = utf8Bytes rest ∧
    (stream.pending ++ words (String.ofList rest)).map Word.ofText? = script.inputs.map some
  sink : stream.sink = ⟨printed script.outputs.toList, none, false⟩

theorem printed_push (values : Array Word) (value : Word) :
    printed (values.push value).toList = printed values.toList ++ (value.text ++ "\n") := by
  rw [Array.toList_push, printed, List.map_append, String.join_append, printed, List.map_singleton,
    String.join_cons, String.join_nil, String.append_empty]

/-- Where everything is stored, a word is printed as a line. -/
theorem Stream.write_unlimited (unread : List UInt8) (pending : List String) (text : String)
    (word : Word) :
    Console.write (⟨unread, pending, ⟨text, none, false⟩⟩ : Stream) word =
      (.ok (), ⟨unread, pending, ⟨text ++ (word.text ++ "\n"), none, false⟩⟩) := by
  have stored : Sink.write ⟨text, none, false⟩ (word.text ++ "\n") =
      (.ok (), ⟨text ++ (word.text ++ "\n"), none, false⟩) := by
    rw [Sink.write]
    exact if_pos (Nat.le_refl _)
  show Stream.write _ _ = _
  rw [Stream.write, stored]

theorem Stream.read_closed {unread : List UInt8} {pending : List String} {sink : Sink}
    (ended : Stream.nextToken pending unread = (.error .closed, [], [])) :
    Console.read (⟨unread, pending, sink⟩ : Stream) = (.error .closed, ⟨[], [], sink⟩) := by
  show Stream.read _ = _
  rw [Stream.read, ended]

theorem Stream.read_numeral {unread rest : List UInt8} {pending later : List String} {sink : Sink}
    {token : String} {word : Word}
    (answer : Stream.nextToken pending unread = (.ok token, later, rest))
    (numeral : Word.ofText? token = some word) :
    Console.read (⟨unread, pending, sink⟩ : Stream) = (.ok word, ⟨rest, later, sink⟩) := by
  show Stream.read _ = _
  rw [Stream.read, answer]
  dsimp only
  rw [numeral]

/-- A script and a text that spells it answer alike. -/
theorem Scripted.alike_spells : Alike Scripted.Spells where
  read := by
    rintro ⟨inputs, outputs⟩ ⟨unread, pending, sink⟩ ⟨⟨rest, bytes, parsed⟩, stored⟩
    dsimp only at bytes parsed stored
    subst bytes
    have gives := Stream.nextToken_gives pending rest
    cases inputs with
    | nil =>
        rw [List.map_nil, List.map_eq_nil_iff] at parsed
        rw [parsed] at gives
        rw [Stream.read_closed gives]
        exact ⟨rfl, ⟨⟨[], rfl, rfl⟩, stored⟩⟩
    | cons word inputs =>
        obtain ⟨token, tokens, listed, first, others⟩ := List.map_eq_cons_iff.1 parsed
        rw [listed] at gives
        obtain ⟨later, after, answer, remaining⟩ := gives
        rw [Stream.read_numeral answer first]
        exact ⟨rfl, ⟨⟨after, rfl, remaining ▸ others⟩, stored⟩⟩
  write := by
    rintro ⟨inputs, outputs⟩ ⟨unread, pending, sink⟩ word ⟨input, stored⟩
    dsimp only at stored
    subst stored
    rw [Stream.write_unlimited]
    refine ⟨rfl, ⟨input, ?_⟩⟩
    rw [← printed_push]
    rfl

/-! ## Machines with either console -/

/-- A machine takes the same course with both consoles, whether it is told step by step or by runs,
and what the text console has printed is what the scripted one has collected. -/
structure Machine.Interchanges (machine : Machine) (host : Host Scripted) (other : Host Stream) :
    Prop where
  outcomes : ∀ count, Machine.nextOutcome (Machine.tick^[count] (machine, other)) =
    Machine.nextOutcome (Machine.tick^[count] (machine, host))
  machines : ∀ count, (Machine.tick^[count] (machine, other)).1 =
    (Machine.tick^[count] (machine, host)).1
  text : ∀ count, (Machine.tick^[count] (machine, other)).2.console.sink.text =
    printed (Machine.tick^[count] (machine, host)).2.console.outputs.toList
  obeyed : ∀ commands,
    (Machine.obey commands (machine, other)).1 = (Machine.obey commands (machine, host)).1 ∧
    (Machine.obey commands (machine, other)).2.1 = (Machine.obey commands (machine, host)).2.1 ∧
    (Machine.obey commands (machine, other)).2.2.console.sink.text =
      printed (Machine.obey commands (machine, host)).2.2.console.outputs.toList

theorem Scripted.Spells.interchanges {host : Host Scripted} {other : Host Stream}
    (spells : host.console.Spells other.console) (machine : Machine) :
    machine.Interchanges host other := by
  have together : Machine.Together Scripted.Spells (machine, host) (machine, other) := ⟨rfl, spells⟩
  have ticked := together.iterate_tick Scripted.alike_spells
  refine ⟨fun count => ?_, fun count => (ticked count).machine, fun count => ?_, fun commands => ?_⟩
  · exact ((ticked count).step Scripted.alike_spells).1
  · rw [(ticked count).console.sink]
  · obtain ⟨replies, last⟩ := together.obey Scripted.alike_spells commands
    exact ⟨replies, last.machine, by rw [last.console.sink]⟩

/-- A text whose words are the numerals of a script spells it. -/
theorem Scripted.spells_ofInputs {text : String} {inputs : List Word}
    (parsed : (words text).map Word.ofText? = inputs.map some) :
    (Scripted.ofInputs inputs).Spells
      (Stream.ofInput text.toUTF8.data.toList .unlimited) where
  input := ⟨text.toList, (utf8Bytes_toList text).symm, by rw [String.ofList_toList]; exact parsed⟩
  sink := rfl

/-- What was printed spells what was collected. -/
theorem map_ofText?_words_printed (values : List Word) :
    (words (printed values)).map Word.ofText? = values.map some := by
  rw [words_printed, List.map_map]
  exact List.map_congr_left fun value _ => value.ofText?_text

/-- A text whose words are the numerals of a list of words may stand for the list, for every
machine.  What is printed on the way may then be given to another machine, and stands for the words
that were collected. -/
theorem Machine.consoles_interchange {text : String} {inputs : List Word}
    (parsed : (words text).map Word.ofText? = inputs.map some) (machine : Machine)
    {host : Host Scripted} {other : Host Stream}
    (script : host.console = Scripted.ofInputs inputs)
    (stream : other.console = Stream.ofInput text.toUTF8.data.toList .unlimited) :
    machine.Interchanges host other ∧
    ∀ (count : Nat) (reader : Machine) (readerHost : Host Scripted) (readerOther : Host Stream),
      readerHost.console = Scripted.ofInputs
        (Machine.tick^[count] (machine, host)).2.console.outputs.toList →
      readerOther.console = Stream.ofInput
        (Machine.tick^[count] (machine, other)).2.console.sink.text.toUTF8.data.toList .unlimited →
      reader.Interchanges readerHost readerOther := by
  have spells := Scripted.spells_ofInputs parsed
  rw [← script, ← stream] at spells
  have interchanges := spells.interchanges machine
  refine ⟨interchanges, fun count reader readerHost readerOther collected copied => ?_⟩
  rw [interchanges.text] at copied
  have again := Scripted.spells_ofInputs (map_ofText?_words_printed
    (Machine.tick^[count] (machine, host)).2.console.outputs.toList)
  rw [← collected, ← copied] at again
  exact again.interchanges reader

/-- Two words in three lines, the middle one blank; what is printed goes to the same program. -/
theorem Machine.consoles_interchange_over_lines :
    let text := " 5\n\n-7 "
    let host : Host Scripted := .ofConsole (Scripted.ofInputs [5, -7]) (.empty ⟨[], none⟩)
    let other : Host Stream :=
      .ofConsole (Stream.ofInput text.toUTF8.data.toList .unlimited) (.empty ⟨[], none⟩)
    let machine := Machine.load ⟨#[0x14, 0x15, 0x14, 0x15, 0x14], by decide⟩ {}
    (words text).map Word.ofText? = [some 5, some (-7)] ∧ machine.Interchanges host other ∧
      ∀ count,
        let collected := (Machine.tick^[count] (machine, host)).2.console.outputs.toList
        let copied := (Machine.tick^[count] (machine, other)).2.console.sink.text
        machine.Interchanges (.ofConsole (Scripted.ofInputs collected) (.empty ⟨[], none⟩))
          (.ofConsole (Stream.ofInput copied.toUTF8.data.toList .unlimited)
            (.empty ⟨[], none⟩)) := by
  intro text host other machine
  have parsed : (words text).map Word.ofText? = [5, -7].map some := by decide +kernel
  obtain ⟨interchanges, again⟩ := @Machine.consoles_interchange text [5, -7] parsed machine host
    other rfl rfl
  exact ⟨parsed, interchanges, fun count => again count machine _ _ rfl rfl⟩

end TwoStack
