import TwoStack.Disk.Rom

/-!
# Programs are written whole or not at all

A program is written by way of a file with a fresh name beside the destination.  That file is gone
afterwards, whether or not it could be moved onto the destination, and nothing else has changed
(`Image.save_cases`): a fresh name is longer than every name on the disk, so no path leads through
it, and a path leads to the same place on every disk with the same directories (`Disk.SameWays`).

So a request to assemble or to save a program either is refused and leaves the disk as it is, or
puts the whole program at the destination, from where it can be loaded again
(`FileRequest.AllOrNothing`), and this is also true of any number of requests one after the other
(`FileRequest.Course`).
-/

namespace TwoStack

/-! ## The ways of a disk -/

namespace Disk

variable {disk one other : Disk} {place last : Place} {path : String}

/-- Two disks with the same directories, and the same one to start from. -/
structure SameWays (one other : Disk) : Prop where
  current : other.current = one.current
  directory : ∀ place, other.node? place = some .directory ↔ one.node? place = some .directory

theorem SameWays.symm (same : SameWays one other) : SameWays other one :=
  ⟨same.current.symm, fun place => (same.directory place).symm⟩

theorem lookUp_eq_directory_iff :
    disk.lookUp place = .ok .directory ↔
      isTooLong place = false ∧ disk.node? place = some .directory := by
  rw [lookUp]
  cases isTooLong place with
  | true => simp
  | false => cases disk.node? place <;> simp

/-- Each step is taken from a directory. -/
theorem follow_cons_eq_ok_iff {step : String} {steps : List String} :
    disk.follow place (step :: steps) = .ok last ↔
      disk.lookUp place = .ok .directory ∧ disk.follow (stepFrom place step) steps = .ok last := by
  rw [follow]
  rcases disk.lookUp place with cause | _ | content <;> simp

theorem SameWays.lookUp (same : SameWays one other)
    (found : one.lookUp place = .ok .directory) : other.lookUp place = .ok .directory := by
  rw [lookUp_eq_directory_iff] at found ⊢
  exact ⟨found.1, (same.directory place).2 found.2⟩

theorem SameWays.follow (same : SameWays one other) {steps : List String}
    (found : one.follow place steps = .ok last) : other.follow place steps = .ok last := by
  induction steps generalizing place with
  | nil => exact found
  | cons step steps ih =>
      rw [follow_cons_eq_ok_iff] at found ⊢
      exact ⟨same.lookUp found.1, ih found.2⟩

/-- A path leads to the same place. -/
theorem SameWays.locate (same : SameWays one other) (found : one.locate path = .ok place) :
    other.locate path = .ok place := by
  -- the text of the path is checked first, and that does not depend on the disk
  unfold Disk.locate at found ⊢
  split at found
  · cases found
  · next nonempty =>
      rw [if_neg nonempty]
      split at found
      · cases found
      · next plain =>
          rw [if_neg plain]
          split at found
          · cases found
          · next short =>
              rw [if_neg short, origin, same.current]
              exact same.follow found

theorem directory_eq_ok_iff {start : Place} :
    disk.directory path = .ok start ↔
      (if path.isEmpty then .ok disk.current else disk.locate path) = .ok start ∧
        disk.lookUp start = .ok .directory := by
  unfold Disk.directory
  generalize (if path.isEmpty then .ok disk.current else disk.locate path) = led
  rcases led with cause | place
  · simp
  · dsimp only
    constructor
    · intro found
      rcases looked : disk.lookUp place with cause | _ | content
      · rw [looked] at found
        cases found
      · rw [looked] at found
        cases found
        exact ⟨rfl, looked⟩
      · rw [looked] at found
        cases found
    · rintro ⟨⟨⟩, looked⟩
      rw [looked]

theorem SameWays.inDirectory (same : SameWays one other)
    (found : one.directory path = .ok place) : other.directory path = .ok place := by
  rw [directory_eq_ok_iff] at found ⊢
  refine ⟨?_, same.lookUp found.2⟩
  have led := found.1
  split at led
  · next empty =>
      rw [if_pos empty, same.current]
      exact led
  · next nonempty =>
      rw [if_neg nonempty]
      exact same.locate led

/-- A file that is put where no directory is does not change the ways. -/
theorem sameWays_put (free : disk.node? place ≠ some .directory) (content : Bytes) :
    SameWays disk (disk.put place (.file content)) where
  current := rfl
  directory other := by
    by_cases here : other = place
    · subst here
      have inner : other ≠ [] := by
        intro root
        rw [root] at free
        exact free rfl
      rw [node?_put_self disk inner]
      exact ⟨nofun, fun directory => absurd directory free⟩
    · rw [node?_put_of_ne disk here]

/-! ## Fresh names -/

/-- A fresh name is longer than all names on the disk. -/
theorem length_lt_freshName {entry : Place × Node} (listed : entry ∈ disk.nodes) {name : String}
    (named : name ∈ entry.1) : name.length < disk.freshName.length := by
  have known : name.length ∈
      disk.nodes.flatMap fun entry => entry.1.map String.length :=
    List.mem_flatMap.2 ⟨entry, listed, List.mem_map_of_mem named⟩
  rw [freshName, String.length_ofList, List.length_replicate, List.foldl_max]
  exact Nat.lt_succ_of_le (Nat.le_trans (List.le_max?_getD_of_mem known) (Nat.le_max_right _ _))

theorem ne_fresh {entry : Place × Node} (listed : entry ∈ disk.nodes) (start : Place) :
    entry.1 ≠ start ++ [disk.freshName] := by
  intro same
  have named : disk.freshName ∈ entry.1 := by
    rw [same]
    exact List.mem_append_right _ (List.mem_singleton_self _)
  exact absurd (length_lt_freshName listed named) (Nat.lt_irrefl _)

/-- Nothing is at a fresh place. -/
theorem node?_fresh (disk : Disk) (start : Place) :
    disk.node? (start ++ [disk.freshName]) = none := by
  have inner : start ++ [disk.freshName] ≠ [] := List.append_ne_nil_of_right_ne_nil _ nofun
  rw [node?, if_neg inner, List.lookup_eq_none_iff]
  intro entry listed
  exact bne_iff_ne.2 (ne_fresh listed start).symm

theorem remove_fresh (disk : Disk) (start : Place) :
    disk.remove (start ++ [disk.freshName]) = disk := by
  have kept : (disk.nodes.filter fun entry => entry.1 != start ++ [disk.freshName]) = disk.nodes :=
    List.filter_eq_self.2 fun entry listed => bne_iff_ne.2 (ne_fresh listed start)
  rw [remove, kept]

/-- Removing what was put somewhere leaves what was elsewhere. -/
theorem remove_put (disk : Disk) (place : Place) (node : Node) :
    (disk.put place node).remove place = disk.remove place := by
  simp [put, remove]

/-- A disk with one more file, which nothing leads through and which can be taken away again. -/
structure Staged (disk : Disk) (temporary : Place) (content : Bytes) (staged : Disk) : Prop where
  ways : SameWays disk staged
  present : staged.node? temporary = some (.file content)
  gone : staged.remove temporary = disk

theorem staged_fresh (disk : Disk) (start : Place) (content : Bytes) :
    disk.Staged (start ++ [disk.freshName]) content
      (disk.put (start ++ [disk.freshName]) (.file content)) where
  ways := by
    apply sameWays_put
    rw [node?_fresh]
    nofun
  present := node?_put_self disk (List.append_ne_nil_of_right_ne_nil _ (List.cons_ne_nil _ _)) _
  gone := by rw [remove_put, remove_fresh]

/-! ## Where a file can be written -/

/-- A path leads to a place where a file can be moved to: its directory is there, and it does not
mean a directory itself. -/
structure Accepts (disk : Disk) (path : String) (place : Place) : Prop where
  beside : ∃ directory, disk.directory (Path.parent path) = .ok directory
  located : disk.locate path = .ok place
  named : Path.endsInName path = true
  short : isTooLong place = false
  plain : Path.endsInSlash path = false
  free : disk.node? place ≠ some .directory

theorem SameWays.accepts (same : SameWays one other) (accepts : one.Accepts path place) :
    other.Accepts path place where
  beside := by
    obtain ⟨directory, found⟩ := accepts.beside
    exact ⟨directory, same.inDirectory found⟩
  located := same.locate accepts.located
  named := accepts.named
  short := accepts.short
  plain := accepts.plain
  free := fun found => accepts.free ((same.directory place).1 found)

/-- A file is moved where a path leads to, unless that is a directory or the path says so. -/
theorem rename_eq_ok_iff {source : Place} {node : Node} {after : Disk}
    (present : disk.node? source = some node) :
    disk.rename source path = .ok after ↔
      ∃ place, disk.locate path = .ok place ∧ Path.endsInName path = true ∧
        isTooLong place = false ∧ Path.endsInSlash path = false ∧
        disk.node? place ≠ some .directory ∧ after = (disk.remove source).put place node := by
  rw [rename, present]
  rcases disk.locate path with cause | place
  · simp
  · dsimp only
    simp only [Except.ok.injEq, exists_eq_left']
    cases Path.endsInName path with
    | false => simp
    | true =>
        cases isTooLong place with
        | true => simp
        | false =>
            cases Path.endsInSlash path with
            | true => simp
            | false => by_cases taken : disk.node? place = some .directory <;> simp [taken, eq_comm]

end Disk

/-! ## Saving a program -/

section Save

variable {disk : Disk} {place : Place} {path : String}

/-- A program is saved where the path leads to and nothing else changes, or it is refused and
nothing changes at all. -/
theorem Image.save_cases (image : Image) (disk : Disk) (path : String) (journal : Journal) :
    (∃ error, image.save disk path journal = (.error error, disk, journal) ∧
        ∀ place, ¬disk.Accepts path place) ∨
      ∃ place after, disk.Accepts path place ∧
        image.save disk path journal = (.ok (), disk.put place (.file image.bytes), after) := by
  unfold Image.save
  rcases beside : disk.directory (Path.parent path) with cause | directory
  · refine .inl ⟨_, rfl, fun place accepts => ?_⟩
    obtain ⟨directory, found⟩ := accepts.beside
    rw [beside] at found
    cases found
  · have stage := disk.staged_fresh directory image.bytes
    dsimp only
    -- from here on only what is known of the staged disk matters, not the name of the new file
    generalize directory ++ [disk.freshName] = temporary at stage ⊢
    generalize disk.put temporary (.file image.bytes) = staged at stage ⊢
    rcases renamed : staged.rename temporary path with cause | after
    · refine .inl ⟨_, by rw [stage.gone], fun place accepts => ?_⟩
      have there := stage.ways.accepts accepts
      have moved := (Disk.rename_eq_ok_iff stage.present).2
        ⟨place, there.located, there.named, there.short, there.plain, there.free, rfl⟩
      rw [renamed] at moved
      cases moved
    · obtain ⟨place, located, named, short, plain, free, rfl⟩ :=
        (Disk.rename_eq_ok_iff stage.present).1 renamed
      refine .inr ⟨place, _, stage.ways.symm.accepts ?_, by rw [stage.gone]⟩
      exact ⟨⟨directory, stage.ways.inDirectory beside⟩, located, named, short, plain, free⟩

/-- A program at a place where a path leads to. -/
theorem Image.load_of_file {image : Image} (located : disk.locate path = .ok place)
    (short : Disk.isTooLong place = false) (plain : Path.endsInSlash path = false)
    (there : disk.node? place = some (.file image.bytes)) (journal : Journal) :
    (Image.load disk path journal).1 = .ok image := by
  have found : disk.openPath path = .ok (.file image.bytes) := by
    rw [Disk.openPath, located]
    dsimp only
    rw [Disk.lookUp, short, there, plain]
    rfl
  have whole : Image.ofBytes image.bytes = .ok image := dif_pos image.size_le
  rw [Image.load, found]
  dsimp only
  rw [whole]

end Save

/-- A disk after a program was written to it: it is at the place of the path, nothing else has
changed, and it is what is loaded from there. -/
structure Disk.Writes (disk : Disk) (path : String) (place : Place) (image : Image)
    (after : Disk) : Prop where
  accepts : disk.Accepts path place
  there : after.node? place = some (.file image.bytes)
  elsewhere : ∀ other, other ≠ place → after.node? other = disk.node? other
  current : after.current = disk.current
  loads : ∀ journal, (Image.load after path journal).1 = .ok image
  boots : ∀ config journal,
    (Machine.bootFile after path config journal).1 = .ok (.load image config)

/-- A disk has the same directories after a program was written to it. -/
theorem Disk.Writes.sameWays {disk after : Disk} {path : String} {place : Place} {image : Image}
    (writes : disk.Writes path place image after) : Disk.SameWays disk after where
  current := writes.current
  directory other := by
    by_cases here : other = place
    · rw [here, writes.there]
      exact ⟨nofun, fun directory => absurd directory writes.accepts.free⟩
    · rw [writes.elsewhere other here]

theorem Machine.bootFile_of_load {disk : Disk} {path : String} {journal : Journal} {image : Image}
    (loaded : (Image.load disk path journal).1 = .ok image) (config : Config) :
    (Machine.bootFile disk path config journal).1 = .ok (.load image config) := by
  rcases read : Image.load disk path journal with ⟨result, after⟩
  rw [read] at loaded
  cases loaded
  rw [Machine.bootFile, read]
  rfl

theorem Disk.Accepts.writes {disk : Disk} {path : String} {place : Place}
    (accepts : disk.Accepts path place) (image : Image) :
    disk.Writes path place image (disk.put place (.file image.bytes)) := by
  have ways := Disk.sameWays_put accepts.free image.bytes
  have inner : place ≠ [] := by
    rintro rfl
    exact accepts.free rfl
  have there := Disk.node?_put_self disk inner (.file image.bytes)
  have loads := Image.load_of_file (ways.locate accepts.located) accepts.short accepts.plain there
  exact
    { accepts, there, loads
      elsewhere := fun other apart => Disk.node?_put_of_ne disk apart _
      current := rfl
      boots := fun config journal => Machine.bootFile_of_load (loads journal) config }

/-! ## Requests -/

/-- What can be asked for: to assemble a source text into a file, or to save a program in one. -/
inductive FileRequest where
  | assemble (source destination : String)
  | save (image : Image) (destination : String)

namespace FileRequest

/-- Where the program is to be written. -/
def destination : FileRequest → String
  | assemble _ destination => destination
  | save _ destination => destination

/-- The program that is to be written, made from what is on the disk. -/
def offer (disk : Disk) : FileRequest → Except BuildError Image
  | assemble source _ =>
    match readSource disk source with
    | .error error => .error (.file error)
    | .ok text =>
      match TwoStack.assemble text with
      | .error error => .error (.source error)
      | .ok assembly => .ok assembly.image
  | save image _ => .ok image

/-- Does what is asked for.  The result is the program that was written. -/
def perform (disk : Disk) (journal : Journal) :
    FileRequest → Except BuildError Image × Disk × Journal
  | assemble source destination =>
    let (result, disk, journal) := assembleFile disk source destination journal
    (result.map (·.image), disk, journal)
  | save image destination =>
    match image.save disk destination journal with
    | (.error error, disk, journal) => (.error (.file error), disk, journal)
    | (.ok (), disk, journal) => (.ok image, disk, journal)

/-- Does one thing after the other, and collects the results. -/
def performAll (disk : Disk) (journal : Journal) :
    List FileRequest → List (Except BuildError Image) × Disk × Journal
  | [] => ([], disk, journal)
  | request :: rest =>
    let (result, disk, journal) := perform disk journal request
    let (results, disk, journal) := performAll disk journal rest
    (result :: results, disk, journal)

/-- A request that is refused changes nothing, and one that succeeds writes the whole program.  It
succeeds if the program can be made and the disk accepts it at the destination. -/
structure AllOrNothing (request : FileRequest) (disk : Disk) (result : Except BuildError Image)
    (after : Disk) : Prop where
  granted : ∀ image, result = .ok image ↔
    request.offer disk = .ok image ∧ ∃ place, disk.Accepts request.destination place
  refused : ∀ error, result = .error error → after = disk
  written : ∀ image, result = .ok image →
    ∃ place, disk.Writes request.destination place image after

variable {disk : Disk} {request : FileRequest}

theorem perform_cases (request : FileRequest) (disk : Disk) (journal : Journal) :
    (∃ error later, request.perform disk journal = (.error error, disk, later) ∧
        ∀ image place, request.offer disk = .ok image →
          ¬disk.Accepts request.destination place) ∨
      ∃ image place later, request.offer disk = .ok image ∧
        disk.Accepts request.destination place ∧
        request.perform disk journal = (.ok image, disk.put place (.file image.bytes), later) := by
  cases request with
  | save image path =>
      rcases image.save_cases disk path journal with
        ⟨error, saved, closed⟩ | ⟨place, later, accepts, saved⟩
      · refine .inl ⟨.file error, journal, ?_, fun image place _ => closed place⟩
        rw [perform, saved]
      · refine .inr ⟨image, place, later, rfl, accepts, ?_⟩
        rw [perform, saved]
  | assemble source path =>
      unfold perform assembleFile offer
      dsimp only
      rcases readSource disk source with error | text
      · exact .inl ⟨_, journal, rfl, nofun⟩
      · dsimp only
        rcases TwoStack.assemble text with error | assembly
        · exact .inl ⟨_, journal, rfl, nofun⟩
        · dsimp only
          rcases assembly.image.save_cases disk path (assembly.note journal) with
            ⟨error, saved, closed⟩ | ⟨place, later, accepts, saved⟩
          · rw [saved]
            exact .inl ⟨_, _, rfl, fun image place _ => closed place⟩
          · rw [saved]
            exact .inr ⟨_, place, _, rfl, accepts, rfl⟩

theorem allOrNothing (request : FileRequest) (disk : Disk) (journal : Journal) :
    request.AllOrNothing disk (request.perform disk journal).1
      (request.perform disk journal).2.1 := by
  rcases request.perform_cases disk journal with
    ⟨error, later, performed, closed⟩ | ⟨image, place, later, made, accepts, performed⟩
  · rw [performed]
    refine ⟨fun image => ⟨nofun, ?_⟩, fun _ _ => rfl, nofun⟩
    rintro ⟨made, place, accepts⟩
    exact absurd accepts (closed image place made)
  · rw [performed]
    refine ⟨fun other => ⟨?_, ?_⟩, nofun, ?_⟩
    · rintro ⟨⟩
      exact ⟨made, place, accepts⟩
    · rintro ⟨offered, _⟩
      exact made.symm.trans offered
    · rintro _ ⟨⟩
      exact ⟨place, accepts.writes image⟩

/-! ## Requests one after the other -/

/-- What requests one after the other come to, each of them on the disk that the one before has
left. -/
inductive Course : Disk → List FileRequest → List (Except BuildError Image) → Disk → Prop
  | rest (disk : Disk) : Course disk [] [] disk
  | next {disk after last : Disk} {request : FileRequest} {result : Except BuildError Image}
    {requests : List FileRequest} {results : List (Except BuildError Image)}
    (done : request.AllOrNothing disk result after) (more : Course after requests results last) :
    Course disk (request :: requests) (result :: results) last

theorem course (requests : List FileRequest) (disk : Disk) (journal : Journal) :
    Course disk requests (performAll disk journal requests).1
      (performAll disk journal requests).2.1 := by
  induction requests generalizing disk journal with
  | nil => exact .rest disk
  | cons request requests ih =>
      exact .next (request.allOrNothing disk journal) (ih _ _)

/-- What was at a place is still there if no request has succeeded in writing to it. -/
theorem Course.node?_eq {last : Disk} {requests : List FileRequest}
    {results : List (Except BuildError Image)} (course : Course disk requests results last)
    {place : Place} (spared : ∀ request image, (request, .ok image) ∈ requests.zip results →
      ¬disk.Accepts request.destination place) :
    last.node? place = disk.node? place := by
  induction course with
  | rest disk => rfl
  | @next disk after last request result requests results done more ih =>
      simp only [List.zip_cons_cons, List.mem_cons, Prod.mk.injEq] at spared
      cases result with
      | error error =>
          obtain rfl := done.refused error rfl
          exact ih fun request image listed => spared request image (.inr listed)
      | ok image =>
          obtain ⟨written, writes⟩ := done.written image rfl
          have apart : place ≠ written := by
            rintro rfl
            exact spared request image (.inl ⟨rfl, rfl⟩) writes.accepts
          rw [ih, writes.elsewhere place apart]
          intro request image listed accepts
          exact spared request image (.inr listed) (writes.sameWays.symm.accepts accepts)

/-- Whatever is asked for, alone or one request after the other: a request either changes nothing or
writes the whole program, and a place to which no request succeeds in writing stays as it is. -/
theorem all_or_nothing (requests : List FileRequest) (disk : Disk) (journal : Journal) :
    (∀ request : FileRequest, request.AllOrNothing disk (request.perform disk journal).1
      (request.perform disk journal).2.1) ∧
    Course disk requests (performAll disk journal requests).1
      (performAll disk journal requests).2.1 ∧
    ∀ place, (∀ request image,
        (request, .ok image) ∈ requests.zip (performAll disk journal requests).1 →
          ¬disk.Accepts request.destination place) →
      (performAll disk journal requests).2.1.node? place = disk.node? place :=
  ⟨fun request => request.allOrNothing disk journal, course requests disk journal,
    fun _ spared => (course requests disk journal).node?_eq spared⟩

/-- A source text is assembled into the file where it stands, and then a program is to be saved
nowhere. -/
theorem all_or_nothing_onto_source :
    let disk : Disk := ⟨[(["s"], .file "HALT".toUTF8.data), (["d"], .file #[1])], []⟩
    let journal : Journal := .empty ⟨[], none⟩
    let requests : List FileRequest := [.assemble "s" "s", .save ⟨#[], by decide⟩ ""]
    (∃ image, image.bytes = #[0x16] ∧
      disk.Writes "s" ["s"] image (perform disk journal (.assemble "s" "s")).2.1) ∧
      Course disk requests (performAll disk journal requests).1
        (performAll disk journal requests).2.1 ∧
      (performAll disk journal requests).2.1.node? ["d"] = disk.node? ["d"] := by
  intro disk journal requests
  have steps : Path.steps "s" = ["s"] := by
    have split : "s".splitOn "/" = ["s"] := by
      rw [String.splitOn, if_neg (by decide), String.splitOnAux, if_neg (by decide),
        if_neg (by decide), String.splitOnAux, if_pos (by decide)]
      decide
    rw [Path.steps, split]
    decide
  have located : disk.locate "s" = .ok ["s"] := by
    rw [Disk.locate, String.contains_char_eq, steps]
    rfl
  have accepts : disk.Accepts "s" ["s"] := by
    refine ⟨⟨[], ?_⟩, located, ?_, ?_, ?_, ?_⟩
    · have parent : Path.parent "s" = "" := by decide
      rw [parent]
      rfl
    · rw [Path.endsInName, steps]
      rfl
    · decide
    · decide
    · decide
  have read : readSource disk "s" = .ok "HALT" := by
    rw [readSource, Disk.readFile, Disk.openPath, located]
    rfl
  have made : (TwoStack.assemble "HALT").toOption.map (·.image.bytes) = some #[0x16] := by
    decide +kernel
  obtain ⟨each, course, spares⟩ := all_or_nothing requests disk journal
  obtain ⟨granted, _, written⟩ := each (.assemble "s" "s")
  refine ⟨?_, course, spares ["d"] ?_⟩
  · rcases assembled : TwoStack.assemble "HALT" with error | assembly
    · rw [assembled] at made
      cases made
    · rw [assembled] at made
      have offered : offer disk (.assemble "s" "s") = .ok assembly.image := by
        rw [offer, read]
        dsimp only
        rw [assembled]
      obtain ⟨place, writes⟩ := written _ ((granted _).2 ⟨offered, _, accepts⟩)
      have same : ["s"] = place := Except.ok.inj (located.symm.trans writes.accepts.located)
      exact ⟨assembly.image, Option.some.inj made, same ▸ writes⟩
  · intro request image listed accepted
    have asked := (List.of_mem_zip listed).1
    simp only [requests, List.mem_cons, List.not_mem_nil, or_false] at asked
    rcases asked with rfl | rfl
    · exact absurd (Except.ok.inj (located.symm.trans accepted.located)) (by decide)
    · cases accepted.located

end FileRequest

end TwoStack
