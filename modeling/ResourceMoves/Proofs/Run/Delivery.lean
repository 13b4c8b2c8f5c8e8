import ResourceMoves.Proofs.Run.Stages

/-!
# Runs — moves are handed over once

A run on a disk, which it sees through what paths lead to (`Host.on`), leaves the disk with the text
of its outcome at the end of a file (`Outcome.leaves`).  **Moves are handed over once, and only when
all stages have gone well** (`run_delivers`).  A run that is stopped, is to write nothing, or finds
no move leaves standard output empty and the disk as it was; otherwise its moves are in the moves
file or on standard output, and the other of the two is untouched.  The status says whether a run
went well and, if not, whether the user is to blame.  The system is any, and so are the readers of
what a run is given there: nothing is said here about what a text spells.
-/

namespace ResourceMoves

namespace Text

theorem decode_eq_nil_iff {bytes : List UInt8} : decode bytes = [] ↔ bytes = [] := by
  fun_cases decode bytes <;> simp

theorem decode?_nil : decode? [] = some "" := by
  rw [decode?, decode_eq_nil_iff.2 rfl]
  rfl

/-- Only no bytes at all spell the empty text. -/
theorem isEmpty_of_decode? {bytes : List UInt8} {content : String}
    (h : decode? bytes = some content) : content.isEmpty = bytes.isEmpty := by
  obtain ⟨cs, hcs, rfl⟩ := Option.map_eq_some_iff.1 h
  rw [Bool.eq_iff_iff, String.isEmpty_iff, String.ofList_eq_empty_iff, List.isEmpty_iff,
    ← decode_eq_nil_iff]
  cases hd : decode bytes with
  | nil =>
      rw [hd] at hcs
      cases hcs
      simp
  | cons c ds =>
      rw [hd, List.mapM_cons] at hcs
      obtain ⟨a, -, hcs⟩ := Option.bind_eq_some_iff.1 hcs
      obtain ⟨as, -, hcs⟩ := Option.bind_eq_some_iff.1 hcs
      cases hcs
      simp

end Text

/-! ### Disks -/

namespace Disk

theorem append_of_opened {d : Disk} {path : String} {old : List UInt8}
    (h : (d.nodeAt path).opened? = some old) (bytes : List UInt8) :
    d.append path bytes = d.write path (old ++ bytes) := by
  rw [append, h]

end Disk

namespace Move

/-- What is added to a file that can be opened depends on whether it has any bytes. -/
theorem addition_of_opened {node : Node} {old : List UInt8} (h : node.opened? = some old)
    (time : Instant) (moves : List Move) :
    addition node.found time moves = .ok (batch old.isEmpty time moves) := by
  cases node with
  | absent =>
      cases h
      rfl
  | blocked => cases h
  | directory => cases h
  | file bytes =>
      obtain rfl : bytes = old := Option.some.inj h
      cases hcontent : Text.decode? bytes with
      | some content =>
          have hfound : (Node.file bytes).found = .text content := by rw [Node.found, hcontent]
          rw [hfound, addition, Text.isEmpty_of_decode? hcontent]
      | none =>
          have hfound : (Node.file bytes).found = .binary := by rw [Node.found, hcontent]
          -- no bytes at all spell a text
          have hne : bytes.isEmpty = false := by
            rw [List.isEmpty_eq_false_iff]
            rintro rfl
            rw [Text.decode?_nil] at hcontent
            cases hcontent
          rw [hfound, addition, hne]

theorem addition_of_not_opened {node : Node} (h : node.opened? = none) (time : Instant)
    (moves : List Move) : ∃ detail, addition node.found time moves = .error (.system detail) := by
  cases node with
  | absent => cases h
  | blocked => exact ⟨_, rfl⟩
  | directory => exact ⟨_, rfl⟩
  | file bytes => cases h

end Move

namespace Run

variable {host : Host} {o : Options} {s : Settings} {m : Matching} {disk : Disk} {out : Outcome}

/-- Nothing is on standard output, and the disk is left as it was. -/
structure Silent (disk : Disk) (out : Outcome) : Prop where
  stdout : out.stdout = ""
  disk   : out.leaves disk = disk

/-- What an outcome of a run on a disk hands over, and its status. -/
structure Delivers (disk : Disk) (host : Host) (o : Options) (out : Outcome) : Prop where
  /-- A run that is stopped hands nothing over, and its status tells whether the user is to
  blame. -/
  stopped : ∀ f, Stops host o f → Silent disk out ∧ out.status = if f.isUsers then 2 else 1
  /-- Nothing is handed over when nothing is to be written or there is no move. -/
  withheld : ∀ s m, Reaches host o s m → o.dryRun ∨ m.moves = [] → Silent disk out ∧ out.status = 0
  /-- Commands go to standard output alone. -/
  commands : ∀ s m, Reaches host o s m → ¬ o.dryRun → m.moves ≠ [] → s.output = .commands →
    out.stdout = Move.commands s.planner m.moves ∧ out.leaves disk = disk ∧ out.status = 0
  /-- Blocks go to the end of the moves file alone, after a line break if it has anything in it and
  under a comment with the time. -/
  blocks : ∀ s m old, Reaches host o s m → ¬ o.dryRun → m.moves ≠ [] → s.output = .blocks →
    (disk.nodeAt s.movesPath).opened? = some old →
      out.stdout = "" ∧
      out.leaves disk = disk.write s.movesPath (old ++ Text.encode
        ((if old = [] then "" else "\n") ++ "# Added by automv on " ++ host.now.text ++ "\n\n" ++
          Move.blocks m.moves)) ∧
      out.status = 0
  /-- Where the moves file cannot be opened nothing is handed over, and the user is not to blame. -/
  unopened : ∀ s m, Reaches host o s m → ¬ o.dryRun → m.moves ≠ [] → s.output = .blocks →
    (disk.nodeAt s.movesPath).opened? = none → Silent disk out ∧ out.status = 1

theorem silent_failed (r : Report) (said : String) (calls : List Call) (f : Fault) :
    Silent disk (failed r said calls f) := ⟨rfl, rfl⟩

theorem status_failed (r : Report) (said : String) (calls : List Call) (f : Fault) :
    (failed r said calls f).status = if f.isUsers then 2 else 1 := rfl

theorem appendBlocks_of_ok (disk : Disk) {text : String} {moves : List Move}
    (h : Move.addition (host.look s.movesPath) host.now moves = .ok text) (r : Report)
    (said : String) (calls : List Call) :
    (appendBlocks host r s said calls moves).stdout = "" ∧
      (appendBlocks host r s said calls moves).leaves disk =
        disk.append s.movesPath (Text.encode text) ∧
      (appendBlocks host r s said calls moves).status = 0 := by
  rw [appendBlocks, h]
  exact ⟨rfl, rfl, rfl⟩

theorem appendBlocks_of_error {f : Fault} {moves : List Move}
    (h : Move.addition (host.look s.movesPath) host.now moves = .error f) (r : Report)
    (said : String) (calls : List Call) :
    appendBlocks host r s said calls moves = failed r said calls f := by
  rw [appendBlocks, h]

/-- Handing over when there is something to hand over and it is to be written. -/
theorem handOver_eq (r : Report) (said : String) (calls : List Call) (hdry : ¬ o.dryRun)
    (hmoves : m.moves ≠ []) : ∃ said', handOver host r o s said calls m =
      match s.output with
      | .blocks   => appendBlocks host r s said' calls m.moves
      | .commands => printCommands r s said' calls m.moves := by
  refine ⟨if s.showAnalysis then said ++ r.matching m ++ "\n" else said, ?_⟩
  have hgo : (m.moves.isEmpty || o.dryRun) = false := by simp [hdry, hmoves]
  simp only [handOver, hgo]
  rfl

theorem handOver_withheld (r : Report) (said : String) (calls : List Call)
    (h : o.dryRun ∨ m.moves = []) : ∃ said', handOver host r o s said calls m =
      { status := 0, stdout := "", stderr := said', calls, appended := none } := by
  refine ⟨(if s.showAnalysis then said ++ r.matching m ++ "\n" else said) ++ r.moves m.moves, ?_⟩
  have hstay : (m.moves.isEmpty || o.dryRun) = true := by
    rcases h with h | h
    · simp [h]
    · simp [h]
  simp only [handOver, hstay]
  rfl

/-- **Moves are handed over once, and only when all stages have gone well.** -/
theorem run_delivers (disk : Disk) (host : Host) (o : Options) :
    Delivers disk (host.on disk) o (run (host.on disk) o) ∧
      ((∃ f, Stops (host.on disk) o f) ∨ ∃ s m, Reaches (host.on disk) o s m) := by
  refine ⟨⟨?_, ?_, ?_, ?_, ?_⟩, stops_or_reaches _ o⟩
  · intro f h
    obtain ⟨said, hrun⟩ := run_of_stops h
    rw [hrun]
    exact ⟨silent_failed _ _ _ f, status_failed _ _ _ f⟩
  · intro s m h hwithheld
    obtain ⟨said, hrun⟩ := run_of_reaches h
    obtain ⟨said', hhand⟩ := handOver_withheld _ said _ hwithheld
    rw [hrun, hhand]
    exact ⟨⟨rfl, rfl⟩, rfl⟩
  · intro s m h hdry hmoves houtput
    obtain ⟨said, hrun⟩ := run_of_reaches h
    obtain ⟨said', hhand⟩ := handOver_eq _ said _ hdry hmoves
    rw [hrun, hhand, houtput]
    exact ⟨rfl, rfl, rfl⟩
  · intro s m old h hdry hmoves houtput hopened
    obtain ⟨said, hrun⟩ := run_of_reaches h
    obtain ⟨said', hhand⟩ := handOver_eq _ said _ hdry hmoves
    have hadd : Move.addition ((host.on disk).look s.movesPath) (host.on disk).now m.moves =
        .ok (Move.batch old.isEmpty (host.on disk).now m.moves) :=
      Move.addition_of_opened hopened _ _
    obtain ⟨hstdout, hleaves, hstatus⟩ := appendBlocks_of_ok disk hadd
      (reportOf (host.on disk) o) said' (callsOf (host.on disk) o)
    rw [hrun, hhand, houtput]
    refine ⟨hstdout, hleaves.trans ?_, hstatus⟩
    rw [Disk.append_of_opened hopened, Move.batch]
    simp only [List.isEmpty_iff]
  · intro s m h hdry hmoves houtput hopened
    obtain ⟨said, hrun⟩ := run_of_reaches h
    obtain ⟨said', hhand⟩ := handOver_eq _ said _ hdry hmoves
    obtain ⟨detail, hadd⟩ : ∃ detail, Move.addition ((host.on disk).look s.movesPath)
        (host.on disk).now m.moves = .error (.system detail) :=
      Move.addition_of_not_opened hopened _ _
    rw [hrun, hhand, houtput]
    dsimp only
    rw [appendBlocks_of_error hadd]
    exact ⟨silent_failed _ _ _ _, status_failed _ _ _ _⟩

/-! ### A small disk -/

/-- A disk with a moves file and the plan of a rename, each record of which is an array of its
fields. -/
def smallDisk : Disk where
  place path := [path]
  node
    | ["."]          => .directory
    | ["plan"]       => .file <| Text.encode <| "[null,null,[" ++
        "[\"t.a\",\"managed\",\"t\",null,\"\",null,[[\"delete\"],1,null,null]]," ++
        "[\"t.b\",\"managed\",\"t\",null,\"\",null,[[\"create\"],null,1,null]]]]"
    | ["./moves.tf"] => .file (Text.encode "# kept\n")
    | _              => .absent

theorem reaches_smallDisk : ∃ m,
    Reaches ((Host.bare "1.5.7").on smallDisk) { planFile := some "plan" } {} m ∧
      m.moves = [⟨"t.a", "t.b"⟩] := by
  have hs : (Settings.load ((Host.bare "1.5.7").on smallDisk) { planFile := some "plan" }).2 =
      .ok {} := by rfl
  have hmoves : (matching ((Host.bare "1.5.7").on smallDisk)
      { planFile := some "plan" } {}).result.toOption.map Matching.moves =
        some [⟨"t.a", "t.b"⟩] := by decide +kernel
  cases hm : (matching ((Host.bare "1.5.7").on smallDisk) { planFile := some "plan" } {}).result with
  | error f =>
      rw [hm] at hmoves
      cases hmoves
  | ok m =>
      rw [hm] at hmoves
      exact ⟨m, reaches_iff.2 ⟨hs, hm⟩, Option.some.inj hmoves⟩

theorem run_delivers_smallDisk :
    (run ((Host.bare "1.5.7").on smallDisk) { planFile := some "plan" }).stdout = "" ∧
    (run ((Host.bare "1.5.7").on smallDisk) { planFile := some "plan" }).leaves smallDisk =
      smallDisk.write "./moves.tf" (Text.encode "# kept\n" ++ Text.encode
        ("\n# Added by automv on 1970-01-01T00:00:00+00:00\n\n" ++
          Move.blocks [⟨"t.a", "t.b"⟩])) := by
  obtain ⟨m, hreaches, hmoves⟩ := reaches_smallDisk
  have hsome : m.moves ≠ [] := by rw [hmoves]; exact List.cons_ne_nil _ _
  obtain ⟨hstdout, hleaves, -⟩ := (run_delivers smallDisk (Host.bare "1.5.7")
    { planFile := some "plan" }).1.blocks {} m (Text.encode "# kept\n") hreaches
      Bool.false_ne_true hsome rfl rfl
  have htime : ((Host.bare "1.5.7").on smallDisk).now.text = "1970-01-01T00:00:00+00:00" := by
    decide +kernel
  have hkept : Text.encode "# kept\n" ≠ [] := by decide +kernel
  refine ⟨hstdout, hleaves.trans ?_⟩
  rw [hmoves, htime, if_neg hkept]
  rfl

end Run

end ResourceMoves
