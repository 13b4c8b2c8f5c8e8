import ResourceMoves.Proofs.Move.Blocks
import ResourceMoves.Proofs.Run.Delivery
import ResourceMoves.Proofs.Text.Utf8

/-!
# Moves — batches at the end of a file

Batches of moves that are added to a file on a disk, one after the other.  A step (`addBatch`) finds
out what the path leads to, as a run that hands over blocks does, and adds the text of its batch to
the bytes that are there, whatever they are (`addBatch_of_opened`); so a run of steps adds the text
of all its batches (`addBatches_of_opened`).

**Nothing is lost or garbled** (`addBatches_tells_batches`).  Each step keeps what the file had, and
its comment begins a line.  The bytes of the file in the end tell the batches, those at the
beginning being given, if no address has a line feed.
-/

namespace ResourceMoves

open ResourceMoves.Text (encode encode_append encode_empty encode_inj)

/-- A line begins after the bytes: there are none, or the last one is a line feed. -/
def BeginsLine (bytes : List UInt8) : Prop := ∀ b ∈ bytes.getLast?, b = 10

namespace Disk

variable {d : Disk} {path : String} {old : List UInt8}

/-- The disk after a batch is added to the file at a path. -/
def addBatch (d : Disk) (path : String) (b : Batch) : Except Fault Disk :=
  (Move.addition (d.nodeAt path).found b.time b.moves).map fun text => d.append path (encode text)

/-- The disk after batches are added to the file at a path, one after the other. -/
def addBatches (d : Disk) (path : String) (bs : List Batch) : Except Fault Disk :=
  bs.foldlM (fun d b => d.addBatch path b) d

/-! ### Single batches -/

theorem opened_write (d : Disk) (path : String) (bytes : List UInt8) :
    ((d.write path bytes).nodeAt path).opened? = some bytes := by
  simp [write, nodeAt, Node.opened?]

/-- **A batch is added to the bytes that are there.** -/
theorem addBatch_of_opened (h : (d.nodeAt path).opened? = some old) (b : Batch) :
    d.addBatch path b =
      .ok (d.write path (old ++ encode (Move.batch old.isEmpty b.time b.moves))) := by
  rw [addBatch, Move.addition_of_opened h, ← append_of_opened h]
  rfl

/-- The text of a batch is not empty, so the file is not either when the next one comes. -/
theorem isEmpty_append_batch (old : List UInt8) (fileIsEmpty : Bool) (b : Batch) :
    (old ++ encode (Move.batch fileIsEmpty b.time b.moves)).isEmpty = false := by
  have htext : Move.batch fileIsEmpty b.time b.moves ≠ "" := by
    intro h
    have hlines := Batch.toList_batch fileIsEmpty b
    rw [h] at hlines
    cases fileIsEmpty <;> simp [Batch.lines] at hlines
  rw [List.isEmpty_eq_false_iff]
  intro h
  exact htext (encode_inj ((List.append_eq_nil_iff.1 h).2.trans encode_empty.symm))

/-! ### Batches one after the other -/

/-- **Batches add their text**, one after the other. -/
theorem addBatches_of_opened (h : (d.nodeAt path).opened? = some old) (bs : List Batch) :
    ∃ d', d.addBatches path bs = .ok d' ∧
      (d'.nodeAt path).opened? = some (old ++ encode (Batch.added old.isEmpty bs)) := by
  induction bs generalizing d old with
  | nil =>
      refine ⟨d, rfl, ?_⟩
      rw [h, Batch.added, encode_empty, List.append_nil]
  | cons b bs ih =>
      obtain ⟨d', hd', hopened⟩ :=
        ih (opened_write d path (old ++ encode (Move.batch old.isEmpty b.time b.moves)))
      refine ⟨d', ?_, ?_⟩
      · rw [addBatches, List.foldlM_cons, addBatch_of_opened h]
        exact hd'
      · rw [hopened, isEmpty_append_batch, Batch.added, encode_append, List.append_assoc]

/-- The last of some batches is added to what the others left. -/
theorem addBatches_concat {d' : Disk} {bs : List Batch} (h : d.addBatches path bs = .ok d')
    (b : Batch) : d.addBatches path (bs ++ [b]) = d'.addBatch path b := by
  rw [addBatches, List.foldlM_append]
  rw [addBatches] at h
  rw [h]
  change d'.addBatch path b >>= pure = _
  exact bind_pure _

/-- The break before a comment ends the line that the bytes may have left open. -/
theorem beginsLine_append_break (bytes : List UInt8) :
    BeginsLine (bytes ++ encode (if bytes = [] then "" else "\n")) := by
  split
  case isTrue h =>
    rw [h, encode_empty]
    rintro _ ⟨⟩
  case isFalse h =>
    have hbreak : encode "\n" = [10] := by decide +kernel
    rw [hbreak]
    rintro b hb
    rw [List.getLast?_append_of_ne_nil _ (List.cons_ne_nil _ _)] at hb
    exact (Option.some.inj hb).symm

/-- Files that had the same bytes and have the same bytes in the end were given the same batches. -/
theorem told_of_addBatches {d' e e' : Disk} {bs bs' : List Batch}
    (h : (d.nodeAt path).opened? = some old) (h' : (d'.nodeAt path).opened? = some old)
    (hbs : ∀ b ∈ bs, ∀ m ∈ b.moves, m.OneLined) (hbs' : ∀ b ∈ bs', ∀ m ∈ b.moves, m.OneLined)
    (he : d.addBatches path bs = .ok e) (he' : d'.addBatches path bs' = .ok e')
    (hsame : (e.nodeAt path).opened? = (e'.nodeAt path).opened?) :
    bs.map Batch.told = bs'.map Batch.told := by
  obtain ⟨f, hf, hopened⟩ := addBatches_of_opened h bs
  obtain ⟨f', hf', hopened'⟩ := addBatches_of_opened h' bs'
  obtain rfl : e = f := Except.ok.inj (he.symm.trans hf)
  obtain rfl : e' = f' := Except.ok.inj (he'.symm.trans hf')
  rw [hopened, hopened', Option.some.injEq, List.append_cancel_left_eq] at hsame
  exact Batch.told_of_added_eq hbs hbs' (encode_inj hsame)

/-! ### The theorem -/

/-- **Adding batches to a file loses and garbles nothing.**  Let the file at a path be absent and
`old` empty, or have the bytes `old`.  Batches can be added to it one after the other, and each
keeps the bytes that are there, ends their last line, and writes its comment in a line of its own
and its blocks; no other file changes.  If no address has a line feed, the bytes in the end tell the
moves of every batch and the text of its time, so the batches themselves when their times are given.
The blocks for moves alone tell the moves. -/
theorem addBatches_tells_batches (path : String) (old : List UInt8) :
    (∀ d : Disk, (d.nodeAt path).opened? = some old → ∀ (bs : List Batch) (b : Batch),
      ∃ d' content, d.addBatches path bs = .ok d' ∧ (d'.nodeAt path).opened? = some content ∧
        old <+: content ∧
        BeginsLine (content ++ encode (if content = [] then "" else "\n")) ∧
        '\n' ∉ b.time.text.toList ∧
        d.addBatches path (bs ++ [b]) = .ok (d'.write path
          (content ++ encode (if content = [] then "" else "\n") ++
            encode ("# Added by automv on " ++ b.time.text ++ "\n\n" ++ Move.blocks b.moves)))) ∧
    (∀ (d d' e e' : Disk) (bs bs' : List Batch), (d.nodeAt path).opened? = some old →
      (d'.nodeAt path).opened? = some old → (∀ b ∈ bs, ∀ m ∈ b.moves, m.OneLined) →
      (∀ b ∈ bs', ∀ m ∈ b.moves, m.OneLined) → d.addBatches path bs = .ok e →
      d'.addBatches path bs' = .ok e' → (e.nodeAt path).opened? = (e'.nodeAt path).opened? →
        bs.map (fun b => (b.time.text, b.moves)) = bs'.map (fun b => (b.time.text, b.moves)) ∧
        (bs.map (·.time) = bs'.map (·.time) → bs = bs')) ∧
    ∀ moves moves' : List Move, (∀ m ∈ moves, m.OneLined) → (∀ m ∈ moves', m.OneLined) →
      Move.blocks moves = Move.blocks moves' → moves = moves' := by
  refine ⟨fun d hd bs b => ?_, fun d d' e e' bs bs' hd hd' hbs hbs' he he' hsame => ?_,
    fun moves moves' => Move.blocks_inj⟩
  · obtain ⟨d', hd', hopened⟩ := addBatches_of_opened hd bs
    refine ⟨d', _, hd', hopened, List.prefix_append _ _, beginsLine_append_break _,
      b.time.lineFeed_not_mem_text, ?_⟩
    rw [addBatches_concat hd', addBatch_of_opened hopened, Move.batch]
    simp only [List.isEmpty_iff, encode_append, List.append_assoc]
  · have htold := told_of_addBatches hd hd' hbs hbs' he he' hsame
    exact ⟨htold, Batch.eq_of_told_eq htold⟩

/-- A disk with a file whose last line is open. -/
def openLine : Disk where
  place path := [path]
  node
    | ["moves.tf"] => .file (encode "# kept")
    | _            => .absent

/-- Two moves that are added at once. -/
def atOnce : List Batch := [⟨⟨0, 0⟩, [⟨"t.a", "t.b"⟩, ⟨"t.c", "t.d"⟩]⟩]

/-- The same moves, added at the same time one after the other. -/
def oneByOne : List Batch := [⟨⟨0, 0⟩, [⟨"t.a", "t.b"⟩]⟩, ⟨⟨0, 0⟩, [⟨"t.c", "t.d"⟩]⟩]

/-- Two moves can be added after an open line, which their comment does not go on; whether they come
in one batch or in two, and which of them comes first, shows in the file. -/
theorem addBatches_tells_batches_openLine :
    (openLine.nodeAt "moves.tf").opened? = some (encode "# kept") ∧
    BeginsLine (encode "# kept" ++ encode "\n") ∧
    (∃ e e', openLine.addBatches "moves.tf" atOnce = .ok e ∧
      openLine.addBatches "moves.tf" oneByOne = .ok e' ∧
      (e.nodeAt "moves.tf").opened? ≠ (e'.nodeAt "moves.tf").opened?) ∧
    Move.blocks [⟨"t.a", "t.b"⟩, ⟨"t.c", "t.d"⟩] ≠
      Move.blocks [⟨"t.c", "t.d"⟩, ⟨"t.a", "t.b"⟩] := by
  have hopened : (openLine.nodeAt "moves.tf").opened? = some (encode "# kept") := by rfl
  have hkept : encode "# kept" ≠ [] := by decide +kernel
  obtain ⟨hadds, htells, hblocks⟩ := addBatches_tells_batches "moves.tf" (encode "# kept")
  obtain ⟨d, content, hd, hcontent, -, hbegins, -, hatOnce⟩ :=
    hadds openLine hopened [] ⟨⟨0, 0⟩, [⟨"t.a", "t.b"⟩, ⟨"t.c", "t.d"⟩]⟩
  obtain ⟨_, _, -, -, -, -, -, honeByOne⟩ :=
    hadds openLine hopened [⟨⟨0, 0⟩, [⟨"t.a", "t.b"⟩]⟩] ⟨⟨0, 0⟩, [⟨"t.c", "t.d"⟩]⟩
  obtain rfl : openLine = d := Except.ok.inj hd
  obtain rfl : encode "# kept" = content := Option.some.inj (hopened.symm.trans hcontent)
  rw [if_neg hkept] at hbegins
  refine ⟨hopened, hbegins, ⟨_, _, hatOnce, honeByOne, fun hsame => ?_⟩, fun hsame => ?_⟩
  · have htold := (htells openLine openLine _ _ atOnce oneByOne hopened hopened (by decide)
      (by decide) hatOnce honeByOne hsame).1
    exact absurd (congrArg List.length htold) (by decide)
  · exact absurd (hblocks _ _ (by decide) (by decide) hsame) (by decide)

end Disk

end ResourceMoves
