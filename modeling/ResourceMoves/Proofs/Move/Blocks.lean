import Mathlib.Tactic.SplitIfs
import ResourceMoves.Move.Render
import ResourceMoves.Proofs.Number.Word
import ResourceMoves.Proofs.Text.Lines

/-!
# Moves — what blocks and batches tell

A batch of moves is text in lines: a comment with the time, an empty line, and for each move a block
of four lines, with an empty line between two blocks; and an empty line stands between two batches.
When no address has a line feed of its own the text tells its lines, and these tell the moves.  What
follows a block begins with an empty line or there is nothing, and the line after that begins a
block or is a comment, which do not look alike (`comment_ne_moved`): so reading blocks off the lines
never takes a batch for a block (`blocksLines_append_inj`).  **The blocks for moves tell the moves**
(`blocks_inj`), and **what batches add to a file tells the batches** (`told_of_added_eq`).
-/

namespace ResourceMoves

open ResourceMoves.Text (intercalate_cons_eq unlines unlines_nil unlines_cons unlines_append
  unlines_inj)

/-- Moves that are added to a file at one time. -/
structure Batch where
  time  : Instant
  moves : List Move

/-! ### The time -/

theorem lineFeed_not_mem_padded (width n : Nat) : '\n' ∉ Number.padded width n := by
  simp only [Number.padded, List.mem_append, List.mem_replicate, not_or, not_and]
  exact ⟨fun _ => by decide, Number.lineFeed_not_mem_digits n⟩

theorem lineFeed_not_mem_yearText (year : Int) : '\n' ∉ Date.yearText year := by
  unfold Date.yearText
  split_ifs <;> simp [lineFeed_not_mem_padded]

theorem lineFeed_not_mem_fractionText (nanos : Nat) : '\n' ∉ Instant.fractionText nanos := by
  unfold Instant.fractionText
  split_ifs <;> simp [lineFeed_not_mem_padded]

/-- A time is written on one line. -/
theorem Instant.lineFeed_not_mem_text (t : Instant) : '\n' ∉ t.text.toList := by
  simp [Instant.text, Date.text, lineFeed_not_mem_padded, lineFeed_not_mem_yearText,
    lineFeed_not_mem_fractionText]

/-! ### The lines of batches -/

namespace Move

/-- Neither address of the move has a line feed. -/
structure OneLined (m : Move) : Prop where
  origin : '\n' ∉ m.origin.toList
  target : '\n' ∉ m.target.toList

instance (m : Move) : Decidable m.OneLined :=
  decidable_of_iff ('\n' ∉ m.origin.toList ∧ '\n' ∉ m.target.toList)
    ⟨fun h => ⟨h.1, h.2⟩, fun h => ⟨h.origin, h.target⟩⟩

/-- The lines of the block for a move. -/
def blockLines (m : Move) : List (List Char) :=
  ["moved \x7b".toList, ("  from = " ++ m.origin).toList, ("  to   = " ++ m.target).toList,
    "\x7d".toList]

/-- The lines of further blocks, with an empty line before each. -/
def furtherLines (moves : List Move) : List (List Char) := moves.flatMap fun m => [] :: m.blockLines

/-- The lines of the blocks for moves. -/
def blocksLines : List Move → List (List Char)
  | []         => []
  | m :: moves => m.blockLines ++ furtherLines moves

theorem furtherLines_cons (m : Move) (moves : List Move) :
    furtherLines (m :: moves) = [] :: (m.blockLines ++ furtherLines moves) :=
  List.flatMap_cons

theorem toList_block (m : Move) : (block m).toList = unlines m.blockLines := by
  have hfrom : "moved \x7b\n  from = ".toList =
      "moved \x7b".toList ++ '\n' :: "  from = ".toList := by simp
  have hto : "\n  to   = ".toList = '\n' :: "  to   = ".toList := by simp
  have hend : "\n\x7d\n".toList = '\n' :: ("\x7d".toList ++ ['\n']) := by simp
  unfold block blockLines
  simp only [String.toList_append, hfrom, hto, hend, unlines_cons, unlines_nil, List.append_assoc,
    List.cons_append]

/-- Further blocks are written with an empty line before each. -/
theorem flatMap_toList_block (moves : List Move) :
    (moves.flatMap fun m => '\n' :: (block m).toList) = unlines (furtherLines moves) := by
  induction moves with
  | nil => rfl
  | cons m moves ih =>
      rw [List.flatMap_cons, ih, furtherLines_cons, unlines_cons, unlines_append, toList_block]
      rfl

theorem toList_blocks (moves : List Move) :
    (blocks moves).toList = unlines (blocksLines moves) := by
  cases moves with
  | nil => rfl
  | cons m moves =>
      rw [blocks, String.toList_intercalate, List.map_cons, List.map_cons, intercalate_cons_eq,
        List.map_map, List.flatMap_map, blocksLines, unlines_append, toList_block,
        ← flatMap_toList_block]
      rfl

theorem lineFeed_not_mem_blockLines {m : Move} (h : m.OneLined) :
    ∀ l ∈ m.blockLines, '\n' ∉ l := by
  simp [blockLines, h.origin, h.target]

theorem lineFeed_not_mem_furtherLines {moves : List Move} (h : ∀ m ∈ moves, m.OneLined) :
    ∀ l ∈ furtherLines moves, '\n' ∉ l := by
  intro l hl
  obtain ⟨m, hm, hl⟩ := List.mem_flatMap.1 hl
  rcases List.mem_cons.1 hl with rfl | hl
  · exact List.not_mem_nil
  · exact lineFeed_not_mem_blockLines (h m hm) l hl

theorem lineFeed_not_mem_blocksLines {moves : List Move} (h : ∀ m ∈ moves, m.OneLined) :
    ∀ l ∈ blocksLines moves, '\n' ∉ l := by
  cases moves with
  | nil => exact fun _ hl => absurd hl List.not_mem_nil
  | cons m moves =>
      obtain ⟨hm, hmoves⟩ := List.forall_mem_cons.1 h
      intro l hl
      rcases List.mem_append.1 hl with hl | hl
      · exact lineFeed_not_mem_blockLines hm l hl
      · exact lineFeed_not_mem_furtherLines hmoves l hl

end Move

namespace Batch

/-- The comment over a batch. -/
def comment (b : Batch) : List Char := ("# Added by automv on " ++ b.time.text).toList

/-- The lines of a batch. -/
def lines (b : Batch) : List (List Char) := b.comment :: [] :: Move.blocksLines b.moves

/-- The lines of further batches, with an empty line before each. -/
def furtherLines (bs : List Batch) : List (List Char) := bs.flatMap fun b => [] :: b.lines

/-- The lines that batches add to a file. -/
def addedLines (fileIsEmpty : Bool) : List Batch → List (List Char)
  | []      => []
  | b :: bs => (if fileIsEmpty then b.lines else [] :: b.lines) ++ furtherLines bs

/-- The text that batches add to a file, one after the other. -/
def added (fileIsEmpty : Bool) : List Batch → String
  | []      => ""
  | b :: bs => Move.batch fileIsEmpty b.time b.moves ++ added false bs

theorem furtherLines_cons (b : Batch) (bs : List Batch) :
    furtherLines (b :: bs) = [] :: (b.lines ++ furtherLines bs) :=
  List.flatMap_cons

theorem addedLines_false (bs : List Batch) : addedLines false bs = furtherLines bs := by
  cases bs with
  | nil => rfl
  | cons b bs => rfl

theorem toList_batch (fileIsEmpty : Bool) (b : Batch) :
    (Move.batch fileIsEmpty b.time b.moves).toList =
      unlines (if fileIsEmpty then b.lines else [] :: b.lines) := by
  have hend : "\n\n".toList = ['\n', '\n'] := by simp
  unfold Move.batch lines comment
  simp only [String.toList_append, Move.toList_blocks, hend]
  cases fileIsEmpty with
  | true => simp
  | false => simp

/-- What batches add is written line by line. -/
theorem toList_added (fileIsEmpty : Bool) (bs : List Batch) :
    (added fileIsEmpty bs).toList = unlines (addedLines fileIsEmpty bs) := by
  induction bs generalizing fileIsEmpty with
  | nil => rfl
  | cons b bs ih =>
      rw [added, String.toList_append, ih, addedLines_false, toList_batch, addedLines,
        unlines_append]

theorem lineFeed_not_mem_lines {b : Batch} (h : ∀ m ∈ b.moves, m.OneLined) :
    ∀ l ∈ b.lines, '\n' ∉ l := by
  have hcomment : '\n' ∉ b.comment := by simp [comment, b.time.lineFeed_not_mem_text]
  simp only [lines, List.forall_mem_cons]
  exact ⟨hcomment, List.not_mem_nil, Move.lineFeed_not_mem_blocksLines h⟩

theorem lineFeed_not_mem_addedLines {fileIsEmpty : Bool} {bs : List Batch}
    (h : ∀ b ∈ bs, ∀ m ∈ b.moves, m.OneLined) : ∀ l ∈ addedLines fileIsEmpty bs, '\n' ∉ l := by
  have hgap : ∀ b ∈ bs, ∀ l ∈ [] :: b.lines, '\n' ∉ l := fun b hb =>
    List.forall_mem_cons.2 ⟨List.not_mem_nil, lineFeed_not_mem_lines (h b hb)⟩
  cases bs with
  | nil => exact fun _ hl => absurd hl List.not_mem_nil
  | cons b bs =>
      intro l hl
      rcases List.mem_append.1 hl with hl | hl
      · refine hgap b List.mem_cons_self l ?_
        cases fileIsEmpty with
        | true => exact List.mem_cons_of_mem _ hl
        | false => exact hl
      · obtain ⟨b', hb', hl⟩ := List.mem_flatMap.1 hl
        exact hgap b' (List.mem_cons_of_mem _ hb') l hl

end Batch

/-! ### Reading batches off their lines -/

namespace Move

variable {m m' : Move} {moves moves' : List Move} {bs bs' : List Batch}

/-- The lines of a block tell the move, whatever follows. -/
theorem blockLines_append_inj {r r' : List (List Char)}
    (h : m.blockLines ++ r = m'.blockLines ++ r') : m = m' ∧ r = r' := by
  simp only [blockLines, List.cons_append, List.nil_append, List.cons.injEq, true_and,
    String.toList_inj, String.append_right_inj] at h
  obtain ⟨horigin, htarget, hrest⟩ := h
  cases m
  cases m'
  rw [mk.injEq]
  exact ⟨⟨horigin, htarget⟩, hrest⟩

/-- A comment does not look like the first line of a block. -/
theorem comment_ne_moved (b : Batch) : b.comment ≠ "moved \x7b".toList := by
  have hcomment : b.comment.head? = some '#' := by simp [Batch.comment]
  intro h
  rw [h] at hcomment
  simp at hcomment

/-- Where further batches follow, no further block does. -/
theorem furtherLines_batches_ne (bs : List Batch) (m : Move) (r : List (List Char)) :
    Batch.furtherLines bs ≠ [] :: (m.blockLines ++ r) := by
  cases bs with
  | nil => exact (List.cons_ne_nil _ _).symm
  | cons b bs =>
      intro h
      rw [Batch.furtherLines_cons] at h
      exact comment_ne_moved b (List.cons.inj (List.cons.inj h).2).1

/-- Further blocks can be told from the batches that follow. -/
theorem furtherLines_append_inj
    (h : furtherLines moves ++ Batch.furtherLines bs =
      furtherLines moves' ++ Batch.furtherLines bs') :
    moves = moves' ∧ Batch.furtherLines bs = Batch.furtherLines bs' := by
  induction moves generalizing moves' with
  | nil =>
      cases moves' with
      | nil => exact ⟨rfl, h⟩
      | cons m' moves' =>
          rw [furtherLines_cons, List.cons_append, List.append_assoc] at h
          exact absurd h (furtherLines_batches_ne bs m' _)
  | cons m moves ih =>
      rw [furtherLines_cons, List.cons_append, List.append_assoc] at h
      cases moves' with
      | nil => exact absurd h.symm (furtherLines_batches_ne bs' m _)
      | cons m' moves' =>
          rw [furtherLines_cons, List.cons_append, List.append_assoc] at h
          obtain ⟨rfl, hrest⟩ := blockLines_append_inj (List.cons.inj h).2
          obtain ⟨rfl, hbatches⟩ := ih hrest
          exact ⟨rfl, hbatches⟩

/-- **The blocks of a batch** can be told from the batches that follow. -/
theorem blocksLines_append_inj
    (h : blocksLines moves ++ Batch.furtherLines bs =
      blocksLines moves' ++ Batch.furtherLines bs') :
    moves = moves' ∧ Batch.furtherLines bs = Batch.furtherLines bs' := by
  -- what follows no block at all begins with an empty line or not at all
  have hne (bs : List Batch) (m : Move) (r : List (List Char)) :
      Batch.furtherLines bs ≠ m.blockLines ++ r := by
    cases bs with
    | nil => exact (List.cons_ne_nil _ _).symm
    | cons b bs => exact fun h => absurd (List.cons.inj h).1 (by simp)
  cases moves with
  | nil =>
      cases moves' with
      | nil => exact ⟨rfl, h⟩
      | cons m' moves' =>
          rw [blocksLines, blocksLines, List.append_assoc] at h
          exact absurd h (hne bs m' _)
  | cons m moves =>
      rw [blocksLines, List.append_assoc] at h
      cases moves' with
      | nil => exact absurd h.symm (hne bs' m _)
      | cons m' moves' =>
          rw [blocksLines, List.append_assoc] at h
          obtain ⟨rfl, hrest⟩ := blockLines_append_inj h
          obtain ⟨rfl, hbatches⟩ := furtherLines_append_inj hrest
          exact ⟨rfl, hbatches⟩

/-- **The blocks for moves tell the moves.** -/
theorem blocks_inj (h : ∀ m ∈ moves, m.OneLined) (h' : ∀ m ∈ moves', m.OneLined)
    (heq : blocks moves = blocks moves') : moves = moves' := by
  have hlines : blocksLines moves = blocksLines moves' := by
    refine unlines_inj (lineFeed_not_mem_blocksLines h) (lineFeed_not_mem_blocksLines h') ?_
    rw [← toList_blocks, ← toList_blocks, heq]
  have hclosed : blocksLines moves ++ Batch.furtherLines [] =
      blocksLines moves' ++ Batch.furtherLines [] := congrArg (· ++ []) hlines
  exact (blocksLines_append_inj hclosed).1

end Move

namespace Batch

variable {b b' : Batch} {bs bs' : List Batch}

/-- What a file tells of a batch: the text of its time, and its moves. -/
def told (b : Batch) : String × List Move := (b.time.text, b.moves)

/-- Batches whose times are known are told whole. -/
theorem eq_of_told_eq (h : bs.map told = bs'.map told) (htimes : bs.map time = bs'.map time) :
    bs = bs' := by
  induction bs generalizing bs' with
  | nil =>
      cases bs' with
      | nil => rfl
      | cons b' bs' => cases h
  | cons b bs ih =>
      cases bs' with
      | nil => cases h
      | cons b' bs' =>
          obtain ⟨htold, hrest⟩ := List.cons.inj h
          obtain ⟨htime, htimes⟩ := List.cons.inj htimes
          obtain ⟨-, hmoves⟩ := Prod.mk.inj htold
          have hb : b = b' := by
            cases b
            cases b'
            rw [mk.injEq]
            exact ⟨htime, hmoves⟩
          rw [hb, ih hrest htimes]

/-- The lines of a batch can be told from the batches that follow. -/
theorem lines_append_inj (h : b.lines ++ furtherLines bs = b'.lines ++ furtherLines bs') :
    b.told = b'.told ∧ furtherLines bs = furtherLines bs' := by
  simp only [lines, comment, List.cons_append, List.cons.injEq, true_and, String.toList_inj,
    String.append_right_inj] at h
  obtain ⟨htime, hrest⟩ := h
  obtain ⟨hmoves, hrest⟩ := Move.blocksLines_append_inj hrest
  exact ⟨Prod.ext htime hmoves, hrest⟩

/-- The lines of further batches tell the batches. -/
theorem told_of_furtherLines_eq (h : furtherLines bs = furtherLines bs') :
    bs.map told = bs'.map told := by
  induction bs generalizing bs' with
  | nil =>
      cases bs' with
      | nil => rfl
      | cons b' bs' => cases h
  | cons b bs ih =>
      cases bs' with
      | nil => cases h
      | cons b' bs' =>
          rw [furtherLines_cons, furtherLines_cons] at h
          obtain ⟨htold, hrest⟩ := lines_append_inj (List.cons.inj h).2
          rw [List.map_cons, List.map_cons, htold, ih hrest]

/-- **What batches add to a file tells the batches.** -/
theorem told_of_added_eq {fileIsEmpty : Bool} (h : ∀ b ∈ bs, ∀ m ∈ b.moves, m.OneLined)
    (h' : ∀ b ∈ bs', ∀ m ∈ b.moves, m.OneLined)
    (heq : added fileIsEmpty bs = added fileIsEmpty bs') : bs.map told = bs'.map told := by
  have hlines : addedLines fileIsEmpty bs = addedLines fileIsEmpty bs' := by
    refine unlines_inj (lineFeed_not_mem_addedLines h) (lineFeed_not_mem_addedLines h') ?_
    rw [← toList_added, ← toList_added, heq]
  cases fileIsEmpty with
  | false =>
      rw [addedLines_false, addedLines_false] at hlines
      exact told_of_furtherLines_eq hlines
  | true =>
      cases bs with
      | nil =>
          cases bs' with
          | nil => rfl
          | cons b' bs' => cases hlines
      | cons b bs =>
          cases bs' with
          | nil => cases hlines
          | cons b' bs' =>
              obtain ⟨htold, hrest⟩ := lines_append_inj hlines
              rw [List.map_cons, List.map_cons, htold, told_of_furtherLines_eq hrest]

end Batch

end ResourceMoves
