import ResourceMoves.Proofs.Digest.Sha256
import ResourceMoves.Proofs.Matching.Solve
import ResourceMoves.Proofs.Text.Quoting
import ResourceMoves.Proofs.Text.Utf8
import ResourceMoves.Move.Basic

/-!
# Moves — what a fingerprint tells

The bytes that are digested for moves close each address with a byte that the address does not have
(`Closed`): an origin ends at the first zero, the target after it at the first line feed.  That an
origin may have line feeds and a target zeros does no harm, since only one of the two bytes closes
anything at any place.  So a move can be read off the front of the bytes whatever follows
(`fingerprintBytes_append_inj`), and **the bytes tell the moves and their order**
(`fingerprint_tells_moves`).  Two matchings with one fingerprint have the same moves, unless their
bytes are two different sequences with the same digest.
-/

namespace ResourceMoves.Move

open ResourceMoves.Matching (bare)
open ResourceMoves.Digest (Sha256.hex Sha256.digest Sha256.digest_eq_of_hex_eq)
open ResourceMoves.Text (encode encode_inj mem_encode_iff closed_append_inj)

/-- No address of the move has the character whose byte closes it. -/
structure Closed (m : Move) : Prop where
  origin : '\x00' ∉ m.origin.toList
  target : '\n' ∉ m.target.toList

instance (m : Move) : Decidable m.Closed :=
  decidable_of_iff ('\x00' ∉ m.origin.toList ∧ '\n' ∉ m.target.toList)
    ⟨fun h => ⟨h.1, h.2⟩, fun h => ⟨h.origin, h.target⟩⟩

variable {m m' : Move} {moves moves' : List Move} {r r' : List UInt8}

theorem Closed.zero_not_mem (h : m.Closed) : 0 ∉ encode m.origin :=
  fun hmem => h.origin ((mem_encode_iff (d := '\x00') (by decide)).1 hmem)

theorem Closed.lineFeed_not_mem (h : m.Closed) : 10 ∉ encode m.target :=
  fun hmem => h.target ((mem_encode_iff (d := '\n') (by decide)).1 hmem)

theorem fingerprintBytes_append (m : Move) (r : List UInt8) :
    m.fingerprintBytes ++ r = encode m.origin ++ 0 :: (encode m.target ++ 10 :: r) := by
  simp [fingerprintBytes]

theorem fingerprintInput_cons (m : Move) (moves : List Move) :
    fingerprintInput (m :: moves) = m.fingerprintBytes ++ fingerprintInput moves :=
  List.flatMap_cons

/-- **The bytes of a move** tell the move, whatever follows. -/
theorem fingerprintBytes_append_inj (h : m.Closed) (h' : m'.Closed)
    (heq : m.fingerprintBytes ++ r = m'.fingerprintBytes ++ r') : m = m' ∧ r = r' := by
  rw [fingerprintBytes_append, fingerprintBytes_append] at heq
  obtain ⟨horigin, heq⟩ := closed_append_inj h.zero_not_mem h'.zero_not_mem heq
  obtain ⟨htarget, hrest⟩ := closed_append_inj h.lineFeed_not_mem h'.lineFeed_not_mem heq
  refine ⟨?_, hrest⟩
  cases m
  cases m'
  rw [mk.injEq]
  exact ⟨encode_inj horigin, encode_inj htarget⟩

theorem fingerprintBytes_ne_nil (m : Move) : m.fingerprintBytes ≠ [] := by
  simp [fingerprintBytes]

/-- The bytes of moves tell the moves. -/
theorem fingerprintInput_inj (h : ∀ m ∈ moves, m.Closed) (h' : ∀ m ∈ moves', m.Closed)
    (heq : fingerprintInput moves = fingerprintInput moves') : moves = moves' := by
  induction moves generalizing moves' with
  | nil =>
      cases moves' with
      | nil => rfl
      | cons m' moves' =>
          rw [fingerprintInput_cons] at heq
          exact absurd (List.append_eq_nil_iff.1 heq.symm).1 m'.fingerprintBytes_ne_nil
  | cons m moves ih =>
      cases moves' with
      | nil =>
          rw [fingerprintInput_cons] at heq
          exact absurd (List.append_eq_nil_iff.1 heq).1 m.fingerprintBytes_ne_nil
      | cons m' moves' =>
          obtain ⟨hm, hmoves⟩ := List.forall_mem_cons.1 h
          obtain ⟨hm', hmoves'⟩ := List.forall_mem_cons.1 h'
          rw [fingerprintInput_cons, fingerprintInput_cons] at heq
          obtain ⟨rfl, hrest⟩ := fingerprintBytes_append_inj hm hm' heq
          rw [ih hmoves hmoves' hrest]

/-- **The bytes that are digested tell the moves**, one by one and in their order.  So two matchings
with the same fingerprint have the same moves in the same order, unless the bytes for the two differ
and have one digest. -/
theorem fingerprint_tells_moves :
    (∀ moves moves' : List Move, (∀ m ∈ moves, m.Closed) → (∀ m ∈ moves', m.Closed) →
      fingerprintInput moves = fingerprintInput moves' → moves = moves') ∧
    ∀ a b : Matching, (∀ m ∈ a.moves, m.Closed) → (∀ m ∈ b.moves, m.Closed) →
      fingerprint a.moves = fingerprint b.moves →
        a.moves = b.moves ∨
          fingerprintInput a.moves ≠ fingerprintInput b.moves ∧
            Sha256.digest (fingerprintInput a.moves) = Sha256.digest (fingerprintInput b.moves) := by
  refine ⟨fun moves moves' => fingerprintInput_inj, fun a b ha hb h => ?_⟩
  by_cases hbytes : fingerprintInput a.moves = fingerprintInput b.moves
  · exact .inl (fingerprintInput_inj ha hb hbytes)
  · exact .inr ⟨hbytes, Sha256.digest_eq_of_hex_eq h⟩

/-- A matching of two resources whose addresses have the bytes that close others. -/
def oddMatching (score : Nat) : Matching where
  found            := [⟨⟨[], score⟩, bare .delete "t.a[\"\n\"]", bare .create "t.b[\"\x00\"]"⟩,
    ⟨⟨[], 0⟩, bare .delete "t.c", bare .create "t.d"⟩]
  unmatchedDeletes := []
  unmatchedCreates := []
  comparisons      := []

/-- The order of two moves shows in their bytes, though an origin has a line feed and a target a
zero; and two matchings that differ in a score have one fingerprint and the same moves. -/
theorem fingerprint_tells_moves_odd :
    (∀ m ∈ (oddMatching 0).moves, m.Closed) ∧
    fingerprintInput (oddMatching 0).moves ≠ fingerprintInput (oddMatching 0).moves.reverse ∧
    fingerprint (oddMatching 0).moves = fingerprint (oddMatching 1).moves ∧
    (oddMatching 0).moves = (oddMatching 1).moves := by
  obtain ⟨hlists, hmatchings⟩ := fingerprint_tells_moves
  have hclosed : ∀ m ∈ (oddMatching 0).moves, m.Closed := by decide
  have hfingerprint : fingerprint (oddMatching 0).moves = fingerprint (oddMatching 1).moves := by
    rfl
  refine ⟨hclosed, fun h => ?_, hfingerprint, ?_⟩
  · have horder := hlists _ _ hclosed (fun m hm => hclosed m (List.mem_reverse.1 hm)) h
    exact absurd horder (by decide)
  · exact (hmatchings _ _ hclosed hclosed hfingerprint).resolve_right fun h => h.1 rfl

end ResourceMoves.Move
