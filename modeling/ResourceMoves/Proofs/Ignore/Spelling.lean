import ResourceMoves.Attribute.Display
import ResourceMoves.Proofs.Attribute.Descent
import ResourceMoves.Proofs.Ignore.Grammar
import ResourceMoves.Proofs.Number.Word

/-!
# Ignore rules — spelling a path out

A report shows the path of each difference.  With a type and a dot in front it is the text of a rule
that has one literal for each segment (`Rule.ofPath`), and is read as that rule (`ofText?_ofPath`) if
the type and the keys are plain words, without what means something in a rule (`Plain`).

The rule covers its path (`covers_ofPath`).  A literal can stand for a key or for an index, but below
one node there is only the one or the other, so of two paths that part below a node neither is
covered by the other's rule (`not_covers_of_parts`).
-/

namespace ResourceMoves.Ignore

open ResourceMoves.Attribute (Segment Path)
open ResourceMoves.Number (pow2)
open ResourceMoves.Text (Trimmed isBlank)

variable {type : String} {p q : Path} {s : Segment}

/-- The word stands in a rule for itself: it is not empty, and none of its characters is a dot, a
star or white space. -/
structure Plain (word : String) : Prop where
  ne_empty : word ≠ ""
  chars    : ∀ c ∈ word.toList, c ≠ '.' ∧ c ≠ '*' ∧ isBlank c = false

/-- The indices on the path have no more than 64 bits, as those of lists in memory. -/
def InMemory (p : Path) : Prop := ∀ i, .index i ∈ p → i < pow2 64

/-- The literals that spell a path out. -/
def literals (p : Path) : List Step := p.map fun s => .literal s.display

/-- The rule that spells a path out, for resources of one type. -/
def Rule.ofPath (type : String) (p : Path) : Rule where
  text     := type ++ "." ++ p.display
  selector := .exact type
  pattern  := literals p

/-! ### Plain words -/

namespace Plain

variable {word : String}

theorem iff_all : Plain word ↔
    word ≠ "" ∧ word.toList.all fun c => c != '.' && c != '*' && !isBlank c := by
  simp only [List.all_eq_true, Bool.and_eq_true, bne_iff_ne, Bool.not_eq_true', and_assoc]
  exact ⟨fun h => ⟨h.ne_empty, h.chars⟩, fun h => ⟨h.1, h.2⟩⟩

instance : DecidablePred Plain := fun _ => decidable_of_iff' _ iff_all

theorem toList_ne_nil (h : Plain word) : word.toList ≠ [] := fun e =>
  h.ne_empty (String.toList_eq_nil_iff.1 e)

theorem dot_not_mem (h : Plain word) : '.' ∉ word.toList := fun hc => (h.chars _ hc).1 rfl

theorem star_not_mem (h : Plain word) : '*' ∉ word.toList := fun hc => (h.chars _ hc).2.1 rfl

theorem trimmed (h : Plain word) : Trimmed word.toList :=
  .of_forall fun c hc => (h.chars c hc).2.2

end Plain

/-- A digit is neither a dot nor a star nor white space. -/
theorem chars_of_isDigit {c : Char} (h : Number.isDigit c) :
    c ≠ '.' ∧ c ≠ '*' ∧ isBlank c = false := by
  refine ⟨?_, ?_, Number.isBlank_of_isDigit h⟩
  · rintro rfl
    exact absurd h (by decide)
  · rintro rfl
    exact absurd h (by decide)

theorem plain_index (i : Nat) : Plain (Segment.index i).display := by
  have htext : (Segment.index i).display.toList = Number.digits i := String.toList_ofList
  refine ⟨fun e => ?_, fun c hc => chars_of_isDigit ?_⟩
  · exact Number.digits_ne_nil i (htext ▸ String.toList_eq_nil_iff.2 e)
  · exact Number.isDigit_of_mem_digits (htext ▸ hc)

/-- On a path whose keys are plain all segments are shown as plain words. -/
theorem plain_of_mem (hkeys : ∀ name, .key name ∈ p → Plain name) (hs : s ∈ p) :
    Plain s.display := by
  cases s with
  | key name => exact hkeys name hs
  | index i => exact plain_index i

/-! ### Reading the rule -/

/-- A path that is not the root's is shown as its segments with dots between them. -/
theorem display_toList (hp : p ≠ []) :
    p.display.toList = ['.'].intercalate (p.map (·.display.toList)) := by
  have hdot : ".".toList = ['.'] := rfl
  rw [Path.display, if_neg (by simpa using hp), String.toList_intercalate, hdot, List.map_map]
  rfl

theorem ofPath_toList (type : String) (hp : p ≠ []) : (type ++ "." ++ p.display).toList =
    ['.'].intercalate (type.toList :: p.map (·.display.toList)) := by
  rw [String.toList_append, String.toList_append, display_toList hp]
  cases p with
  | nil => exact absurd rfl hp
  | cons s p => rw [List.map_cons, List.intercalate_cons_cons]; rfl

theorem spells_literals (hp : ∀ s ∈ p, Plain s.display) :
    Spells (p.map (·.display.toList)) (literals p) := by
  induction p with
  | nil => exact .nil
  | cons s p ih =>
      obtain ⟨hs, hp⟩ := List.forall_mem_cons.1 hp
      have h := Spells.literal hs.toList_ne_nil hs.star_not_mem (ih hp)
      rwa [String.ofList_toList] at h

/-- **The rule is read from its text.** -/
theorem ofText?_ofPath (htype : Plain type) (hp : ∀ s ∈ p, Plain s.display) (hne : p ≠ []) :
    Rule.ofText? (type ++ "." ++ p.display) = .ok (.ofPath type p) := by
  have hparts : ∀ part ∈ type.toList :: p.map (·.display.toList),
      ∃ word, Plain word ∧ part = word.toList := by
    refine List.forall_mem_cons.2 ⟨⟨type, htype, rfl⟩, fun part hpart => ?_⟩
    obtain ⟨s, hs, rfl⟩ := List.mem_map.1 hpart
    exact ⟨s.display, hp s hs, rfl⟩
  have htrimmed : Trimmed (['.'].intercalate (type.toList :: p.map (·.display.toList))) := by
    refine .intercalate (.of_forall (List.forall_mem_singleton.2 rfl)) fun part hpart => ?_
    obtain ⟨word, hword, rfl⟩ := hparts part hpart
    exact hword.trimmed
  have hdots : ∀ part ∈ type.toList :: p.map (·.display.toList), '.' ∉ part := by
    intro part hpart
    obtain ⟨word, hword, rfl⟩ := hparts part hpart
    exact hword.dot_not_mem
  have hselector : NamesType type.toList (.exact type) := by
    have h := NamesType.exact htype.toList_ne_nil htype.star_not_mem
    rwa [String.ofList_toList] at h
  rw [Rule.ofText?, ofPath_toList type hne, Text.trim_eq_self htrimmed,
    ofTrimmed?_intercalate hdots hselector (.steps (by simpa using hne) (spells_literals hp)),
    ← ofPath_toList type hne, String.ofList_toList]
  rfl

/-! ### What the rule covers -/

theorem names_display (hs : ∀ i, s = .index i → i < pow2 64) : names s.display s := by
  cases s with
  | key name => exact beq_self_eq_true name
  | index i =>
      rw [names, beq_iff_eq, Segment.display, Number.text, String.toList_ofList,
        Number.word?_eq_some_iff, Number.spellsWord_digits_iff]
      exact ⟨rfl, hs i rfl⟩

/-- A path is covered by its own literals. -/
theorem covers_literals (hp : InMemory p) : covers (literals p) p := by
  induction p with
  | nil => rfl
  | cons s p ih =>
      rw [literals, List.map_cons, covers, Bool.and_eq_true]
      refine ⟨names_display fun i hi => hp i (hi ▸ List.mem_cons_self), ih fun i hi => ?_⟩
      exact hp i (List.mem_cons_of_mem s hi)

/-- Two keys, or two indices, that differ do not go by one text. -/
theorem not_names_of_less {a b : Segment} (h : a.Less b) :
    names a.display b = false ∧ names b.display a = false := by
  cases h with
  | @key k l h =>
      have hne : k ≠ l := fun e => List.lt_irrefl _ (e ▸ h)
      exact ⟨beq_false_of_ne hne.symm, beq_false_of_ne hne⟩
  | @index i j h =>
      simp only [names, beq_eq_false_iff_ne, Segment.display, Number.text, String.toList_ofList,
        ne_eq, Number.word?_eq_some_iff, Number.spellsWord_digits_iff]
      omega

/-- Of two paths that part neither is covered by the literals of the other. -/
theorem not_covers_of_parts (h : Parts Segment.Less p q) :
    covers (literals p) q = false ∧ covers (literals q) p = false := by
  induction h with
  | here h =>
      obtain ⟨hab, hba⟩ := not_names_of_less h
      simp [literals, covers, hab, hba]
  | later _ ih =>
      obtain ⟨hpq, hqp⟩ := ih
      rw [literals] at hpq hqp
      simp [literals, covers, hpq, hqp]

theorem ofPath_matches (type : String) (hp : InMemory p) : (Rule.ofPath type p).matches type p := by
  rw [Rule.matches, Bool.and_eq_true]
  exact ⟨beq_self_eq_true type, covers_literals hp⟩

theorem not_ofPath_matches (h : Parts Segment.Less p q ∨ Parts Segment.Less q p) (type : String) :
    (Rule.ofPath type p).matches type q = false := by
  have hcovers : covers (Rule.ofPath type p).pattern q = false := by
    rcases h with h | h
    · exact (not_covers_of_parts h).1
    · exact (not_covers_of_parts h).2
  rw [Rule.matches, hcovers, Bool.and_false]

end ResourceMoves.Ignore
