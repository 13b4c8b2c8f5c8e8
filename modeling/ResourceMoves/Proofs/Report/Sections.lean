import ResourceMoves.Proofs.Matching.Marking
import ResourceMoves.Proofs.Matching.Solve
import ResourceMoves.Report.Analysis

/-!
# Reports — every comparison is shown once

The text of a matching has a section for each created resource that was compared, and in it an entry
for each of its comparisons (`matching_plain`).  A matching keeps its comparisons and its matches
apart, and a report puts them together again by address alone; so what it shows rests on the
addresses being unique (`Coherent`).

**The sections show all of a solved matching** (`Coherent.shows`): they are in the order of the first
comparisons, none is repeated, and the entries are the comparisons, each once, and within a section
in increasing order; those with a check mark are the matches.  The differences that the table of the
matches counts are the ignored ones (`matchTable_eq`).
-/

namespace ResourceMoves

open ResourceMoves.Attribute (Difference)
open ResourceMoves.Ignore (Rule)
open ResourceMoves.Matching (Comparison Judge Unique Watch judgeBy solve solve_eq_ok_iff)
open ResourceMoves.Plan (Candidate)

/-! ### Groups -/

section Groups

variable {α β : Type} [DecidableEq β]

/-- What is left without repetitions is in the order of the first places. -/
theorem eraseDups_pairwise_idxOf (l : List β) :
    l.eraseDups.Pairwise fun a b => l.idxOf a < l.idxOf b := by
  induction l using List.reverseRecOn with
  | nil => exact .nil
  | append_singleton l x ih =>
      have hold : l.eraseDups.Pairwise fun a b => (l ++ [x]).idxOf a < (l ++ [x]).idxOf b := by
        refine ih.imp_of_mem fun ha hb hlt => ?_
        rwa [List.idxOf_append_of_mem (List.mem_eraseDups.1 ha),
          List.idxOf_append_of_mem (List.mem_eraseDups.1 hb)]
      rw [List.eraseDups_append]
      by_cases hx : x ∈ l
      · have hnone : [x].removeAll l = [] := by simp [List.removeAll, hx]
        rwa [hnone, List.eraseDups_nil, List.append_nil]
      · have hnew : [x].removeAll l = [x] := by simp [List.removeAll, hx]
        rw [hnew, List.eraseDups_cons, List.filter_nil, List.eraseDups_nil, List.pairwise_append]
        refine ⟨hold, List.pairwise_singleton _ x, fun a ha b hb => ?_⟩
        have ha : a ∈ l := List.mem_eraseDups.1 ha
        rw [List.mem_singleton.1 hb, List.idxOf_append_of_mem ha, List.idxOf_append_of_notMem hx]
        exact (List.idxOf_lt_length_of_mem ha).trans_le (Nat.le_add_right _ _)

/-- A list is made up of its groups, one for each key. -/
theorem flatMap_filter_perm (f : α → β) {keys : List β} (hkeys : keys.Nodup) {l : List α}
    (hl : ∀ x ∈ l, f x ∈ keys) : (keys.flatMap fun k => l.filter fun x => f x == k).Perm l := by
  induction keys generalizing l with
  | nil =>
      obtain rfl : l = [] := List.eq_nil_iff_forall_not_mem.2 fun x hx => List.not_mem_nil (hl x hx)
      exact .refl _
  | cons k keys ih =>
      obtain ⟨hk, hkeys⟩ := List.nodup_cons.1 hkeys
      have hrest : ∀ x ∈ l.filter (fun x => !(f x == k)), f x ∈ keys := by
        intro x hx
        obtain ⟨hx, hne⟩ := List.mem_filter.1 hx
        exact (List.mem_cons.1 (hl x hx)).resolve_left (by simpa using hne)
      -- the groups of the other keys are within what has another key
      have hgroups : (keys.flatMap fun k' => l.filter fun x => f x == k') =
          keys.flatMap fun k' => (l.filter fun x => !(f x == k)).filter fun x => f x == k' := by
        refine List.flatMap_congr fun k' hk' => ?_
        rw [List.filter_filter]
        refine List.filter_congr fun x _ => ?_
        have hne : k' ≠ k := fun e => hk (e ▸ hk')
        cases hx : f x == k' with
        | true => simp [beq_iff_eq.1 hx, hne]
        | false => rfl
      rw [List.flatMap_cons, hgroups]
      exact ((ih hkeys hrest).append_left _).trans (List.filter_append_perm _ _)

end Groups

namespace Report

/-- A comparison in a report, and the sign before it. -/
structure Entry where
  sign       : String
  comparison : Comparison

/-- A created resource in a report, and the entries under it. -/
structure Section where
  address : String
  type    : String
  entries : List Entry

/-- An entry as text: the sign, what was deleted and the score on a line, and each difference on
another. -/
def Entry.text (e : Entry) : String :=
  "   " ++ e.sign ++ " " ++ e.comparison.delete.address ++ ": " ++ Number.text e.comparison.score ++
    " differences\n" ++
    String.join (e.comparison.differences.map fun d => "       " ++ d.display ++ "\n")

/-- A section as text: address and type on a line, and the entries. -/
def Section.text (s : Section) : String :=
  "\n" ++ s.address ++ " (" ++ s.type ++ ")\n" ++ String.join (s.entries.map Entry.text)

/-- A report in text, without colours. -/
def plain : Report := ⟨.text, false⟩

/-- Without colours an ignored difference looks like any other. -/
theorem differenceLine_plain (d : Difference) :
    plain.differenceLine d = "       " ++ d.display ++ "\n" := by
  unfold differenceLine
  cases d.ignored <;> rfl

theorem comparisonText_plain (m : Matching) (c : Comparison) :
    plain.comparisonText m c = Entry.text ⟨plain.comparisonSign m c, c⟩ := by
  unfold comparisonText Entry.text
  rw [List.map_congr_left fun d _ => differenceLine_plain d]

end Report

namespace Matching

open Report (Entry Section plain)

variable {m : Matching} {c : Comparison} {rules : List Rule} {deletes creates : List Candidate}
  {watch : Watch}

/-! ### The sections of a matching -/

/-- The entry of a comparison. -/
def entry (m : Matching) (c : Comparison) : Entry := ⟨plain.comparisonSign m c, c⟩

/-- The section of a created resource. -/
def sectionOf (m : Matching) (address : String) : Section where
  address := address
  type    := (m.comparisons.find? fun c => c.create.address == address).elim "" (·.create.type)
  entries := (m.comparisonsOf address).map m.entry

/-- The sections of a matching. -/
def sections (m : Matching) : List Section := m.comparedCreates.map m.sectionOf

theorem createSection_plain (m : Matching) (address : String) :
    plain.createSection m address = (m.sectionOf address).text := by
  unfold Report.createSection Section.text sectionOf
  rw [List.map_congr_left fun c _ => Report.comparisonText_plain m c, List.map_map]
  rfl

theorem matching_plain (m : Matching) : plain.matching m =
    "\nAnalysis\n\n" ++
      (if m.found.isEmpty then "   No matches.\n" else Report.matchTable m.found ++ "\n") ++
      String.join (m.sections.map Section.text) ++
      Report.unmatchedText "Unmatched deletes" m.unmatchedDeletes ++
      Report.unmatchedText "Unmatched creates" m.unmatchedCreates ++ plain.summaryText m := by
  have hsections : m.comparedCreates.map (plain.createSection m) = m.sections.map Section.text := by
    rw [sections, List.map_map]
    exact List.map_congr_left fun address _ => createSection_plain m address
  rw [← hsections]
  rfl

/-! ### What the sections show -/

/-- The created addresses of the comparisons. -/
def createAddresses (m : Matching) : List String := m.comparisons.map (·.create.address)

/-- The sections show a matching.  They are in the order of the first comparisons of their created
resources, and none is empty; their entries are the comparisons, each once, in the section of its
created resource and in increasing order there; and as many as there are matches have a check mark,
which are the matches. -/
structure Shows (m : Matching) (sections : List Section) : Prop where
  order    : sections.Pairwise fun s t =>
    m.createAddresses.idxOf s.address < m.createAddresses.idxOf t.address
  unique   : (sections.map (·.address)).Nodup
  nonempty : ∀ s ∈ sections, s.entries ≠ []
  own      : ∀ s ∈ sections, ∀ e ∈ s.entries,
    e.comparison.create.address = s.address ∧ e.comparison.create.type = s.type
  ranked   : ∀ s ∈ sections, s.entries.Pairwise fun e f => e.comparison.key < f.comparison.key
  once     : ((sections.flatMap (·.entries)).map (·.comparison)).Perm m.comparisons
  distinct : Comparison.Distinct m.comparisons
  checked  : ∀ s ∈ sections, ∀ e ∈ s.entries, e.sign = "✓" ↔ e.comparison ∈ m.found
  count    : ((sections.flatMap (·.entries)).countP fun e => e.sign = "✓") = m.found.length

/-- What a report takes for granted of a matching: an address stands for one created resource, two
addresses for one comparison, and the matches are some of the comparisons. -/
structure Coherent (m : Matching) : Prop where
  creates  : ∀ x ∈ m.comparisons, ∀ y ∈ m.comparisons,
    x.create.address = y.create.address → x.create = y.create
  distinct : Comparison.Distinct m.comparisons
  found    : ∀ x ∈ m.found, x ∈ m.comparisons
  nodup    : m.found.Nodup

theorem mem_comparisonsOf {address : String} :
    c ∈ m.comparisonsOf address ↔ c ∈ m.comparisons ∧ c.create.address = address := by
  rw [comparisonsOf, Comparison.mem_ranked, List.mem_filter, beq_iff_eq]

theorem mem_comparedCreates {address : String} :
    address ∈ m.comparedCreates ↔ ∃ c ∈ m.comparisons, c.create.address = address := by
  rw [comparedCreates, List.mem_eraseDups, List.mem_map]

theorem comparedCreates_pairwise (m : Matching) : m.comparedCreates.Pairwise fun a b =>
    m.createAddresses.idxOf a < m.createAddresses.idxOf b :=
  eraseDups_pairwise_idxOf _

theorem comparedCreates_nodup (m : Matching) : m.comparedCreates.Nodup :=
  m.comparedCreates_pairwise.imp fun hlt e => hlt.ne (congrArg m.createAddresses.idxOf e)

/-- The comparisons, put together again from those of each created resource. -/
theorem flatMap_comparisonsOf_perm (m : Matching) :
    (m.comparedCreates.flatMap m.comparisonsOf).Perm m.comparisons := by
  have hgroups : (m.comparedCreates.flatMap m.comparisonsOf).Perm
      (m.comparedCreates.flatMap fun a => m.comparisons.filter fun c => c.create.address == a) :=
    .flatMap_left _ fun _ _ => Comparison.ranked_perm _
  exact hgroups.trans <| flatMap_filter_perm (·.create.address) m.comparedCreates_nodup
    fun c hc => mem_comparedCreates.2 ⟨c, hc, rfl⟩

theorem entries_sections (m : Matching) : m.sections.flatMap (·.entries) =
    (m.comparedCreates.flatMap m.comparisonsOf).map m.entry := by
  rw [sections, List.flatMap_map, List.map_flatMap]
  rfl

namespace Coherent

/-- A comparison with the addresses of a match is that match. -/
theorem isMatch_iff (h : m.Coherent) (hc : c ∈ m.comparisons) : m.isMatch c ↔ c ∈ m.found := by
  rw [isMatch, List.any_eq_true]
  constructor
  · rintro ⟨f, hf, hends⟩
    rw [Bool.and_eq_true, beq_iff_eq, beq_iff_eq] at hends
    have heq : f = c := List.inj_on_of_nodup_map h.distinct (h.found f hf) hc
      (Prod.ext hends.1 hends.2)
    exact heq ▸ hf
  · intro hf
    exact ⟨c, hf, by simp⟩

/-- The check mark is the sign of the matches. -/
theorem sign_eq_check_iff (h : m.Coherent) (hc : c ∈ m.comparisons) :
    (m.entry c).sign = "✓" ↔ c ∈ m.found := by
  rw [← h.isMatch_iff hc, entry]
  unfold Report.comparisonSign
  cases m.isMatch c with
  | true => exact ⟨fun _ => rfl, fun _ => rfl⟩
  | false =>
      have hother : (if c.score = 0 then "=" else "✗") ≠ "✓" := by split <;> decide
      exact ⟨fun e => absurd e hother, fun e => absurd e Bool.false_ne_true⟩

/-- There are as many check marks as matches. -/
theorem count_check (h : m.Coherent) :
    ((m.sections.flatMap (·.entries)).countP fun e => e.sign = "✓") = m.found.length := by
  classical
  have hchecked : m.comparisons.countP (fun c => decide ((m.entry c).sign = "✓")) =
      m.comparisons.countP fun c => decide (c ∈ m.found) :=
    List.countP_congr fun c hc => by simpa using h.sign_eq_check_iff hc
  have hfound : (m.comparisons.filter fun c => decide (c ∈ m.found)).Perm m.found := by
    refine (List.perm_ext_iff_of_nodup ((List.Nodup.of_map _ h.distinct).filter _) h.nodup).2
      fun c => ?_
    rw [List.mem_filter, decide_eq_true_eq]
    exact ⟨And.right, fun hc => ⟨h.found c hc, hc⟩⟩
  rw [entries_sections, List.countP_map, m.flatMap_comparisonsOf_perm.countP_eq]
  exact hchecked.trans (List.countP_eq_length_filter.trans hfound.length_eq)

/-- A section has the type of each of its comparisons. -/
theorem type_eq (h : m.Coherent) (hc : c ∈ m.comparisons) :
    c.create.type = (m.sectionOf c.create.address).type := by
  unfold sectionOf
  cases hfirst : m.comparisons.find? fun x => x.create.address == c.create.address with
  | none => exact absurd (beq_self_eq_true _) (List.find?_eq_none.1 hfirst c hc)
  | some x =>
      have haddress := List.find?_some hfirst
      rw [h.creates c hc x (List.mem_of_find?_eq_some hfirst) (beq_iff_eq.1 haddress).symm]
      rfl

/-- The sections of a coherent matching show it. -/
theorem shows (h : m.Coherent) : Shows m m.sections where
  order := List.pairwise_map.2 m.comparedCreates_pairwise
  unique := by
    rw [sections, List.map_map]
    exact (List.map_id _).symm ▸ m.comparedCreates_nodup
  nonempty := by
    intro s hs
    obtain ⟨address, haddress, rfl⟩ := List.mem_map.1 hs
    obtain ⟨c, hc⟩ := mem_comparedCreates.1 haddress
    exact List.ne_nil_of_mem (List.mem_map_of_mem (mem_comparisonsOf.2 hc))
  own := by
    intro s hs e he
    obtain ⟨address, -, rfl⟩ := List.mem_map.1 hs
    obtain ⟨c, hc, rfl⟩ := List.mem_map.1 he
    obtain ⟨hmem, rfl⟩ := mem_comparisonsOf.1 hc
    exact ⟨rfl, h.type_eq hmem⟩
  ranked := by
    intro s hs
    obtain ⟨address, -, rfl⟩ := List.mem_map.1 hs
    refine List.pairwise_map.2 ?_
    exact (h.distinct.sublist List.filter_sublist).ranked_pairwise_lt.imp
      Comparison.rank_eq_lt_iff.1
  once := by
    rw [entries_sections, List.map_map]
    exact (List.map_id _).symm ▸ m.flatMap_comparisonsOf_perm
  distinct := h.distinct
  checked := by
    intro s hs e he
    obtain ⟨address, -, rfl⟩ := List.mem_map.1 hs
    obtain ⟨c, hc, rfl⟩ := List.mem_map.1 he
    exact h.sign_eq_check_iff (mem_comparisonsOf.1 hc).1
  count := h.count_check

end Coherent

/-! ### Solved matchings -/

/-- A solved matching is coherent. -/
theorem solve_coherent {judge : Judge} (h : solve watch judge deletes creates = .ok m) :
    m.Coherent := by
  obtain ⟨⟨hd, hc⟩, -, rfl⟩ := solve_eq_ok_iff.1 h
  have hdistinct := judge.comparisons_distinct hd hc
  refine ⟨fun x hx y hy e => ?_, hdistinct, fun x hx => Judge.mem_comparisons_of_mem_found hx, ?_⟩
  · exact hc.eq_of_address_eq (Judge.create_mem_of_mem_comparisons hx)
      (Judge.create_mem_of_mem_comparisons hy) e
  · have hranked : (Comparison.ranked (judge.comparisons deletes creates)).Nodup :=
      (Comparison.ranked_perm _).nodup_iff.2 (List.Nodup.of_map _ hdistinct)
    exact hranked.sublist (chosen_sublist _ _)

/-- With rules to judge by, the differences that do not count are the ignored ones. -/
theorem ignoredCount_eq (h : solve watch (judgeBy rules) deletes creates = .ok m)
    (hc : c ∈ m.comparisons) : c.score ≤ c.differences.length ∧
      c.differences.length - c.score = c.differences.countP (·.ignored) := by
  obtain ⟨-, -, rfl⟩ := solve_eq_ok_iff.1 h
  obtain ⟨delete, -, create, -, -, rfl⟩ := Judge.mem_comparisons.1 hc
  have hscore : ((judgeBy rules).compare delete create).score =
      ((judgeBy rules).compare delete create).differences.countP fun d => !d.ignored :=
    score_eq_countP rules delete create
  have htotal : ((judgeBy rules).compare delete create).differences.length =
      ((judgeBy rules).compare delete create).differences.countP (·.ignored) +
        ((judgeBy rules).compare delete create).differences.countP fun d => !d.ignored := by
    simpa using List.length_eq_countP_add_countP Difference.ignored
  omega

/-- The table of the matches counts the ignored differences. -/
theorem matchTable_eq (h : solve watch (judgeBy rules) deletes creates = .ok m) :
    Report.matchTable m.found = Text.grid 5 (["#", "Type", "From", "To", "Ignored"] ::
      m.found.zipIdx.map fun (c, i) => [Number.text (i + 1), c.create.type, c.delete.address,
        c.create.address, Number.text (c.differences.countP (·.ignored))]) := by
  unfold Report.matchTable
  refine congrArg (fun rows => Text.grid 5 (["#", "Type", "From", "To", "Ignored"] :: rows))
    (List.map_congr_left fun (c, i) hrow => ?_)
  have hc : c ∈ m.comparisons := (solve_coherent h).found c (List.fst_mem_of_mem_zipIdx hrow)
  dsimp only
  rw [Comparison.ignoredCount, (ignoredCount_eq h hc).2]

end Matching

end ResourceMoves
