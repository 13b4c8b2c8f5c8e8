import ResourceMoves.Proofs.Attribute.OneLine
import ResourceMoves.Proofs.Report.Sections
import ResourceMoves.Proofs.Text.Lines

/-!
# Reports — the lines of a matching

Addresses, types and the keys on a path stand in a report as they are.  If none of them has a line
feed (`Matching.OneLined`), the text of a matching is cut into just the lines that it is put
together from (`Matching.splitOn_matching`): values are quoted, and the cells of the table are cut
into lines before it is drawn.

**The check-marked lines are those of the matches** (`report_shows_matching`).  The sections show
the matching, and no line outside of them, and none but the first of an entry, looks like that of a
comparison with a check mark (`Matching.filter_reportLines`).  With a line feed in it, a key can
make up such a line (`not_check_marks_count_matches`).
-/

namespace ResourceMoves

open ResourceMoves.Ignore (Rule)
open ResourceMoves.Matching (Comparison Watch judgeBy solve)
open ResourceMoves.Plan (Candidate)
open ResourceMoves.Text (unlines unlines_flatMap)

/-! ### Tables -/

namespace Text

variable {widths : List Nat} {row : List Cell} {l : List Char}

/-- A line of a table has no line feed, and begins with one of its corners or sides. -/
structure IsGridLine (l : List Char) : Prop where
  oneLined : '\n' ∉ l
  begins   : l.head? = some '+' ∨ l.head? = some '|'

theorem isGridLine_gridRule (widths : List Nat) : IsGridLine (gridRule widths) where
  oneLined := by simp [gridRule, List.mem_replicate]
  begins   := .inl rfl

theorem isGridLine_rowLine (h : ∀ c ∈ row, ∀ s ∈ c, '\n' ∉ s) (line : Nat) :
    IsGridLine (rowLine widths row line) where
  oneLined := by
    have hcell (x : Cell) (hx : x ∈ row) : '\n' ∉ x[line]?.getD [] := by
      cases hs : x[line]? with
      | none => exact List.not_mem_nil
      | some s => exact h x hx s (List.mem_of_getElem? hs)
    simp only [rowLine, List.mem_cons, List.mem_flatMap, not_or, not_exists, not_and]
    refine ⟨by decide, fun (w, c) hc => ?_⟩
    have hblanks (k : Nat) : '\n' ∉ List.replicate k ' ' := fun h =>
      absurd (List.eq_of_mem_replicate h) (by decide)
    simp [hcell c (List.of_mem_zip hc).2, hblanks]
  begins := .inr rfl

/-- Cells are cut into lines, so that each line of a table of texts is one. -/
theorem isGridLine_of_mem {n : Nat} {rows : List (List String)}
    (h : l ∈ gridLines n (rows.map fun row => row.map cell)) : IsGridLine l := by
  rcases List.mem_cons.1 h with rfl | h
  · exact isGridLine_gridRule _
  obtain ⟨row, hrow, h⟩ := List.mem_flatMap.1 h
  rcases List.mem_append.1 h with h | h
  · obtain ⟨line, -, rfl⟩ := List.mem_map.1 h
    obtain ⟨texts, -, rfl⟩ := List.mem_map.1 hrow
    refine isGridLine_rowLine (fun c hc s hs => ?_) line
    obtain ⟨text, -, rfl⟩ := List.mem_map.1 hc
    exact not_mem_of_mem_splitOn hs
  · exact List.mem_singleton.1 h ▸ isGridLine_gridRule _

end Text

/-! ### The lines of a report -/

namespace Report

/-- The line looks like that of a comparison with a check mark. -/
def isCheckMarked (line : List Char) : Bool :=
  "   ✓ ".toList.isPrefixOf line && " differences".toList.isSuffixOf line

/-- The first line of an entry. -/
def Entry.head (e : Entry) : String :=
  "   " ++ e.sign ++ " " ++ e.comparison.delete.address ++ ": " ++ Number.text e.comparison.score ++
    " differences"

/-- The lines of an entry: the first one, and one for each difference. -/
def Entry.lines (e : Entry) : List (List Char) :=
  e.head.toList :: e.comparison.differences.map fun d => ("       " ++ d.display).toList

/-- The first line of a section that is not empty. -/
def Section.head (s : Section) : String := s.address ++ " (" ++ s.type ++ ")"

/-- The lines of a section: an empty one, address and type, and those of the entries. -/
def Section.lines (s : Section) : List (List Char) :=
  [] :: s.head.toList :: s.entries.flatMap Entry.lines

/-- The lines of the table of the matches. -/
def tableLines (found : List Comparison) : List (List Char) :=
  if found.isEmpty then ["   No matches.".toList]
  else Text.gridLines 5 <| (["#", "Type", "From", "To", "Ignored"] ::
    found.zipIdx.map fun (c, i) => [Number.text (i + 1), c.create.type, c.delete.address,
      c.create.address, Number.text c.ignoredCount]).map fun row => row.map Text.cell

/-- The lines of the candidates of one side without a match. -/
def unmatchedLines (title : String) (candidates : List Candidate) : List (List Char) :=
  if candidates.isEmpty then []
  else [] :: (title ++ ":").toList :: candidates.map fun c => ("   - " ++ c.address).toList

/-- The last line of a report. -/
def summaryLine (m : Matching) : String :=
  "Summary: " ++ Number.text m.found.length ++ " matched, " ++
    Number.text m.unmatchedDeletes.length ++ " deletes and " ++
    Number.text m.unmatchedCreates.length ++ " creates left unmatched"

variable {e : Entry} {found : List Comparison}

theorem Entry.toList_text (e : Entry) : e.text.toList = unlines e.lines := by
  simp [text, lines, head, unlines, String.toList_join, List.flatMap_map]

theorem Section.toList_text (s : Section) : s.text.toList = unlines s.lines := by
  simp [text, lines, head, String.toList_join, List.flatMap_map, unlines_flatMap, Entry.toList_text]

theorem toList_matchTable (found : List Comparison) :
    (if found.isEmpty then "   No matches.\n" else matchTable found ++ "\n").toList =
      unlines (tableLines found) := by
  unfold tableLines
  split
  · rfl
  · rw [String.toList_append, matchTable, Text.grid, String.toList_ofList]
    exact Text.intercalate_lineFeed (List.cons_ne_nil _ _)

theorem toList_unmatchedText (title : String) (candidates : List Candidate) :
    (unmatchedText title candidates).toList = unlines (unmatchedLines title candidates) := by
  unfold unmatchedText unmatchedLines
  split
  · rfl
  · simp [String.toList_join, List.flatMap_map, unlines]

theorem toList_summaryText (m : Matching) :
    (plain.summaryText m).toList = unlines [[], (summaryLine m).toList] := by
  unfold summaryText summaryLine
  simp [plain, paint, Text.Ink.paint]

/-! ### Check marks -/

theorem isCheckMarked_eq_false_of_head {l : List Char} (h : l.head? ≠ some ' ') :
    isCheckMarked l = false := by
  cases l with
  | nil => rfl
  | cons c l =>
      have hc : ' ' ≠ c := fun e => h (e ▸ rfl)
      simp [isCheckMarked, hc]

theorem filter_tableLines (found : List Comparison) :
    (tableLines found).filter isCheckMarked = [] := by
  rw [List.filter_eq_nil_iff]
  intro l hl
  unfold tableLines at hl
  split at hl
  · rw [List.mem_singleton.1 hl]
    decide
  · have hbegins : l.head? ≠ some ' ' := by
      rcases (Text.isGridLine_of_mem hl).begins with h | h <;> rw [h] <;> decide
    simp [isCheckMarked_eq_false_of_head hbegins]

theorem filter_unmatchedLines (title : String) (htitle : title.toList.head? = some 'U')
    (candidates : List Candidate) :
    (unmatchedLines title candidates).filter isCheckMarked = [] := by
  have hbegins : (title ++ ":").toList.head? ≠ some ' ' := by
    rw [String.toList_append, List.head?_append, htitle]
    decide
  rw [List.filter_eq_nil_iff]
  intro l hl
  unfold unmatchedLines at hl
  split at hl
  · cases hl
  · simp only [List.mem_cons, List.mem_map] at hl
    rcases hl with rfl | rfl | ⟨c, -, rfl⟩
    · decide
    · exact Bool.eq_false_iff.1 (isCheckMarked_eq_false_of_head hbegins)
    · simp [isCheckMarked]

/-- An entry has one check-marked line if its sign is the check mark, and else none. -/
theorem filter_entryLines (h : e.sign = "✓" ∨ e.sign = "=" ∨ e.sign = "✗") :
    e.lines.filter isCheckMarked = if e.sign = "✓" then [e.head.toList] else [] := by
  have hdifferences : (e.comparison.differences.map fun d => ("       " ++ d.display).toList).filter
      isCheckMarked = [] := by
    simp [isCheckMarked]
  rw [Entry.lines, List.filter_cons, hdifferences]
  by_cases hcheck : e.sign = "✓"
  · have hends : " differences".toList.isSuffixOf e.head.toList :=
      List.isSuffixOf_iff_suffix.2 ⟨_, String.toList_append.symm⟩
    have hhead : isCheckMarked e.head.toList = true := by
      rw [isCheckMarked, hends, Bool.and_true]
      simp [Entry.head, hcheck]
    simp [hcheck, hhead]
  · have hhead : isCheckMarked e.head.toList = false := by
      rcases h.resolve_left hcheck with h | h <;> simp [isCheckMarked, Entry.head, h]
    simp [hcheck, hhead]

theorem flatMap_ite_singleton {α β : Type} (p : α → Prop) [DecidablePred p] (f : α → β)
    (l : List α) : (l.flatMap fun a => if p a then [f a] else []) = (l.filter (p ·)).map f := by
  induction l with
  | nil => rfl
  | cons a l ih => by_cases h : p a <;> simp [h, ih]

/-- The check-marked lines of a section are the first lines of the entries with a check mark. -/
theorem filter_sectionLines {s : Section}
    (h : ∀ e ∈ s.entries, e.sign = "✓" ∨ e.sign = "=" ∨ e.sign = "✗") :
    s.lines.filter isCheckMarked =
      (s.entries.filter fun e => e.sign = "✓").map (·.head.toList) := by
  -- address and type do not end like the line of a comparison
  have hhead : isCheckMarked s.head.toList = false := by
    rw [isCheckMarked, Bool.and_eq_false_iff]
    refine .inr (Bool.eq_false_iff.2 fun hends => ?_)
    obtain ⟨rest, hrest⟩ := List.isSuffixOf_iff_suffix.1 hends
    have hlast : s.head.toList.getLast? = some ')' := by
      rw [Section.head, String.toList_append]
      exact List.getLast?_concat
    rw [← hrest] at hlast
    simp at hlast
  have hentries : (s.entries.flatMap fun e => e.lines.filter isCheckMarked) =
      s.entries.flatMap fun e => if e.sign = "✓" then [e.head.toList] else [] :=
    List.flatMap_congr fun e he => filter_entryLines (h e he)
  rw [Section.lines, List.filter_cons, List.filter_cons, hhead, List.filter_flatMap, hentries]
  exact flatMap_ite_singleton _ _ _

end Report

namespace Matching

open Report (Entry Section plain isCheckMarked)

variable {m : Matching} {rules : List Rule} {deletes creates : List Candidate} {watch : Watch}

/-- The lines that the text of a matching is put together from. -/
def reportLines (m : Matching) : List (List Char) :=
  [[], "Analysis".toList, []] ++ Report.tableLines m.found ++ m.sections.flatMap Section.lines ++
    Report.unmatchedLines "Unmatched deletes" m.unmatchedDeletes ++
    Report.unmatchedLines "Unmatched creates" m.unmatchedCreates ++
    [[], (Report.summaryLine m).toList]

theorem sectionLines_infix (m : Matching) : m.sections.flatMap Section.lines <:+: m.reportLines :=
  (List.suffix_append _ _).isInfix.trans <| List.IsPrefix.isInfix <|
    (List.prefix_append _ _).trans <| (List.prefix_append _ _).trans (List.prefix_append _ _)

theorem toList_matching (m : Matching) : (plain.matching m).toList = unlines m.reportLines := by
  rw [matching_plain]
  simp only [String.toList_append, String.toList_join, List.flatMap_map, Section.toList_text,
    Report.toList_matchTable, Report.toList_unmatchedText, Report.toList_summaryText]
  simp [reportLines, unlines_flatMap]

/-- The addresses of a comparison, its type and the keys on the paths of its differences have no
line feed. -/
structure Comparison.OneLined (c : Comparison) : Prop where
  delete : '\n' ∉ c.delete.address.toList
  create : '\n' ∉ c.create.address.toList
  type   : '\n' ∉ c.create.type.toList
  keys   : ∀ d ∈ c.differences, ∀ s ∈ d.path, s.OneLined

instance : DecidablePred Comparison.OneLined := fun c =>
  decidable_of_iff ('\n' ∉ c.delete.address.toList ∧ '\n' ∉ c.create.address.toList ∧
      '\n' ∉ c.create.type.toList ∧ ∀ d ∈ c.differences, ∀ s ∈ d.path, s.OneLined)
    ⟨fun ⟨hd, hc, ht, hk⟩ => ⟨hd, hc, ht, hk⟩, fun h => ⟨h.delete, h.create, h.type, h.keys⟩⟩

/-- No address, type or key that a report shows has a line feed. -/
structure OneLined (m : Matching) : Prop where
  comparisons : ∀ c ∈ m.comparisons, c.OneLined
  unmatched   : ∀ c ∈ m.unmatchedDeletes ++ m.unmatchedCreates, '\n' ∉ c.address.toList

instance : DecidablePred OneLined := fun m =>
  decidable_of_iff ((∀ c ∈ m.comparisons, c.OneLined) ∧
      ∀ c ∈ m.unmatchedDeletes ++ m.unmatchedCreates, '\n' ∉ c.address.toList)
    ⟨fun ⟨hc, hu⟩ => ⟨hc, hu⟩, fun h => ⟨h.comparisons, h.unmatched⟩⟩

variable {c : Comparison}

theorem sign_entry (m : Matching) (c : Comparison) :
    (m.entry c).sign = "✓" ∨ (m.entry c).sign = "=" ∨ (m.entry c).sign = "✗" := by
  unfold entry Report.comparisonSign
  split
  · exact .inl rfl
  · split
    · exact .inr (.inl rfl)
    · exact .inr (.inr rfl)

/-- **The check-marked lines of a report** are the first lines of the entries with a check mark. -/
theorem filter_reportLines (m : Matching) : m.reportLines.filter isCheckMarked =
    ((m.sections.flatMap (·.entries)).filter fun e => e.sign = "✓").map (·.head.toList) := by
  have hsections : (m.sections.flatMap fun s => s.lines.filter isCheckMarked) =
      m.sections.flatMap fun s =>
        (s.entries.filter fun e => e.sign = "✓").map (·.head.toList) := by
    refine List.flatMap_congr fun s hs => Report.filter_sectionLines fun e he => ?_
    obtain ⟨address, -, rfl⟩ := List.mem_map.1 hs
    obtain ⟨c, -, rfl⟩ := List.mem_map.1 he
    exact m.sign_entry c
  have htitle : [[], "Analysis".toList, []].filter isCheckMarked = [] := by decide
  have hsummary : [[], (Report.summaryLine m).toList].filter isCheckMarked = [] := by
    have hbegins : (Report.summaryLine m).toList.head? ≠ some ' ' := by simp [Report.summaryLine]
    rw [List.filter_cons, List.filter_cons, Report.isCheckMarked_eq_false_of_head hbegins]
    rfl
  have hdeletes := Report.filter_unmatchedLines "Unmatched deletes" rfl m.unmatchedDeletes
  have hcreates := Report.filter_unmatchedLines "Unmatched creates" rfl m.unmatchedCreates
  simp only [reportLines, List.filter_append, htitle, Report.filter_tableLines, List.filter_flatMap,
    hsections, hdeletes, hcreates, hsummary, List.map_flatMap, List.nil_append, List.append_nil]

/-! ### Lines without a line feed -/

theorem Comparison.OneLined.lineFeed_not_mem_lines {e : Entry} (h : e.comparison.OneLined)
    (hsign : '\n' ∉ e.sign.toList) : ∀ l ∈ e.lines, '\n' ∉ l := by
  refine List.forall_mem_cons.2 ⟨?_, List.forall_mem_map.2 fun d hd => ?_⟩
  · simp [Entry.head, hsign, h.delete, Number.text, Number.lineFeed_not_mem_digits]
  · simp [Attribute.Difference.lineFeed_not_mem_display (h.keys d hd)]

namespace OneLined

theorem lineFeed_not_mem_sections (h : m.OneLined) :
    ∀ l ∈ m.sections.flatMap Section.lines, '\n' ∉ l := by
  intro l hl
  obtain ⟨s, hs, hl⟩ := List.mem_flatMap.1 hl
  obtain ⟨address, hcompared, rfl⟩ := List.mem_map.1 hs
  obtain ⟨x, hx, rfl⟩ := mem_comparedCreates.1 hcompared
  rcases List.mem_cons.1 hl with rfl | hl
  · exact List.not_mem_nil
  rcases List.mem_cons.1 hl with rfl | hl
  · have htype : '\n' ∉ (m.sectionOf x.create.address).type.toList := by
      unfold sectionOf
      cases hfirst : m.comparisons.find? fun c => c.create.address == x.create.address with
      | none => exact List.not_mem_nil
      | some c => exact (h.comparisons c (List.mem_of_find?_eq_some hfirst)).type
    have haddress : '\n' ∉ (m.sectionOf x.create.address).address.toList :=
      (h.comparisons x hx).create
    simp [Section.head, haddress, htype]
  · obtain ⟨e, he, hl⟩ := List.mem_flatMap.1 hl
    obtain ⟨c, hc, rfl⟩ := List.mem_map.1 he
    have hsign : '\n' ∉ (m.entry c).sign.toList := by
      rcases m.sign_entry c with h | h | h <;> rw [h] <;> decide
    exact (h.comparisons c (mem_comparisonsOf.1 hc).1).lineFeed_not_mem_lines hsign l hl

theorem lineFeed_not_mem_unmatched {title : String} {candidates : List Candidate}
    (htitle : '\n' ∉ title.toList) (h : ∀ c ∈ candidates, '\n' ∉ c.address.toList) :
    ∀ l ∈ Report.unmatchedLines title candidates, '\n' ∉ l := by
  unfold Report.unmatchedLines
  split
  · exact List.forall_mem_nil _
  · simpa [htitle] using h

theorem lineFeed_not_mem_table (found : List Comparison) :
    ∀ l ∈ Report.tableLines found, '\n' ∉ l := by
  unfold Report.tableLines
  split
  · decide
  · exact fun l hl => (Text.isGridLine_of_mem hl).oneLined

theorem lineFeed_not_mem_reportLines (h : m.OneLined) : ∀ l ∈ m.reportLines, '\n' ∉ l := by
  have hunmatched := List.forall_mem_append.1 h.unmatched
  have hsummary : '\n' ∉ (Report.summaryLine m).toList := by
    simp [Report.summaryLine, Number.text, Number.lineFeed_not_mem_digits]
  simp only [reportLines, List.forall_mem_append]
  refine ⟨⟨⟨⟨⟨by decide, lineFeed_not_mem_table m.found⟩, h.lineFeed_not_mem_sections⟩,
    lineFeed_not_mem_unmatched (by decide) hunmatched.1⟩,
    lineFeed_not_mem_unmatched (by decide) hunmatched.2⟩, ?_⟩
  simp [hsummary]

/-- The text of a matching is cut into the lines that it is put together from. -/
theorem splitOn_matching (h : m.OneLined) :
    (plain.matching m).toList.splitOn '\n' = m.reportLines ++ [[]] := by
  rw [toList_matching, Text.splitOn_unlines_of_oneLined h.lineFeed_not_mem_reportLines]

end OneLined

/-! ### The theorem -/

/-- **The text of a solved matching shows every comparison once.**  Between the table of the matches
and what is left without one it consists of sections that show the matching: the comparisons, each
once, under their created resources, in order, and with a check mark just when they are matches.  If
nothing it shows as it is has a line feed, its check-marked lines are the first lines of the entries
with a check mark, and there are as many as matches.  No score is higher than the number of
differences, and what the table subtracts is the number of those that are ignored. -/
theorem report_shows_matching (h : solve watch (judgeBy rules) deletes creates = .ok m) :
    (∃ sections : List Section, Shows m sections ∧
      plain.matching m =
        "\nAnalysis\n\n" ++
          (if m.found.isEmpty then "   No matches.\n" else Report.matchTable m.found ++ "\n") ++
          String.join (sections.map Section.text) ++
          Report.unmatchedText "Unmatched deletes" m.unmatchedDeletes ++
          Report.unmatchedText "Unmatched creates" m.unmatchedCreates ++ plain.summaryText m ∧
      (m.OneLined → ((plain.matching m).toList.splitOn '\n').filter isCheckMarked =
        ((sections.flatMap (·.entries)).filter fun e => e.sign = "✓").map (·.head.toList))) ∧
    (m.OneLined →
      ((plain.matching m).toList.splitOn '\n').countP isCheckMarked = m.found.length) ∧
    (∀ c ∈ m.comparisons, c.score ≤ c.differences.length ∧
      c.differences.length - c.score = c.differences.countP (·.ignored)) ∧
    Report.matchTable m.found = Text.grid 5 (["#", "Type", "From", "To", "Ignored"] ::
      m.found.zipIdx.map fun (c, i) => [Number.text (i + 1), c.create.type, c.delete.address,
        c.create.address, Number.text (c.differences.countP (·.ignored))]) := by
  have hshows := (solve_coherent h).shows
  have hmarked (hlines : m.OneLined) :
      ((plain.matching m).toList.splitOn '\n').filter isCheckMarked =
        ((m.sections.flatMap (·.entries)).filter fun e => e.sign = "✓").map (·.head.toList) := by
    rw [hlines.splitOn_matching, List.filter_append, m.filter_reportLines]
    exact List.append_nil _
  refine ⟨⟨m.sections, hshows, m.matching_plain, hmarked⟩, fun hlines => ?_,
    fun _ hc => ignoredCount_eq h hc, matchTable_eq h⟩
  rw [List.countP_eq_length_filter, hmarked hlines, List.length_map, ← List.countP_eq_length_filter,
    hshows.count]

/-- Two hosts with a rule for the name: their comparison is a match, a single line is check-marked,
and one of the differences is ignored. -/
theorem report_shows_matching_hosts :
    ∃ m sections, solve .never (judgeBy [nameRule]) [oldHost] [newHost] = .ok m ∧
      Shows m sections ∧ m.OneLined ∧
      ((plain.matching m).toList.splitOn '\n').countP isCheckMarked = 1 ∧
      ∀ c ∈ m.comparisons, c.differences.length - c.score = 1 := by
  have hsolve := @solve_never (judgeBy [nameRule]) [oldHost] [newHost] (by decide) (by decide)
  obtain ⟨⟨sections, hshows, -⟩, hmarks, hcounts, -⟩ := report_shows_matching hsolve
  have hlines : ((judgeBy [nameRule]).matching [oldHost] [newHost]).OneLined := by decide +kernel
  have hfound : ((judgeBy [nameRule]).matching [oldHost] [newHost]).found.length = 1 := by
    decide +kernel
  refine ⟨_, sections, hsolve, hshows, hlines, (hmarks hlines).trans hfound, fun c hc => ?_⟩
  have hone : c = (judgeBy [nameRule]).compare oldHost newHost := List.mem_singleton.1 hc
  rw [(hcounts c hc).2, hone]
  decide +kernel

/-- A key with a line in it that looks like one with a check mark. -/
def brokenKey : String := "a\n   ✓ t.x: 0 differences\nb"

/-- A candidate of the type `t` that has a text under that key. -/
def brokenHost (side : Plan.Side) (address text : String) : Candidate where
  address    := address
  type       := "t"
  provider   := ""
  side       := side
  attributes := .map [(brokenKey, .leaf (.text text))]
  unknown    := none

/-- With a line feed in a key there can be more check-marked lines than matches. -/
theorem not_check_marks_count_matches : ¬ ∀ watch rules deletes creates m,
    solve watch (judgeBy rules) deletes creates = .ok m →
      ((plain.matching m).toList.splitOn '\n').countP isCheckMarked = m.found.length := by
  intro h
  have hsolve := @solve_never (judgeBy []) [brokenHost .delete "t.a" "x"]
    [brokenHost .create "t.b" "y"] (by decide) (by decide)
  have hcount := h _ _ _ _ _ hsolve
  generalize hm : (judgeBy []).matching [brokenHost .delete "t.a" "x"]
    [brokenHost .create "t.b" "y"] = m at hcount
  have hfound : m.found.length = 1 := by
    rw [← hm]
    decide +kernel
  have hsections : ((m.sections.flatMap Section.lines).flatMap (·.splitOn '\n')).countP
      isCheckMarked = 2 := by
    rw [← hm]
    decide +kernel
  have hle := (m.sectionLines_infix.sublist.flatMap (·.splitOn '\n')).countP_le (p := isCheckMarked)
  rw [toList_matching, Text.splitOn_unlines, List.countP_append] at hcount
  omega

end Matching

end ResourceMoves
