import ResourceMoves.Proofs.Attribute.Display
import ResourceMoves.Proofs.Text.Lines

/-!
# Attribute trees — on one line

Texts and keys are quoted when a tree is shown, so **a tree stands on one line**
(`Tree.lineFeed_not_mem_display`).  A path is not quoted: a difference stands on one line if no key
on its path has a line feed (`Difference.lineFeed_not_mem_display`).
-/

namespace ResourceMoves.Attribute

namespace Tree

mutual

/-- A tree stands on one line. -/
theorem lineFeed_not_mem_display : ∀ t : Tree, '\n' ∉ t.display.toList
  | .leaf .null | .leaf (.bool true) | .leaf (.bool false) => by decide
  | .leaf (.number x) => toList_display_number x ▸ x.lineFeed_not_mem_plain
  | .leaf (.text s) => toList_display_text s ▸ Text.lineFeed_not_mem_quote s.toList
  | .list items => by
      have hitems : '\n' ∉ [',', ' '].intercalate ((displayItems items).map String.toList) :=
        Text.not_mem_intercalate (by decide)
          (List.forall_mem_map.2 (lineFeed_not_mem_displayItems items))
      simp [display, String.toList_intercalate, hitems]
  | .map entries => by
      have hentries : '\n' ∉ [',', ' '].intercalate ((displayEntries entries).map String.toList) :=
        Text.not_mem_intercalate (by decide)
          (List.forall_mem_map.2 (lineFeed_not_mem_displayEntries entries))
      simp [display, String.toList_intercalate, hentries]

theorem lineFeed_not_mem_displayItems : ∀ ts : List Tree, ∀ w ∈ displayItems ts, '\n' ∉ w.toList
  | [] => List.forall_mem_nil _
  | t :: ts => List.forall_mem_cons.2
      ⟨t.lineFeed_not_mem_display, lineFeed_not_mem_displayItems ts⟩

theorem lineFeed_not_mem_displayEntries :
    ∀ es : List (String × Tree), ∀ w ∈ displayEntries es, '\n' ∉ w.toList
  | [] => List.forall_mem_nil _
  | (k, t) :: es => by
      refine List.forall_mem_cons.2 ⟨?_, lineFeed_not_mem_displayEntries es⟩
      simp [toList_quoted, Text.lineFeed_not_mem_quote, t.lineFeed_not_mem_display]

end

end Tree

/-- The step stands on one line: a key has no line feed. -/
def Segment.OneLined : Segment → Prop
  | .key name => '\n' ∉ name.toList
  | .index _  => True

instance : DecidablePred Segment.OneLined
  | .key name => inferInstanceAs (Decidable ('\n' ∉ name.toList))
  | .index _  => .isTrue trivial

theorem Segment.lineFeed_not_mem_display {s : Segment} (h : s.OneLined) :
    '\n' ∉ s.display.toList := by
  cases s with
  | key name => exact h
  | index i => exact String.toList_ofList ▸ Number.lineFeed_not_mem_digits i

theorem Path.lineFeed_not_mem_display {p : Path} (h : ∀ s ∈ p, s.OneLined) :
    '\n' ∉ (Path.display p).toList := by
  unfold Path.display
  split
  · decide
  · rw [String.toList_intercalate, List.map_map]
    exact Text.not_mem_intercalate (by decide)
      (List.forall_mem_map.2 fun s hs => Segment.lineFeed_not_mem_display (h s hs))

/-- A difference stands on one line if the keys on its path do. -/
theorem Difference.lineFeed_not_mem_display {d : Difference} (h : ∀ s ∈ d.path, s.OneLined) :
    '\n' ∉ d.display.toList := by
  have hside (side : Option Tree) : '\n' ∉ (displaySide side).toList := by
    cases side with
    | none => decide
    | some t => exact t.lineFeed_not_mem_display
  unfold Difference.display
  split <;> simp [Path.lineFeed_not_mem_display h, hside]

end ResourceMoves.Attribute
