import ResourceMoves.Plan.Json
import ResourceMoves.Proofs.Json.Numbers
import ResourceMoves.Proofs.Plan.Candidates

/-!
# Plan — attributes of a plan that is read

The attributes of a plan that was read from a text hold proper numbers only, before and after each
change (`proper_of_ofText?`), and so do those of its candidates, which are taken from there
(`exists_proper_of_ofText?`).
-/

namespace ResourceMoves.Plan

open ResourceMoves.Attribute (Tree)
open ResourceMoves.Json (Document Value)

variable {document : Document} {p : Plan} {s : String}

/-- All numbers of the attributes before and after the change are as they are read. -/
structure Change.Proper (c : Change) : Prop where
  before : ∀ v, c.before = some v → v.Proper
  after  : ∀ v, c.after = some v → v.Proper

theorem Change.proper_of_ofJson? {c : Change} (hd : document.Proper)
    (h : ofJson? document = some c) : c.Proper := by
  obtain ⟨fields, hfields, h⟩ := Option.bind_eq_some_iff.1 h
  have hproper := hd.fields? hfields
  split at h
  case h_2 => cases h
  simp only [Option.bind_eq_bind, Option.bind_eq_some_iff, Option.pure_def, Option.some.injEq] at h
  obtain ⟨-, -, -, -, -, -, before, hbefore, after, hafter, -, -, rfl⟩ := h
  exact ⟨Json.proper_of_optional? (hproper _ (by simp)) hbefore,
    Json.proper_of_optional? (hproper _ (by simp)) hafter⟩

theorem Entry.proper_of_ofJson? {e : Entry} (hd : document.Proper)
    (h : ofJson? document = some e) : e.change.Proper := by
  obtain ⟨fields, hfields, h⟩ := Option.bind_eq_some_iff.1 h
  have hproper := hd.fields? hfields
  split at h
  case h_2 => cases h
  simp only [Option.bind_eq_bind, Option.bind_eq_some_iff, Option.pure_def, Option.some.injEq] at h
  obtain ⟨-, -, -, -, -, -, -, -, -, -, -, -, field, rfl, change, hchange, rfl⟩ := h
  exact Change.proper_of_ofJson? (hproper _ (by simp) _ rfl) hchange

/-- **The attributes of a plan that is read** are proper. -/
theorem proper_of_ofText? (h : ofText? s = some p) : ∀ e ∈ p.entries, e.change.Proper := by
  obtain ⟨document, hdocument, h⟩ := Option.bind_eq_some_iff.1 h
  obtain ⟨fields, hfields, h⟩ := Option.bind_eq_some_iff.1 h
  have hproper := (Document.proper_of_read? hdocument).fields? hfields
  split at h
  case h_2 => cases h
  simp only [Option.bind_eq_bind, Option.bind_eq_some_iff, Option.pure_def, Option.some.injEq] at h
  obtain ⟨-, -, -, -, items, hitems, entries, hentries, rfl⟩ := h
  intro e he
  obtain ⟨item, hitem, he⟩ := Json.exists_of_mem_mapM hentries he
  refine Entry.proper_of_ofJson? ?_ he
  unfold Document.defaulting? at hitems
  split at hitems
  case h_1 =>
      cases hitems
      cases hitem
  case h_2 => exact (hproper _ (by simp) _ rfl).items? hitems _ hitem

/-- The attributes of a candidate of a plan that is read are those of a proper value. -/
theorem exists_proper_of_ofText? (h : ofText? s = some p) {c : Candidate}
    (hc : c ∈ p.candidates.deletes ++ p.candidates.creates) :
    ∃ v : Value, v.Proper ∧ c.attributes = .ofJson v := by
  have hproper := proper_of_ofText? h
  rcases List.mem_append.1 hc with hc | hc
  · obtain ⟨e, he, hc⟩ := List.mem_filterMap.1 hc
    obtain ⟨-, -, before, hbefore, rfl⟩ := Entry.deletion?_eq_some_iff.1 hc
    exact ⟨before, (hproper e he).before before hbefore, rfl⟩
  · obtain ⟨e, he, hc⟩ := List.mem_filterMap.1 hc
    obtain ⟨-, -, after, hafter, rfl⟩ := Entry.creation?_eq_some_iff.1 hc
    exact ⟨after, (hproper e he).after after hafter, rfl⟩

end ResourceMoves.Plan
