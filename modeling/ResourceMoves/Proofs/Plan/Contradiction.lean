import ResourceMoves.Proofs.Plan.Extraction

/-!
# Plan — entries that contradict themselves

What an entry does may not go with the attributes that it has before and after
(`Entry.Contradictory`): what is created must have some after, and none before; what is destroyed
must have some before, and none after; what is replaced must have both.

**A plan is taken just when its entries say what they are about, do what planners do and do not
contradict themselves** (`extract_iff_consistent`), but for one contradiction that is overlooked: a
resource is created, has attributes after, and has some before as well (`Entry.Overlooked`).  Such
an entry gives a candidate like any other (`recreated`).
-/

namespace ResourceMoves.Plan

variable {e : Entry} {p : Plan}

/-! ### One entry -/

namespace Entry

/-- What the entry does and the attributes that it has do not go together. -/
inductive Contradictory (e : Entry) : Prop
  | createWithoutAfter (ha : e.change.actions = [.create]) (hafter : e.change.after = none)
  | createWithBefore (ha : e.change.actions = [.create]) (hbefore : e.change.before ≠ none)
  | deleteWithoutBefore (ha : e.change.actions = [.delete]) (hbefore : e.change.before = none)
  | deleteWithAfter (ha : e.change.actions = [.delete]) (hafter : e.change.after ≠ none)
  | replaceWithoutBoth
      (ha : e.change.actions = [.delete, .create] ∨ e.change.actions = [.create, .delete])
      (hboth : e.change.before = none ∨ e.change.after = none)

/-- The entry creates a resource that has attributes after, and also before. -/
structure Overlooked (e : Entry) : Prop where
  actions : e.change.actions = [.create]
  before  : e.change.before ≠ none
  after   : e.change.after ≠ none

/-- Nothing is wrong with the entry but what is overlooked. -/
structure Consistent (e : Entry) : Prop where
  identified : e.Identified
  planned    : Planned e.change.actions
  trees      : e.Contradictory → e.Overlooked

/-- A contradiction that is looked for is a flaw. -/
theorem Contradictory.exists_flawed (h : e.Contradictory) (hid : e.Identified)
    (hnot : ¬ e.Overlooked) : ∃ d, e.Flawed d := by
  cases h with
  | createWithoutAfter ha hafter => exact ⟨_, .createWithoutAfter hid ha hafter⟩
  | createWithBefore ha hbefore =>
      refine ⟨_, .createWithoutAfter hid ha ?_⟩
      by_contra hafter
      exact hnot ⟨ha, hbefore, hafter⟩
  | deleteWithoutBefore ha hbefore => exact ⟨_, .deleteWithoutBefore hid ha hbefore⟩
  | deleteWithAfter ha hafter =>
      by_cases hbefore : e.change.before = none
      · exact ⟨_, .deleteWithoutBefore hid ha hbefore⟩
      · exact ⟨_, .deleteWithAfter hid ha hbefore hafter⟩
  | replaceWithoutBoth ha hboth => exact ⟨_, .replaceWithoutBoth hid ha hboth⟩

/-- **An entry has no flaw just when it is consistent.** -/
theorem not_flawed_iff : (∀ d, ¬ e.Flawed d) ↔ e.Consistent := by
  constructor
  · intro h
    have haddress : e.address ≠ "" := fun ha => h _ (.noAddress ha)
    have hid : e.Identified := ⟨haddress, fun ht => h _ (.noType haddress ht)⟩
    refine ⟨hid, ?_, fun hcontra => ?_⟩
    · by_contra hplanned
      exact h _ (.actions hid hplanned)
    · by_contra hnot
      obtain ⟨d, hd⟩ := hcontra.exists_flawed hid hnot
      exact h d hd
  · rintro ⟨hid, hplanned, htrees⟩ d hd
    cases hd with
    | noAddress ha => exact hid.address ha
    | noType _ ht => exact hid.type ht
    | actions _ ha => exact ha hplanned
    | createWithoutAfter _ ha hafter => exact (htrees (.createWithoutAfter ha hafter)).after hafter
    | deleteWithoutBefore _ ha hbefore =>
        cases ha.symm.trans (htrees (.deleteWithoutBefore ha hbefore)).actions
    | deleteWithAfter _ ha _ hafter =>
        cases ha.symm.trans (htrees (.deleteWithAfter ha hafter)).actions
    | replaceWithoutBoth _ ha hboth =>
        have hcreate := (htrees (.replaceWithoutBoth ha hboth)).actions
        rcases ha with ha | ha
        · cases ha.symm.trans hcreate
        · cases ha.symm.trans hcreate

end Entry

/-! ### Plans -/

/-- What extraction does not take, it refuses for an entry. -/
theorem exists_extract_eq_error_iff :
    (∃ a d, p.extract = .error (.planEntry a d)) ↔ ¬ ∃ cs, p.extract = .ok cs := by
  cases h : p.extract with
  | ok cs => simp
  | error f =>
      obtain ⟨e, d, -, rfl⟩ := extract_eq_error_iff.1 h
      simp

/-- **Which plans are taken.**  Extraction succeeds just when all entries are consistent: they have an
address and a type, do what planners do, and do not contradict themselves otherwise than by creating
something that has attributes before.  When one of them is not, wherever it stands, extraction fails
for a malformed entry. -/
theorem extract_iff_consistent (p : Plan) :
    ((∃ cs, p.extract = .ok cs) ↔ ∀ e ∈ p.entries, e.Consistent) ∧
    ((∃ a d, p.extract = .error (.planEntry a d)) ↔ ∃ e ∈ p.entries, ¬ e.Consistent) := by
  have hok : (∃ cs, p.extract = .ok cs) ↔ ∀ e ∈ p.entries, e.Consistent := by
    simp only [extract_eq_ok_iff, forall_defect?_eq_none_iff, Entry.not_flawed_iff]
    exact ⟨fun ⟨_, h, _⟩ => h, fun h => ⟨_, h, rfl⟩⟩
  refine ⟨hok, ?_⟩
  calc (∃ a d, p.extract = .error (.planEntry a d))
      ↔ ¬ ∃ cs, p.extract = .ok cs := exists_extract_eq_error_iff
    _ ↔ ∃ e ∈ p.entries, ¬ e.Consistent := by
        rw [hok]
        push Not
        rfl

/-- A resource is created though it has attributes before. -/
def recreated : Plan := { renamed with
  entries := [.managed "t.a" [.create] (some (.object [])) (some (.object []))] }

/-- Not every contradiction is refused: the creation in `recreated` is taken. -/
theorem not_extract_contradictory :
    ¬ ∀ p : Plan, (∃ e ∈ p.entries, e.Contradictory) →
      ∃ a d, p.extract = .error (.planEntry a d) := by
  intro h
  have hrefused := h recreated ⟨_, List.mem_singleton_self _, .createWithBefore rfl nofun⟩
  exact exists_extract_eq_error_iff.1 hrefused ⟨_, extract_eq_ok_iff.2 ⟨by decide, rfl⟩⟩

end ResourceMoves.Plan
