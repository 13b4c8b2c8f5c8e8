import ResourceMoves.Proofs.Plan.Extraction

/-!
# Plan — entries that give no candidate

What becomes of the candidates when entries that can give none are taken out of a plan
(`extract_without`).  Extraction still succeeds, and no candidate is lost or changed.

New candidates may come up in one way only.  **A data source takes part in telling what is
replaced**: where it is destroyed, a creation gives no candidate, and where it is created, a
destruction gives none; without it, they do (`shadowed`).  No other entry that is skipped has a say
in that, since a deposed object is not a current one, and the rest do more or other things than to
create or to destroy (`Entry.Skipped.isData_of_opposes`).
-/

namespace ResourceMoves.Plan

/-- `bs` is what is left of `as` when some of its items are taken out, of which `P` is so. -/
inductive Without {α : Type} (P : α → Prop) : List α → List α → Prop
  | nil : Without P [] []
  | keep {as bs : List α} (a : α) (h : Without P as bs) : Without P (a :: as) (a :: bs)
  | drop {as bs : List α} {a : α} (ha : P a) (h : Without P as bs) : Without P (a :: as) bs

/-- The entry gives no candidate, whatever the others are: it is about a data source or a deposed
object, or what it does is neither only to create nor only to destroy. -/
inductive Entry.Skipped (e : Entry) : Prop
  | data (h : e.isData = true)
  | deposed (h : e.isDeposed = true)
  | other (h : e.kind? = some .other)
  | replacement (h : e.kind? = some .replace)

variable {p q : Plan} {e x : Entry} {entries : List Entry} {addresses : List String} {side : Side}

/-! ### What is left of a list -/

section Without

variable {α β : Type} {P Q : α → Prop} {as bs : List α} {a : α}

theorem Without.subset (h : Without P as bs) : bs ⊆ as := by
  induction h with
  | nil => exact List.Subset.refl []
  | keep a _ ih => exact List.cons_subset_cons a ih
  | drop _ _ ih => exact List.subset_cons_of_subset _ ih

/-- What is not taken out is left. -/
theorem Without.mem_of_not (h : Without P as bs) (hmem : a ∈ as) (ha : ¬ P a) : a ∈ bs := by
  induction h with
  | nil => exact hmem
  | keep b _ ih =>
      rcases List.mem_cons.1 hmem with rfl | hmem
      · exact List.mem_cons_self
      · exact List.mem_cons_of_mem _ (ih hmem)
  | drop hb _ ih =>
      rcases List.mem_cons.1 hmem with rfl | hmem
      · exact absurd hb ha
      · exact ih hmem

/-- Items for which there is nothing may be taken out. -/
theorem Without.filterMap_eq {f : α → Option β} (h : Without P as bs) (hf : ∀ a, P a → f a = none) :
    bs.filterMap f = as.filterMap f := by
  induction h with
  | nil => rfl
  | keep a _ ih => rw [List.filterMap_cons, List.filterMap_cons, ih]
  | drop ha _ ih => rw [List.filterMap_cons_none (hf _ ha), ih]

variable {f g : α → Option β}

/-- Where `g` gives all that `f` gives, it gives a list with all of that in it, in the same order. -/
theorem filterMap_sublist (h : ∀ a ∈ as, f a = none ∨ f a = g a) :
    (as.filterMap f).Sublist (as.filterMap g) := by
  induction as with
  | nil => exact .slnil
  | cons a as ih =>
      have ih := ih fun b hb => h b (List.mem_cons_of_mem _ hb)
      rcases h a List.mem_cons_self with ha | ha
      · rw [List.filterMap_cons_none ha]
        cases hg : g a with
        | none => rwa [List.filterMap_cons_none hg]
        | some b =>
            rw [List.filterMap_cons_some hg]
            exact ih.cons b
      · rw [List.filterMap_cons, List.filterMap_cons, ha]
        cases g a with
        | none => exact ih
        | some b => exact ih.cons_cons b

/-- It gives the same list only when it gives nothing else. -/
theorem filterMap_eq_iff (h : ∀ a ∈ as, f a = none ∨ f a = g a) :
    as.filterMap g = as.filterMap f ↔ ∀ a ∈ as, f a = g a := by
  refine ⟨fun heq => ?_, fun heq => (List.filterMap_congr heq).symm⟩
  induction as with
  | nil => exact fun a ha => absurd ha List.not_mem_nil
  | cons a as ih =>
      have hrest := fun b hb => h b (List.mem_cons_of_mem _ hb)
      have ha : f a = g a := by
        refine (h a List.mem_cons_self).elim (fun hf => ?_) id
        cases hg : g a with
        | none => exact hf
        | some b =>
            -- what `g` gives for `a` has no place beside all that `f` gives for the rest
            rw [List.filterMap_cons_some hg, List.filterMap_cons_none hf] at heq
            have hlength := (filterMap_sublist hrest).length_le
            rw [← heq, List.length_cons] at hlength
            omega
      have htail : as.filterMap g = as.filterMap f := by
        rw [List.filterMap_cons, List.filterMap_cons, ha] at heq
        cases hg : g a <;> simpa [hg] using heq
      exact List.forall_mem_cons.2 ⟨ha, ih hrest htail⟩

end Without

/-! ### Entries -/

theorem Entry.Skipped.not_only (h : e.Skipped) : ¬ e.Only side.action := by
  intro honly
  have hkind : e.kind? = some side.kind := by
    cases side with
    | delete => exact ActionKind.of?_eq_delete_iff.2 honly.actions
    | create => exact ActionKind.of?_eq_create_iff.2 honly.actions
  cases h with
  | data h => exact Bool.false_ne_true (honly.managed.symm.trans h)
  | deposed h => exact Bool.false_ne_true (honly.current.symm.trans h)
  | other h => cases side <;> cases hkind.symm.trans h
  | replacement h => cases side <;> cases hkind.symm.trans h

theorem Entry.Skipped.candidate?_eq_none (h : e.Skipped) : e.candidate? side addresses = none :=
  Option.eq_none_iff_forall_ne_some.2 fun _ hc => h.not_only (gives_of_candidate? hc).1

/-- Of the entries that are skipped, only those of data sources can do the opposite of another. -/
theorem Entry.Skipped.isData_of_opposes (h : x.Skipped) (hx : e.Opposes side x) :
    x.isData = true := by
  by_contra hdata
  have honly : x.Only side.opposite.action :=
    ⟨Bool.eq_false_of_not_eq_true hdata, hx.current, hx.actions⟩
  exact h.not_only honly

theorem Entry.candidate?_of_mem (h : e.address ∈ addresses) : e.candidate? side addresses = none :=
  Option.eq_none_iff_forall_ne_some.2 fun _ hc => (gives_of_candidate? hc).2.1 h

theorem Entry.candidate?_of_not_mem (h : e.address ∉ addresses) :
    e.candidate? side addresses = e.candidate? side [] := by
  cases side <;> simp [candidate?, creation?, deletion?, h]

variable {addresses' : List String}

theorem Entry.candidate?_eq_of_not_mem (h : addresses' ⊆ addresses) (he : e.address ∉ addresses) :
    e.candidate? side addresses = e.candidate? side addresses' :=
  (candidate?_of_not_mem he).trans (candidate?_of_not_mem (mt (@h e.address) he)).symm

/-- Without some of the addresses at which the opposite is done, an entry gives what it gave, unless
that was nothing. -/
theorem Entry.candidate?_of_subset (h : addresses' ⊆ addresses) :
    e.candidate? side addresses = none ∨
      e.candidate? side addresses = e.candidate? side addresses' := by
  by_cases he : e.address ∈ addresses
  · exact .inl (candidate?_of_mem he)
  · exact .inr (candidate?_eq_of_not_mem h he)

/-- It gives the same just when it gives nothing anyway or its address is not one of those that are
missing. -/
theorem Entry.candidate?_eq_iff (hflaw : ∀ d, ¬ e.Flawed d) (h : addresses' ⊆ addresses) :
    e.candidate? side addresses = e.candidate? side addresses' ↔
      (e.Only side.action → e.address ∈ addresses → e.address ∈ addresses') := by
  by_cases he : e.address ∈ addresses
  · rw [candidate?_of_mem he, eq_comm]
    constructor
    · intro hnone honly _
      by_contra he'
      obtain ⟨v, hv⟩ := exists_attributes hflaw honly.actions
      obtain ⟨c, hc⟩ := exists_candidate? honly he' hv
      cases hc.symm.trans hnone
    · intro he'
      refine Option.eq_none_iff_forall_ne_some.2 fun c hc => ?_
      obtain ⟨honly, hfree, -⟩ := gives_of_candidate? hc
      exact hfree (he' honly he)
  · exact iff_of_true (candidate?_eq_of_not_mem h he) fun _ he' => absurd he' he

/-! ### Plans -/

theorem addressesOf_subset {entries' : List Entry} (h : entries' ⊆ entries) (kind : ActionKind) :
    addressesOf kind entries' ⊆ addressesOf kind entries := by
  intro a ha
  obtain ⟨e, he, htouches, rfl⟩ := mem_addressesOf.1 ha
  exact mem_addressesOf.2 ⟨e, h he, htouches, rfl⟩

/-- What is left gives what all of them would give beside what is left. -/
theorem candidates_on_of_without (h : Without Entry.Skipped p.entries q.entries) (side : Side) :
    q.candidates.on side =
      p.entries.filterMap (Entry.candidate? side (addressesOf side.opposite.kind q.entries)) := by
  rw [candidates_on]
  exact h.filterMap_eq fun _ => Entry.Skipped.candidate?_eq_none

theorem Entry.candidate?_of_without (h : Without Entry.Skipped p.entries q.entries) (side : Side)
    (e : Entry) :
    e.candidate? side (addressesOf side.opposite.kind p.entries) = none ∨
      e.candidate? side (addressesOf side.opposite.kind p.entries) =
        e.candidate? side (addressesOf side.opposite.kind q.entries) :=
  candidate?_of_subset (addressesOf_subset h.subset _)

theorem candidates_on_sublist (h : Without Entry.Skipped p.entries q.entries) (side : Side) :
    (p.candidates.on side).Sublist (q.candidates.on side) := by
  rw [candidates_on_of_without h, candidates_on]
  exact filterMap_sublist fun e _ => Entry.candidate?_of_without h side e

/-- The candidates are the same just when each entry that was opposed is still opposed. -/
theorem candidates_eq_iff_of_without (hflaw : ∀ e ∈ p.entries, ∀ d, ¬ e.Flawed d)
    (h : Without Entry.Skipped p.entries q.entries) :
    q.candidates = p.candidates ↔ ∀ side, ∀ e ∈ p.entries, e.Only side.action →
      (∃ x ∈ p.entries, e.Opposes side x) → ∃ x ∈ q.entries, e.Opposes side x := by
  have hon : q.candidates = p.candidates ↔
      ∀ side, q.candidates.on side = p.candidates.on side :=
    ⟨fun h side => h ▸ rfl, Candidates.ext_on⟩
  rw [hon]
  refine forall_congr' fun side => ?_
  rw [candidates_on_of_without h, candidates_on,
    filterMap_eq_iff fun e _ => Entry.candidate?_of_without h side e]
  refine forall₂_congr fun e he => ?_
  rw [Entry.candidate?_eq_iff (hflaw e he) (addressesOf_subset h.subset _), exists_opposes_iff,
    exists_opposes_iff]

/-- **Entries that give no candidate may be taken out.**  Extraction still succeeds and all
candidates are kept.  They are the same just when no entry was opposed only by what is taken out,
and so whenever no data source is taken out that opposes an entry. -/
theorem extract_without {cs : Candidates} (h : p.extract = .ok cs)
    (hq : Without Entry.Skipped p.entries q.entries) :
    ∃ ds, q.extract = .ok ds ∧ (∀ side, (cs.on side).Sublist (ds.on side)) ∧
      (ds = cs ↔ ∀ side, ∀ e ∈ p.entries, e.Only side.action →
        (∃ x ∈ p.entries, e.Opposes side x) → ∃ x ∈ q.entries, e.Opposes side x) ∧
      (Without (fun x => x.Skipped ∧ (x.isData = true → ∀ side, ∀ e ∈ p.entries,
        e.Only side.action → ¬ e.Opposes side x)) p.entries q.entries → ds = cs) := by
  obtain ⟨hdefect, rfl⟩ := extract_eq_ok_iff.1 h
  have hsame := candidates_eq_iff_of_without (forall_defect?_eq_none_iff.1 hdefect) hq
  refine ⟨q.candidates, extract_eq_ok_iff.2 ⟨fun e he => hdefect e (hq.subset he), rfl⟩,
    candidates_on_sublist hq, hsame, fun hdropped => hsame.2 fun side e he honly => ?_⟩
  rintro ⟨x, hx, hopposes⟩
  -- an entry that opposes `e` is not taken out: it would be a data source
  refine ⟨x, hdropped.mem_of_not hx ?_, hopposes⟩
  rintro ⟨hskipped, hdata⟩
  exact hdata (hskipped.isData_of_opposes hopposes) side e he honly hopposes

/-- The data source and the deposed object of a renaming may be taken out. -/
theorem extract_without_renamed :
    ∃ q : Plan, q.entries = (renamed.entries.eraseIdx 4).eraseIdx 2 ∧
      renamed.extract = .ok renamed.candidates ∧
      Without Entry.Skipped renamed.entries q.entries ∧ q.extract = .ok renamed.candidates := by
  have hextract : renamed.extract = .ok renamed.candidates :=
    extract_eq_ok_iff.2 ⟨by decide, rfl⟩
  have hwithout : Without Entry.Skipped renamed.entries ((renamed.entries.eraseIdx 4).eraseIdx 2) :=
    .keep _ (.keep _ (.drop (.deposed rfl) (.keep _ (.drop (.data rfl) (.keep _ (.keep _ .nil))))))
  obtain ⟨ds, hds, -, hsame, -⟩ := extract_without (q := { renamed with
    entries := (renamed.entries.eraseIdx 4).eraseIdx 2 }) hextract hwithout
  have hopposed : ds = renamed.candidates := hsame.2 fun side => by cases side <;> decide
  exact ⟨_, rfl, hextract, hwithout, hopposed ▸ hds⟩

/-- A resource is created at the address of a data source that is destroyed. -/
def shadowed : Plan := { renamed with
  entries :=
    [.managed "t.a" [.create] none (some (.object [])),
     { Entry.managed "t.a" [.delete] (some (.object [])) none with mode := some "data" }] }

/-- Not every entry that is skipped may be taken out: without the data source of `shadowed`, the
creation gives a candidate. -/
theorem not_extract_without_same :
    ¬ ∀ (p q : Plan) (cs : Candidates), p.extract = .ok cs →
      Without Entry.Skipped p.entries q.entries → q.extract = .ok cs := by
  intro h
  have hq := h shadowed { shadowed with entries := shadowed.entries.eraseIdx 1 }
    shadowed.candidates (extract_eq_ok_iff.2 ⟨by decide, rfl⟩) (.keep _ (.drop (.data rfl) .nil))
  have hlength := congrArg (fun cs => cs.creates.length) (extract_eq_ok_iff.1 hq).2
  exact absurd hlength (by decide)

end ResourceMoves.Plan
