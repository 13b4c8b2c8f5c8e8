import ResourceMoves.Analysis
import ResourceMoves.Move.Basic
import ResourceMoves.Proofs.Matching.Solve

/-!
# Plan — from entries to an analysis

What the steps from a plan to its matching give, each said once: what a list of actions amounts to
(`ActionKind.of?_cases`), which entry gives a candidate and which one
(`Entry.creation?_eq_some_iff`, `Entry.deletion?_eq_some_iff`), and when an analysis succeeds
(`analyse_eq_ok_iff`).
-/

namespace ResourceMoves.Plan

open ResourceMoves.Matching (Watch judgeBy solve)

/-! ### Entries -/

/-- What a list of actions amounts to, in all cases. -/
theorem ActionKind.of?_cases {actions : List Action} {kind : ActionKind}
    (h : of? actions = some kind) :
    (kind = .create ∧ actions = [.create]) ∨ (kind = .delete ∧ actions = [.delete]) ∨
      (kind = .replace ∧ (actions = [.delete, .create] ∨ actions = [.create, .delete])) ∨
      (kind = .other ∧ ∃ a, a ≠ .create ∧ a ≠ .delete ∧ actions = [a]) := by
  unfold of? at h
  split at h
  case h_1 => exact .inl ⟨(Option.some.inj h).symm, rfl⟩
  case h_2 => exact .inr (.inl ⟨(Option.some.inj h).symm, rfl⟩)
  case h_3 a hc hd =>
      exact .inr (.inr (.inr ⟨(Option.some.inj h).symm, a, hc, hd, rfl⟩))
  case h_4 => exact .inr (.inr (.inl ⟨(Option.some.inj h).symm, .inl rfl⟩))
  case h_5 => exact .inr (.inr (.inl ⟨(Option.some.inj h).symm, .inr rfl⟩))
  case h_6 => cases h

theorem ActionKind.of?_eq_create_iff {actions : List Action} :
    of? actions = some .create ↔ actions = [.create] := by
  refine ⟨fun h => ?_, fun h => h ▸ rfl⟩
  rcases of?_cases h with ⟨-, h⟩ | ⟨h, -⟩ | ⟨h, -⟩ | ⟨h, -⟩
  · exact h
  all_goals cases h

theorem ActionKind.of?_eq_delete_iff {actions : List Action} :
    of? actions = some .delete ↔ actions = [.delete] := by
  refine ⟨fun h => ?_, fun h => h ▸ rfl⟩
  rcases of?_cases h with ⟨h, -⟩ | ⟨-, h⟩ | ⟨h, -⟩ | ⟨h, -⟩
  · cases h
  · exact h
  all_goals cases h

/-- The entry is about the current object of a managed resource, and does only one thing to it. -/
structure Entry.Only (action : Action) (e : Entry) : Prop where
  managed : e.isData = false
  current : e.isDeposed = false
  actions : e.change.actions = [action]

theorem Entry.only_iff {action : Action} {kind : ActionKind} {e : Entry}
    (h : ∀ actions, ActionKind.of? actions = some kind ↔ actions = [action]) :
    e.Only action ↔ e.isData = false ∧ e.touches kind := by
  simp only [touches, kind?, Bool.and_eq_true, Bool.not_eq_true', beq_iff_eq, h]
  exact ⟨fun h => ⟨h.managed, h.current, h.actions⟩, fun h => ⟨h.1, h.2.1, h.2.2⟩⟩

theorem Entry.only_create_iff {e : Entry} :
    e.Only .create ↔ e.isData = false ∧ e.touches .create :=
  only_iff fun _ => ActionKind.of?_eq_create_iff

theorem Entry.only_delete_iff {e : Entry} :
    e.Only .delete ↔ e.isData = false ∧ e.touches .delete :=
  only_iff fun _ => ActionKind.of?_eq_delete_iff

theorem mem_addressesOf {kind : ActionKind} {entries : List Entry} {a : String} :
    a ∈ addressesOf kind entries ↔ ∃ e ∈ entries, e.touches kind ∧ e.address = a := by
  simp only [addressesOf, List.mem_map, List.mem_filter, and_assoc]

/-! ### Candidates -/

/-- When an entry is not passed over, `addresses` being those at which the opposite is done. -/
theorem Entry.not_passed_iff {kind : ActionKind} {addresses : List String} {e : Entry} :
    (e.isData || !e.touches kind || addresses.contains e.address) = false ↔
      (e.isData = false ∧ e.touches kind) ∧ e.address ∉ addresses := by
  simp

/-- Which entries give a candidate for creation, and which one. -/
theorem Entry.creation?_eq_some_iff {deleted : List String} {e : Entry} {c : Candidate} :
    e.creation? deleted = some c ↔
      e.Only .create ∧ e.address ∉ deleted ∧ ∃ after, e.change.after = some after ∧
        ⟨e.address, e.type, e.provider, .create, .ofJson after,
          usefulMask? e.change.unknown⟩ = c := by
  rw [only_create_iff, ← and_assoc, ← not_passed_iff, creation?]
  cases e.isData || !e.touches .create || deleted.contains e.address <;> simp

/-- Which entries give a candidate for deletion, and which one. -/
theorem Entry.deletion?_eq_some_iff {created : List String} {e : Entry} {c : Candidate} :
    e.deletion? created = some c ↔
      e.Only .delete ∧ e.address ∉ created ∧ ∃ before, e.change.before = some before ∧
        ⟨e.address, e.type, e.provider, .delete, .ofJson before, none⟩ = c := by
  rw [only_delete_iff, ← and_assoc, ← not_passed_iff, deletion?]
  cases e.isData || !e.touches .delete || created.contains e.address <;> simp

/-- A candidate for deletion has an entry that only destroys, at an address where no entry
creates. -/
theorem exists_entry_of_mem_deletes {p : Plan} {d : Candidate} (h : d ∈ p.candidates.deletes) :
    ∃ e ∈ p.entries, e.Only .delete ∧ d.address ∉ addressesOf .create p.entries ∧
      e.address = d.address ∧ e.type = d.type := by
  obtain ⟨e, he, hd⟩ := List.mem_filterMap.1 h
  obtain ⟨honly, haddress, before, -, rfl⟩ := Entry.deletion?_eq_some_iff.1 hd
  exact ⟨e, he, honly, haddress, rfl, rfl⟩

/-- A candidate for creation has an entry that only creates, at an address where no entry
destroys. -/
theorem exists_entry_of_mem_creates {p : Plan} {c : Candidate} (h : c ∈ p.candidates.creates) :
    ∃ e ∈ p.entries, e.Only .create ∧ c.address ∉ addressesOf .delete p.entries ∧
      e.address = c.address ∧ e.type = c.type := by
  obtain ⟨e, he, hc⟩ := List.mem_filterMap.1 h
  obtain ⟨honly, haddress, after, -, rfl⟩ := Entry.creation?_eq_some_iff.1 hc
  exact ⟨e, he, honly, haddress, rfl, rfl⟩

/-! ### Analyses -/

theorem defect?_eq_none_iff {p : Plan} :
    p.defect? = none ↔ ∀ e ∈ p.entries, e.defect? = none := by
  simp [defect?, List.findSome?_eq_none_iff]

/-- A plan has candidates just when none of its entries has a defect. -/
theorem extract_eq_ok_iff {p : Plan} {cs : Candidates} :
    p.extract = .ok cs ↔ (∀ e ∈ p.entries, e.defect? = none) ∧ cs = p.candidates := by
  rw [← defect?_eq_none_iff, extract]
  cases p.defect? <;> simp [eq_comm]

/-- **When an analysis succeeds**: it is not stopped before it begins, no entry has a defect, and
the candidates are matched. -/
theorem analyse_eq_ok_iff {p : Plan} {watch : Watch} {rules : List Ignore.Rule} {m : Matching} :
    p.analyse watch rules = .ok m ↔
      watch .start = false ∧ (∀ e ∈ p.entries, e.defect? = none) ∧
        solve watch (judgeBy rules) p.candidates.deletes p.candidates.creates = .ok m := by
  have hstart : Matching.checkpoint watch .start = .ok () ↔ watch .start = false := by
    rw [Matching.checkpoint]
    cases watch .start <;> simp
  rw [analyse, bind_eq_ok_iff]
  simp only [bind_eq_ok_iff, mapError_eq_ok_iff, extract_eq_ok_iff, hstart]
  constructor
  · rintro ⟨-, hs, -, ⟨hd, rfl⟩, h⟩
    exact ⟨hs, hd, h⟩
  · rintro ⟨hs, hd, h⟩
    exact ⟨(), hs, _, ⟨hd, rfl⟩, h⟩

/-! ### A small plan -/

/-- The entry of a managed resource of the type `t`, and what is done to it. -/
def Entry.managed (address : String) (actions : List Action) (before after : Option Json.Value) :
    Entry where
  address  := address
  mode     := some "managed"
  type     := "t"
  name     := none
  provider := ""
  deposed  := none
  change   := ⟨actions, before, after, none⟩

/-- A resource is renamed from `t.a` to `t.b`, and one is created at `t.c`.  At `t.x` one is
replaced in two entries, at `t.b` a deposed object is destroyed, and `t.d` is a data source. -/
def renamed : Plan where
  formatVersion  := none
  plannerVersion := none
  entries        :=
    [.managed "t.x" [.delete] (some (.object [])) none,
     .managed "t.c" [.create] none (some (.object [("k", .string "other")])),
     { Entry.managed "t.b" [.delete] (some (.object [])) none with deposed := some "1" },
     .managed "t.b" [.create] none (some (.object [("k", .string "v")])),
     { Entry.managed "t.d" [.create] none (some (.object [])) with mode := some "data" },
     .managed "t.a" [.delete] (some (.object [("k", .string "v")])) none,
     .managed "t.x" [.create] none (some (.object []))]

theorem analyse_renamed :
    ∃ m, renamed.analyse .never [] = .ok m ∧ m.moves = [⟨"t.a", "t.b"⟩] :=
  ⟨(judgeBy []).matching renamed.candidates.deletes renamed.candidates.creates,
    analyse_eq_ok_iff.2 ⟨rfl, by decide, Matching.solve_never (by decide) (by decide)⟩, by cbv⟩

end ResourceMoves.Plan
