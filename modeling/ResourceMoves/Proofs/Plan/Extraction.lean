import Mathlib.Data.List.Forall2
import ResourceMoves.Proofs.Plan.Candidates

/-!
# Plan — extraction is exact

What extraction refuses and what it gives (`extract_exact`), said of the entries alone.

An entry is flawed when it has a defect that nothing before it hides (`Entry.Flawed`): each
constructor carries the checks that come first.  **A plan is refused for its first flawed entry**
(`FirstFlaw`), also when that one would give no candidate.

Any other plan has on each side, in order, one candidate for every entry that stands alone
(`Entry.Lone`), and that is the one which the entry gives (`Entry.Gives`).  The other entries matter
to an entry only by where they do the opposite, so one lemma about an entry (`Entry.gives_cases`)
is lifted to the list of all of them.
-/

namespace ResourceMoves.Plan

open ResourceMoves.Attribute (Tree)

variable {e : Entry} {entries : List Entry} {c c' : Candidate} {side : Side}

/-! ### Flawed entries -/

/-- Planners produce the actions: one alone, or a replacement in either order. -/
def Planned (actions : List Action) : Prop :=
  (∃ a, actions = [a]) ∨ actions = [.delete, .create] ∨ actions = [.create, .delete]

theorem ActionKind.of?_eq_none_iff {actions : List Action} :
    of? actions = none ↔ ¬ Planned actions := by
  constructor
  · rintro h (⟨a, rfl⟩ | rfl | rfl)
    · cases a <;> cases h
    · cases h
    · cases h
  · intro h
    by_contra hkind
    obtain ⟨kind, hkind⟩ := Option.ne_none_iff_exists'.1 hkind
    rcases of?_cases hkind with ⟨-, rfl⟩ | ⟨-, rfl⟩ | ⟨-, rfl | rfl⟩ | ⟨-, a, -, -, rfl⟩
    · exact h (.inl ⟨_, rfl⟩)
    · exact h (.inl ⟨_, rfl⟩)
    · exact h (.inr (.inl rfl))
    · exact h (.inr (.inr rfl))
    · exact h (.inl ⟨_, rfl⟩)

theorem ActionKind.of?_eq_replace_iff {actions : List Action} :
    of? actions = some .replace ↔
      actions = [.delete, .create] ∨ actions = [.create, .delete] := by
  constructor
  · intro h
    rcases of?_cases h with ⟨h, -⟩ | ⟨h, -⟩ | ⟨-, h⟩ | ⟨h, -⟩
    · cases h
    · cases h
    · exact h
    · cases h
  · rintro (rfl | rfl) <;> rfl

namespace Entry

/-- The entry says what it is about. -/
structure Identified (e : Entry) : Prop where
  address : e.address ≠ ""
  type    : e.type ≠ ""

/-- The entry has the defect, and none that is looked for before it. -/
inductive Flawed (e : Entry) : Defect → Prop
  | noAddress (h : e.address = "") : Flawed e .noAddress
  | noType (ha : e.address ≠ "") (ht : e.type = "") : Flawed e .noType
  | actions (h : e.Identified) (ha : ¬ Planned e.change.actions) :
      Flawed e (.actions (e.change.actions.map Action.name))
  | createWithoutAfter (h : e.Identified) (ha : e.change.actions = [.create])
      (hafter : e.change.after = none) : Flawed e .createWithoutAfter
  | deleteWithoutBefore (h : e.Identified) (ha : e.change.actions = [.delete])
      (hbefore : e.change.before = none) : Flawed e .deleteWithoutBefore
  | deleteWithAfter (h : e.Identified) (ha : e.change.actions = [.delete])
      (hbefore : e.change.before ≠ none) (hafter : e.change.after ≠ none) :
      Flawed e .deleteWithAfter
  | replaceWithoutBoth (h : e.Identified)
      (ha : e.change.actions = [.delete, .create] ∨ e.change.actions = [.create, .delete])
      (hboth : e.change.before = none ∨ e.change.after = none) : Flawed e .replaceWithoutBoth

theorem Flawed.defect? {e : Entry} {d : Defect} (h : e.Flawed d) : e.defect? = some d := by
  cases h with
  | noAddress h => simp [Entry.defect?, h]
  | noType ha ht => simp [Entry.defect?, ha, ht]
  | actions h ha =>
      have hkind : e.kind? = none := ActionKind.of?_eq_none_iff.2 ha
      simp [Entry.defect?, h.address, h.type, hkind]
  | createWithoutAfter h ha hafter =>
      have hkind : e.kind? = some .create := ActionKind.of?_eq_create_iff.2 ha
      simp [Entry.defect?, h.address, h.type, hkind, hafter]
  | deleteWithoutBefore h ha hbefore =>
      have hkind : e.kind? = some .delete := ActionKind.of?_eq_delete_iff.2 ha
      simp [Entry.defect?, h.address, h.type, hkind, hbefore]
  | deleteWithAfter h ha hbefore hafter =>
      have hkind : e.kind? = some .delete := ActionKind.of?_eq_delete_iff.2 ha
      obtain ⟨before, hbefore⟩ := Option.ne_none_iff_exists'.1 hbefore
      obtain ⟨after, hafter⟩ := Option.ne_none_iff_exists'.1 hafter
      simp [Entry.defect?, h.address, h.type, hkind, hbefore, hafter]
  | replaceWithoutBoth h ha hboth =>
      have hkind : e.kind? = some .replace := by
        rcases ha with ha | ha <;> rw [kind?, ha] <;> rfl
      cases hbefore : e.change.before with
      | none => simp [Entry.defect?, h.address, h.type, hkind, hbefore]
      | some before =>
          have hafter : e.change.after = none := hboth.resolve_left (by simp [hbefore])
          simp [Entry.defect?, h.address, h.type, hkind, hbefore, hafter]

/-- The check of an entry finds what it is flawed by. -/
theorem defect?_eq_some_iff {e : Entry} {d : Defect} : e.defect? = some d ↔ e.Flawed d := by
  refine ⟨fun h => ?_, Flawed.defect?⟩
  unfold Entry.defect? at h
  split at h
  case isTrue ha =>
      cases h
      exact .noAddress (String.isEmpty_iff.1 ha)
  case isFalse ha =>
  split at h
  case isTrue ht =>
      cases h
      exact .noType (mt String.isEmpty_iff.2 ha) (String.isEmpty_iff.1 ht)
  case isFalse ht =>
  have hid : e.Identified := ⟨mt String.isEmpty_iff.2 ha, mt String.isEmpty_iff.2 ht⟩
  split at h
  case h_1 _ _ hkind =>
      cases h
      exact .actions hid (ActionKind.of?_eq_none_iff.1 hkind)
  case h_2 _ hkind hafter =>
      cases h
      exact .createWithoutAfter hid (ActionKind.of?_eq_create_iff.1 hkind) hafter
  case h_3 _ hkind hbefore =>
      cases h
      exact .deleteWithoutBefore hid (ActionKind.of?_eq_delete_iff.1 hkind) hbefore
  case h_4 hkind hbefore hafter =>
      cases h
      exact .deleteWithAfter hid (ActionKind.of?_eq_delete_iff.1 hkind) (by simp [hbefore])
        (by simp [hafter])
  case h_5 _ hkind hbefore =>
      cases h
      exact .replaceWithoutBoth hid (ActionKind.of?_eq_replace_iff.1 hkind) (.inl hbefore)
  case h_6 hkind _ hafter =>
      cases h
      exact .replaceWithoutBoth hid (ActionKind.of?_eq_replace_iff.1 hkind) (.inr hafter)
  case h_7 => cases h

end Entry

/-- The entry is the first flawed one of the plan, and the defect is its. -/
def FirstFlaw (p : Plan) (e : Entry) (d : Defect) : Prop :=
  ∃ before after, p.entries = before ++ e :: after ∧ (∀ x ∈ before, ∀ d, ¬ x.Flawed d) ∧
    e.Flawed d

theorem FirstFlaw.flawed {p : Plan} {d : Defect} (h : p.FirstFlaw e d) : e.Flawed d := by
  obtain ⟨-, -, -, -, hflawed⟩ := h
  exact hflawed

theorem Entry.defect?_eq_none_iff : e.defect? = none ↔ ∀ d, ¬ e.Flawed d := by
  simp only [Option.eq_none_iff_forall_ne_some, ne_eq, defect?_eq_some_iff]

theorem defect?_eq_some_iff {p : Plan} {a : String} {d : Defect} :
    p.defect? = some (a, d) ↔ ∃ e, p.FirstFlaw e d ∧ a = e.address := by
  rw [defect?, List.findSome?_eq_some_iff]
  simp only [Option.map_eq_some_iff, Option.map_eq_none_iff, Prod.mk.injEq,
    Entry.defect?_eq_some_iff, Entry.defect?_eq_none_iff]
  constructor
  · rintro ⟨before, e, after, hp, ⟨d, hd, rfl, rfl⟩, hbefore⟩
    exact ⟨e, ⟨before, after, hp, hbefore, hd⟩, rfl⟩
  · rintro ⟨e, ⟨before, after, hp, hbefore, hd⟩, rfl⟩
    exact ⟨before, e, after, hp, ⟨d, hd, rfl, rfl⟩, hbefore⟩

/-- An entry without an address is reported with an empty one, which is its own. -/
theorem Entry.Flawed.reported_address {d : Defect} (h : e.Flawed d) :
    (if d = .noAddress then "" else e.address) = e.address := by
  split
  case isTrue hd =>
      subst hd
      cases h with
      | noAddress ha => exact ha.symm
  case isFalse => rfl

/-- A plan is refused for its first flawed entry. -/
theorem extract_eq_error_iff {p : Plan} {f : Fault} :
    p.extract = .error f ↔ ∃ e d, p.FirstFlaw e d ∧ f = .planEntry e.address d := by
  have hsome : p.extract = .error f ↔ ∃ a d, p.defect? = some (a, d) ∧
      f = .planEntry (if d = .noAddress then "" else a) d := by
    rw [extract]
    rcases p.defect? with _ | ⟨a, d⟩
    · simp
    · simp [eq_comm (a := f)]
  rw [hsome]
  simp only [defect?_eq_some_iff]
  constructor
  · rintro ⟨-, d, ⟨e, hfirst, rfl⟩, rfl⟩
    exact ⟨e, d, hfirst, by rw [hfirst.flawed.reported_address]⟩
  · rintro ⟨e, d, hfirst, rfl⟩
    exact ⟨e.address, d, ⟨e, hfirst, rfl⟩, by rw [hfirst.flawed.reported_address]⟩

/-! ### Entries that stand alone -/

/-- What the plan does to the resources of a side. -/
def Side.action : Side → Action
  | .delete => .delete
  | .create => .create

/-- The other side. -/
def Side.opposite : Side → Side
  | .delete => .create
  | .create => .delete

/-- The kind of the entries that may give candidates of a side. -/
def Side.kind : Side → ActionKind
  | .delete => .delete
  | .create => .create

/-- The candidates of one side. -/
def Candidates.on (cs : Candidates) : Side → List Candidate
  | .delete => cs.deletes
  | .create => cs.creates

/-- The candidate of a side that an entry gives, when the opposite is done at `addresses`. -/
def Entry.candidate? : Side → List String → Entry → Option Candidate
  | .delete => deletion?
  | .create => creation?

/-- The attributes that a candidate of the side shows. -/
def Change.attributes? (change : Change) : Side → Option Json.Value
  | .delete => change.before
  | .create => change.after

variable {p : Plan} {addresses : List String}

theorem Entry.touches_kind_iff :
    e.touches side.kind ↔ e.isDeposed = false ∧ e.change.actions = [side.action] := by
  cases side <;>
    simp [touches, kind?, Side.kind, Side.action, ActionKind.of?_eq_create_iff,
      ActionKind.of?_eq_delete_iff]

theorem candidates_on : p.candidates.on side =
    p.entries.filterMap (Entry.candidate? side (addressesOf side.opposite.kind p.entries)) := by
  cases side <;> rfl

/-- `x` does the opposite of what makes a candidate of the side, to a current object, and at the
address of `e`. -/
structure Entry.Opposes (side : Side) (e x : Entry) : Prop where
  current : x.isDeposed = false
  actions : x.change.actions = [side.opposite.action]
  address : x.address = e.address

/-- The entry only does what makes a candidate of the side, to the current object of a managed
resource, and no entry does the opposite at its address. -/
structure Entry.Lone (side : Side) (entries : List Entry) (e : Entry) : Prop where
  only  : e.Only side.action
  alone : ∀ x ∈ entries, ¬ e.Opposes side x

/-- The candidate of the side is what the entry says: it has the address, the type, the provider and
the attributes on that side.  What is unknown is marked for a creation only, and not by a leaf other
than `true`. -/
structure Entry.Gives (side : Side) (e : Entry) (c : Candidate) : Prop where
  address_eq  : c.address = e.address
  type_eq     : c.type = e.type
  provider_eq : c.provider = e.provider
  side_eq     : c.side = side
  attributes  : ∃ v, e.change.attributes? side = some v ∧ c.attributes = .ofJson v
  unknown     : ∀ t, c.unknown = some t ↔ side = .create ∧
    ∃ v, e.change.unknown = some v ∧ t = .ofJson v ∧ ∀ s, t = .leaf s → s = .bool true

theorem exists_opposes_iff : (∃ x ∈ entries, e.Opposes side x) ↔
    e.address ∈ addressesOf side.opposite.kind entries := by
  simp only [mem_addressesOf, Entry.touches_kind_iff]
  refine exists_congr fun x => and_congr_right fun _ => ?_
  exact ⟨fun h => ⟨⟨h.current, h.actions⟩, h.address⟩, fun h => ⟨h.1.1, h.1.2, h.2⟩⟩

theorem Entry.lone_iff : e.Lone side entries ↔
    e.Only side.action ∧ e.address ∉ addressesOf side.opposite.kind entries := by
  rw [← exists_opposes_iff]
  push Not
  exact ⟨fun h => ⟨h.only, h.alone⟩, fun h => ⟨h.1, h.2⟩⟩

instance {action : Action} : Decidable (e.Only action) :=
  decidable_of_iff (e.isData = false ∧ e.isDeposed = false ∧ e.change.actions = [action])
    ⟨fun h => ⟨h.1, h.2.1, h.2.2⟩, fun h => ⟨h.managed, h.current, h.actions⟩⟩

instance {x : Entry} : Decidable (e.Opposes side x) :=
  decidable_of_iff
    (x.isDeposed = false ∧ x.change.actions = [side.opposite.action] ∧ x.address = e.address)
    ⟨fun h => ⟨h.1, h.2.1, h.2.2⟩, fun h => ⟨h.current, h.actions, h.address⟩⟩

instance : Decidable (e.Lone side entries) := decidable_of_iff _ Entry.lone_iff.symm

theorem usefulMask?_eq_some_iff {mask : Option Json.Value} {t : Tree} :
    usefulMask? mask = some t ↔
      ∃ v, mask = some v ∧ t = .ofJson v ∧ ∀ s, t = .leaf s → s = .bool true := by
  have huseful : (!t.isLeaf || t.isTrue) = true ↔ ∀ s, t = .leaf s → s = .bool true := by
    cases t with
    | leaf s =>
        rcases s with _ | b | _ | _
        case bool => cases b <;> simp [Tree.isLeaf, Tree.isTrue]
        all_goals simp [Tree.isLeaf, Tree.isTrue]
    | list => simp [Tree.isLeaf]
    | map => simp [Tree.isLeaf]
  rw [usefulMask?, Option.filter_eq_some_iff, huseful, Option.map_eq_some_iff]
  grind

/-- An entry gives one candidate at most. -/
theorem Entry.Gives.unique (h : e.Gives side c) (h' : e.Gives side c') : c = c' := by
  obtain ⟨v, hv, hattributes⟩ := h.attributes
  obtain ⟨v', hv', hattributes'⟩ := h'.attributes
  obtain rfl : v = v' := Option.some.inj (hv.symm.trans hv')
  have hunknown : c.unknown = c'.unknown :=
    Option.ext fun t => (h.unknown t).trans (h'.unknown t).symm
  cases c
  cases c'
  simp only [Candidate.mk.injEq]
  exact ⟨h.address_eq.trans h'.address_eq.symm, h.type_eq.trans h'.type_eq.symm,
    h.provider_eq.trans h'.provider_eq.symm, h.side_eq.trans h'.side_eq.symm,
    hattributes.trans hattributes'.symm, hunknown⟩

theorem Entry.gives_of_candidate? (h : e.candidate? side addresses = some c) :
    e.Only side.action ∧ e.address ∉ addresses ∧ e.Gives side c := by
  cases side with
  | delete =>
      obtain ⟨honly, haddress, before, hbefore, rfl⟩ := deletion?_eq_some_iff.1 h
      exact ⟨honly, haddress, rfl, rfl, rfl, rfl, ⟨before, hbefore, rfl⟩, fun t => by simp⟩
  | create =>
      obtain ⟨honly, haddress, after, hafter, rfl⟩ := creation?_eq_some_iff.1 h
      exact ⟨honly, haddress, rfl, rfl, rfl, rfl, ⟨after, hafter, rfl⟩, fun t => by
        simp [usefulMask?_eq_some_iff]⟩

theorem Entry.exists_candidate? {v : Json.Value} (honly : e.Only side.action)
    (haddress : e.address ∉ addresses) (hv : e.change.attributes? side = some v) :
    ∃ c, e.candidate? side addresses = some c := by
  cases side with
  | delete => exact ⟨_, deletion?_eq_some_iff.2 ⟨honly, haddress, v, hv, rfl⟩⟩
  | create => exact ⟨_, creation?_eq_some_iff.2 ⟨honly, haddress, v, hv, rfl⟩⟩

/-- An entry without a flaw has the attributes that its action requires. -/
theorem Entry.exists_attributes (hflaw : ∀ d, ¬ e.Flawed d)
    (h : e.change.actions = [side.action]) : ∃ v, e.change.attributes? side = some v := by
  have ha : e.address ≠ "" := fun ha => hflaw _ (.noAddress ha)
  have hid : e.Identified := ⟨ha, fun ht => hflaw _ (.noType ha ht)⟩
  refine Option.ne_none_iff_exists'.1 fun hnone => ?_
  cases side with
  | delete => exact hflaw _ (.deleteWithoutBefore hid h hnone)
  | create => exact hflaw _ (.createWithoutAfter hid h hnone)

/-- An entry without a flaw gives its candidate when it stands alone, and none when it does not. -/
theorem Entry.gives_cases (hflaw : ∀ d, ¬ e.Flawed d) :
    (e.Lone side entries → ∃ c,
      e.candidate? side (addressesOf side.opposite.kind entries) = some c ∧ e.Gives side c) ∧
    (¬ e.Lone side entries →
      e.candidate? side (addressesOf side.opposite.kind entries) = none) := by
  rw [lone_iff]
  constructor
  · rintro ⟨honly, haddress⟩
    obtain ⟨v, hv⟩ := exists_attributes hflaw honly.actions
    obtain ⟨c, hc⟩ := exists_candidate? honly haddress hv
    exact ⟨c, hc, (gives_of_candidate? hc).2.2⟩
  · intro hlone
    refine Option.eq_none_iff_forall_ne_some.2 fun c hc => hlone ?_
    obtain ⟨honly, haddress, -⟩ := gives_of_candidate? hc
    exact ⟨honly, haddress⟩

/-! ### Plans -/

/-- What filtering keeps is related, item by item, to what mapping gives, when that gives something
related to each item that is kept and nothing for the others. -/
theorem forall₂_filterMap {α β : Type} {P : α → Prop} [DecidablePred P] {f : α → Option β}
    {R : α → β → Prop} {l : List α} (hkept : ∀ x ∈ l, P x → ∃ y, f x = some y ∧ R x y)
    (hother : ∀ x ∈ l, ¬ P x → f x = none) : List.Forall₂ R (l.filter P) (l.filterMap f) := by
  induction l with
  | nil => exact .nil
  | cons x l ih =>
      have ih := ih (fun y hy => hkept y (List.mem_cons_of_mem _ hy))
        fun y hy => hother y (List.mem_cons_of_mem _ hy)
      by_cases hx : P x
      · obtain ⟨y, hy, hR⟩ := hkept x List.mem_cons_self hx
        simpa [hx, hy] using ⟨hR, ih⟩
      · simpa [hx, hother x List.mem_cons_self hx] using ih

theorem gives_candidates_on (hflaw : ∀ e ∈ p.entries, ∀ d, ¬ e.Flawed d) (side : Side) :
    List.Forall₂ (Entry.Gives side) (p.entries.filter (Entry.Lone side p.entries))
      (p.candidates.on side) := by
  rw [candidates_on]
  exact forall₂_filterMap (fun e he => (Entry.gives_cases (hflaw e he)).1)
    fun e he => (Entry.gives_cases (hflaw e he)).2

theorem Candidates.ext_on {cs ds : Candidates} (h : ∀ side, cs.on side = ds.on side) :
    cs = ds := by
  cases cs
  cases ds
  exact congrArg₂ Candidates.mk (h .delete) (h .create)

theorem forall_defect?_eq_none_iff : (∀ e ∈ p.entries, e.defect? = none) ↔
    ∀ e ∈ p.entries, ∀ d, ¬ e.Flawed d :=
  forall₂_congr fun _ _ => Entry.defect?_eq_none_iff

/-- **Extraction is exact.**  A plan is refused just when one of its entries is flawed, and then for
the first of these.  Any other plan has, on each side and in order, one candidate for each entry
that stands alone, the one which that entry gives. -/
theorem extract_exact (p : Plan) :
    ((∃ f, p.extract = .error f) ↔ ∃ e ∈ p.entries, ∃ d, e.Flawed d) ∧
    (∀ f, p.extract = .error f ↔ ∃ e d, p.FirstFlaw e d ∧ f = .planEntry e.address d) ∧
    ∀ cs, p.extract = .ok cs ↔ (∀ e ∈ p.entries, ∀ d, ¬ e.Flawed d) ∧
      ∀ side, List.Forall₂ (Entry.Gives side) (p.entries.filter (Entry.Lone side p.entries))
        (cs.on side) := by
  refine ⟨⟨?_, ?_⟩, fun f => extract_eq_error_iff, fun cs => ?_⟩
  · rintro ⟨f, hf⟩
    obtain ⟨e, d, ⟨before, after, hp, -, hd⟩, -⟩ := extract_eq_error_iff.1 hf
    exact ⟨e, hp ▸ List.mem_append_cons_self, d, hd⟩
  · rintro ⟨e, he, d, hd⟩
    cases h : p.extract with
    | error f => exact ⟨f, rfl⟩
    | ok cs => exact absurd hd (forall_defect?_eq_none_iff.1 (extract_eq_ok_iff.1 h).1 e he d)
  · rw [extract_eq_ok_iff, forall_defect?_eq_none_iff]
    refine and_congr_right fun hflaw => ⟨?_, fun h => Candidates.ext_on fun side => ?_⟩
    · rintro rfl
      exact gives_candidates_on hflaw
    · have hunique : Relator.RightUnique (Entry.Gives side) := fun _ _ _ => Entry.Gives.unique
      exact List.right_unique_forall₂' hunique (h side) (gives_candidates_on hflaw side)

/-- The data source, the deposed object and the two halves of the replacement do not stand alone. -/
example : (renamed.entries.filter (Entry.Lone .create renamed.entries)).map (·.address) =
    ["t.c", "t.b"] := by decide

end ResourceMoves.Plan
