import ResourceMoves.Proofs.Plan.Extraction

/-!
# Plan — one more entry

What becomes of an analysis when one more entry is put into its plan, at any place.  An entry that
neither creates nor destroys gives no candidate and takes none away (`candidates_insert`), so with
such an entry the analysis gives the same (`analyse_insert_other`).  A flawed entry makes it fail
(`analyse_insert_flawed`).

**Actions that are not known are tolerated alone** (`analyse_insert_unfamiliar`).  An entry whose only
action is to forget the object, or is one that is not recognized, changes nothing.  Beside any other
action, even a second one of that sort, such an action is nothing that planners are taken to
produce, and the whole plan is refused for it.
-/

namespace ResourceMoves.Plan

open ResourceMoves.Matching (Watch)

variable {p q : Plan} {e : Entry} {before after : List Entry} {watch : Watch}
  {rules : List Ignore.Rule} {m : Matching}

/-! ### Entries that change nothing -/

theorem Entry.touches_of_other (h : e.kind? = some .other) (side : Side) :
    e.touches side.kind = false := by
  cases side <;> simp [touches, h, Side.kind]

theorem Entry.defect?_of_other (hid : e.Identified) (h : e.kind? = some .other) :
    e.defect? = none := by
  simp [Entry.defect?, hid.address, hid.type, h]

theorem Entry.candidate?_of_not_touches {side : Side} (h : e.touches side.kind = false)
    (addresses : List String) : e.candidate? side addresses = none := by
  refine Option.eq_none_iff_forall_ne_some.2 fun c hc => ?_
  obtain ⟨honly, -, -⟩ := gives_of_candidate? hc
  have htouches : e.touches side.kind := touches_kind_iff.2 ⟨honly.current, honly.actions⟩
  exact Bool.false_ne_true (h.symm.trans htouches)

/-- **An entry that neither creates nor destroys** leaves the candidates as they are. -/
theorem candidates_insert (hp : p.entries = before ++ after) (hq : q.entries = before ++ e :: after)
    (h : ∀ side : Side, e.touches side.kind = false) : q.candidates = p.candidates := by
  have haddresses (side : Side) :
      addressesOf side.kind q.entries = addressesOf side.kind p.entries := by
    simp [addressesOf, hp, hq, h side]
  refine Candidates.ext_on fun side => ?_
  rw [candidates_on, candidates_on, haddresses side.opposite, hp, hq, List.filterMap_append,
    List.filterMap_append, List.filterMap_cons_none (Entry.candidate?_of_not_touches (h side) _)]

/-- An entry that does something else changes nothing. -/
theorem analyse_insert_other (hp : p.entries = before ++ after)
    (hq : q.entries = before ++ e :: after) (hid : e.Identified) (hkind : e.kind? = some .other)
    (hm : p.analyse watch rules = .ok m) : q.analyse watch rules = .ok m := by
  obtain ⟨hstart, hentries, hsolve⟩ := analyse_eq_ok_iff.1 hm
  refine analyse_eq_ok_iff.2 ⟨hstart, ?_, ?_⟩
  · rw [hp, List.forall_mem_append] at hentries
    rw [hq, List.forall_mem_append, List.forall_mem_cons]
    exact ⟨hentries.1, Entry.defect?_of_other hid hkind, hentries.2⟩
  · rwa [candidates_insert hp hq (Entry.touches_of_other hkind)]

/-! ### Entries that are refused -/

/-- An entry that is flawed makes the analysis fail. -/
theorem analyse_insert_flawed {d : Defect} (hp : p.entries = before ++ after)
    (hq : q.entries = before ++ e :: after) (hd : e.Flawed d)
    (hm : p.analyse watch rules = .ok m) :
    q.analyse watch rules = .error (.planEntry e.address d) := by
  obtain ⟨hstart, hentries, -⟩ := analyse_eq_ok_iff.1 hm
  rw [hp, List.forall_mem_append] at hentries
  have hbefore : ∀ x ∈ before, ∀ d, ¬ x.Flawed d := fun x hx =>
    Entry.defect?_eq_none_iff.1 (hentries.1 x hx)
  have hextract : q.extract = .error (.planEntry e.address d) :=
    extract_eq_error_iff.2 ⟨e, d, ⟨before, after, hq, hbefore, hd⟩, rfl⟩
  rw [analyse, Matching.checkpoint, hstart, hextract]
  rfl

/-! ### Unfamiliar actions -/

/-- Some action of the entry is to forget the object, or is one that is not recognized. -/
def Entry.Unfamiliar (e : Entry) : Prop :=
  .forget ∈ e.change.actions ∨ .unrecognized ∈ e.change.actions

instance : Decidable e.Unfamiliar := inferInstanceAs (Decidable (_ ∨ _))

theorem Entry.Unfamiliar.kind?_eq_other (h : e.Unfamiliar) (hsingle : e.change.actions.length = 1) :
    e.kind? = some .other := by
  obtain ⟨a, ha⟩ := List.length_eq_one_iff.1 hsingle
  simp only [Unfamiliar, ha, List.mem_singleton] at h
  rw [kind?, ha]
  rcases h with rfl | rfl <;> rfl

/-- The two actions of a replacement are known. -/
theorem Entry.Unfamiliar.not_planned (h : e.Unfamiliar) (hsingle : e.change.actions.length ≠ 1) :
    ¬ Planned e.change.actions := by
  rintro (⟨a, ha⟩ | ha | ha)
  · exact hsingle (by rw [ha, List.length_singleton])
  · simp [Unfamiliar, ha] at h
  · simp [Unfamiliar, ha] at h

/-- **An unfamiliar action is tolerated alone.**  Let an entry be put into a plan that is analysed, at
any place, and let it say what it is about and have an action to forget or one that is not
recognized.  If that is its only action, the analysis gives what it gave; if not, the plan is
refused for the actions of this entry. -/
theorem analyse_insert_unfamiliar (hp : p.entries = before ++ after)
    (hq : q.entries = before ++ e :: after) (hid : e.Identified) (he : e.Unfamiliar)
    (hm : p.analyse watch rules = .ok m) :
    q.analyse watch rules = if e.change.actions.length = 1 then .ok m
      else .error (.planEntry e.address (.actions (e.change.actions.map Action.name))) := by
  split
  case isTrue hsingle =>
      exact analyse_insert_other hp hq hid (he.kind?_eq_other hsingle) hm
  case isFalse hsingle =>
      exact analyse_insert_flawed hp hq (.actions hid (he.not_planned hsingle)) hm

/-- The entry of a resource that is forgotten, and maybe something else. -/
def forgotten (further : List Action) : Entry :=
  .managed "t.y" (.forget :: further) (some (.object [])) none

/-- The renaming with an entry put in the middle. -/
def renamedWith (e : Entry) : Plan :=
  { renamed with entries := renamed.entries.take 3 ++ e :: renamed.entries.drop 3 }

theorem identified_forgotten (further : List Action) : (forgotten further).Identified :=
  ⟨by simp [forgotten, Entry.managed], by simp [forgotten, Entry.managed]⟩

/-- In the middle of a renaming something is forgotten, which changes nothing.  When it is forgotten
and created anew, the plan is refused. -/
theorem analyse_insert_unfamiliar_renamed :
    ∃ m, renamed.analyse .never [] = .ok m ∧ (forgotten []).Unfamiliar ∧
      (renamedWith (forgotten [])).analyse .never [] = .ok m ∧
      (forgotten [.create]).Unfamiliar ∧
      (renamedWith (forgotten [.create])).analyse .never [] =
        .error (.planEntry "t.y" (.actions ["forget", "create"])) := by
  obtain ⟨m, hm, -⟩ := analyse_renamed
  have hentries : renamed.entries = renamed.entries.take 3 ++ renamed.entries.drop 3 :=
    (List.take_append_drop 3 _).symm
  have halone : (forgotten []).Unfamiliar := by decide
  have hanew : (forgotten [.create]).Unfamiliar := by decide
  exact ⟨m, hm, halone,
    analyse_insert_unfamiliar (q := renamedWith _) hentries rfl (identified_forgotten _) halone hm,
    hanew,
    analyse_insert_unfamiliar (q := renamedWith _) hentries rfl (identified_forgotten _) hanew hm⟩

/-- Not every entry with an unfamiliar action is tolerated. -/
theorem not_analyse_insert_unfamiliar_ok :
    ¬ ∀ (p q : Plan) (before after : List Entry) (e : Entry) (watch : Watch)
      (rules : List Ignore.Rule) (m : Matching), p.entries = before ++ after →
      q.entries = before ++ e :: after → e.Identified → e.Unfamiliar →
      p.analyse watch rules = .ok m → ∃ n, q.analyse watch rules = .ok n := by
  intro h
  obtain ⟨m, hm, -⟩ := analyse_renamed
  obtain ⟨n, hn⟩ := h renamed (renamedWith (forgotten [.create])) _ _ _ .never [] m
    (List.take_append_drop 3 _).symm rfl (identified_forgotten _) (by decide) hm
  have hdefect := (analyse_eq_ok_iff.1 hn).2.1 (forgotten [.create])
    (List.mem_append_right _ List.mem_cons_self)
  exact absurd hdefect (by decide)

end ResourceMoves.Plan
