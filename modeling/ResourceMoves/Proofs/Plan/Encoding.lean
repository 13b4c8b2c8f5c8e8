import ResourceMoves.Analysis
import ResourceMoves.Proofs.Json.Documents

/-!
# Plans — encoding and decoding

What reading a plan leaves in it (`Readable`): attributes are never null, since null stands for
none, they are within the depth at which plans are read, and their keys are in order.  A record is
read from its fields (`ofJson?_of_fields`), in whatever order they stand, and writing gives each
field its own value.  So **just the plans of this kind are read back from what they are written
as**, whether the fields stand in the order of the record or in key order (`encoding_faithful`).
-/

namespace ResourceMoves.Plan

open ResourceMoves.Json (Document Value)

variable {c : Change} {e : Entry} {p : Plan} {d : Document}

/-! ### What is read -/

/-- The attributes of a side, if there are any, are as they are read. -/
def ReadableSide (side : Option Value) : Prop :=
  ∀ v, side = some v → v ≠ .null ∧ v.Within attributeDepth

/-- All attributes of the change are as they are read. -/
structure Change.Readable (c : Change) : Prop where
  before  : ReadableSide c.before
  after   : ReadableSide c.after
  unknown : ReadableSide c.unknown

/-- All attributes of the plan are as they are read. -/
def Readable (p : Plan) : Prop := ∀ e ∈ p.entries, e.change.Readable

theorem readableSide_of_optional? {field : Option Document} {side : Option Value}
    (h : Document.optional? (·.value? attributeDepth) field = some side) : ReadableSide side := by
  rintro v rfl
  unfold Document.optional? at h
  split at h
  case h_1 | h_2 => cases h
  case h_3 d hnull =>
      obtain ⟨v, hv, heq⟩ := Option.map_eq_some_iff.1 h
      cases heq
      refine ⟨?_, Document.within_of_value? hv⟩
      rintro rfl
      exact Document.value?_ne_null (fun h => hnull (by rw [h])) hv

theorem Change.readable_of_ofJson? (h : ofJson? d = some c) : c.Readable := by
  obtain ⟨fields, -, h⟩ := Option.bind_eq_some_iff.1 h
  split at h
  case h_2 => cases h
  simp only [Option.bind_eq_bind, Option.bind_eq_some_iff, Option.pure_def, Option.some.injEq] at h
  obtain ⟨-, -, -, -, -, -, before, hbefore, after, hafter, unknown, hunknown, rfl⟩ := h
  exact ⟨readableSide_of_optional? hbefore, readableSide_of_optional? hafter,
    readableSide_of_optional? hunknown⟩

theorem Entry.readable_of_ofJson? (h : ofJson? d = some e) : e.change.Readable := by
  obtain ⟨fields, -, h⟩ := Option.bind_eq_some_iff.1 h
  split at h
  case h_2 => cases h
  simp only [Option.bind_eq_bind, Option.bind_eq_some_iff, Option.pure_def, Option.some.injEq] at h
  obtain ⟨-, -, -, -, -, -, -, -, -, -, -, -, field, -, change, hchange, rfl⟩ := h
  exact Change.readable_of_ofJson? hchange

/-- **A plan that is read** has only such attributes. -/
theorem readable_of_ofJson? (h : ofJson? d = some p) : p.Readable := by
  obtain ⟨fields, -, h⟩ := Option.bind_eq_some_iff.1 h
  split at h
  case h_2 => cases h
  simp only [Option.bind_eq_bind, Option.bind_eq_some_iff, Option.pure_def, Option.some.injEq] at h
  obtain ⟨-, -, -, -, items, -, entries, hentries, rfl⟩ := h
  intro e he
  obtain ⟨item, -, he⟩ := exists_of_forall₂ (mapM_eq_some_iff.1 hentries) he
  exact Entry.readable_of_ofJson? he

/-! ### Parts that are written -/

theorem optional?_orNull {side : Option Value} (h : ReadableSide side) :
    Document.optional? (·.value? attributeDepth) (some (.ofValue (.orNull side))) = some side := by
  cases side with
  | none => rfl
  | some v =>
      obtain ⟨hnull, hwithin⟩ := h v rfl
      have hdocument := Document.ofValue_ne_null hnull
      rw [Value.orNull, Document.optional?]
      · rw [Document.value?_ofValue hwithin, Option.map_some]
      · exact hdocument

theorem optional?_stringOrNull (s : Option String) :
    Document.optional? Document.text? (some (.ofValue (.stringOrNull s))) = some s := by
  cases s <;> rfl

theorem defaulting?_string (default s : String) :
    Document.defaulting? default Document.text? (some (.ofValue (.string s))) = some s := rfl

theorem mapM_actions (actions : List Action) :
    (actions.map fun a => Document.ofValue (.string a.name)).mapM Action.ofJson? =
      some actions := by
  rw [mapM_eq_some_iff, List.forall₂_map_left_iff]
  refine List.forall₂_same.2 fun a _ => ?_
  exact congrArg some (Action.ofName_name a)

/-! ### Records -/

/-- A change is read from its fields. -/
theorem Change.ofJson?_of_fields (hc : c.Readable)
    (h : d.fields? changeFields =
      some [some (.ofValue (.strings (c.actions.map Action.name))),
        some (.ofValue (.orNull c.before)), some (.ofValue (.orNull c.after)),
        some (.ofValue (.orNull c.unknown))]) :
    ofJson? d = some c := by
  have hactions : (Document.ofValue (.strings (c.actions.map Action.name))).items? =
      some (c.actions.map fun a => Document.ofValue (.string a.name)) := by
    simp [Value.strings, Document.ofValue, Document.items?, Document.ofItems_eq_map]
  simp only [ofJson?, h, Option.bind_eq_bind, Option.bind_some, hactions, mapM_actions,
    optional?_orNull hc.before, optional?_orNull hc.after, optional?_orNull hc.unknown,
    Option.pure_def]

/-- An entry is read from its fields. -/
theorem Entry.ofJson?_of_fields {change : Document}
    (hchange : Change.ofJson? change = some e.change) (h : d.fields? entryFields =
      some [some (.ofValue (.string e.address)), some (.ofValue (.stringOrNull e.mode)),
        some (.ofValue (.string e.type)), some (.ofValue (.stringOrNull e.name)),
        some (.ofValue (.string e.provider)), e.deposed.map fun key => .ofValue (.string key),
        some change]) :
    ofJson? d = some e := by
  have hdeposed : Document.optional? Document.text?
      (e.deposed.map fun key => Document.ofValue (.string key)) = some e.deposed := by
    cases e.deposed <;> rfl
  simp only [ofJson?, h, Option.bind_eq_bind, Option.bind_some, optional?_stringOrNull,
    defaulting?_string, hdeposed, hchange, Option.pure_def]

/-- A plan is read from its fields. -/
theorem ofJson?_of_fields {entries : List Document}
    (hentries : entries.mapM Entry.ofJson? = some p.entries)
    (h : d.fields? planFields =
      some [some (.ofValue (.stringOrNull p.formatVersion)),
        some (.ofValue (.stringOrNull p.plannerVersion)), some (.array entries)]) :
    ofJson? d = some p := by
  simp only [ofJson?, h, Option.bind_eq_bind, Option.bind_some, optional?_stringOrNull,
    Document.defaulting?, Document.items?, hentries, Option.pure_def]

/-! ### What is written -/

theorem Change.ofJson?_toJson (hc : c.Readable) : ofJson? (.ofValue c.toJson) = some c := by
  refine ofJson?_of_fields hc ?_
  rw [toJson, Document.fields?_ofValue_object]
  rfl

theorem Entry.ofJson?_toJson (hc : e.change.Readable) : ofJson? (.ofValue e.toJson) = some e := by
  refine ofJson?_of_fields (Change.ofJson?_toJson hc) ?_
  rw [toJson, Document.fields?_ofValue_object]
  cases e.deposed <;> rfl

/-- A list of entries in a plan is read when each of its entries is. -/
theorem mapM_entries {write : Entry → Value}
    (h : ∀ e ∈ p.entries, Entry.ofJson? (.ofValue (write e)) = some e) :
    (Document.ofItems (p.entries.map write)).mapM Entry.ofJson? = some p.entries := by
  rw [Document.ofItems_eq_map, List.map_map, mapM_eq_some_iff, List.forall₂_map_left_iff]
  exact List.forall₂_same.2 h

theorem ofJson?_toJson (h : p.Readable) : ofJson? (.ofValue p.toJson) = some p := by
  refine ofJson?_of_fields (mapM_entries fun e he => Entry.ofJson?_toJson (h e he)) ?_
  rw [toJson, Document.fields?_ofValue_object]
  rfl

/-! ### What is written, in key order -/

theorem arranged_strings (items : List String) :
    (Value.strings items).arranged = .strings items := by
  simp [Value.strings, Value.arranged, Value.arrangedItems_eq_map]

theorem arranged_stringOrNull (s : Option String) :
    (Value.stringOrNull s).arranged = .stringOrNull s := by
  cases s <;> rfl

theorem arranged_orNull {side : Option Value} (h : ReadableSide side) :
    (Value.orNull side).arranged = .orNull side := by
  cases side with
  | none => rfl
  | some v => exact (h v rfl).2.arranged_eq

theorem Change.ofJson?_arranged (hc : c.Readable) :
    ofJson? (.ofValue c.toJson.arranged) = some c := by
  refine ofJson?_of_fields hc ?_
  rw [toJson, Value.fields?_arranged (by simp), Document.fields?_ofValue_object]
  simp only [List.map_cons, List.map_nil, arranged_strings, arranged_orNull hc.before,
    arranged_orNull hc.after, arranged_orNull hc.unknown]
  rfl

theorem Entry.ofJson?_arranged (hc : e.change.Readable) :
    ofJson? (.ofValue e.toJson.arranged) = some e := by
  refine ofJson?_of_fields (Change.ofJson?_arranged hc) ?_
  rw [toJson, Value.fields?_arranged (by cases e.deposed <;> simp), Document.fields?_ofValue_object]
  simp only [List.map_cons, List.map_append, arranged_stringOrNull]
  cases e.deposed <;> rfl

theorem ofJson?_arranged (h : p.Readable) : ofJson? (.ofValue p.toJson.arranged) = some p := by
  refine ofJson?_of_fields (mapM_entries fun e he => Entry.ofJson?_arranged (h e he)) ?_
  rw [toJson, Value.fields?_arranged (by simp), Document.fields?_ofValue_object]
  simp only [List.map_cons, List.map_nil, arranged_stringOrNull, Value.arranged,
    Value.arrangedItems_eq_map, List.map_map, Function.comp_def]
  rfl

/-! ### The theorem -/

/-- **Encoding and decoding agree.**  Any document from which a plan is read, however it is written,
gives a plan that is read again from the value it is written as, with the fields of each record in
the order of the record or in key order; so extracting its candidates, analysing it and writing it
once more give the same.  Just the plans whose attributes are as they are read, and so never null,
come back from what is written. -/
theorem encoding_faithful :
    (∀ (d : Document) (p : Plan), ofJson? d = some p → ∀ v ∈ [p.toJson, p.toJson.arranged],
      ofJson? (.ofValue v) = some p ∧
      (ofJson? (.ofValue v)).map Plan.extract = some p.extract ∧
      (∀ (watch : Matching.Watch) (rules : List Ignore.Rule),
        (ofJson? (.ofValue v)).map (·.analyse watch rules) = some (p.analyse watch rules)) ∧
      (ofJson? (.ofValue v)).map Plan.toJson = some p.toJson) ∧
    ∀ p : Plan, (p.Readable ↔ ofJson? (.ofValue p.toJson) = some p) ∧
      (p.Readable ↔ ofJson? (.ofValue p.toJson.arranged) = some p) := by
  refine ⟨fun d p h v hv => ?_, fun p => ⟨⟨ofJson?_toJson, readable_of_ofJson?⟩,
    ofJson?_arranged, readable_of_ofJson?⟩⟩
  have hread : ofJson? (.ofValue v) = some p := by
    rcases List.mem_pair.1 hv with rfl | rfl
    · exact ofJson?_toJson (readable_of_ofJson? h)
    · exact ofJson?_arranged (readable_of_ofJson? h)
  exact ⟨hread, by rw [hread, Option.map_some], fun watch rules => by rw [hread, Option.map_some],
    by rw [hread, Option.map_some]⟩

/-- A plan with an unknown field, fields out of order, left out and null, a change as an array, and
an action without a name of its own. -/
def looseText : String :=
  "\x7b\"extra\":1,\"resource_changes\":[\x7b\"change\":[[\"delete\",\x7b\"defer\":null\x7d]," ++
    "null,\x7b\"b\":1,\"a\":2.5\x7d],\"type\":\"t\",\"name\":null\x7d]," ++
    "\"format_version\":null\x7d"

/-- It is read, and comes back from what it is written as. -/
theorem encoding_faithful_loose :
    ∃ d p, Document.ofText? looseText = some d ∧ ofJson? d = some p ∧
      p.entries.map (·.change.actions) = [[.delete, .unrecognized]] ∧
      ofJson? (.ofValue p.toJson) = some p ∧
      (ofJson? (.ofValue p.toJson.arranged)).map Plan.extract = some p.extract := by
  obtain ⟨d, hd, hsome⟩ := (Option.any_eq_true _ _).1 (by decide +kernel :
    (Document.ofText? looseText).any fun d => (ofJson? d).any fun p =>
      p.entries.map (·.change.actions) == [[.delete, .unrecognized]])
  obtain ⟨p, hp, hactions⟩ := (Option.any_eq_true _ _).1 hsome
  exact ⟨d, p, hd, hp, beq_iff_eq.1 hactions,
    (encoding_faithful.1 d p hp p.toJson (by simp)).1,
    (encoding_faithful.1 d p hp p.toJson.arranged (by simp)).2.1⟩

end ResourceMoves.Plan
