import ResourceMoves.Json.Document
import ResourceMoves.Proofs.Result

/-!
# JSON values and the documents that denote them

The values that documents have are nested to a bounded depth and hold their keys in order
(`Value.Within`).  **The document of such a value has that value again**
(`Document.value?_ofValue`), so writing and reading lose nothing once something has been read.  How
the entries of an object are ordered matters to no reader of a record (`Document.fields?_perm`), and
putting them in key order (`Value.arranged`) changes nothing in a value that was read.
-/

namespace ResourceMoves.Json

variable {depth : Nat} {v : Value} {d : Document}

/-! ### Values that are read -/

/-- The value has at most `depth` arrays and objects around any part, and the keys of its objects
are in order. -/
inductive Value.Within : Nat → Value → Prop
  | null (depth : Nat) : Within depth .null
  | bool (depth : Nat) (b : Bool) : Within depth (.bool b)
  | number (depth : Nat) (n : Number) : Within depth (.number n)
  | string (depth : Nat) (s : String) : Within depth (.string s)
  | array {depth : Nat} {items : List Value} (h : ∀ v ∈ items, Within depth v) :
      Within (depth + 1) (.array items)
  | object {depth : Nat} {entries : Keyed Value} (hordered : entries.Ordered)
      (h : ∀ e ∈ entries, Within depth e.2) : Within (depth + 1) (.object entries)

namespace Document

theorem ofItems_eq_map (items : List Value) : ofItems items = items.map ofValue := by
  induction items with
  | nil => rfl
  | cons v items ih => rw [ofItems, ih, List.map_cons]

theorem ofEntries_eq_map (entries : List (String × Value)) :
    ofEntries entries = entries.map fun e => (some e.1, ofValue e.2) := by
  induction entries with
  | nil => rfl
  | cons e entries ih => rw [ofEntries, ih, List.map_cons]

theorem value?_array_eq_some_iff {items : List Document} :
    (array items).value? depth = some v ↔ ∃ below vs, depth = below + 1 ∧
      List.Forall₂ (fun d x => d.value? below = some x) items vs ∧ .array vs = v := by
  cases depth with
  | zero => simp [value?]
  | succ below =>
      rw [value?, Option.map_eq_some_iff]
      simp only [mapM_eq_some_iff]
      constructor
      · rintro ⟨vs, hvs, rfl⟩
        exact ⟨below, vs, rfl, hvs, rfl⟩
      · rintro ⟨_, vs, ⟨⟩, hvs, rfl⟩
        exact ⟨vs, hvs, rfl⟩

theorem value?_object_eq_some_iff {entries : List (Option String × Document)} :
    (object entries).value? depth = some v ↔ ∃ below es, depth = below + 1 ∧
      List.Forall₂ (fun e x => e.1 = some x.1 ∧ e.2.value? below = some x.2) entries es ∧
      .object (Keyed.ofEntries es) = v := by
  cases depth with
  | zero => simp [value?]
  | succ below =>
      have hentry (e : Option String × Document) (x : String × Value) :
          (do return (← e.1, ← e.2.value? below) : Option (String × Value)) = some x ↔
            e.1 = some x.1 ∧ e.2.value? below = some x.2 := by
        obtain ⟨k, x⟩ := x
        cases e.1 <;> cases e.2.value? below <;> simp
      rw [value?, Option.map_eq_some_iff]
      simp only [mapM_eq_some_iff, hentry]
      constructor
      · rintro ⟨es, hes, rfl⟩
        exact ⟨below, es, rfl, hes, rfl⟩
      · rintro ⟨_, es, ⟨⟩, hes, rfl⟩
        exact ⟨es, hes, rfl⟩

/-- **The value of a document** is within the depth at which it is read. -/
theorem within_of_value? (h : d.value? depth = some v) : v.Within depth := by
  induction depth using Nat.strongRecOn generalizing d v with
  | ind depth ih =>
      cases d with
      | null =>
          rw [value?] at h
          cases h
          exact .null depth
      | bool b =>
          rw [value?] at h
          cases h
          exact .bool depth b
      | number n =>
          rw [value?] at h
          obtain ⟨n, -, rfl⟩ := Option.map_eq_some_iff.1 h
          exact .number depth n
      | string s =>
          rw [value?] at h
          obtain ⟨s, -, rfl⟩ := Option.map_eq_some_iff.1 h
          exact .string depth s
      | array items =>
          obtain ⟨below, vs, rfl, hvs, rfl⟩ := value?_array_eq_some_iff.1 h
          refine .array fun x hx => ?_
          obtain ⟨d, -, hd⟩ := exists_of_forall₂ hvs hx
          exact ih below (Nat.lt_succ_self below) hd
      | object entries =>
          obtain ⟨below, es, rfl, hes, rfl⟩ := value?_object_eq_some_iff.1 h
          refine .object (Keyed.ordered_ofEntries es) fun x hx => ?_
          obtain ⟨e, -, -, he⟩ := exists_of_forall₂ hes (Keyed.mem_of_mem_ofEntries hx)
          exact ih below (Nat.lt_succ_self below) he

/-- **The document of a value** within the depth has that value. -/
theorem value?_ofValue (h : v.Within depth) : (ofValue v).value? depth = some v := by
  induction h with
  | null | bool | number | string => rw [ofValue, value?]; try rfl
  | array _ ih =>
      rw [ofValue, ofItems_eq_map]
      refine value?_array_eq_some_iff.2 ⟨_, _, rfl, ?_, rfl⟩
      exact List.forall₂_map_left_iff.2 (List.forall₂_same.2 ih)
  | object hordered _ ih =>
      rw [ofValue, ofEntries_eq_map]
      have hentries := Keyed.ofEntries_of_ordered hordered
      refine value?_object_eq_some_iff.2 ⟨_, _, rfl, ?_, congrArg Value.object hentries⟩
      exact List.forall₂_map_left_iff.2 (List.forall₂_same.2 fun e he => ⟨rfl, ih e he⟩)

/-- Only null denotes null. -/
theorem value?_ne_null (h : d ≠ .null) : d.value? depth ≠ some .null := by
  cases d with
  | null => exact absurd rfl h
  | bool | number | string => simp [value?]
  | array items =>
      rw [Ne, value?_array_eq_some_iff]
      rintro ⟨_, _, _, _, ⟨⟩⟩
  | object entries =>
      rw [Ne, value?_object_eq_some_iff]
      rintro ⟨_, _, _, _, ⟨⟩⟩

theorem ofValue_ne_null (h : v ≠ .null) : ofValue v ≠ .null := by
  cases v <;> simp [ofValue] at h ⊢

/-! ### The order of entries -/

/-- Which part a key has does not depend on the order. -/
theorem part?_perm {entries entries' : List (String × Document)} (h : entries.Perm entries')
    (name : String) : part? entries name = part? entries' name := by
  have hfilter := h.filter fun e => e.1 == name
  unfold part?
  split
  · rename_i heq
    rw [heq] at hfilter
    rw [hfilter.symm.eq_nil]
  · rename_i k d heq
    rw [heq] at hfilter
    rw [hfilter.symm.eq_singleton]
  · rename_i hnil hone
    split
    · rename_i heq
      rw [heq] at hfilter
      exact absurd hfilter.eq_nil hnil
    · rename_i k d heq
      rw [heq] at hfilter
      exact absurd hfilter.eq_singleton (hone k d)
    · rfl

theorem fields?_ofValue_object (names : List String) (entries : List (String × Value)) :
    (ofValue (.object entries)).fields? names =
      names.mapM (part? (entries.map fun e => (e.1, ofValue e.2))) := by
  have hkeys : (ofEntries entries).mapM (fun e => e.1.map (·, e.2)) =
      some (entries.map fun e => (e.1, ofValue e.2)) := by
    rw [ofEntries_eq_map, mapM_eq_some_iff, List.forall₂_map_left_iff, List.forall₂_map_right_iff]
    exact List.forall₂_same.2 fun e _ => rfl
  simp only [ofValue, fields?, hkeys, Option.bind_eq_bind, Option.bind_some]

/-- **The fields of a record** do not depend on the order in which an object has them. -/
theorem fields?_perm {entries entries' : List (String × Value)} (h : entries.Perm entries')
    (names : List String) :
    (ofValue (.object entries)).fields? names = (ofValue (.object entries')).fields? names := by
  rw [fields?_ofValue_object, fields?_ofValue_object]
  exact congrArg (names.mapM ·) (funext (part?_perm (h.map _)))

end Document

namespace Value

mutual

/-- The value with the entries of all its objects in key order. -/
def arranged : Value → Value
  | .null           => .null
  | .bool b         => .bool b
  | .number n       => .number n
  | .string s       => .string s
  | .array items    => .array (arrangedItems items)
  | .object entries => .object (Keyed.ofEntries (arrangedEntries entries))

/-- The items of an array, each arranged. -/
def arrangedItems : List Value → List Value
  | []      => []
  | v :: vs => v.arranged :: arrangedItems vs

/-- The entries of an object, each arranged, in the order in which they were. -/
def arrangedEntries : List (String × Value) → List (String × Value)
  | []           => []
  | (k, v) :: es => (k, v.arranged) :: arrangedEntries es

end

theorem arrangedItems_eq_map (items : List Value) : arrangedItems items = items.map arranged := by
  induction items with
  | nil => rfl
  | cons v items ih => rw [arrangedItems, ih, List.map_cons]

theorem arrangedEntries_eq_map (entries : List (String × Value)) :
    arrangedEntries entries = entries.map fun e => (e.1, e.2.arranged) := by
  induction entries with
  | nil => rfl
  | cons e entries ih => rw [arrangedEntries, ih, List.map_cons]

/-- A value that was read is in key order already. -/
theorem Within.arranged_eq (h : v.Within depth) : v.arranged = v := by
  induction h with
  | null | bool | number | string => rw [arranged]
  | array _ ih => rw [arranged, arrangedItems_eq_map, List.map_congr_left ih, List.map_id']
  | @object _ entries hordered _ ih =>
      have hentries : entries.map (fun e => (e.1, e.2.arranged)) = entries :=
        (List.map_congr_left fun e he => by rw [ih e he]).trans (List.map_id' entries)
      rw [arranged, arrangedEntries_eq_map, hentries, Keyed.ofEntries_of_ordered hordered]

/-- A record whose fields have different names is read the same when it is arranged. -/
theorem fields?_arranged {entries : List (String × Value)} (h : (entries.map (·.1)).Nodup)
    (names : List String) : (Document.ofValue (arranged (.object entries))).fields? names =
      (Document.ofValue (.object (entries.map fun e => (e.1, e.2.arranged)))).fields? names := by
  rw [arranged, arrangedEntries_eq_map]
  refine Document.fields?_perm (Keyed.ofEntries_perm ?_) names
  rw [List.map_map]
  exact h

end Value

end ResourceMoves.Json
