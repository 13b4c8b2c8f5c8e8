import Mathlib.Tactic.SplitIfs
import ResourceMoves.Json.Reader
import ResourceMoves.Proofs.Result

/-!
# JSON — the numbers of what is read

A text may spell any number, but what is read from it holds only integers of 64 bits and finite
doubles (`Number.Proper`): a literal beyond the doubles is kept as no number at all, and a document
with such a leaf has no value.  This is said of documents and of values alike, by constructors, so
that it goes down to their parts.

**What is read is proper**: every document (`Document.proper_of_read?`), and so every value
(`Value.proper_of_ofText?`).  The reader is taken apart once, a function at a time: what one
unit of fuel can read is a leaf, or is put together from what less fuel reads
(`document?_cases`, `items?_cases`, `entries?_cases`).
-/

namespace ResourceMoves.Json

/-- A number as it is read: an integer of 64 bits, or a finite double. -/
def Number.Proper : Number → Prop
  | .integer i => isWord i = true
  | .float x   => x.isFinite = true

/-- Every number of the document is one as it is read. -/
inductive Document.Proper : Document → Prop
  | null : Proper .null
  | bool (b : Bool) : Proper (.bool b)
  | number {n : Option Number} (h : ∀ x, n = some x → x.Proper) : Proper (.number n)
  | string (s : Option String) : Proper (.string s)
  | array {items : List Document} (h : ∀ d ∈ items, Proper d) : Proper (.array items)
  | object {entries : List (Option String × Document)} (h : ∀ e ∈ entries, Proper e.2) :
      Proper (.object entries)

/-- Every number of the value is one as it is read. -/
inductive Value.Proper : Value → Prop
  | null : Proper .null
  | bool (b : Bool) : Proper (.bool b)
  | number {n : Number} (h : n.Proper) : Proper (.number n)
  | string (s : String) : Proper (.string s)
  | array {items : List Value} (h : ∀ v ∈ items, Proper v) : Proper (.array items)
  | object {entries : List (String × Value)} (h : ∀ e ∈ entries, Proper e.2) :
      Proper (.object entries)

variable {fuel depth : Nat} {s r : Input} {d : Document} {v : Value}

/-! ### Numbers -/

/-- A literal gives a proper number, if it gives one. -/
theorem proper_of_numberOf {negative : Bool} {whole : List Char} {fraction : Option (List Char)}
    {power : Option Int} {n : Number} (h : numberOf negative whole fraction power = some n) :
    n.Proper := by
  simp only [numberOf] at h
  generalize (if negative = true then _ else _ : Int) = signed at h
  split_ifs at h with hword hfinite
  · cases h
    simp only [Bool.and_eq_true] at hword
    exact hword.1.2
  · cases h
    exact hfinite

theorem proper_of_number? {negative : Bool} {n : Option Number}
    (h : number? negative s = some (n, r)) : (Document.number n).Proper := by
  have hrest (whole : List Char) (s : Input) (h : ((fraction? s).bind fun fraction =>
      (exponent? fraction.2).bind fun power =>
        some (numberOf negative whole fraction.1 power.1, power.2)) = some (n, r)) :
      (Document.number n).Proper := by
    simp only [Option.bind_eq_some_iff, Option.some.injEq, Prod.mk.injEq] at h
    obtain ⟨_, -, _, -, rfl, -⟩ := h
    exact .number fun _ => proper_of_numberOf
  unfold number? at h
  split at h
  · exact hrest _ _ h
  · split at h
    · cases h
    · exact hrest _ _ h

/-! ### The reader, taken apart -/

/-- What is read as a document: a leaf, or an array or object, which is empty or whose parts are read
with less fuel. -/
theorem document?_cases (h : document? (fuel + 1) s = some (d, r)) :
    d = .null ∨ (∃ b, d = .bool b) ∨ (∃ text, d = .string text) ∨
    (∃ negative s' r' n, number? negative s' = some (n, r') ∧ d = .number n) ∨
    (∃ items, d = .array items ∧ (items = [] ∨ ∃ s' r', items? fuel s' = some (items, r'))) ∨
    ∃ entries, d = .object entries ∧
      (entries = [] ∨ ∃ s' r', entries? fuel s' = some (entries, r')) := by
  rw [document?] at h
  split at h
  case h_1 => cases h; exact .inl rfl
  case h_2 => cases h; exact .inr (.inl ⟨_, rfl⟩)
  case h_3 => cases h; exact .inr (.inl ⟨_, rfl⟩)
  case h_4 =>
      obtain ⟨⟨text, _⟩, -, h⟩ := Option.bind_eq_some_iff.1 h
      cases h
      exact .inr (.inr (.inl ⟨_, rfl⟩))
  case h_5 =>
      refine .inr (.inr (.inr (.inr (.inl ?_))))
      split at h
      · cases h
        exact ⟨_, rfl, .inl rfl⟩
      · obtain ⟨⟨items, _⟩, hitems, h⟩ := Option.bind_eq_some_iff.1 h
        cases h
        exact ⟨_, rfl, .inr ⟨_, _, hitems⟩⟩
  case h_6 =>
      refine .inr (.inr (.inr (.inr (.inr ?_))))
      split at h
      · cases h
        exact ⟨_, rfl, .inl rfl⟩
      · obtain ⟨⟨entries, _⟩, hentries, h⟩ := Option.bind_eq_some_iff.1 h
        cases h
        exact ⟨_, rfl, .inr ⟨_, _, hentries⟩⟩
  case h_7 | h_8 =>
      obtain ⟨⟨n, _⟩, hn, h⟩ := Option.bind_eq_some_iff.1 h
      cases h
      exact .inr (.inr (.inr (.inl ⟨_, _, _, _, hn, rfl⟩)))

/-- What is read as the items of an array: a document, and the further items if there are any. -/
theorem items?_cases {ds : List Document} (h : items? (fuel + 1) s = some (ds, r)) :
    ∃ d r', document? fuel s = some (d, r') ∧
      (ds = [d] ∨ ∃ ds' s', items? fuel s' = some (ds', r) ∧ ds = d :: ds') := by
  rw [items?] at h
  obtain ⟨⟨d, r'⟩, hd, h⟩ := Option.bind_eq_some_iff.1 h
  refine ⟨d, r', hd, ?_⟩
  dsimp only at h
  split at h
  · cases h
    exact .inl rfl
  · obtain ⟨⟨ds', _⟩, hds, h⟩ := Option.bind_eq_some_iff.1 h
    cases h
    exact .inr ⟨_, _, hds, rfl⟩
  · cases h

/-- What is read as the entries of an object: a document under its key, and the further entries if
there are any. -/
theorem entries?_cases {es : List (Option String × Document)}
    (h : entries? (fuel + 1) s = some (es, r)) :
    ∃ key s' d r', document? fuel s' = some (d, r') ∧
      (es = [(key, d)] ∨ ∃ es' s', entries? fuel s' = some (es', r) ∧ es = (key, d) :: es') := by
  rw [entries?] at h
  split at h
  case h_2 => cases h
  obtain ⟨⟨key, _⟩, -, h⟩ := Option.bind_eq_some_iff.1 h
  dsimp only at h
  split at h
  case h_2 => cases h
  obtain ⟨⟨d, r'⟩, hd, h⟩ := Option.bind_eq_some_iff.1 h
  refine ⟨key, _, d, r', hd, ?_⟩
  dsimp only at h
  split at h
  · cases h
    exact .inl rfl
  · obtain ⟨⟨es', _⟩, hes, h⟩ := Option.bind_eq_some_iff.1 h
    cases h
    exact .inr ⟨_, _, hes, rfl⟩
  · cases h

/-! ### What is read -/

/-- Whatever the fuel, what is read is proper: a document, the items of an array, and the entries of
an object. -/
theorem proper_of_fuel (fuel : Nat) :
    (∀ s d r, document? fuel s = some (d, r) → d.Proper) ∧
    (∀ s ds r, items? fuel s = some (ds, r) → ∀ d ∈ ds, d.Proper) ∧
    (∀ s es r, entries? fuel s = some (es, r) → ∀ e ∈ es, e.2.Proper) := by
  induction fuel with
  | zero => exact ⟨nofun, nofun, nofun⟩
  | succ fuel ih =>
      obtain ⟨ihdocument, ihitems, ihentries⟩ := ih
      refine ⟨fun s d r h => ?_, fun s ds r h => ?_, fun s es r h => ?_⟩
      · rcases document?_cases h with rfl | ⟨b, rfl⟩ | ⟨text, rfl⟩ | ⟨_, _, _, n, hn, rfl⟩ |
            ⟨items, rfl, hitems⟩ | ⟨entries, rfl, hentries⟩
        · exact .null
        · exact .bool b
        · exact .string text
        · exact proper_of_number? hn
        · rcases hitems with rfl | ⟨s', r', hitems⟩
          · exact .array nofun
          · exact .array (ihitems _ _ _ hitems)
        · rcases hentries with rfl | ⟨s', r', hentries⟩
          · exact .object nofun
          · exact .object (ihentries _ _ _ hentries)
      · obtain ⟨d, r', hd, rfl | ⟨ds', s', hds, rfl⟩⟩ := items?_cases h
        · exact List.forall_mem_singleton.2 (ihdocument _ _ _ hd)
        · exact List.forall_mem_cons.2 ⟨ihdocument _ _ _ hd, ihitems _ _ _ hds⟩
      · obtain ⟨key, s', d, r', hd, rfl | ⟨es', s'', hes, rfl⟩⟩ := entries?_cases h
        · exact List.forall_mem_singleton.2 (ihdocument _ _ _ hd)
        · exact List.forall_mem_cons.2 ⟨ihdocument _ _ _ hd, ihentries _ _ _ hes⟩

/-- **A document that is read is proper.** -/
theorem Document.proper_of_read? (h : read? s = some d) : d.Proper := by
  obtain ⟨⟨d', rest⟩, hd, h⟩ := Option.bind_eq_some_iff.1 h
  dsimp only at h
  split_ifs at h
  cases h
  exact (proper_of_fuel _).1 _ _ _ hd

/-! ### The value of a document -/

/-- Of an element of a list that a function maps to values, one value is that of the function. -/
theorem exists_of_mem_mapM {α β : Type} {f : α → Option β} {xs : List α} {ys : List β}
    (h : xs.mapM f = some ys) {y : β} (hy : y ∈ ys) : ∃ x ∈ xs, f x = some y :=
  exists_of_forall₂ (mapM_eq_some_iff.1 h) hy

/-- **The value of a proper document is proper.** -/
theorem Document.Proper.value? (hd : d.Proper) (h : d.value? depth = some v) : v.Proper := by
  induction hd generalizing depth v with
  | null =>
      rw [Document.value?] at h
      cases h
      exact .null
  | bool b =>
      rw [Document.value?] at h
      cases h
      exact .bool b
  | number hn =>
      rw [Document.value?] at h
      obtain ⟨x, hx, rfl⟩ := Option.map_eq_some_iff.1 h
      exact .number (hn x hx)
  | string text =>
      rw [Document.value?] at h
      obtain ⟨x, -, rfl⟩ := Option.map_eq_some_iff.1 h
      exact .string x
  | array hitems ih =>
      cases depth with
      | zero => cases h
      | succ depth =>
          rw [Document.value?] at h
          obtain ⟨vs, hvs, rfl⟩ := Option.map_eq_some_iff.1 h
          refine .array fun v hv => ?_
          obtain ⟨d, hd, hdv⟩ := exists_of_mem_mapM hvs hv
          exact ih d hd hdv
  | object hentries ih =>
      cases depth with
      | zero => cases h
      | succ depth =>
          rw [Document.value?] at h
          obtain ⟨vs, hvs, rfl⟩ := Option.map_eq_some_iff.1 h
          refine .object fun e he => ?_
          obtain ⟨⟨key, d⟩, hd, hdv⟩ := exists_of_mem_mapM hvs (Keyed.mem_of_mem_ofEntries he)
          obtain ⟨_, -, h⟩ := Option.bind_eq_some_iff.1 hdv
          obtain ⟨_, hv, h⟩ := Option.bind_eq_some_iff.1 h
          cases h
          exact ih _ hd hv

/-- **A value that is read is proper.** -/
theorem Value.proper_of_ofText? {text : String} (h : ofText? text = some v) : v.Proper := by
  obtain ⟨d, hd, hv⟩ := Option.bind_eq_some_iff.1 h
  exact (Document.proper_of_read? hd).value? hv

/-! ### Parts of a document -/

theorem Document.Proper.items? {ds : List Document} (hd : d.Proper) (h : d.items? = some ds) :
    ∀ x ∈ ds, x.Proper := by
  cases hd with
  | null | bool | number | string | object => cases h
  | array hitems =>
      cases h
      exact hitems

/-- A part of an object is one of its entries. -/
theorem Document.exists_of_part? {entries : List (String × Document)} {name : String}
    (h : part? entries name = some (some d)) : ∃ e ∈ entries, e.2 = d := by
  unfold part? at h
  split at h
  case h_1 => cases h
  case h_2 key part hone =>
      cases h
      have hmem : (key, d) ∈ entries.filter fun e => e.1 == name := hone ▸ List.mem_cons_self
      exact ⟨_, (List.mem_filter.1 hmem).1, rfl⟩
  case h_3 => cases h

/-- The fields of a record are parts of it. -/
theorem Document.Proper.fields? {names : List String} {fields : List (Option Document)}
    (hd : d.Proper) (h : d.fields? names = some fields) :
    ∀ field ∈ fields, ∀ x, field = some x → x.Proper := by
  rintro _ hfield x rfl
  cases hd with
  | null | bool | number | string => cases h
  | array hitems =>
      unfold Document.fields? at h
      dsimp only at h
      split_ifs at h
      cases h
      rcases List.mem_append.1 hfield with hfield | hfield
      · obtain ⟨_, hx, e⟩ := List.mem_map.1 hfield
        cases e
        exact hitems _ hx
      · cases List.eq_of_mem_replicate hfield
  | object hentries =>
      obtain ⟨named, hnamed, h⟩ := Option.bind_eq_some_iff.1 h
      obtain ⟨name, -, hname⟩ := exists_of_mem_mapM h hfield
      obtain ⟨e, he, rfl⟩ := exists_of_part? hname
      obtain ⟨e', he', h'⟩ := exists_of_mem_mapM hnamed he
      obtain ⟨_, -, rfl⟩ := Option.map_eq_some_iff.1 h'
      exact hentries _ he'

theorem proper_of_optional? {field : Option Document} {found : Option Value}
    (hfield : ∀ d, field = some d → d.Proper)
    (h : Document.optional? (·.value? depth) field = some found) :
    ∀ v, found = some v → v.Proper := by
  rintro v rfl
  unfold Document.optional? at h
  split at h
  case h_1 | h_2 => cases h
  case h_3 =>
      obtain ⟨_, hv, e⟩ := Option.map_eq_some_iff.1 h
      cases e
      exact (hfield _ rfl).value? hv

end ResourceMoves.Json
