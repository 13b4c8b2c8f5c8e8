/-!
# Keyed lists

Association lists with text keys in strictly increasing order, the order of code points and so of
UTF-8 bytes.  Inserting keeps the order (`Ordered.insert`); a key that is already there gets the new
value.  Looking up takes the first entry with the key, so it makes sense of any list.
-/

namespace ResourceMoves

/-- A list of entries, each with its key. -/
abbrev Keyed (α : Type) := List (String × α)

namespace Keyed

variable {α : Type}

/-- The keys of the list strictly increase. -/
def Ordered (entries : Keyed α) : Prop := entries.Pairwise fun x y => x.1 < y.1

/-- The value of the first entry with the key. -/
def find? (key : String) : Keyed α → Option α
  | []              => none
  | (k, v) :: rest => if k = key then some v else find? key rest

/-- The list with `value` at `key`. -/
def insert (key : String) (value : α) : Keyed α → Keyed α
  | [] => [(key, value)]
  | (k, v) :: rest =>
      if key < k then (key, value) :: (k, v) :: rest
      else if key = k then (key, value) :: rest
      else (k, v) :: insert key value rest

/-- The entries in key order; of several with one key, the last. -/
def ofEntries (entries : List (String × α)) : Keyed α :=
  entries.foldl (fun acc e => insert e.1 e.2 acc) []

/-- The keys of two lists, each once and in order. -/
def unionKeys (a b : Keyed α) : List String :=
  (ofEntries ((a ++ b).map fun e => (e.1, ()))).map (·.1)

theorem mem_of_find? {key : String} {value : α} {entries : Keyed α}
    (h : entries.find? key = some value) : (key, value) ∈ entries := by
  induction entries with
  | nil => simp [find?] at h
  | cons e rest ih =>
      simp only [find?] at h
      split at h
      · simp_all [Prod.ext_iff]
      · exact List.mem_cons_of_mem _ (ih h)

theorem lt_or_eq_or_gt (a b : String) : a < b ∨ a = b ∨ b < a := by
  by_cases h : a < b
  · exact .inl h
  · by_cases h' : b < a
    · exact .inr (.inr h')
    · exact .inr (.inl (String.le_antisymm (String.not_lt.1 h') (String.not_lt.1 h)))

/-- A key has a value just when it is the key of an entry. -/
theorem find?_isSome_iff {key : String} {entries : Keyed α} :
    (entries.find? key).isSome ↔ key ∈ entries.map (·.1) := by
  induction entries with
  | nil => simp [find?]
  | cons e rest ih =>
      rw [find?, List.map_cons, List.mem_cons, ← ih]
      split
      case isTrue h => simp [h]
      case isFalse h => simp [Ne.symm h]

/-- An entry after inserting is the new one or was there before. -/
theorem mem_insert {key : String} {value : α} {e : String × α} {entries : Keyed α}
    (h : e ∈ entries.insert key value) : e = (key, value) ∨ e ∈ entries := by
  fun_induction insert key value entries with
  | case1 => simpa using h
  | case2 => simpa using h
  | case3 v rest hlt =>
      rcases List.mem_cons.1 h with rfl | h
      · exact .inl rfl
      · exact .inr (List.mem_cons_of_mem _ h)
  | case4 k v rest hlt heq ih =>
      rcases List.mem_cons.1 h with rfl | h
      · exact .inr (List.mem_cons_self)
      · exact (ih h).imp id (List.mem_cons_of_mem _)

/-- Inserting keeps the order. -/
theorem Ordered.insert (key : String) (value : α) {entries : Keyed α} (h : Ordered entries) :
    Ordered (entries.insert key value) := by
  fun_induction Keyed.insert key value entries with
  | case1 => simp [Ordered]
  | case2 k v rest hlt =>
      refine List.pairwise_cons.2 ⟨fun e he => ?_, h⟩
      rcases List.mem_cons.1 he with rfl | he
      · exact hlt
      · exact String.lt_trans hlt ((List.pairwise_cons.1 h).1 e he)
  | case3 v rest =>
      obtain ⟨hk, hr⟩ := List.pairwise_cons.1 h
      exact List.pairwise_cons.2 ⟨hk, hr⟩
  | case4 k v rest hlt hne ih =>
      obtain ⟨hk, hr⟩ := List.pairwise_cons.1 h
      refine List.pairwise_cons.2 ⟨fun e he => ?_, ih hr⟩
      rcases mem_insert he with rfl | he
      · rcases lt_or_eq_or_gt key k with h | h | h
        · exact absurd h hlt
        · exact absurd h hne
        · exact h
      · exact hk e he

/-- The keys after inserting are the new one and those that were there before. -/
theorem mem_keys_insert {k key : String} {value : α} {entries : Keyed α} :
    k ∈ (entries.insert key value).map (·.1) ↔ k = key ∨ k ∈ entries.map (·.1) := by
  fun_induction insert key value entries with
  | case1 => simp
  | case2 => simp
  | case3 v rest => simp
  | case4 k' v rest hlt hne ih => simp [ih, or_left_comm]

/-- Entries that are put in order keep their keys. -/
theorem mem_keys_ofEntries {k : String} {entries : List (String × α)} :
    k ∈ (ofEntries entries).map (·.1) ↔ k ∈ entries.map (·.1) := by
  suffices ∀ acc : Keyed α, k ∈ (entries.foldl (fun acc e => insert e.1 e.2 acc) acc).map (·.1) ↔
      k ∈ entries.map (·.1) ∨ k ∈ acc.map (·.1) by simpa [ofEntries] using this []
  induction entries with
  | nil => simp
  | cons e rest ih =>
      intro acc
      rw [List.foldl_cons, ih, mem_keys_insert, List.map_cons, List.mem_cons]
      exact or_left_comm.trans or_assoc.symm

/-- Entries that are put in order are some of those that were given. -/
theorem mem_of_mem_ofEntries {e : String × α} {entries : List (String × α)}
    (h : e ∈ ofEntries entries) : e ∈ entries := by
  suffices ∀ acc : Keyed α, e ∈ entries.foldl (fun acc e => insert e.1 e.2 acc) acc →
      e ∈ entries ∨ e ∈ acc from (this [] h).resolve_right List.not_mem_nil
  clear h
  induction entries with
  | nil => exact fun acc h => .inr h
  | cons x rest ih =>
      intro acc h
      rcases ih _ h with h | h
      · exact .inl (List.mem_cons_of_mem _ h)
      · rcases mem_insert h with rfl | h
        · exact .inl List.mem_cons_self
        · exact .inr h

/-- Entries that are put in order are in order. -/
theorem ordered_ofEntries (entries : List (String × α)) : Ordered (ofEntries entries) := by
  suffices ∀ acc : Keyed α, Ordered acc →
      Ordered (entries.foldl (fun acc e => insert e.1 e.2 acc) acc) from this [] .nil
  induction entries with
  | nil => exact fun acc h => h
  | cons e rest ih => exact fun acc h => ih _ (h.insert e.1 e.2)

/-- A key greater than all that are there goes to the end. -/
theorem insert_of_greater {key : String} {value : α} {entries : Keyed α}
    (h : ∀ e ∈ entries, e.1 < key) :
    entries.insert key value = entries ++ [(key, value)] := by
  induction entries with
  | nil => rfl
  | cons e entries ih =>
      obtain ⟨hlt, hrest⟩ := List.forall_mem_cons.1 h
      rw [insert, if_neg fun hgt => String.lt_irrefl _ (String.lt_trans hlt hgt),
        if_neg (String.ne_of_lt hlt).symm, ih hrest, List.cons_append]

/-- Entries in order stay as they are. -/
theorem ofEntries_of_ordered {entries : Keyed α} (h : Ordered entries) :
    ofEntries entries = entries := by
  suffices ∀ acc : Keyed α, Ordered (acc ++ entries) →
      entries.foldl (fun acc e => insert e.1 e.2 acc) acc = acc ++ entries from this [] h
  clear h
  induction entries with
  | nil => simp
  | cons e entries ih =>
      intro acc h
      have hgreater : ∀ x ∈ acc, x.1 < e.1 := fun x hx =>
        (List.pairwise_append.1 h).2.2 x hx e List.mem_cons_self
      rw [List.foldl_cons, insert_of_greater hgreater, ih _ (by simpa using h)]
      simp

/-- A new key adds its entry to the others. -/
theorem insert_perm {key : String} {value : α} {entries : Keyed α}
    (h : key ∉ entries.map (·.1)) :
    (entries.insert key value).Perm ((key, value) :: entries) := by
  fun_induction insert key value entries with
  | case1 => exact .refl _
  | case2 => exact .refl _
  | case3 v rest => exact absurd List.mem_cons_self h
  | case4 k v rest hlt hne ih =>
      have hrest : key ∉ rest.map (·.1) := fun hkey => h (List.mem_cons_of_mem _ hkey)
      exact ((ih hrest).cons _).trans (.swap _ _ _)

/-- Entries with different keys are put in order and all stay. -/
theorem ofEntries_perm {entries : List (String × α)} (h : (entries.map (·.1)).Nodup) :
    (ofEntries entries).Perm entries := by
  suffices ∀ acc : Keyed α, ((acc ++ entries).map (·.1)).Nodup →
      (entries.foldl (fun acc e => insert e.1 e.2 acc) acc).Perm (acc ++ entries) from this [] h
  clear h
  induction entries with
  | nil => simp
  | cons e entries ih =>
      intro acc h
      have hnew : e.1 ∉ acc.map (·.1) := by
        rw [List.map_append, List.map_cons] at h
        exact fun hkey => (List.nodup_append.1 h).2.2 _ hkey _ List.mem_cons_self rfl
      have hperm : (acc.insert e.1 e.2 ++ entries).Perm (acc ++ e :: entries) :=
        ((insert_perm hnew).append_right _).trans List.perm_middle.symm
      exact (ih _ ((hperm.map _).nodup_iff.2 h)).trans hperm

/-- The keys of two lists are those that have a value in one of them. -/
theorem mem_unionKeys {k : String} {a b : Keyed α} :
    k ∈ unionKeys a b ↔ (a.find? k).isSome ∨ (b.find? k).isSome := by
  rw [unionKeys, mem_keys_ofEntries, find?_isSome_iff, find?_isSome_iff]
  simp

/-- The keys of two lists strictly increase. -/
theorem unionKeys_pairwise (a b : Keyed α) : (unionKeys a b).Pairwise (· < ·) :=
  List.pairwise_map.2 (ordered_ofEntries _)

/-- The keys of two lists do not depend on which comes first. -/
theorem unionKeys_comm (a b : Keyed α) : unionKeys a b = unionKeys b a := by
  have hnodup (a b : Keyed α) : (unionKeys a b).Nodup :=
    (unionKeys_pairwise a b).imp String.ne_of_lt
  have hperm : (unionKeys a b).Perm (unionKeys b a) :=
    (List.perm_ext_iff_of_nodup (hnodup a b) (hnodup b a)).2 fun k => by
      rw [mem_unionKeys, mem_unionKeys, or_comm]
  refine List.Perm.eq_of_pairwise (fun k l _ _ hkl hlk => ?_) (unionKeys_pairwise a b)
    (unionKeys_pairwise b a) hperm
  exact absurd (String.lt_trans hkl hlk) (String.lt_irrefl k)

end Keyed

end ResourceMoves
