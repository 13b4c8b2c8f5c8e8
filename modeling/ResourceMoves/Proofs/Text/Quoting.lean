import ResourceMoves.Text.Quoted

/-!
# Quoted text is unambiguous

Where a quoted text ends, and which text it is, shows in the quoted text itself, whatever follows.
The ways to write a character (`Shows`) are a prefix code: a word that starts with a backslash tells
by its second character how far it goes, any other word is one character long (`Shows.append_inj`).
No word starts with a quote, so **the closing quote is the first one that no backslash announces**
(`quote_append_inj`).  A line feed is in none of them (`lineFeed_not_mem_quote`).
-/

namespace ResourceMoves.Text

/-- Two runs of characters of one kind are the same when what follows begins with another kind. -/
theorem run_append_inj {α : Type} {P : α → Prop} {xs ys r r' : List α} (hxs : ∀ c ∈ xs, P c)
    (hys : ∀ c ∈ ys, P c) (hr : ∀ c ∈ r.head?, ¬ P c) (hr' : ∀ c ∈ r'.head?, ¬ P c)
    (h : xs ++ r = ys ++ r') : xs = ys ∧ r = r' := by
  induction xs generalizing ys with
  | nil =>
      cases ys with
      | nil => exact ⟨rfl, h⟩
      | cons y ys =>
          subst h
          exact absurd (hys y List.mem_cons_self) (hr y rfl)
  | cons x xs ih =>
      cases ys with
      | nil =>
          subst h
          exact absurd (hxs x List.mem_cons_self) (hr' x rfl)
      | cons y ys =>
          obtain ⟨rfl, htail⟩ := List.cons.inj h
          obtain ⟨rfl, hrest⟩ := ih (fun c hc => hxs c (List.mem_cons_of_mem _ hc))
            (fun c hc => hys c (List.mem_cons_of_mem _ hc)) htail
          exact ⟨rfl, hrest⟩

/-- Two runs that both end at a sign that neither has are the same, and so is what follows. -/
theorem closed_append_inj {α : Type} {x : α} {xs ys r r' : List α} (hxs : x ∉ xs) (hys : x ∉ ys)
    (h : xs ++ x :: r = ys ++ x :: r') : xs = ys ∧ r = r' := by
  have hends (r : List α) : ∀ c ∈ (x :: r).head?, ¬ c ≠ x := by
    rintro c ⟨⟩
    exact not_not_intro rfl
  obtain ⟨hruns, hrest⟩ := run_append_inj (P := (· ≠ x)) (fun c hc => ne_of_mem_of_not_mem hc hxs)
    (fun c hc => ne_of_mem_of_not_mem hc hys) (hends r) (hends r') h
  exact ⟨hruns, (List.cons.inj hrest).2⟩

/-! ### Code points -/

theorem digitChar_inj {i j : Nat} (hi : i < 16) (hj : j < 16) (h : i.digitChar = j.digitChar) :
    i = j := by
  have hall : ∀ i < 16, ∀ j < 16, i.digitChar = j.digitChar → i = j := by decide
  exact hall i hi j hj h

theorem hexDigits_eq_if (n : Nat) : hexDigits n =
    if n < 16 then [n.digitChar] else hexDigits (n / 16) ++ [(n % 16).digitChar] :=
  Nat.toDigits_eq_if (by decide)

theorem hexDigits_ne_nil (n : Nat) : hexDigits n ≠ [] := Nat.toDigits_ne_nil

/-- The hexadecimal digits of a number are its own. -/
theorem hexDigits_inj {m n : Nat} (h : hexDigits m = hexDigits n) : m = n := by
  induction m using Nat.strongRecOn generalizing n with
  | ind m ih =>
      rw [hexDigits_eq_if m, hexDigits_eq_if n] at h
      split at h <;> split at h
      · exact digitChar_inj ‹_› ‹_› (List.singleton_inj.1 h)
      · simp [List.singleton_eq_append_iff, hexDigits_ne_nil] at h
      · simp [List.append_eq_singleton_iff, hexDigits_ne_nil] at h
      · obtain ⟨hhigh, hlow⟩ := List.append_inj' h rfl
        have hdiv := ih (m / 16) (by omega) hhigh
        have hmod := digitChar_inj (Nat.mod_lt m (by decide)) (Nat.mod_lt n (by decide))
          (List.singleton_inj.1 hlow)
        omega

theorem exists_of_mem_hexDigits {n : Nat} {c : Char} (h : c ∈ hexDigits n) :
    ∃ d : Nat, c = d.digitChar := by
  induction n using Nat.strongRecOn with
  | ind n ih =>
      rw [hexDigits_eq_if] at h
      split at h
      · exact ⟨n, List.mem_singleton.1 h⟩
      · rcases List.mem_append.1 h with h | h
        · exact ih (n / 16) (by omega) h
        · exact ⟨n % 16, List.mem_singleton.1 h⟩

theorem ne_brace_of_mem_hexDigits {n : Nat} {c : Char} (h : c ∈ hexDigits n) : c ≠ '\x7d' := by
  obtain ⟨d, rfl⟩ := exists_of_mem_hexDigits h
  exact Nat.digitChar_ne _ rfl

/-! ### The words for a character -/

/-- The characters with a short escape, and the letter of that escape. -/
def shortEscapes : List (Char × Char) :=
  [('"', '"'), ('\\', '\\'), ('\n', 'n'), ('\r', 'r'), ('\t', 't'), ('\x00', '0')]

/-- The words that stand for a character between quotes. -/
inductive Shows : Char → List Char → Prop
  | short {c x : Char} (h : (c, x) ∈ shortEscapes) : Shows c ['\\', x]
  | plain {c : Char} (hquote : c ≠ '"') (hescape : c ≠ '\\') : Shows c [c]
  | number (c : Char) : Shows c (codePoint c)

/-- A character is shown by one of its words. -/
theorem shows_shown (c : Char) : Shows c (shown c) := by
  unfold shown
  split
  · exact .short (by decide)
  · exact .short (by decide)
  · exact .short (by decide)
  · exact .short (by decide)
  · exact .short (by decide)
  · exact .short (by decide)
  · rename_i hquote hescape _ _ _ _
    split
    · exact .plain hquote hescape
    · exact .number c

variable {c d : Char} {w w' r r' : List Char}

/-- No word starts with a quote. -/
theorem Shows.ne_quote (h : Shows c w) : w ++ r ≠ '"' :: r' := by
  cases h with
  | short | number => simp [codePoint]
  | plain hquote => simp [hquote]

/-- The letter of a short escape tells the character, and is not that of a code point. -/
theorem shortEscapes_inj :
    ∀ e ∈ shortEscapes, e.2 ≠ 'u' ∧ ∀ f ∈ shortEscapes, e.2 = f.2 → e = f := by
  decide

/-- **The words are a prefix code.** -/
theorem Shows.append_inj (hc : Shows c w) (hd : Shows d w') (h : w ++ r = w' ++ r') :
    c = d ∧ r = r' := by
  cases hc with
  | short hc =>
      cases hd with
      | short hd =>
          obtain ⟨hletter, hrest⟩ := List.cons.inj (List.cons.inj h).2
          exact ⟨congrArg Prod.fst ((shortEscapes_inj _ hc).2 _ hd hletter), hrest⟩
      | plain hquote hescape => exact absurd (List.cons.inj h).1.symm hescape
      | number => exact absurd (List.cons.inj (List.cons.inj h).2).1 (shortEscapes_inj _ hc).1
  | plain hquote hescape =>
      cases hd with
      | short | number => exact absurd (List.cons.inj h).1 hescape
      | plain => exact List.cons.inj h
  | number =>
      cases hd with
      | short hd =>
          exact absurd (List.cons.inj (List.cons.inj h).2).1.symm (shortEscapes_inj _ hd).1
      | plain hquote hescape => exact absurd (List.cons.inj h).1.symm hescape
      | number =>
          simp only [codePoint, List.append_assoc] at h
          obtain ⟨hdigits, hrest⟩ := run_append_inj (P := (· ≠ '\x7d'))
            (fun _ => ne_brace_of_mem_hexDigits) (fun _ => ne_brace_of_mem_hexDigits)
            (by simp) (by simp) (List.append_cancel_left h)
          exact ⟨Char.toNat_inj.1 (hexDigits_inj hdigits), (List.cons.inj hrest).2⟩

/-! ### Texts -/

theorem body_append_inj {s t : List Char}
    (h : s.flatMap shown ++ '"' :: r = t.flatMap shown ++ '"' :: r') : s = t ∧ r = r' := by
  induction s generalizing t with
  | nil =>
      cases t with
      | nil => exact ⟨rfl, (List.cons.inj h).2⟩
      | cons d t =>
          rw [List.flatMap_cons, List.append_assoc] at h
          exact absurd h.symm (shows_shown d).ne_quote
  | cons c s ih =>
      cases t with
      | nil =>
          rw [List.flatMap_cons, List.append_assoc] at h
          exact absurd h (shows_shown c).ne_quote
      | cons d t =>
          rw [List.flatMap_cons, List.flatMap_cons, List.append_assoc, List.append_assoc] at h
          obtain ⟨rfl, htail⟩ := (shows_shown c).append_inj (shows_shown d) h
          obtain ⟨rfl, hrest⟩ := ih htail
          exact ⟨rfl, hrest⟩

/-- **A quoted text** tells the text and where it ends. -/
theorem quote_append_inj {s t : List Char} (h : quote s ++ r = quote t ++ r') :
    s = t ∧ r = r' := by
  simp only [quote, List.cons_append, List.append_assoc, List.nil_append] at h
  exact body_append_inj (List.cons.inj h).2

theorem lineFeed_not_mem_shown (c : Char) : '\n' ∉ shown c := by
  have hdigits : '\n' ∉ hexDigits c.toNat := fun h => by
    obtain ⟨d, hd⟩ := exists_of_mem_hexDigits h
    exact Nat.digitChar_ne '\n' rfl hd.symm
  unfold shown
  split
  case h_7 hfeed _ _ _ =>
      split
      · exact fun h => hfeed (List.mem_singleton.1 h).symm
      · simp [codePoint, hdigits]
  all_goals decide

/-- A quoted text stands on one line. -/
theorem lineFeed_not_mem_quote (s : List Char) : '\n' ∉ quote s := by
  simp [quote, lineFeed_not_mem_shown]

end ResourceMoves.Text
