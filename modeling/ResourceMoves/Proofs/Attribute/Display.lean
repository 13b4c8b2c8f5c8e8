import ResourceMoves.Attribute.Display
import ResourceMoves.Proofs.Attribute.Finite
import ResourceMoves.Proofs.Number.Plain
import ResourceMoves.Proofs.Text.Lines

/-!
# Attribute trees as text — no two alike

The text of a tree tells the tree.  Its first character tells what kind of tree it is
(`kindOf?_display`), texts and keys end with their closing quote, and a number, or what is in
brackets, ends where a comma or a closing bracket follows (`Ends`): so reading a tree off the front
of a text never depends on what comes after it (`display_append_inj`, by induction over the tree).
**Trees of finite numbers with the same text are equal** (`display_unambiguous`), so the two sides
of a difference never read the same.
-/

namespace ResourceMoves.Attribute

open ResourceMoves.Number (Binary64 EndsNumber isDigit)
open ResourceMoves.Text (intercalate_cons_eq quote quoted quote_append_inj)

variable {r r' : List Char}

/-- What may follow a tree: nothing, the comma before the next one, or a closing bracket. -/
def Ends (r : List Char) : Prop := ∀ c ∈ r.head?, c = ',' ∨ c = ']' ∨ c = '\x7d'

theorem ends_nil : Ends [] := by
  rintro _ ⟨⟩

theorem Ends.endsNumber (h : Ends r) : EndsNumber r := by
  intro c hc
  rcases h c hc with rfl | rfl | rfl <;> decide

/-! ### The first character -/

/-- The kinds of trees that texts begin differently for. -/
inductive Kind
  | null
  | bool (b : Bool)
  | number
  | text
  | list
  | map

/-- The kind that the first character of a text tells. -/
def kindOf? (c : Char) : Option Kind :=
  if c = 'n' then some .null
  else if c = 't' then some (.bool true)
  else if c = 'f' then some (.bool false)
  else if c = '"' then some .text
  else if c = '[' then some .list
  else if c = '\x7b' then some .map
  else if c = '-' ∨ isDigit c then some .number
  else none

theorem kindOf?_number {c : Char} (h : c = '-' ∨ isDigit c) : kindOf? c = some .number := by
  have hne : ∀ d, d ≠ '-' → ¬ isDigit d → c ≠ d := by
    rintro _ hminus hdigit rfl
    exact h.elim hminus hdigit
  unfold kindOf?
  rw [if_neg (hne 'n' (by decide) (by decide)), if_neg (hne 't' (by decide) (by decide)),
    if_neg (hne 'f' (by decide) (by decide)), if_neg (hne '"' (by decide) (by decide)),
    if_neg (hne '[' (by decide) (by decide)), if_neg (hne '\x7b' (by decide) (by decide)), if_pos h]

namespace Tree

/-- The kind of a tree. -/
def kind : Tree → Kind
  | .leaf .null       => .null
  | .leaf (.bool b)   => .bool b
  | .leaf (.number _) => .number
  | .leaf (.text _)   => .text
  | .list _           => .list
  | .map _            => .map

variable {t u : Tree}

theorem toList_quoted (s : String) : (quoted s).toList = quote s.toList := String.toList_ofList

theorem toList_display_number (x : Binary64) :
    (leaf (.number x)).display.toList = x.plain := String.toList_ofList

theorem toList_display_text (s : String) :
    (leaf (.text s)).display.toList = quote s.toList := toList_quoted s

theorem displayItems_eq_map (items : List Tree) : displayItems items = items.map display := by
  induction items with
  | nil => rfl
  | cons t items ih => rw [displayItems, ih, List.map_cons]

/-- An entry of a map on one line. -/
def displayEntry (e : String × Tree) : String := quoted e.1 ++ ": " ++ e.2.display

theorem displayEntries_eq_map (entries : List (String × Tree)) :
    displayEntries entries = entries.map displayEntry := by
  induction entries with
  | nil => rfl
  | cons e entries ih => rw [displayEntries, ih, List.map_cons, displayEntry]

theorem toList_display_list (items : List Tree) : (list items).display.toList =
    '[' :: ([',', ' '].intercalate (items.map fun t => t.display.toList) ++ [']']) := by
  simp [display, displayItems_eq_map, String.toList_intercalate, List.map_map, Function.comp_def]

theorem toList_display_map (entries : List (String × Tree)) : (map entries).display.toList =
    '\x7b' :: ([',', ' '].intercalate (entries.map fun e => (displayEntry e).toList) ++
      ['\x7d']) := by
  simp [display, displayEntries_eq_map, String.toList_intercalate, List.map_map, Function.comp_def]

/-- **The first character** of a tree's text tells its kind. -/
theorem kindOf?_display (h : t.Finite) :
    ∃ c s, t.display.toList = c :: s ∧ kindOf? c = some t.kind := by
  cases h with
  | @leaf c h =>
      cases c with
      | null => exact ⟨'n', _, rfl, rfl⟩
      | bool b => cases b <;> exact ⟨_, _, rfl, rfl⟩
      | number x =>
          obtain ⟨c, s, hs, hc⟩ := Binary64.exists_cons_plain (h x rfl)
          exact ⟨c, s, (toList_display_number x).trans hs, kindOf?_number hc⟩
      | text s => exact ⟨'"', _, toList_display_text s, rfl⟩
  | list => exact ⟨'[', _, toList_display_list _, rfl⟩
  | map => exact ⟨'\x7b', _, toList_display_map _, rfl⟩

end Tree

/-! ### Sequences -/

section Sequences

variable {α : Type} {word : α → List Char} {b : Char} {xs ys : List α}

theorem ends_tail (hb : b = ']' ∨ b = '\x7d') (ws : List (List Char)) (r : List Char) :
    Ends (ws.flatMap ([',', ' '] ++ ·) ++ b :: r) := by
  cases ws with
  | nil =>
      rintro _ ⟨⟩
      exact .inr hb
  | cons w ws =>
      rintro _ ⟨⟩
      exact .inl rfl

/-- The words read off the front of a text are the same, whatever follows them. -/
def SameWords (word : α → List Char) (xs ys : List α) : Prop :=
  ∀ x ∈ xs, ∀ y ∈ ys, ∀ r r', Ends r → Ends r' → word x ++ r = word y ++ r' → x = y ∧ r = r'

theorem tail_append_inj (hb : b = ']' ∨ b = '\x7d') (hwords : SameWords word xs ys)
    (h : (xs.map word).flatMap ([',', ' '] ++ ·) ++ b :: r =
      (ys.map word).flatMap ([',', ' '] ++ ·) ++ b :: r') : xs = ys ∧ r = r' := by
  have hcomma : b ≠ ',' := by
    rcases hb with rfl | rfl <;> decide
  induction xs generalizing ys with
  | nil =>
      cases ys with
      | nil => exact ⟨rfl, (List.cons.inj h).2⟩
      | cons y ys => exact absurd (List.cons.inj h).1 hcomma
  | cons x xs ih =>
      cases ys with
      | nil => exact absurd (List.cons.inj h).1.symm hcomma
      | cons y ys =>
          simp only [List.map_cons, List.flatMap_cons, List.append_assoc] at h
          obtain ⟨rfl, htail⟩ := hwords x List.mem_cons_self y List.mem_cons_self _ _
            (ends_tail hb _ r) (ends_tail hb _ r') (List.append_cancel_left h)
          obtain ⟨rfl, hrest⟩ := ih (fun x hx y hy => hwords x (List.mem_cons_of_mem _ hx) y
            (List.mem_cons_of_mem _ hy)) htail
          exact ⟨rfl, hrest⟩

/-- **Words with commas between them** and a bracket after them tell the sequence and where it
ends, when no word starts with that bracket. -/
theorem sequence_append_inj (hb : b = ']' ∨ b = '\x7d') (hwords : SameWords word xs ys)
    (hxs : ∀ x ∈ xs, ∃ c s, word x = c :: s ∧ c ≠ b)
    (hys : ∀ y ∈ ys, ∃ c s, word y = c :: s ∧ c ≠ b)
    (h : [',', ' '].intercalate (xs.map word) ++ b :: r =
      [',', ' '].intercalate (ys.map word) ++ b :: r') : xs = ys ∧ r = r' := by
  cases xs with
  | nil =>
      cases ys with
      | nil => exact ⟨rfl, (List.cons.inj h).2⟩
      | cons y ys =>
          obtain ⟨c, s, hword, hc⟩ := hys y List.mem_cons_self
          rw [List.map_cons, intercalate_cons_eq, hword] at h
          exact absurd (List.cons.inj h).1.symm hc
  | cons x xs =>
      cases ys with
      | nil =>
          obtain ⟨c, s, hword, hc⟩ := hxs x List.mem_cons_self
          rw [List.map_cons, intercalate_cons_eq, hword] at h
          exact absurd (List.cons.inj h).1 hc
      | cons y ys =>
          simp only [List.map_cons, intercalate_cons_eq, List.append_assoc] at h
          obtain ⟨rfl, htail⟩ := hwords x List.mem_cons_self y List.mem_cons_self _ _
            (ends_tail hb _ r) (ends_tail hb _ r') h
          obtain ⟨rfl, hrest⟩ := tail_append_inj hb (fun x hx y hy =>
            hwords x (List.mem_cons_of_mem _ hx) y (List.mem_cons_of_mem _ hy)) htail
          exact ⟨rfl, hrest⟩

end Sequences

/-! ### Trees -/

namespace Tree

variable {t u : Tree}

theorem toList_displayEntry (e : String × Tree) :
    (displayEntry e).toList = quote e.1.toList ++ ([':', ' '] ++ e.2.display.toList) := by
  rw [displayEntry, String.toList_append, String.toList_append, toList_quoted, List.append_assoc]
  rfl

/-- Trees with the same text, whatever follows, are of one kind. -/
theorem kind_eq (ht : t.Finite) (hu : u.Finite)
    (h : t.display.toList ++ r = u.display.toList ++ r') : t.kind = u.kind := by
  obtain ⟨c, s, hs, hkind⟩ := kindOf?_display ht
  obtain ⟨d, v, hv, hkind'⟩ := kindOf?_display hu
  rw [hs, hv] at h
  obtain ⟨rfl, -⟩ := List.cons.inj h
  exact Option.some.inj (hkind.symm.trans hkind')

/-- Leaves of one kind: the words are fixed, a text ends with its quote, and a number where no more
of it can follow. -/
theorem leaf_append_inj {c d : Scalar} (hc : c.Finite) (hd : d.Finite) (hr : EndsNumber r)
    (hr' : EndsNumber r') (hkind : (leaf c).kind = (leaf d).kind)
    (h : (leaf c).display.toList ++ r = (leaf d).display.toList ++ r') : c = d ∧ r = r' := by
  cases c <;> cases d <;> cases hkind
  case null.null.refl | bool.bool.refl => exact ⟨rfl, List.append_cancel_left h⟩
  case number.number.refl x y =>
      rw [toList_display_number, toList_display_number] at h
      obtain ⟨rfl, hrest⟩ := Binary64.plain_append_inj (hc x rfl) (hd y rfl) hr hr' h
      exact ⟨rfl, hrest⟩
  case text.text.refl s v =>
      rw [toList_display_text, toList_display_text] at h
      obtain ⟨hchars, hrest⟩ := quote_append_inj h
      exact ⟨congrArg _ (String.toList_inj.1 hchars), hrest⟩

/-- No text of a tree starts with a closing bracket. -/
theorem exists_cons_display (h : t.Finite) {b : Char} (hb : b = ']' ∨ b = '\x7d') :
    ∃ c s, t.display.toList = c :: s ∧ c ≠ b := by
  obtain ⟨c, s, hs, hkind⟩ := kindOf?_display h
  refine ⟨c, s, hs, ?_⟩
  rintro rfl
  rcases hb with rfl | rfl <;> cases hkind

/-- **A tree's text** tells the tree and where it ends. -/
theorem display_append_inj (ht : t.Finite) (hu : u.Finite) (hr : Ends r) (hr' : Ends r')
    (h : t.display.toList ++ r = u.display.toList ++ r') : t = u ∧ r = r' := by
  induction ht generalizing u r r' with
  | @leaf c hc =>
      have hkind := kind_eq (.leaf hc) hu h
      cases hu with
      | list | map => cases c <;> cases hkind
      | leaf hd =>
          obtain ⟨rfl, hrest⟩ := leaf_append_inj hc hd hr.endsNumber hr'.endsNumber hkind h
          exact ⟨rfl, hrest⟩
  | @list items hitems ih =>
      have hkind := kind_eq (.list hitems) hu h
      cases hu with
      | @leaf d => cases d <;> cases hkind
      | map => cases hkind
      | @list others hothers =>
          have hwords : SameWords (fun t : Tree => t.display.toList) items others :=
            fun t ht u hu r r' hr hr' h => ih t ht (hothers u hu) hr hr' h
          rw [toList_display_list, toList_display_list, List.cons_append, List.cons_append,
            List.append_assoc, List.append_assoc] at h
          obtain ⟨rfl, hrest⟩ := sequence_append_inj (.inl rfl) hwords
            (fun t ht => exists_cons_display (hitems t ht) (.inl rfl))
            (fun u hu => exists_cons_display (hothers u hu) (.inl rfl)) (List.cons.inj h).2
          exact ⟨rfl, hrest⟩
  | @map entries hentries ih =>
      have hkind := kind_eq (.map hentries) hu h
      cases hu with
      | @leaf d => cases d <;> cases hkind
      | list => cases hkind
      | @map others hothers =>
          have hwords : SameWords (fun e => (displayEntry e).toList) entries others := by
            rintro ⟨k, t⟩ ht ⟨l, u⟩ hu r r' hr hr' h
            simp only [toList_displayEntry, List.append_assoc] at h
            obtain ⟨hkey, htree⟩ := quote_append_inj h
            obtain ⟨rfl, hrest⟩ := ih _ ht (hothers _ hu) hr hr' (List.append_cancel_left htree)
            exact ⟨by rw [String.toList_inj.1 hkey], hrest⟩
          rw [toList_display_map, toList_display_map, List.cons_append, List.cons_append,
            List.append_assoc, List.append_assoc] at h
          obtain ⟨rfl, hrest⟩ := sequence_append_inj (.inr rfl) hwords
            (fun e _ => ⟨'"', _, toList_displayEntry e, by decide⟩)
            (fun e _ => ⟨'"', _, toList_displayEntry e, by decide⟩) (List.cons.inj h).2
          exact ⟨rfl, hrest⟩

/-- Trees with the same text are equal. -/
theorem display_inj (ht : t.Finite) (hu : u.Finite) (h : t.display = u.display) : t = u := by
  have hchars : t.display.toList ++ [] = u.display.toList ++ [] := by rw [h]
  exact (display_append_inj ht hu ends_nil ends_nil hchars).1

/-! ### Differences -/

/-- A tree never reads like a side without one. -/
theorem display_ne_absent (t : Tree) : t.display ≠ displaySide none := by
  intro h
  have h : t.display.toList = '<' :: "absent>".toList := congrArg String.toList h
  cases t with
  | list items =>
      rw [toList_display_list] at h
      exact absurd (List.cons.inj h).1 (by decide)
  | map entries =>
      rw [toList_display_map] at h
      exact absurd (List.cons.inj h).1 (by decide)
  | leaf c =>
      cases c with
      | null => exact absurd (List.cons.inj h).1 (by decide)
      | bool b => cases b <;> exact absurd (List.cons.inj h).1 (by decide)
      | text s =>
          rw [toList_display_text] at h
          exact absurd (List.cons.inj h).1 (by decide)
      | number x =>
          rw [toList_display_number] at h
          cases x with
          | nan => exact absurd (List.cons.inj h).1 (by decide)
          | infinite n => cases n <;> exact absurd (List.cons.inj h).1 (by decide)
          | finite n m e hc =>
              obtain ⟨c, s, hs, hc⟩ := Binary64.exists_cons_plain (x := .finite n m e hc) rfl
              rw [hs] at h
              obtain ⟨rfl, -⟩ := List.cons.inj h
              exact absurd hc (by decide)

/-- Sides with the same text are the same. -/
theorem displaySide_inj {side side' : Option Tree} (hside : ∀ t, side = some t → t.Finite)
    (hside' : ∀ t, side' = some t → t.Finite) (h : displaySide side = displaySide side') :
    side = side' := by
  cases side with
  | none =>
      cases side' with
      | none => rfl
      | some u => exact absurd h.symm (display_ne_absent u)
  | some t =>
      cases side' with
      | none => exact absurd h (display_ne_absent t)
      | some u => rw [display_inj (hside t rfl) (hside' u rfl) h]

/-- Where trees of finite numbers come apart they do not have the same node. -/
theorem Apart.at?_ne {a b : Option Tree} {p : Path} (h : Apart a b p)
    (hfinite : ∀ t, at? a p = some t → t.Finite) : at? a p ≠ at? b p := by
  intro hsame
  obtain ⟨t, ht⟩ := Option.isSome_iff_exists.1 (h.here.elim id fun hb => by rwa [hsame])
  obtain ⟨halike, hagree⟩ := h.differ t t ht (hsame ▸ ht)
  cases hfinite t ht with
  | leaf hc =>
      rw [agree, Scalar.agrees_self_eq_false_iff] at hagree
      cases hc _ hagree
  | list => exact halike (.list _ _)
  | map => exact halike (.map _ _)

/-- **The two sides of a difference** never read the same. -/
theorem displaySide_ne {a b : Tree} {mask : Option Tree} {d : Difference} (ha : a.Finite)
    (hb : b.Finite) (hd : d ∈ a.diff b mask) : displaySide d.before ≠ displaySide d.after := by
  rw [diff, differences_eq_filter] at hd
  obtain ⟨p, before, after, ignored⟩ := d
  obtain ⟨hapart, rfl, rfl, -⟩ := mem_differences_iff.1 (List.mem_filter.1 hd).1
  have hbefore : ∀ t, at? (some a) p = some t → t.Finite := fun t ht => ha.lookup? ht
  have hafter : ∀ t, at? (some b) p = some t → t.Finite := fun t ht => hb.lookup? ht
  exact fun h => hapart.at?_ne hbefore (displaySide_inj hbefore hafter h)

/-! ### The theorem -/

/-- **The text of a tree is unambiguous.**  Two trees of finite numbers with the same text are
equal.  So the two sides of a difference of such trees, under any mask, never read the same, and no
tree at all reads like the side without one.  The numbers are finite in every tree that is read, and
in the candidates of every plan that is read. -/
theorem display_unambiguous :
    (∀ t u : Tree, t.Finite → u.Finite → t.display = u.display → t = u) ∧
    (∀ (a b : Tree) (mask : Option Tree), a.Finite → b.Finite →
      ∀ d ∈ a.diff b mask, displaySide d.before ≠ displaySide d.after) ∧
    (∀ t : Tree, displaySide (some t) ≠ "<absent>") ∧
    (∀ (text : String) (t : Tree), ofText? text = some t → t.Finite) ∧
    ∀ (text : String) (p : Plan), Plan.ofText? text = some p →
      ∀ c ∈ p.candidates.deletes ++ p.candidates.creates, c.attributes.Finite := by
  refine ⟨fun t u => display_inj, fun a b mask ha hb d hd => displaySide_ne ha hb hd,
    display_ne_absent, fun text t => finite_of_ofText?, fun text p h c hc => ?_⟩
  obtain ⟨v, hv, heq⟩ := Plan.exists_proper_of_ofText? h hc
  rw [heq]
  exact finite_ofJson hv

/-- A tenth is read alike in either notation, the comma in the text beside it separates nothing, and
the sides of the differences from an empty list read differently. -/
theorem display_unambiguous_tenth :
    ∃ t u d p c, ofText? "[0.1,\"a, \\\"b\"]" = some t ∧ ofText? "[1e-1,\"a, \\\"b\"]" = some u ∧
      t.Finite ∧ u.Finite ∧ t.display = u.display ∧ t = u ∧
      d ∈ t.diff (.list []) none ∧ displaySide d.before ≠ displaySide d.after ∧
      Plan.ofText? portsPlan = some p ∧ c ∈ p.candidates.deletes ++ p.candidates.creates ∧
      c.attributes.Finite := by
  obtain ⟨hinj, hsides, -, hread, hplan⟩ := display_unambiguous
  obtain ⟨t, ht, htext⟩ := (Option.any_eq_true _ _).1 (by decide +kernel :
    (ofText? "[0.1,\"a, \\\"b\"]").any fun t =>
      t.display == "[0.1, \"a, \\\"b\"]" && (t.diff (.list []) none).length == 2)
  obtain ⟨u, hu, hutext⟩ := (Option.any_eq_true _ _).1 (by decide +kernel :
    (ofText? "[1e-1,\"a, \\\"b\"]").any fun t => t.display == "[0.1, \"a, \\\"b\"]")
  obtain ⟨htext, hlength⟩ := Bool.and_eq_true_iff.1 htext
  have hsame : t.display = u.display := (beq_iff_eq.1 htext).trans (beq_iff_eq.1 hutext).symm
  have htree := hread _ t ht
  have hempty : (Tree.list []).Finite := .list fun _ => (absurd · List.not_mem_nil)
  obtain ⟨d, hd⟩ := List.exists_mem_of_length_pos
    (beq_iff_eq.1 hlength ▸ (by decide) : 0 < (t.diff (.list []) none).length)
  obtain ⟨p, hp, hdeletes⟩ := (Option.any_eq_true _ _).1
    (by decide +kernel : (Plan.ofText? portsPlan).any fun p => p.candidates.deletes.length == 1)
  obtain ⟨c, hc⟩ := List.length_eq_one_iff.1 (beq_iff_eq.1 hdeletes)
  have hmem : c ∈ p.candidates.deletes ++ p.candidates.creates := by simp [hc]
  exact ⟨t, u, d, p, c, ht, hu, htree, hread _ u hu, hsame, hinj t u htree (hread _ u hu) hsame, hd,
    hsides t _ none htree hempty d hd, hp, hmem, hplan _ p hp c hmem⟩

end Tree

end ResourceMoves.Attribute
