import Mathlib.Data.List.TakeWhile
import ResourceMoves.Proofs.Result
import ResourceMoves.Proofs.Shell.Script

/-!
# Shell — words that stand for themselves

A word that is written without quotes may mean something else to a shell than itself.  Its
characters may be special, and then it is no single word; it may be a pattern of files, or begin
with the tilde of a home directory; and at the beginning of a command it may be reserved, or assign
to a variable.  A word of which none of this is so is `Verbatim`.

**A bare word begins a command as it is just when it is verbatim** (`Verbatim.of_command?`,
`Verbatim.command?_eq_some`).
-/

namespace ResourceMoves.Shell

variable {text name : List Char} {word : String} {w : Word} {words : List Word}
  {texts : List String}

/-- The characters can name a variable. -/
structure IsName (name : List Char) : Prop where
  ne_nil : name ≠ []
  chars  : ∀ c ∈ name, c.isAlphanum ∨ c = '_'
  head   : ∀ c ∈ name.head?, ¬ c.isDigit

/-- The text assigns to a variable: it is a name, an equals sign, and any value. -/
def Assigns (text : List Char) : Prop := ∃ name value, text = name ++ '=' :: value ∧ IsName name

/-- The word stands for itself at the beginning of a command: it is bare, it is no pattern and has
no tilde in front, and it is neither reserved nor an assignment. -/
structure Verbatim (word : String) : Prop where
  bare         : Scan.IsBare word.toList
  not_pattern  : ∀ c ∈ word.toList, c ∉ ['*', '?', '[']
  not_tilde    : word.toList.head? ≠ some '~'
  not_reserved : word ∉ reserved
  not_assigns  : ¬ Assigns word.toList

/-! ### What bare words mean -/

theorem chars_bareLetters (text : List Char) : (bareLetters text).chars = text := by
  simp [Word.chars, bareLetters, Function.comp_def]

theorem isReserved_bareLetters :
    Word.isReserved (bareLetters word.toList) ↔ word ∈ reserved := by
  rw [Word.isReserved, chars_bareLetters, String.ofList_toList]
  simp [bareLetters]

theorem isPattern_bareLetters : Word.isPattern (bareLetters text) = false ↔
    (∀ c ∈ text, c ∉ ['*', '?', '[']) ∧ text.head? ≠ some '~' := by
  have hany : ((bareLetters text).any fun l => !l.quoted && ['*', '?', '['].contains l.char) =
      text.any (['*', '?', '['].contains ·) := List.any_map
  have hhead : (bareLetters text).head? = some ⟨'~', false⟩ ↔ text.head? = some '~' := by
    cases text <;> simp [bareLetters]
  rw [Word.isPattern, hany, Bool.or_eq_false_iff, List.any_eq_false, beq_eq_false_iff_ne, ne_eq,
    hhead]
  simp only [List.contains_iff_mem, ne_eq]

theorem IsName.equals_not_mem (h : IsName name) : '=' ∉ name := by
  intro hmem
  rcases h.chars '=' hmem with hc | hc
  · exact absurd hc (by decide)
  · exact absurd hc (by decide)

theorem isName_iff : IsName name ↔
    (name.all fun c => c.isAlphanum || c == '_') ∧ name.head?.any (!·.isDigit) := by
  cases name with
  | nil => simpa using fun h : IsName [] => h.ne_nil rfl
  | cons c name =>
      simp only [List.all_eq_true, Bool.or_eq_true, beq_iff_eq]
      constructor
      · intro h
        exact ⟨h.chars, by simpa using h.head c rfl⟩
      · rintro ⟨hchars, hhead⟩
        exact ⟨List.cons_ne_nil _ _, hchars, by simpa using hhead⟩

theorem takeWhile_bareLetters (text : List Char) :
    (bareLetters text).takeWhile (fun l => l ≠ ⟨'=', false⟩) =
      bareLetters (text.takeWhile (· ≠ '=')) := by
  rw [bareLetters, List.takeWhile_map, bareLetters]
  congr 2
  funext c
  simp

theorem takeWhile_append_equals (h : '=' ∉ name) (value : List Char) :
    (name ++ '=' :: value).takeWhile (· ≠ '=') = name := by
  have hname : ∀ c ∈ name, decide (c ≠ '=') := fun c hc => decide_eq_true fun e => h (e ▸ hc)
  rw [List.takeWhile_append_of_pos hname, List.takeWhile_cons_of_neg (by simp), List.append_nil]

theorem isAssignment_bareLetters : Word.isAssignment (bareLetters text) ↔ Assigns text := by
  have hassign : Word.isAssignment (bareLetters text) ↔
      (text.takeWhile (· ≠ '=')).length < text.length ∧ IsName (text.takeWhile (· ≠ '=')) := by
    rw [Word.isAssignment, takeWhile_bareLetters, isName_iff]
    simp [bareLetters, Option.any_map, Function.comp_def, and_assoc]
  rw [hassign]
  constructor
  · rintro ⟨hlength, hname⟩
    have hmem : '=' ∈ text := by
      by_contra hnot
      have hself : text.takeWhile (· ≠ '=') = text :=
        List.takeWhile_eq_self_iff.2 fun c hc => decide_eq_true fun e => hnot (e ▸ hc)
      rw [hself] at hlength
      exact absurd hlength (Nat.lt_irrefl _)
    obtain ⟨name, value, rfl, hnot⟩ := List.eq_append_cons_of_mem hmem
    rw [takeWhile_append_equals hnot] at hname
    exact ⟨name, value, rfl, hname⟩
  · rintro ⟨name, value, rfl, hname⟩
    rw [takeWhile_append_equals hname.equals_not_mem]
    exact ⟨by simp, hname⟩

instance : DecidablePred Scan.IsBare := fun text =>
  decidable_of_iff (text ≠ [] ∧ (text.all fun c => c ∈ Scan.special → c = '#') ∧
      text.head? ≠ some '#') <| by
    simp only [List.all_eq_true, decide_eq_true_eq]
    exact ⟨fun ⟨hne, hchars, hhead⟩ => ⟨hne, hchars, hhead⟩, fun h => ⟨h.ne_nil, h.chars, h.head⟩⟩

instance : DecidablePred Assigns := fun _ => decidable_of_iff _ isAssignment_bareLetters

instance : DecidablePred Verbatim := fun word =>
  decidable_of_iff (Scan.IsBare word.toList ∧ Word.isPattern (bareLetters word.toList) = false ∧
      word ∉ reserved ∧ ¬ Assigns word.toList) <| by
    rw [isPattern_bareLetters]
    exact ⟨fun ⟨hbare, ⟨hpattern, htilde⟩, hreserved, hassigns⟩ =>
        ⟨hbare, hpattern, htilde, hreserved, hassigns⟩,
      fun h => ⟨h.bare, ⟨h.not_pattern, h.not_tilde⟩, h.not_reserved, h.not_assigns⟩⟩

example : Verbatim "./tofu#2" ∧ ¬ Verbatim "my terraform" ∧ ¬ Verbatim "~/bin/tofu" ∧
    ¬ Verbatim "V=1" ∧ ¬ Verbatim "if" := by decide +kernel

/-! ### Commands that begin with a bare word -/

theorem command?_cons_eq_some_iff : command? (w :: words) = some texts ↔
    w.isReserved = false ∧ w.isAssignment = false ∧
      List.Forall₂ (fun w t => Word.text? w = some t) (w :: words) texts := by
  rw [command?, ← mapM_eq_some_iff, List.head?_cons, Option.any_some]
  cases w.isReserved <;> cases w.isAssignment <;> simp

theorem text?_eq_some_iff {t : String} :
    w.text? = some t ↔ w.isPattern = false ∧ String.ofList w.chars = t := by
  cases h : w.isPattern <;> simp [Word.text?, h]

namespace Verbatim

theorem reads (h : Verbatim word) : Reads word.toList (bareLetters word.toList) :=
  Scan.reads_bareLetters h.bare

/-- **A bare word that begins a command is verbatim.** -/
theorem of_command? (hbare : Scan.IsBare word.toList)
    (h : command? (bareLetters word.toList :: words) = some texts) : Verbatim word := by
  obtain ⟨hreserved, hassign, hwords⟩ := command?_cons_eq_some_iff.1 h
  obtain ⟨t, ts, htext, -, rfl⟩ := List.forall₂_cons_left_iff.1 hwords
  obtain ⟨hpattern, htilde⟩ := isPattern_bareLetters.1 (text?_eq_some_iff.1 htext).1
  refine ⟨hbare, hpattern, htilde, fun hmem => ?_, fun hassigns => ?_⟩
  · exact Bool.false_ne_true (hreserved.symm.trans (isReserved_bareLetters.2 hmem))
  · exact Bool.false_ne_true (hassign.symm.trans (isAssignment_bareLetters.2 hassigns))

theorem text? (h : Verbatim word) : Word.text? (bareLetters word.toList) = some word := by
  rw [text?_eq_some_iff, chars_bareLetters]
  exact ⟨isPattern_bareLetters.2 ⟨h.not_pattern, h.not_tilde⟩, String.ofList_toList⟩

/-- **A verbatim word begins a command as it is.** -/
theorem command?_eq_some (h : Verbatim word)
    (hwords : List.Forall₂ (fun w t => Word.text? w = some t) words texts) :
    command? (bareLetters word.toList :: words) = some (word :: texts) := by
  refine command?_cons_eq_some_iff.2 ⟨?_, ?_, .cons h.text? hwords⟩
  · exact Bool.eq_false_iff.2 fun hr => h.not_reserved (isReserved_bareLetters.1 hr)
  · exact Bool.eq_false_iff.2 fun ha => h.not_assigns (isAssignment_bareLetters.1 ha)

end Verbatim

end ResourceMoves.Shell
