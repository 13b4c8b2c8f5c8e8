import ResourceMoves.Move.Render
import ResourceMoves.Proofs.Shell.Verbatim
import ResourceMoves.Text.Alphanumeric

/-!
# Moves — the commands, as a shell reads them

The commands for moves are a script for a shell.  Each is a line of five words: the planner, two
plain words, and both addresses in quotes.  A shell that reads such a line is back where it was
before, with one command more (`scan_command`), so a script of them is read command by command, in
order (`scan_commands`).

**The shell gets the addresses back** (`commands?_commands`): the words of each command are those of
its move, whatever quotes, blanks, dollar signs or line breaks the addresses have.  Only a zero can
stand in no script; and the planner, which is written as it is, has to stand for itself
(`commands?_of_verbatim`), as a plain word does that the shell does not reserve (`PlainWord`).
-/

namespace ResourceMoves.Shell

/-- The word stands for itself in a script: it has only letters, digits and four other signs, and no
meaning of its own at the beginning of a command. -/
structure PlainWord (word : String) : Prop where
  ne_empty     : word ≠ ""
  chars        : ∀ c ∈ word.toList, Text.isAlphanumeric c ∨ c ∈ ['_', '-', '.', '/']
  not_reserved : word ∉ reserved

instance (word : String) : Decidable (PlainWord word) :=
  decidable_of_iff (word ≠ "" ∧ (word.toList.all fun c =>
      Text.isAlphanumeric c || ['_', '-', '.', '/'].contains c) ∧ word ∉ reserved) <| by
    simp only [List.all_eq_true, Bool.or_eq_true, List.contains_iff_mem]
    constructor
    · rintro ⟨hne, hchars, hreserved⟩
      exact ⟨hne, hchars, hreserved⟩
    · rintro ⟨hne, hchars, hreserved⟩
      exact ⟨hne, hchars, hreserved⟩

/-! ### Plain words -/

/-- The characters that a plain word does without: what means something to the scanner, and what
makes assignments and patterns. -/
def meaningful : List Char := Scan.special ++ ['=', '*', '?', '[', '~']

theorem not_isAlphanumeric_of_meaningful {c : Char} (h : c ∈ meaningful) :
    Text.isAlphanumeric c = false := by
  have hall : (meaningful.all fun c => !Text.isAlphanumeric c) = true := by decide +kernel
  simpa using List.all_eq_true.1 hall c h

theorem sign_not_meaningful {c : Char} (h : c ∈ ['_', '-', '.', '/']) : c ∉ meaningful := by
  have hall : (['_', '-', '.', '/'].all fun c => !meaningful.contains c) = true := by decide
  simpa using List.all_eq_true.1 hall c h

namespace PlainWord

variable {word : String}

theorem not_meaningful (h : PlainWord word) {c : Char} (hc : c ∈ word.toList) :
    c ∉ meaningful := by
  rcases h.chars c hc with hletter | hsign
  · intro hmeaning
    rw [not_isAlphanumeric_of_meaningful hmeaning] at hletter
    cases hletter
  · exact sign_not_meaningful hsign

/-- **A plain word stands for itself.** -/
theorem verbatim (h : PlainWord word) : Verbatim word where
  bare := by
    have hspecial {c : Char} (hc : c ∈ word.toList) : c ∉ Scan.special := fun hmem =>
      h.not_meaningful hc (List.mem_append_left _ hmem)
    refine ⟨fun e => h.ne_empty (String.toList_eq_nil_iff.1 e), fun c hc hmem => ?_, fun hhead => ?_⟩
    · exact absurd hmem (hspecial hc)
    · exact hspecial (List.mem_of_mem_head? hhead) (by decide)
  not_pattern c hc hmem := by
    have hsign : c ∈ ['*', '?', '['] ++ ['~'] := List.mem_append_left _ hmem
    exact h.not_meaningful hc (List.mem_append_right _ (List.mem_cons_of_mem '=' hsign))
  not_tilde hhead := h.not_meaningful (List.mem_of_mem_head? hhead) (by decide)
  not_reserved := h.not_reserved
  not_assigns := by
    rintro ⟨name, value, heq, -⟩
    exact h.not_meaningful (heq ▸ List.mem_append_right _ List.mem_cons_self) (by decide)

end PlainWord

end ResourceMoves.Shell

namespace ResourceMoves.Move

open ResourceMoves.Shell

variable {bin : String} {m : Move}

theorem plainWord_state : PlainWord "state" := by decide +kernel

theorem plainWord_mv : PlainWord "mv" := by decide +kernel

/-- The words of a move's command, as they are written. -/
def commandWords (bin : String) (m : Move) : List Word :=
  [bareLetters bin.toList, bareLetters "state".toList, bareLetters "mv".toList,
    quotedLetters m.origin.toList, quotedLetters m.target.toList]

/-- A command is a line of five words. -/
theorem command_toList (bin : String) (m : Move) : (command bin m).toList =
    [' '].intercalate [bin.toList, "state".toList, "mv".toList, Text.shellQuote m.origin.toList,
      Text.shellQuote m.target.toList] ++ ['\n'] := by
  simp [command, Text.shellWord, List.intercalate_cons_cons]

/-- **A command is read as its words.** -/
theorem scan_command (hbin : Verbatim bin) (horigin : '\x00' ∉ m.origin.toList)
    (htarget : '\x00' ∉ m.target.toList) (commands : List (List Word)) :
    Scan.scan { commands } (command bin m).toList =
      some { commands := commands ++ [commandWords bin m] } := by
  rw [command_toList]
  refine Scan.scan_line ?_ (List.cons_ne_nil _ _) [] commands
  exact .cons hbin.reads <| .cons plainWord_state.verbatim.reads <|
    .cons plainWord_mv.verbatim.reads <| .cons (Scan.reads_shellQuote horigin) <|
      .cons (Scan.reads_shellQuote htarget) .nil

/-- **Commands are read one after the other.** -/
theorem scan_commands {moves : List Move} (hbin : Verbatim bin)
    (hmoves : ∀ m ∈ moves, '\x00' ∉ m.origin.toList ∧ '\x00' ∉ m.target.toList)
    (done : List (List Word)) :
    Scan.scan { commands := done } (commands bin moves).toList =
      some { commands := done ++ moves.map (commandWords bin) } := by
  induction moves generalizing done with
  | nil => simp [commands]
  | cons m moves ih =>
      obtain ⟨⟨horigin, htarget⟩, hmoves⟩ := List.forall_mem_cons.1 hmoves
      have hcons : (commands bin (m :: moves)).toList =
          (command bin m).toList ++ (commands bin moves).toList := by
        simp [commands]
      rw [hcons, Scan.scan_append, scan_command hbin horigin htarget, Option.bind_some, ih hmoves]
      simp

/-- The words of a command stand for the planner, the two words between, and the addresses. -/
theorem command?_commandWords (hbin : Verbatim bin) (m : Move) :
    command? (commandWords bin m) = some [bin, "state", "mv", m.origin, m.target] := by
  refine hbin.command?_eq_some <| .cons plainWord_state.verbatim.text? <|
    .cons plainWord_mv.verbatim.text? ?_
  have hquoted (s : String) : Word.text? (quotedLetters s.toList) = some s := by
    rw [text?_quotedLetters, String.ofList_toList]
  exact .cons (hquoted m.origin) (.cons (hquoted m.target) .nil)

/-- **The commands of a planner that stands for itself** are read as five words each. -/
theorem commands?_of_verbatim {moves : List Move} (hbin : Verbatim bin)
    (hmoves : ∀ m ∈ moves, '\x00' ∉ m.origin.toList ∧ '\x00' ∉ m.target.toList) :
    commands? (commands bin moves) =
      some (moves.map fun m => [bin, "state", "mv", m.origin, m.target]) := by
  have hread : (moves.map (commandWords bin)).mapM command? =
      some (moves.map fun m => [bin, "state", "mv", m.origin, m.target]) := by
    refine mapM_eq_some_iff.2 (List.forall₂_map_left_iff.2 (List.forall₂_map_right_iff.2 ?_))
    exact List.forall₂_same.2 fun m _ => command?_commandWords hbin m
  rw [commands?, scan_commands hbin hmoves []]
  exact hread

/-- **The commands survive the shell.**  A shell reads the commands for moves as one simple command
for each move, in their order, whose words are the planner, `state`, `mv` and both addresses as they
are. -/
theorem commands?_commands (bin : String) (moves : List Move) (hbin : PlainWord bin)
    (hmoves : ∀ m ∈ moves, '\x00' ∉ m.origin.toList ∧ '\x00' ∉ m.target.toList) :
    commands? (commands bin moves) =
      some (moves.map fun m => [bin, "state", "mv", m.origin, m.target]) :=
  commands?_of_verbatim hbin.verbatim hmoves

/-- Two moves whose addresses have every character that a shell could mistake. -/
def oddMoves : List Move :=
  [⟨"t.a[\"it's $HOME\"]", "t.b['x' \\ `y`]"⟩, ⟨"'; rm -rf / #", "two\nlines''"⟩]

/-- Two such moves are read as two commands of five words, for a planner that is called by its
path. -/
theorem commands?_commands_odd :
    PlainWord "./bin/tofu-1.9" ∧
    commands? (commands "./bin/tofu-1.9" oddMoves) =
      some [["./bin/tofu-1.9", "state", "mv", "t.a[\"it's $HOME\"]", "t.b['x' \\ `y`]"],
        ["./bin/tofu-1.9", "state", "mv", "'; rm -rf / #", "two\nlines''"]] := by
  have hbin : PlainWord "./bin/tofu-1.9" := by decide +kernel
  exact ⟨hbin, commands?_commands "./bin/tofu-1.9" oddMoves hbin (by decide)⟩

end ResourceMoves.Move
