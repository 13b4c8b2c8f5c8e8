import ResourceMoves.Proofs.Move.Commands
import ResourceMoves.Proofs.Run.Calls
import ResourceMoves.Proofs.Shell.Extent

/-!
# Runs — the program that the commands call

The settings name a planner.  A run calls it by that name, and the commands that a run prints have
the name in front, as it is written there.  So a shell that reads them calls another program, or
none, if the name means something to it: one with a space is read as two words.

**The commands call the planner, whatever they move, just when a shell reads its name as it is
written** (`planner_called_iff`).  A single move between addresses of one letter shows that the name
has to be so.  Either the first word is over when the shell comes to `state`, or it is not.  If it
is, it has no more letters than the name, and all of them only if the name is bare
(`Scan.isBare_or_extent_lt`); if not, it takes `state` in, and the second word is the one behind
that (`head_or_second`).
-/

namespace ResourceMoves.Shell

variable {script : String} {cs : List (List String)}

/-- A shell reads the script as that many commands, which all begin with the words. -/
def Begins (words : List String) (n : Nat) (script : String) : Prop :=
  ∃ cs, commands? script = some cs ∧ cs.length = n ∧ ∀ c ∈ cs, words <+: c

theorem commands?_eq_some_iff : commands? script = some cs ↔
    ∃ s read, Scan.scan {} script.toList = some s ∧ s.finish = some read ∧
      read.mapM command? = some cs := by
  simp [commands?, Option.bind_eq_some_iff]

end ResourceMoves.Shell

namespace ResourceMoves.Move

open ResourceMoves.Shell

variable {bin : String} {s t : Scan}

/-! ### The command of a single move -/

/-- A move between addresses of one letter. -/
def letterMove : Move := ⟨"a", "b"⟩

/-- The words of its command after `state`. -/
def letterWords : List Word := [bareLetters "mv".toList, quotedLetters ['a'], quotedLetters ['b']]

/-- What stands in its command after `state` and a space. -/
def letterLine : List Char :=
  [' '].intercalate ["mv".toList, Text.shellQuote ['a'], Text.shellQuote ['b']] ++ ['\n']

/-- What stands in its command after the planner. -/
def letterTail : List Char := ' ' :: ("state".toList ++ ' ' :: letterLine)

theorem commands_letterMove (bin : String) :
    (commands bin [letterMove]).toList = bin.toList ++ letterTail := by
  simp [commands, command_toList, letterMove, letterTail, letterLine, List.intercalate_cons_cons]

/-- Outside of quotes `state` ends the word that has begun, and three words follow it. -/
theorem scan_state (hmode : s.mode = .bare) : s.scan ("state".toList ++ ' ' :: letterLine) =
    some { commands := s.commands ++
      [s.words ++ [s.word.getD [] ++ bareLetters "state".toList] ++ letterWords] } := by
  obtain ⟨_, word, words, commands⟩ := s
  cases hmode
  have hwords : List.Forall₂ Reads ["mv".toList, Text.shellQuote ['a'], Text.shellQuote ['b']]
      letterWords :=
    .cons plainWord_mv.verbatim.reads <| .cons (Scan.reads_shellQuote (by decide)) <|
      .cons (Scan.reads_shellQuote (by decide)) .nil
  rw [Scan.scan_append, plainWord_state.verbatim.reads _ rfl, Option.bind_some, Scan.scan_cons,
    Scan.step_space rfl, Option.bind_some]
  exact Scan.scan_line hwords (List.cons_ne_nil _ _) _ _

/-- A command's first word is that of the words before `state`, or there are none. -/
theorem head_or_second_of_prefix {ws all : List Word} (h : ws <+: all) (w : Word) :
    (ws ++ [w] ++ letterWords).head? = all.head? ∨
      (ws ++ [w] ++ letterWords)[1]? = some (bareLetters "mv".toList) := by
  cases ws with
  | nil => exact .inr rfl
  | cons v ws =>
      obtain ⟨rest, rfl⟩ := h
      exact .inl rfl

/-- The first word has been read before, or the second one is `mv`. -/
theorem head_or_second (hscan : s.scan letterTail = some t) (hfinish : t.finish.isSome) :
    t.allWords.head? = s.allWords.head? ∨ t.allWords[1]? = some (bareLetters "mv".toList) := by
  obtain ⟨mode, word, words, commands⟩ := s
  -- a quote that is open before the rest of the command is still open at its end
  have hopen (h : t.finish = none) : False := by
    rw [h] at hfinish
    cases hfinish
  cases mode with
  | bare =>
      rw [letterTail, Scan.scan_cons, Scan.step_space rfl, Option.bind_some, scan_state rfl] at hscan
      cases hscan
      have h := head_or_second_of_prefix
        (List.prefix_refl (commands.flatten ++ words ++ word.toList)) (bareLetters "state".toList)
      simpa [Scan.allWords, Scan.endWord] using h
  | escaped =>
      have hstep : (⟨.escaped, word, words, commands⟩ : Scan).step ' ' =
          some (Scan.push ⟨.bare, word, words, commands⟩ [⟨' ', true⟩]) := rfl
      rw [letterTail, Scan.scan_cons, hstep, Option.bind_some, scan_state rfl] at hscan
      cases hscan
      have h := head_or_second_of_prefix
        (List.prefix_append (commands.flatten ++ words) word.toList)
        (word.getD [] ++ [⟨' ', true⟩] ++ bareLetters "state".toList)
      simpa [Scan.allWords, Scan.push] using h
  | comment =>
      cases hscan
      exact .inl (congrArg List.head? (Scan.allWords_endLine _))
  | single =>
      cases hscan
      exact (hopen rfl).elim
  | double =>
      cases hscan
      exact (hopen rfl).elim
  | doubleEscaped =>
      cases hscan
      exact (hopen rfl).elim

/-! ### Calls of the planner -/

/-- What a shell has read after the planner and at the end, if it reads a call of the planner. -/
theorem of_begins (h : Begins [bin, "state"] 1 (commands bin [letterMove])) :
    ∃ s t w v ws, Scan.scan {} bin.toList = some s ∧ s.scan letterTail = some t ∧
      t.finish = some [w :: v :: ws] ∧ (∃ texts, command? (w :: v :: ws) = some texts) ∧
      w.text? = some bin ∧ v.text? = some "state" := by
  obtain ⟨cs, hcommands, hlength, hbegin⟩ := h
  obtain ⟨c, rfl⟩ := List.length_eq_one_iff.1 hlength
  obtain ⟨rest, rfl⟩ := hbegin c List.mem_cons_self
  obtain ⟨t, read, hscan, hfinish, hread⟩ := commands?_eq_some_iff.1 hcommands
  rw [commands_letterMove, Scan.scan_append, Option.bind_eq_some_iff] at hscan
  obtain ⟨s, hs, ht⟩ := hscan
  obtain ⟨words, others, hwords, hothers, rfl⟩ :=
    List.forall₂_cons_right_iff.1 (mapM_eq_some_iff.1 hread)
  obtain rfl := List.forall₂_nil_right_iff.1 hothers
  cases words with
  | nil => cases hwords
  | cons w words =>
      obtain ⟨-, -, htexts⟩ := command?_cons_eq_some_iff.1 hwords
      obtain ⟨hw, htexts⟩ := List.forall₂_cons.1 htexts
      obtain ⟨v, ws, hv, -, rfl⟩ := List.forall₂_cons_right_iff.1 htexts
      exact ⟨s, t, w, v, ws, hs, ht, hfinish, ⟨_, hwords⟩, hw, hv⟩

/-- **The planner is called only if it stands for itself.** -/
theorem verbatim_of_begins (h : Begins [bin, "state"] 1 (commands bin [letterMove])) :
    Verbatim bin := by
  obtain ⟨s, t, w, v, ws, hs, ht, hfinish, ⟨texts, hcommand⟩, hw, hv⟩ := of_begins h
  have hall : t.allWords = w :: v :: ws := Scan.allWords_of_finish hfinish
  have hhead : s.allWords.head? = some w := by
    rcases head_or_second ht (hfinish ▸ rfl) with hfirst | hsecond
    · rw [← hfirst, hall, List.head?_cons]
    · rw [hall] at hsecond
      obtain rfl : v = bareLetters "mv".toList := Option.some.inj hsecond
      rw [plainWord_mv.verbatim.text?] at hv
      exact absurd hv (by decide)
  have hfront : s.front = bin.toList.length := by
    rw [Scan.front, hhead, Option.getD_some, ← (text?_eq_some_iff.1 hw).2, String.toList_ofList,
      Word.chars, List.length_map]
  rcases Scan.isBare_or_extent_lt hs with (hempty | hbare) | hlt
  · rw [hempty] at hs
    cases hs
    cases hhead
  · rw [Scan.reads_bareLetters hbare _ rfl] at hs
    cases hs
    cases hhead
    exact Verbatim.of_command? hbare hcommand
  · exact absurd hlt (Nat.not_lt.2 (hfront ▸ Nat.le_add_right _ _))

/-- Whatever is moved, a shell reads each command as a call of the planner whose first argument is
`state`.  A zero can stand in no script. -/
def CallsPlanner (bin : String) : Prop :=
  ∀ moves : List Move, moves ≠ [] →
    (∀ m ∈ moves, '\x00' ∉ m.origin.toList ∧ '\x00' ∉ m.target.toList) →
      Begins [bin, "state"] moves.length (commands bin moves)

theorem callsPlanner_iff : CallsPlanner bin ↔ Verbatim bin := by
  constructor
  · intro h
    exact verbatim_of_begins (h [letterMove] (List.cons_ne_nil _ _) (by decide))
  · intro hbin moves _ hmoves
    refine ⟨_, commands?_of_verbatim hbin hmoves, List.length_map _, fun c hc => ?_⟩
    obtain ⟨m, -, rfl⟩ := List.mem_map.1 hc
    exact ⟨_, rfl⟩

-- Chance addresses can make up for a name: this one is a comment up to its second line, which opens
-- a quote, and with the first address in that quote it spells the name.
example : commands? (commands "# state mv '\n\"#" [⟨"\n\\\"#\" state '", "b"⟩]) =
    some [["# state mv '\n\"#", "state", "\\", "b"]] := by decide +kernel

end ResourceMoves.Move

namespace ResourceMoves

open Shell (Verbatim commands?)
open Move (CallsPlanner letterMove)

/-- **Which planners the commands call.**  A run calls the planner of its settings and no other
program, and the commands call it as well, whatever is moved, just when a shell reads it as it is
written. -/
theorem planner_called_iff (s : Settings) :
    (∀ host o, (Settings.load host o).2 = .ok s → ∀ c ∈ (run host o).calls, c.bin = s.planner) ∧
      (CallsPlanner s.planner ↔ Verbatim s.planner) := by
  refine ⟨fun host o hload c hc => ?_, Move.callsPlanner_iff⟩
  have hscript := ((Run.orderly_run host o).scripted s hload).subset hc
  obtain ⟨subcommand, -, rfl⟩ := List.mem_map.1 hscript
  rfl

/-- Settings with a planner that has a space in its name. -/
def spacedSettings : Settings := { planner := "my terraform" }

/-- The check lets planners pass that the commands do not call: here they call `my`. -/
theorem not_planner_called : ¬ ∀ isDirectory, ∀ s : Settings, s.problems isDirectory = [] →
    CallsPlanner s.planner := by
  intro h
  have hproblems : spacedSettings.problems (fun _ => true) = [] := by decide +kernel
  have hread : commands? (Move.commands spacedSettings.planner [letterMove]) =
      some [["my", "terraform", "state", "mv", "a", "b"]] := by decide +kernel
  obtain ⟨cs, hcs, -, hbegin⟩ := h (fun _ => true) spacedSettings hproblems [letterMove]
    (List.cons_ne_nil _ _) (by decide)
  cases hcs.symm.trans hread
  have hprefix := hbegin _ List.mem_cons_self
  exact absurd hprefix (by decide)

end ResourceMoves
