import Mathlib.Data.List.Forall2
import ResourceMoves.Text.ShellWord

/-!
# Shell — reading a script

How a POSIX shell takes a script apart: characters become words and words become commands.  The
reader goes through the text once, and what a character does depends on the quotes around it
(`Mode`).  Of each letter of a word it remembers whether quoting took its special meaning away,
since only a bare word can be reserved, name a pattern of files or assign to a variable.

Only scripts of simple commands are read (`commands?`), one on a line, whose words are known from
the text alone.  Operators, expansions and compound commands have no reading here, and neither has
a text that the shell has no meaning for: a quote without its end, a zero.  Aliases are taken to be
unset.

**A quoted text is one word**: after a word in single quotes, with each single quote in it escaped,
the reader is where it was, and has that text as its word (`reads_shellQuote`).  A text without
special characters stands for itself (`reads_bareLetters`).
-/

namespace ResourceMoves.Shell

/-- What the quotes around a place do to the next character. -/
inductive Mode
  | bare
  | escaped
  | single
  | double
  | doubleEscaped
  | comment
  deriving DecidableEq

/-- A letter of a word: a character, and whether it was quoted. -/
structure Letter where
  char   : Char
  quoted : Bool
  deriving DecidableEq

/-- A word as it was written, without its quotes. -/
abbrev Word := List Letter

/-- How far a reader has come: the commands before the current line, the words before the current
word, and the word itself, if one has begun. -/
structure Scan where
  mode     : Mode := .bare
  word     : Option Word := none
  words    : List Word := []
  commands : List (List Word) := []
  deriving DecidableEq

/-- The characters that, unless they are quoted, begin an operator. -/
def operators : List Char := ['|', '&', ';', '<', '>', '(', ')']

/-- The characters that begin an expansion, also between double quotes. -/
def expansions : List Char := ['$', '`']

/-- The words that begin, divide or end a compound command; the last six do so in some shells. -/
def reserved : List String :=
  ["!", "\x7b", "\x7d", "case", "do", "done", "elif", "else", "esac", "fi", "for", "if", "in",
    "then", "until", "while", "[[", "]]", "function", "namespace", "select", "time"]

namespace Scan

/-- Further letters of the current word, which begins with them if it has not begun. -/
def push (s : Scan) (letters : Word) : Scan :=
  { s with word := some (s.word.getD [] ++ letters) }

/-- Quotes open; a word begins here even if there is nothing between them. -/
def enter (s : Scan) (mode : Mode) : Scan := { s.push [] with mode }

/-- The current word ends. -/
def endWord (s : Scan) : Scan := { s with word := none, words := s.words ++ s.word.toList }

/-- The current line ends, and with it the command on it, if there is one. -/
def endLine (s : Scan) : Scan :=
  let words := s.endWord.words
  { commands := if words.isEmpty then s.commands else s.commands ++ [words] }

/-- A character outside of quotes. -/
def stepBare (s : Scan) (c : Char) : Option Scan :=
  if c = '\n' then some s.endLine
  else if c = ' ' ∨ c = '\t' then some s.endWord
  else if c = '\\' then some { s with mode := .escaped }
  else if c = '\'' then some (s.enter .single)
  else if c = '"' then some (s.enter .double)
  else if c = '#' ∧ s.word = none then some { s with mode := .comment }
  else if c ∈ operators ∨ c ∈ expansions then none
  else some (s.push [⟨c, false⟩])

/-- The next character. -/
def step (s : Scan) (c : Char) : Option Scan :=
  if c = '\x00' then none
  else match s.mode with
    | .bare          => s.stepBare c
    | .escaped       =>
        if c = '\n' then some { s with mode := .bare }
        else some { s.push [⟨c, true⟩] with mode := .bare }
    | .single        =>
        if c = '\'' then some { s with mode := .bare } else some (s.push [⟨c, true⟩])
    | .double        =>
        if c = '"' then some { s with mode := .bare }
        else if c = '\\' then some { s with mode := .doubleEscaped }
        else if c ∈ expansions then none
        else some (s.push [⟨c, true⟩])
    | .doubleEscaped =>
        if c = '\n' then some { s with mode := .double }
        -- before any other character the backslash is one itself
        else if c = '"' ∨ c = '\\' ∨ c ∈ expansions then
          some { s.push [⟨c, true⟩] with mode := .double }
        else some { s.push [⟨'\\', true⟩, ⟨c, true⟩] with mode := .double }
    | .comment       => if c = '\n' then some s.endLine else some s

/-- All characters of a text. -/
def scan (s : Scan) (text : List Char) : Option Scan := text.foldlM step s

/-- The commands, if the text may end here. -/
def finish (s : Scan) : Option (List (List Word)) :=
  if s.mode = .bare ∨ s.mode = .comment then some s.endLine.commands else none

end Scan

namespace Word

/-- The characters of a word. -/
def chars (w : Word) : List Char := w.map (·.char)

/-- The word is bare and reserved. -/
def isReserved (w : Word) : Bool :=
  w.all (!·.quoted) && reserved.contains (String.ofList w.chars)

/-- The word assigns to a variable: it is a bare name, a bare equals sign, and any value. -/
def isAssignment (w : Word) : Bool :=
  let name := w.takeWhile fun l => l ≠ ⟨'=', false⟩
  name.length < w.length && name.all (fun l => !l.quoted && (l.char.isAlphanum || l.char == '_')) &&
    name.head?.any (!·.char.isDigit)

/-- What the word stands for depends on files or users: it is a pattern, or begins with a tilde. -/
def isPattern (w : Word) : Bool :=
  w.any (fun l => !l.quoted && ['*', '?', '['].contains l.char) ||
    w.head? == some ⟨'~', false⟩

/-- The text that a word stands for. -/
def text? (w : Word) : Option String :=
  if w.isPattern then none else some (.ofList w.chars)

end Word

/-- The words of a simple command. -/
def command? (words : List Word) : Option (List String) :=
  if words.head?.any fun w => w.isReserved || w.isAssignment then none
  else words.mapM Word.text?

/-- The commands of a script. -/
def commands? (script : String) : Option (List (List String)) := do
  (← (← Scan.scan {} script.toList).finish).mapM command?

example : commands? "a 'b c'\"d\" \\\n e\\ f '' # g\n\nh" =
    some [["a", "b cd", "e f", ""], ["h"]] := by decide +kernel
example : commands? "while x" = none ∧ commands? "\"while\" x" = some [["while", "x"]] := by
  decide +kernel

/-- The letters of a quoted text. -/
def quotedLetters (text : List Char) : Word := text.map (⟨·, true⟩)

/-- The letters of a text outside of quotes. -/
def bareLetters (text : List Char) : Word := text.map (⟨·, false⟩)

namespace Scan

variable {s : Scan} {c : Char} {text : List Char}

/-! ### One character after the other -/

@[simp] theorem scan_nil (s : Scan) : s.scan [] = some s := rfl

theorem scan_cons (s : Scan) (c : Char) (text : List Char) :
    s.scan (c :: text) = (s.step c).bind (·.scan text) := List.foldlM_cons

theorem scan_append (s : Scan) (text rest : List Char) :
    s.scan (text ++ rest) = (s.scan text).bind (·.scan rest) := List.foldlM_append

theorem push_push (s : Scan) (v w : Word) : (s.push v).push w = s.push (v ++ w) := by
  simp [push]

/-- Once a word has begun, no further letters change nothing. -/
theorem push_nil (hword : s.word.isSome) : s.push [] = s := by
  obtain ⟨w, hw⟩ := Option.isSome_iff_exists.1 hword
  cases s
  cases hw
  simp [push]

theorem step_space (hmode : s.mode = .bare) : s.step ' ' = some s.endWord := by
  simp [step, stepBare, hmode]

theorem step_newline (hmode : s.mode = .bare) : s.step '\n' = some s.endLine := by
  simp [step, stepBare, hmode]

end Scan

/-- Outside of quotes the text is part of a word, these letters. -/
def Reads (text : List Char) (letters : Word) : Prop :=
  ∀ s : Scan, s.mode = .bare → s.scan text = some (s.push letters)

namespace Scan

variable {s : Scan} {c : Char} {text : List Char}

/-! ### Quoted texts -/

theorem step_single (hmode : s.mode = .single) (hzero : c ≠ '\x00') (hquote : c ≠ '\'') :
    s.step c = some (s.push [⟨c, true⟩]) := by
  simp [step, hmode, hzero, hquote]

/-- A single quote between single quotes: out of them, escaped, and in again. -/
theorem scan_quote (hmode : s.mode = .single) :
    s.scan ['\'', '\\', '\'', '\''] = some (s.push [⟨'\'', true⟩]) := by
  cases s
  cases hmode
  simp [scan_cons, step, stepBare, enter, push]

/-- A character as it is written between single quotes is that character. -/
theorem scan_shellChar (hmode : s.mode = .single) (hzero : c ≠ '\x00') :
    s.scan (Text.shellChar c) = some (s.push [⟨c, true⟩]) := by
  by_cases hquote : c = '\''
  · rw [hquote, Text.shellChar, if_pos rfl, scan_quote hmode]
  · rw [Text.shellChar, if_neg hquote, scan_cons, step_single hmode hzero hquote]
    rfl

/-- **Between single quotes** every character goes into the word, quotes and line breaks too. -/
theorem scan_flatMap_shellChar (hmode : s.mode = .single) (hword : s.word.isSome)
    (hzero : '\x00' ∉ text) :
    s.scan (text.flatMap Text.shellChar) = some (s.push (quotedLetters text)) := by
  induction text generalizing s with
  | nil => exact congrArg some (push_nil hword).symm
  | cons c text ih =>
      have hc : c ≠ '\x00' := fun h => hzero (h ▸ List.mem_cons_self)
      have htext : '\x00' ∉ text := fun h => hzero (List.mem_cons_of_mem c h)
      rw [List.flatMap_cons, scan_append, scan_shellChar hmode hc, Option.bind_some,
        ih (s := s.push _) hmode rfl htext, push_push]
      rfl

/-- **A quoted text** goes into the word as a whole. -/
theorem reads_shellQuote (hzero : '\x00' ∉ text) :
    Reads (Text.shellQuote text) (quotedLetters text) := by
  intro s hmode
  have hopen : s.step '\'' = some (s.enter .single) := by simp [step, stepBare, hmode]
  have hclose : ((s.enter .single).push (quotedLetters text)).step '\'' =
      some (s.push (quotedLetters text)) := by
    cases s
    cases hmode
    simp [step, enter, push]
  rw [Text.shellQuote, List.cons_append, scan_cons, hopen, Option.bind_some, scan_append,
    scan_flatMap_shellChar rfl rfl hzero, Option.bind_some, scan_cons, hclose]
  rfl

/-! ### Bare texts -/

/-- The characters that mean something outside of quotes. -/
def special : List Char :=
  ['\x00', '\n', ' ', '\t', '\\', '\'', '"', '#'] ++ operators ++ expansions

theorem step_bare (hmode : s.mode = .bare) (hc : c ∉ special) :
    s.step c = some (s.push [⟨c, false⟩]) := by
  simp only [special, List.mem_append, List.mem_cons, List.not_mem_nil, or_false, not_or] at hc
  simp [step, stepBare, hmode, hc]

/-- Within a word the sign of a comment is a letter like others. -/
theorem step_bare_of_word (hmode : s.mode = .bare) (hword : s.word.isSome)
    (hc : c ∈ special → c = '#') : s.step c = some (s.push [⟨c, false⟩]) := by
  by_cases hspecial : c ∈ special
  · obtain rfl := hc hspecial
    obtain ⟨w, hw⟩ := Option.isSome_iff_exists.1 hword
    simp [step, stepBare, hmode, hw, operators, expansions]
  · exact step_bare hmode hspecial

theorem scan_bareLetters (hmode : s.mode = .bare) (hword : s.word.isSome)
    (htext : ∀ c ∈ text, c ∈ special → c = '#') :
    s.scan text = some (s.push (bareLetters text)) := by
  induction text generalizing s with
  | nil => exact congrArg some (push_nil hword).symm
  | cons c text ih =>
      obtain ⟨hc, htext⟩ := List.forall_mem_cons.1 htext
      rw [scan_cons, step_bare_of_word hmode hword hc, Option.bind_some,
        ih (s := s.push _) hmode rfl htext, push_push]
      rfl

/-- The text is a word as it is: nothing in it is special, but for signs of a comment after its
first character. -/
structure IsBare (text : List Char) : Prop where
  ne_nil : text ≠ []
  chars  : ∀ c ∈ text, c ∈ special → c = '#'
  head   : text.head? ≠ some '#'

/-- **A bare text** goes into the word as it is. -/
theorem reads_bareLetters (h : IsBare text) : Reads text (bareLetters text) := by
  intro s hmode
  obtain ⟨c, text, rfl⟩ := List.exists_cons_of_ne_nil h.ne_nil
  obtain ⟨hc, htext⟩ := List.forall_mem_cons.1 h.chars
  have hplain : c ∉ special := fun hspecial => h.head (hc hspecial ▸ rfl)
  rw [scan_cons, step_bare hmode hplain, Option.bind_some,
    scan_bareLetters (s := s.push _) hmode rfl htext, push_push]
  rfl

/-! ### Lines -/

/-- **A line of words** with single spaces between them is one command. -/
theorem scan_line {texts : List (List Char)} {letters : List Word}
    (h : List.Forall₂ Reads texts letters) (hne : letters ≠ []) (words : List Word)
    (commands : List (List Word)) :
    scan { words, commands } ([' '].intercalate texts ++ ['\n']) =
      some { commands := commands ++ [words ++ letters] } := by
  induction h generalizing words with
  | nil => exact absurd rfl hne
  | @cons text w texts ws hword hrest ih =>
      cases hrest with
      | nil =>
          rw [List.intercalate_singleton, scan_append, hword _ rfl, Option.bind_some, scan_cons,
            step_newline rfl]
          simp [endLine, endWord, push]
      | @cons text' w' texts ws hword' hrest =>
          rw [List.intercalate_cons_cons, List.append_assoc, List.append_assoc, scan_append,
            hword _ rfl, Option.bind_some, List.singleton_append, scan_cons, step_space rfl,
            Option.bind_some]
          have hrest := ih (List.cons_ne_nil _ _) (words ++ [w])
          simpa [endWord, push] using hrest

end Scan

/-! ### What words stand for -/

theorem text?_quotedLetters (text : List Char) :
    (quotedLetters text).text? = some (String.ofList text) := by
  have hpattern : Word.isPattern (quotedLetters text) = false := by
    cases text <;> simp [Word.isPattern, quotedLetters]
  rw [Word.text?, hpattern]
  simp [Word.chars, quotedLetters, Function.comp_def]

end ResourceMoves.Shell
