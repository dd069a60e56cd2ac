import Mathlib.Data.List.Basic

/-!
# Words of a shell

How a POSIX shell cuts a text into commands and words: blanks end a word, a newline ends a
command, single quotes and the backslash take bytes as they are. A byte outside quotes that
would make the shell expand or run something is refused, so that a text which is read stands
for its words and for nothing else.
-/
namespace ShellWords

/-- Operators, and what begins an expansion, a pattern or a comment. -/
def active : List UInt8 :=
  [33, 34, 35, 36, 37, 38, 40, 41, 42, 59, 60, 62, 63, 91, 93, 94, 96, 123, 124, 125, 126]

inductive Mode where
  | plain
  | quoted
  | escaped
  deriving DecidableEq, Repr

structure LexState where
  mode : Mode
  /-- The word that has begun; a word may be empty. -/
  word : Option (List UInt8)
  words : List (List UInt8)
  commands : List (List (List UInt8))
  deriving DecidableEq, Repr

namespace LexState

def start : LexState := ⟨.plain, none, [], []⟩

def push (c : UInt8) (s : LexState) : LexState := { s with word := some (s.word.getD [] ++ [c]) }

def endWord (s : LexState) : LexState :=
  match s.word with
  | none => s
  | some word => { s with word := none, words := s.words ++ [word] }

def endCommand (s : LexState) : LexState :=
  let s := s.endWord
  if s.words = [] then s else { s with words := [], commands := s.commands ++ [s.words] }

def step (s : LexState) (c : UInt8) : Option LexState :=
  match s.mode with
  | .quoted => if c = 39 then some { s with mode := .plain } else some (s.push c)
  | .escaped =>
    -- a newline behind a backslash is no byte of the word
    if c = 10 then some { s with mode := .plain } else some { s.push c with mode := .plain }
  | .plain =>
    if c = 32 ∨ c = 9 then some s.endWord
    else if c = 10 then some s.endCommand
    else if c = 39 then some { s with mode := .quoted, word := some (s.word.getD []) }
    else if c = 92 then some { s with mode := .escaped }
    else if c ∈ active then none
    else some (s.push c)

/-- Read a text from a state on. -/
def read (text : List UInt8) (s : LexState) : Option LexState := text.foldlM step s

theorem read_append {text : List UInt8} {s s' : LexState} (first : s.read text = some s')
    (later : List UInt8) : s.read (text ++ later) = s'.read later := by
  unfold read at first ⊢
  rw [List.foldlM_append, first]
  rfl

theorem read_cons {c : UInt8} {s s' : LexState} (first : s.step c = some s')
    (later : List UInt8) : s.read (c :: later) = s'.read later := by
  unfold read
  rw [List.foldlM_cons, first]
  rfl

/-- The state in a word of which `w` has been read. -/
def inWord (w : List UInt8) (s : LexState) : LexState := { s with word := some w }

def quoting (w : List UInt8) (s : LexState) : LexState := { s with mode := .quoted, word := some w }

/-- A byte without a meaning of its own. -/
def Literal (c : UInt8) : Prop := c ∉ [9, 10, 32, 39, 92] ++ active

instance (c : UInt8) : Decidable (Literal c) := inferInstanceAs (Decidable (c ∉ _))

variable {s : LexState}

theorem step_literal {c : UInt8} (plain : s.mode = .plain) (literal : Literal c) :
    s.step c = some (s.push c) := by
  simp only [Literal, List.mem_append, List.mem_cons, List.not_mem_nil, or_false, not_or] at literal
  obtain ⟨⟨tab, newline, blank, quote, backslash⟩, passive⟩ := literal
  rw [step, plain]
  simp only
  rw [if_neg (not_or.mpr ⟨blank, tab⟩), if_neg newline, if_neg quote, if_neg backslash,
    if_neg (by simpa [active] using passive)]

theorem step_blank (plain : s.mode = .plain) : s.step 32 = some s.endWord := by
  rw [step, plain]
  rfl

theorem step_newline (plain : s.mode = .plain) : s.step 10 = some s.endCommand := by
  rw [step, plain]
  rfl

theorem step_open (plain : s.mode = .plain) :
    s.step 39 = some (s.quoting (s.word.getD [])) := by
  rw [step, plain]
  rfl

theorem step_close (plain : s.mode = .plain) (w : List UInt8) :
    (s.quoting w).step 39 = some (s.inWord w) := by
  change some (LexState.mk .plain (some w) s.words s.commands) = some ⟨s.mode, _, _, _⟩
  rw [plain]

theorem step_quoted {c : UInt8} (proper : c ≠ 39) (w : List UInt8) :
    (s.quoting w).step c = some (s.quoting (w ++ [c])) :=
  if_neg proper

/-- A backslash takes the next byte as it is, unless that is a newline. -/
theorem read_escaped {c : UInt8} (plain : s.mode = .plain) (proper : c ≠ 10) (w : List UInt8) :
    (s.inWord w).read [92, c] = some (s.inWord (w ++ [c])) := by
  have escape : (s.inWord w).step 92 = some { s.inWord w with mode := .escaped } := by
    rw [step, show (s.inWord w).mode = .plain from plain]
    rfl
  have pushed : ({ s.inWord w with mode := .escaped } : LexState).step c =
      some (s.inWord (w ++ [c])) := by
    rw [step]
    simp only [if_neg proper]
    rw [inWord, ← plain]
    rfl
  rw [read_cons escape, read_cons pushed]
  rfl

end LexState

/-- The commands of a text, each with its words; `none` if a quote is left open. -/
def readCommands (text : List UInt8) : Option (List (List (List UInt8))) :=
  (LexState.start.read text).bind fun s =>
    if s.mode = .plain then some s.endCommand.commands else none

/-! ### One word -/

/-- Read a word up to the blank or newline behind it. -/
def wordFrom (s : LexState) : List UInt8 → Option (List UInt8 × List UInt8)
  | [] => none
  | c :: rest =>
    if s.mode = .plain ∧ (c = 32 ∨ c = 9 ∨ c = 10) then some (s.word.getD [], c :: rest)
    else (s.step c).bind fun s => wordFrom s rest

def readWord (text : List UInt8) : Option (List UInt8 × List UInt8) := wordFrom LexState.start text

/-- Quote every byte that is not literal. -/
def quoteByte (c : UInt8) : List UInt8 :=
  if LexState.Literal c then [c] else if c = 10 then [39, 10, 39] else [92, c]

/-- A word that stands for the given bytes; an empty one takes a pair of quotes. -/
def quote (value : List UInt8) : List UInt8 :=
  if value = [] then [39, 39] else value.flatMap quoteByte

section Quote

open LexState

variable {s : LexState}

theorem wordFrom_inside {s' : LexState} {c : UInt8}
    (inside : s.mode ≠ .plain ∨ c ≠ 32 ∧ c ≠ 9 ∧ c ≠ 10) (stepped : s.step c = some s')
    (rest : List UInt8) : wordFrom s (c :: rest) = wordFrom s' rest := by
  rw [wordFrom, if_neg, stepped]
  · rfl
  · rintro ⟨plain, ends⟩
    rcases inside with quoted | ⟨blank, tab, newline⟩
    · exact quoted plain
    · rcases ends with same | same | same
      · exact blank same
      · exact tab same
      · exact newline same

/-- A quoted byte is one byte of the word. -/
theorem wordFrom_quoteByte (plain : s.mode = .plain) (c : UInt8) (rest : List UInt8) :
    wordFrom s (quoteByte c ++ rest) = wordFrom (s.push c) rest := by
  unfold quoteByte
  by_cases literal : Literal c
  · rw [if_pos literal]
    have apart : c ≠ 32 ∧ c ≠ 9 ∧ c ≠ 10 := by
      refine ⟨?_, ?_, ?_⟩ <;> rintro rfl <;> exact absurd literal (by decide)
    exact wordFrom_inside (.inr apart) (step_literal plain literal) rest
  · rw [if_neg literal]
    by_cases newline : c = 10
    · -- between quotes
      rw [if_pos newline, newline]
      let w := s.word.getD []
      have inside : (s.quoting w).step 10 = some (s.quoting (w ++ [10])) :=
        step_quoted (by decide) w
      change wordFrom s (39 :: 10 :: 39 :: rest) = _
      rw [wordFrom_inside (.inr (by decide)) (step_open plain),
        wordFrom_inside (.inl (by simp [quoting])) inside,
        wordFrom_inside (.inl (by simp [quoting])) (step_close plain (w ++ [10]))]
      rfl
    · rw [if_neg newline]
      have escape : s.step 92 = some { s with mode := .escaped } := by
        rw [step, plain]
        rfl
      have taken : ({ s with mode := .escaped } : LexState).step c = some (s.push c) := by
        rw [step]
        simp only [if_neg newline]
        rw [push, push, plain]
      change wordFrom s (92 :: c :: rest) = _
      rw [wordFrom_inside (.inr (by decide)) escape, wordFrom_inside (.inl (by simp)) taken]

theorem wordFrom_quoted (plain : s.mode = .plain) (value rest : List UInt8) (w : List UInt8)
    (begun : s.word = some w) :
    wordFrom s (value.flatMap quoteByte ++ 10 :: rest) = some (w ++ value, 10 :: rest) := by
  induction value generalizing s w with
  | nil =>
    rw [List.flatMap_nil, List.nil_append, wordFrom, if_pos ⟨plain, .inr (.inr rfl)⟩, begun,
      List.append_nil]
    rfl
  | cons c value ih =>
    have next : (s.push c).word = some (w ++ [c]) := by
      rw [push, begun]
      rfl
    rw [List.flatMap_cons, List.append_assoc, wordFrom_quoteByte plain,
      ih (s := s.push c) plain _ next,
      List.append_assoc, List.singleton_append]

/-- Reading a quoted value gives the value back. -/
theorem readWord_quote (value rest : List UInt8) :
    readWord (quote value ++ 10 :: rest) = some (value, 10 :: rest) := by
  unfold readWord quote
  cases value with
  | nil =>
    -- the pair of quotes begins a word
    have opened : start.step 39 = some (start.quoting []) := step_open rfl
    have closed : (start.quoting []).step 39 = some (start.inWord []) := step_close rfl []
    change wordFrom start (39 :: 39 :: 10 :: rest) = _
    rw [wordFrom_inside (.inr (by decide)) opened,
      wordFrom_inside (.inl (by simp [quoting])) closed]
    exact wordFrom_quoted (s := start.inWord []) rfl [] rest [] rfl
  | cons c value =>
    rw [if_neg (List.cons_ne_nil c value), List.flatMap_cons, List.append_assoc,
      wordFrom_quoteByte rfl, wordFrom_quoted rfl value rest [c] rfl]
    rfl

end Quote

end ShellWords
