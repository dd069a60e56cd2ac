import Virtio9p.Scripts.RunUnderQnx

/-!
# The arguments of a test

The guest's shell reads from the fragment the one command `set --` with the arguments that were
given, whatever bytes they are made of.
-/
namespace Virtio9p

open ShellWords LexState

variable {s : LexState}

/-- Inside the quotes an argument adds its own bytes to the word. -/
theorem read_escapeQuotes (plain : s.mode = .plain) (arg w : Bytes) :
    (s.quoting w).read (escapeQuotes arg) = some (s.quoting (w ++ arg)) := by
  induction arg generalizing w with
  | nil =>
    rw [List.append_nil]
    rfl
  | cons c arg ih =>
    have first : (s.quoting w).read (if c = 39 then sqEscape else [c]) =
        some (s.quoting (w ++ [c])) := by
      by_cases quote : c = 39
      · -- the quotes are closed, a quote is escaped, and they are opened again
        rw [if_pos quote, quote]
        have reopened : (s.inWord (w ++ [39])).step 39 = some (s.quoting (w ++ [39])) :=
          step_open plain
        rw [sqEscape, read_cons (step_close plain w)]
        change (s.inWord w).read ([92, 39] ++ [39]) = _
        rw [read_append (read_escaped plain (by decide) w), read_cons reopened]
        rfl
      · rw [if_neg quote, read_cons (step_quoted quote w)]
        rfl
    rw [escapeQuotes, List.flatMap_cons, read_append first]
    exact (ih (w ++ [c])).trans (by rw [List.append_assoc, List.singleton_append])

/-- A blank ends the word before, and the argument is the next one. -/
theorem read_quotedArg (plain : s.mode = .plain) {words : List Bytes} {w : Bytes} (arg : Bytes) :
    ({ s with words := words, word := some w } : LexState).read (quotedArg arg) =
      some { s with words := words ++ [w], word := some arg } := by
  let ended : LexState := { s with words := words ++ [w], word := none }
  have blank : ({ s with words := words, word := some w } : LexState).step 32 = some ended :=
    step_blank plain
  have opened : ended.step 39 = some (ended.quoting []) := step_open plain
  have added : (ended.quoting []).read (escapeQuotes arg) = some (ended.quoting arg) :=
    read_escapeQuotes (s := ended) plain arg []
  have closed : (ended.quoting arg).step 39 = some (ended.inWord arg) :=
    step_close (s := ended) plain arg
  rw [quotedArg, List.append_assoc, List.cons_append, read_cons blank, List.cons_append,
    read_cons opened, List.nil_append, read_append added, read_cons closed]
  rfl

theorem read_quotedArgs (plain : s.mode = .plain) (args : List Bytes) {words : List Bytes}
    {w : Bytes} :
    ∃ words' last, words' ++ [last] = words ++ w :: args ∧
      ({ s with words := words, word := some w } : LexState).read (args.flatMap quotedArg) =
        some { s with words := words', word := some last } := by
  induction args generalizing words w with
  | nil => exact ⟨words, w, rfl, rfl⟩
  | cons arg args ih =>
    obtain ⟨words', last, same, rest⟩ := @ih (words ++ [w]) arg
    refine ⟨words', last, by simpa using same, ?_⟩
    rw [List.flatMap_cons, read_append (read_quotedArg plain arg), rest]

/-- The fragment is one command; nothing in it is expanded or runs something else. -/
theorem readCommands_argsFragment (args : List Bytes) :
    readCommands (argsFragment args) = some [setWord :: endOfOptions :: args] := by
  obtain ⟨words, last, same, read⟩ :=
    @read_quotedArgs start rfl args [setWord] endOfOptions
  have begun : start.read (setWord ++ [32] ++ endOfOptions) =
      some { start with words := [setWord], word := some endOfOptions } := by decide
  have ended : ({ start with words := words, word := some last } : LexState).read [10] =
      some { start with commands := [words ++ [last]] } := by
    have newline : ({ start with words := words, word := some last } : LexState).step 10 =
        some { start with commands := [words ++ [last]] } := by
      rw [step_newline rfl, endCommand]
      simp [endWord, start]
    rw [read_cons newline]
    rfl
  rw [readCommands, argsFragment, List.append_assoc, read_append begun, read_append read,
    ended, same]
  rfl

/-- The test binary gets the arguments that were given, whatever an earlier run left behind. -/
theorem testArgs_kept (testArgs : List Bytes) (d : ShareDir) :
    runTestParams (writeExtraArgs testArgs (setupFsdev d)) = some testArgs ∧
      readCommands (argsFragment testArgs) = some [setWord :: endOfOptions :: testArgs] := by
  refine ⟨?_, readCommands_argsFragment testArgs⟩
  cases testArgs with
  | nil => rfl
  | cons arg args =>
    change sourceArgs (argsFragment (arg :: args)) [] = _
    rw [sourceArgs, readCommands_argsFragment]
    rfl

end Virtio9p
