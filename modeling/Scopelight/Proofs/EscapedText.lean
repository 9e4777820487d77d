import Scopelight.Text.Slash

/-!
# Escaped texts

Escaping loses nothing, and its results can be told by reading them: every backslash begins
one of three pairs, and no double quote and no line end stands by itself.  These are the
texts that come out unchanged when their escapes are undone and put back.
-/

namespace Scopelight

namespace Text

/-- Texts of pairs that start with a backslash and of characters that need no escape. -/
inductive Escaped : List Char → Prop
  | nil : Escaped []
  | pair {d : Char} {rest : List Char} (known : d ∈ ['\\', '"', 'n'])
      (escaped : Escaped rest) : Escaped ('\\' :: d :: rest)
  | plain {c : Char} {rest : List Char} (unmarked : c ∉ ['\\', '"', '\n'])
      (escaped : Escaped rest) : Escaped (c :: rest)

theorem escape_cons (c : Char) (text : List Char) :
    escape (c :: text) = escapeChar c ++ escape text :=
  List.flatMap_cons

/-- Each of the three pairs is the escape of the character that it stands for. -/
theorem exists_meant {d : Char} (known : d ∈ ['\\', '"', 'n']) :
    ∃ c, escaped? d = some c ∧ escapeChar c = ['\\', d] := by
  simp only [List.mem_cons, List.not_mem_nil, or_false] at known
  rcases known with rfl | rfl | rfl
  · exact ⟨'\\', rfl, rfl⟩
  · exact ⟨'"', rfl, rfl⟩
  · exact ⟨'\n', rfl, rfl⟩

theorem escapeChar_of_unmarked {c : Char} (unmarked : c ∉ ['\\', '"', '\n']) :
    escapeChar c = [c] := by
  simp only [List.mem_cons, List.not_mem_nil, or_false, not_or] at unmarked
  simp [escapeChar, unmarked]

/-- A character is escaped by one of the three pairs or stands for itself. -/
theorem escapeChar_pair_or_plain (c : Char) :
    (∃ d ∈ ['\\', '"', 'n'], escapeChar c = ['\\', d] ∧ escaped? d = some c) ∨
      (c ∉ ['\\', '"', '\n'] ∧ escapeChar c = [c]) := by
  by_cases marked : c ∈ ['\\', '"', '\n']
  · left
    simp only [List.mem_cons, List.not_mem_nil, or_false] at marked
    rcases marked with rfl | rfl | rfl
    · exact ⟨'\\', by simp, rfl, rfl⟩
    · exact ⟨'"', by simp, rfl, rfl⟩
    · exact ⟨'n', by simp, rfl, rfl⟩
  · exact .inr ⟨marked, escapeChar_of_unmarked marked⟩

theorem unescape_pair {c d : Char} (meant : escaped? d = some c) (rest : List Char) :
    unescape ('\\' :: d :: rest) = c :: unescape rest := by
  simp [unescape, meant]

theorem unescape_plain {c : Char} (noBackslash : c ≠ '\\') (rest : List Char) :
    unescape (c :: rest) = c :: unescape rest := by
  cases rest with
  | nil => rfl
  | cons d rest => simp [unescape, noBackslash]

theorem ne_backslash_of_unmarked {c : Char} (unmarked : c ∉ ['\\', '"', '\n']) : c ≠ '\\' := by
  rintro rfl
  simp at unmarked

theorem unescape_escape (text : List Char) : unescape (escape text) = text := by
  induction text with
  | nil => rfl
  | cons c text ih =>
      rw [escape_cons]
      rcases escapeChar_pair_or_plain c with ⟨d, -, pairEq, meant⟩ | ⟨unmarked, plainEq⟩
      · rw [pairEq, List.cons_append, List.singleton_append, unescape_pair meant, ih]
      · rw [plainEq, List.singleton_append,
          unescape_plain (ne_backslash_of_unmarked unmarked), ih]

theorem escaped_escape (text : List Char) : Escaped (escape text) := by
  induction text with
  | nil => exact .nil
  | cons c text ih =>
      rw [escape_cons]
      rcases escapeChar_pair_or_plain c with ⟨d, known, pairEq, -⟩ | ⟨unmarked, plainEq⟩
      · rw [pairEq]
        exact .pair known ih
      · rw [plainEq]
        exact .plain unmarked ih

theorem Escaped.escape_unescape {text : List Char} (escaped : Escaped text) :
    escape (unescape text) = text := by
  induction escaped with
  | nil => rfl
  | @pair d rest known _ ih =>
      obtain ⟨c, meant, pairEq⟩ := exists_meant known
      rw [unescape_pair meant, escape_cons, pairEq, ih]
      rfl
  | @plain c rest unmarked _ ih =>
      rw [unescape_plain (ne_backslash_of_unmarked unmarked), escape_cons,
        escapeChar_of_unmarked unmarked, ih]
      rfl

theorem escape_unescape_eq_iff (written : List Char) :
    escape (unescape written) = written ↔ Escaped written := by
  constructor
  · intro kept
    rw [← kept]
    exact escaped_escape (unescape written)
  · exact Escaped.escape_unescape

instance : DecidablePred Escaped := fun written =>
  decidable_of_iff _ (escape_unescape_eq_iff written)

/-- Undoing the escapes of an escaped text gives the text back.  Putting escapes back after
they are undone gives the text that was read exactly if it is one that escaping writes. -/
theorem escape_roundTrips (text written : List Char) :
    unescape (escape text) = text ∧
      (escape (unescape written) = written ↔ Escaped written) ∧
      (Escaped written ↔ ∃ source, escape source = written) := by
  refine ⟨unescape_escape text, escape_unescape_eq_iff written, ?_⟩
  constructor
  · intro escaped
    exact ⟨unescape written, escaped.escape_unescape⟩
  · rintro ⟨source, rfl⟩
    exact escaped_escape source

-- Of the backslashes in a row each takes the next one, so their number decides.
example : Escaped ['\\', '\\', 'n'] ∧ ¬Escaped ['\\', '\\', '\\'] := by decide

end Text

end Scopelight
