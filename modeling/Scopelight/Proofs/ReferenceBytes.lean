import Scopelight.Pattern.Reference
import Scopelight.Proofs.CaptureTables
import Scopelight.Proofs.TextBytes

/-!
# References byte by byte

A closing pattern is searched for back-references in its UTF-8 form.  The search looks at a
byte and the one after it, and goes on by one or two bytes, so it may stop inside of a
character.  It never looks past the end, and finds what a search character by character
finds, since no part of a longer character looks like an ASCII character.
-/

namespace Scopelight

namespace Pattern

def byteAt (bytes : List UInt8) (place : Nat) : Except Fault UInt8 :=
  match bytes[place]? with
  | some byte => .ok byte
  | none => .error .index

/-- Whether there is a back-reference in the bytes of a text from a place on. -/
def referenceFrom (bytes : List UInt8) (place : Nat) : Except Fault Bool := do
  if 0x10000000000000000 ≤ place + 1 then .error .sum
  else if inside : place + 1 < bytes.length then
    if (← byteAt bytes place) = 0x5C then
      let digit ← byteAt bytes (place + 1)
      if 0x31 ≤ digit ∧ digit ≤ 0x39 then .ok true
      else if 0x10000000000000000 ≤ place + 2 then .error .sum
      else referenceFrom bytes (place + 2)
    else referenceFrom bytes (place + 1)
  else .ok false
termination_by bytes.length - place

variable {bytes : List UInt8} {place : Nat}

theorem byteAt_append (before : List UInt8) (byte : UInt8) (rest : List UInt8) :
    byteAt (before ++ byte :: rest) before.length = .ok byte := by
  simp [byteAt]

/-- At the last byte the search is over. -/
theorem referenceFrom_end (small : bytes.length < 0x8000000000000000)
    (placeLe : place ≤ bytes.length) (atEnd : bytes.length ≤ place + 1) :
    referenceFrom bytes place = .ok false := by
  rw [referenceFrom, if_neg (by omega), dif_neg (Nat.not_lt_of_le atEnd)]

/-- A byte that is no backslash is passed over. -/
theorem referenceFrom_pass (before : List UInt8) {byte : UInt8} (rest : List UInt8)
    (noEscape : byte ≠ 0x5C)
    (small : (before ++ byte :: rest).length < 0x8000000000000000) :
    referenceFrom (before ++ byte :: rest) before.length =
      referenceFrom (before ++ byte :: rest) (before.length + 1) := by
  by_cases inside : before.length + 1 < (before ++ byte :: rest).length
  · rw [referenceFrom, if_neg (by omega), dif_pos inside, byteAt_append]
    exact if_neg noEscape
  · have lengthEq : (before ++ byte :: rest).length = before.length + (rest.length + 1) := by
      simp
    rw [referenceFrom_end small (by omega) (by omega),
      referenceFrom_end small (by omega) (by omega)]

theorem referenceFrom_skip (before skipped rest : List UInt8)
    (noEscape : ∀ byte ∈ skipped, byte ≠ 0x5C)
    (small : (before ++ (skipped ++ rest)).length < 0x8000000000000000) :
    referenceFrom (before ++ (skipped ++ rest)) before.length =
      referenceFrom (before ++ (skipped ++ rest)) (before ++ skipped).length := by
  induction skipped generalizing before with
  | nil => rw [List.append_nil]
  | cons byte skipped ih =>
      obtain ⟨here, later⟩ := List.forall_mem_cons.mp noEscape
      have split : before ++ (byte :: skipped ++ rest) =
          (before ++ [byte]) ++ (skipped ++ rest) := by simp
      have behind : before ++ byte :: skipped = (before ++ [byte]) ++ skipped := by simp
      have passed := referenceFrom_pass before (skipped ++ rest) here small
      rw [List.cons_append, passed, behind, ← List.cons_append, split,
        ← ih (before ++ [byte]) later (split ▸ small), List.length_append, List.length_singleton]

/-- Behind a backslash a digit is a reference, and any other byte is passed over. -/
theorem referenceFrom_escape (before : List UInt8) (first : UInt8) (rest : List UInt8)
    (small : (before ++ 0x5C :: first :: rest).length < 0x8000000000000000) :
    referenceFrom (before ++ 0x5C :: first :: rest) before.length =
      if 0x31 ≤ first ∧ first ≤ 0x39 then .ok true
      else referenceFrom (before ++ 0x5C :: first :: rest) (before.length + 2) := by
  have inside : before.length + 1 < (before ++ 0x5C :: first :: rest).length := by simp
  have firstAt : byteAt (before ++ 0x5C :: first :: rest) (before.length + 1) = .ok first := by
    have found := byteAt_append (before ++ [0x5C]) first rest
    rwa [List.append_assoc, List.length_append] at found
  rw [referenceFrom, if_neg (by omega), dif_pos inside, byteAt_append, firstAt]
  have nextSmall : ¬0x10000000000000000 ≤ before.length + 2 := by omega
  change (if 0x31 ≤ first ∧ first ≤ 0x39 then _ else _) = _
  rw [if_neg nextSmall]

theorem escape_ne_of_le {byte : UInt8} (high : 128 ≤ byte.toNat) : byte ≠ 0x5C := by
  rintro rfl
  exact absurd high (by decide)

theorem isReferenceDigit_iff {c : Char} :
    isReferenceDigit c = true ↔ 0x31 ≤ c.toNat ∧ c.toNat ≤ 0x39 := by
  simp [isReferenceDigit, Char.le_def, UInt32.le_iff_toNat_le]

theorem digit_iff {byte : UInt8} :
    0x31 ≤ byte ∧ byte ≤ 0x39 ↔ 0x31 ≤ byte.toNat ∧ byte.toNat ≤ 0x39 := by
  simp [UInt8.le_iff_toNat_le]

/-- The first byte of a character tells whether it is the digit of a reference, and the bytes
after it are beyond ASCII. -/
theorem exists_first_byte (c : Char) :
    ∃ first more, String.utf8EncodeChar c = first :: more ∧
      (isReferenceDigit c = true ↔ 0x31 ≤ first ∧ first ≤ 0x39) ∧
      ∀ byte ∈ more, 128 ≤ byte.toNat := by
  rw [isReferenceDigit_iff]
  rcases Nat.lt_or_ge c.toNat 128 with ascii | beyond
  · refine ⟨_, _, Text.utf8EncodeChar_of_ascii ascii, ?_, by simp⟩
    rw [digit_iff, UInt8.toNat_ofNat', Nat.mod_eq_of_lt (by omega)]
  · obtain ⟨first, more, encoded⟩ :=
      List.exists_cons_of_ne_nil (String.utf8EncodeChar_ne_nil (c := c))
    have high := Text.le_of_mem_utf8EncodeChar beyond
    rw [encoded] at high
    obtain ⟨firstHigh, moreHigh⟩ := List.forall_mem_cons.mp high
    refine ⟨first, more, encoded, ?_, moreHigh⟩
    rw [digit_iff]
    omega

/-- The search byte by byte never fails, and finds a reference exactly if the search
character by character does. -/
theorem referenceFrom_bytes (before : List UInt8) (text : List Char)
    (small : (before ++ Text.bytes text).length < 0x8000000000000000) :
    referenceFrom (before ++ Text.bytes text) before.length = .ok (hasReferences text) := by
  have escaped : String.utf8EncodeChar '\\' = [0x5C] := rfl
  fun_induction hasReferences text generalizing before with
  | case1 c rest ih =>
      obtain ⟨first, more, encoded, digit, moreHigh⟩ := exists_first_byte c
      have morePlain : ∀ byte ∈ more, byte ≠ 0x5C :=
        fun byte member => escape_ne_of_le (moreHigh byte member)
      rw [Text.bytes_cons, Text.bytes_cons, escaped, encoded] at small ⊢
      rw [List.singleton_append, List.cons_append] at small ⊢
      rw [referenceFrom_escape _ _ _ small]
      by_cases reference : isReferenceDigit c = true
      · rw [if_pos (digit.mp reference), reference, Bool.true_or]
      · rw [if_neg fun found => reference (digit.mpr found), Bool.eq_false_iff.mpr reference,
          Bool.false_or]
        have behind : before ++ 0x5C :: first :: (more ++ Text.bytes rest) =
            (before ++ [0x5C, first]) ++ (more ++ Text.bytes rest) := by simp
        have reached : before.length + 2 = (before ++ [0x5C, first]).length := by simp
        rw [behind] at small ⊢
        rw [reached, referenceFrom_skip _ _ _ morePlain small, ← List.append_assoc,
          ih _ (by rwa [List.append_assoc])]
  | case2 c rest notEscape ih =>
      rw [Text.bytes_cons] at small ⊢
      by_cases escape : c = '\\'
      · -- A backslash at the end has nothing after it.
        subst escape
        obtain rfl : rest = [] := by
          cases rest with
          | nil => rfl
          | cons next rest => exact absurd rfl (notEscape next rest rfl)
        refine referenceFrom_end small ?_ ?_
        · simp
        · simp [Text.bytes, escaped]
      · rw [referenceFrom_skip before _ _ (Text.ne_of_mem_utf8EncodeChar (by decide) escape) small,
          ← List.append_assoc, ih _ (by rwa [List.append_assoc])]
  | case3 =>
      rw [Text.bytes, List.flatMap_nil, List.append_nil] at small ⊢
      exact referenceFrom_end small (Nat.le_refl _) (Nat.le_succ _)

/-- Without anything before it, a text is searched from its start. -/
theorem referenceFrom_zero (text : List Char)
    (small : (Text.bytes text).length < 0x8000000000000000) :
    referenceFrom (Text.bytes text) 0 = .ok (hasReferences text) :=
  referenceFrom_bytes [] text small

end Pattern

end Scopelight
