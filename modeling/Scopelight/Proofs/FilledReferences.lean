import Scopelight.Proofs.ClosingTemplates
import Scopelight.Proofs.ReferenceBytes

/-!
# Filled references

The text that is filled in for a back-reference is quoted, and no character that takes a
quote is a digit.  So a pattern that has been filled in has no back-references, whatever was
captured, and there is nothing left to fill in.  The searches for back-references and for
unsupported constructs go through the bytes of a pattern, and the filling through its
characters.  All three step over the character behind a backslash, so they agree on where an
escape begins.
-/

namespace Scopelight

namespace Pattern

variable {line : List Char} {captures : List (Option (Nat × Nat))} {text rest : List Char}
  {c : Char}

/-! ### Filling -/

theorem hasReferences_cons (noEscape : c ≠ '\\' ∨ rest = []) :
    hasReferences (c :: rest) = hasReferences rest := by
  rw [hasReferences.eq_2]
  rintro d others rfl rfl
  rcases noEscape with noBackslash | noMore
  · exact noBackslash rfl
  · cases noMore

theorem not_isReferenceDigit_of_isMeta (known : isMeta c = true) :
    isReferenceDigit c = false := by
  simp only [isMeta, List.contains_cons, List.contains_nil, Bool.or_false, Bool.or_eq_true,
    beq_iff_eq] at known
  rcases known with rfl | rfl | rfl | rfl | rfl | rfl | rfl | rfl | rfl | rfl | rfl | rfl | rfl |
    rfl | rfl | rfl | rfl | rfl <;> rfl

theorem ne_backslash_of_not_isMeta (plain : isMeta c = false) : c ≠ '\\' := by
  rintro rfl
  exact absurd plain (by decide)

/-- A quoted text has no back-reference, and ends with no half of one. -/
theorem hasReferences_quote_append (text rest : List Char) :
    hasReferences (quote text ++ rest) = hasReferences rest := by
  induction text with
  | nil => rfl
  | cons c text ih =>
      rw [quote_cons, List.append_assoc]
      cases known : isMeta c with
      | true =>
          rw [if_pos rfl, List.cons_append, List.singleton_append, hasReferences,
            not_isReferenceDigit_of_isMeta known, Bool.false_or, ih]
      | false =>
          rw [if_neg Bool.false_ne_true, List.singleton_append,
            hasReferences_cons (.inl (ne_backslash_of_not_isMeta known)), ih]

/-- Filling leaves no back-references. -/
theorem hasReferences_fillReferences (line : List Char)
    (captures : List (Option (Nat × Nat))) (text : List Char) :
    hasReferences (fillReferences line captures text) = false := by
  induction text using fillReferences.induct with
  | case1 c rest reference ih =>
      rw [fillReferences_reference reference, hasReferences_quote_append, ih]
  | case2 c rest noReference ih =>
      rw [Bool.not_eq_true] at noReference
      rw [fillReferences_escape noReference, hasReferences, noReference, Bool.false_or, ih]
  | case3 c rest noEscape ih =>
      -- A lone backslash stays at the end, where nothing can follow it.
      have noPair : c ≠ '\\' ∨ rest = [] := by
        cases rest with
        | nil => exact .inr rfl
        | cons d rest => exact .inl fun backslash => noEscape d rest backslash rfl
      rw [fillReferences_cons noPair]
      rcases noPair with noBackslash | rfl
      · rw [hasReferences_cons (.inl noBackslash), ih]
      · exact hasReferences_cons (.inr rfl)
  | case4 => rfl

/-- Where there are no back-references, none is reported as unsupported. -/
theorem unsupportedFeature_ne_of_not_hasReferences (noReferences : hasReferences text = false) :
    unsupportedFeature text ≠ some "back-references" := by
  induction text using unsupportedFeature.induct with
  | case1 c rest reference => simp [hasReferences, reference] at noReferences
  | case2 c rest noReference ih =>
      rw [hasReferences, Bool.or_eq_false_iff] at noReferences
      rw [unsupportedFeature, if_neg noReference]
      exact ih noReferences.2
  | case3 rest looks =>
      rw [unsupportedFeature, if_pos looks]
      decide
  | case4 rest noLook ih =>
      rw [hasReferences_cons (.inl (by decide))] at noReferences
      rw [unsupportedFeature, if_neg noLook]
      exact ih noReferences
  | case5 c rest noEscape noParenthesis ih =>
      rw [hasReferences.eq_2 c rest noEscape] at noReferences
      rw [unsupportedFeature.eq_3 c rest noEscape noParenthesis]
      exact ih noReferences
  | case6 => simp [unsupportedFeature]

/-- With nothing captured, a back-reference is taken out with both of its characters. -/
theorem byteLength_fillReferences_le (line text : List Char) :
    Text.byteLength (fillReferences line [] text) + (if hasReferences text then 2 else 0) ≤
      Text.byteLength text := by
  induction text using fillReferences.induct with
  | case1 c rest reference ih =>
      have nothing : quote (groupText line [] (c.toNat - 0x30)) = [] := rfl
      rw [fillReferences_reference reference, nothing, List.nil_append, hasReferences, reference,
        Bool.true_or, if_pos rfl, Text.byteLength_cons, Text.byteLength_cons]
      have := c.utf8Size_pos
      have : Char.utf8Size '\\' = 1 := rfl
      omega
  | case2 c rest noReference ih =>
      rw [Bool.not_eq_true] at noReference
      rw [fillReferences_escape noReference, hasReferences, noReference, Bool.false_or]
      simp only [Text.byteLength_cons]
      omega
  | case3 c rest noEscape ih =>
      rw [fillReferences.eq_2 line [] c rest noEscape, hasReferences.eq_2 c rest noEscape]
      simp only [Text.byteLength_cons]
      omega
  | case4 => exact Nat.le_refl _

/-! ### The search for unsupported constructs in bytes -/

/-- Whether bytes go on like a look-around after its parenthesis. -/
def startsLookInBytes (bytes : List UInt8) : Bool :=
  (Text.bytes "?=".toList).isPrefixOf bytes || (Text.bytes "?!".toList).isPrefixOf bytes ||
    (Text.bytes "?<=".toList).isPrefixOf bytes || (Text.bytes "?<!".toList).isPrefixOf bytes

/-- The name of the first construct in the bytes of a pattern that its notation has no room
for. -/
def unsupportedInBytes : List UInt8 → Option String
  | [] => none
  | byte :: rest =>
      if byte = 0x5C then
        match rest with
        | [] => none
        | digit :: rest =>
            if 0x31 ≤ digit ∧ digit ≤ 0x39 then some "back-references"
            else unsupportedInBytes rest
      else if byte = 0x28 ∧ startsLookInBytes rest = true then some "look-around"
      else unsupportedInBytes rest

theorem startsLookInBytes_bytes (text : List Char) :
    startsLookInBytes (Text.bytes text) = startsLook text := by
  simp only [startsLookInBytes, startsLook, Text.bytes_isPrefixOf]

theorem unsupportedInBytes_escape (first : UInt8) (rest : List UInt8) :
    unsupportedInBytes (0x5C :: first :: rest) =
      if 0x31 ≤ first ∧ first ≤ 0x39 then some "back-references" else unsupportedInBytes rest := by
  rw [unsupportedInBytes, if_pos rfl]

theorem unsupportedInBytes_parenthesis (rest : List UInt8) :
    unsupportedInBytes (0x28 :: rest) =
      if startsLookInBytes rest = true then some "look-around" else unsupportedInBytes rest := by
  rw [unsupportedInBytes.eq_def]
  simp

/-- Bytes that are no backslash and no parenthesis are passed over. -/
theorem unsupportedInBytes_skip {skipped : List UInt8} (rest : List UInt8)
    (passed : ∀ byte ∈ skipped, byte ≠ 0x5C ∧ byte ≠ 0x28) :
    unsupportedInBytes (skipped ++ rest) = unsupportedInBytes rest := by
  induction skipped with
  | nil => rfl
  | cons byte skipped ih =>
      obtain ⟨⟨noEscape, noParenthesis⟩, later⟩ := List.forall_mem_cons.mp passed
      rw [List.cons_append, unsupportedInBytes.eq_def]
      simp only [noEscape, noParenthesis, if_false, false_and]
      exact ih later

/-- The bytes of an escape: a backslash, the byte that tells whether a reference digit follows,
and perhaps bytes beyond ASCII. -/
theorem exists_bytes_escape (c : Char) (rest : List Char) :
    ∃ first more, Text.bytes ('\\' :: c :: rest) = 0x5C :: first :: (more ++ Text.bytes rest) ∧
      (isReferenceDigit c = true ↔ 0x31 ≤ first ∧ first ≤ 0x39) ∧
      ∀ byte ∈ more, byte ≠ 0x5C ∧ byte ≠ 0x28 := by
  have backslash : String.utf8EncodeChar '\\' = [0x5C] := rfl
  obtain ⟨first, more, encoded, digit, moreHigh⟩ := exists_first_byte c
  refine ⟨first, more, ?_, digit, fun byte member => ?_⟩
  · rw [Text.bytes_cons, Text.bytes_cons, backslash, encoded, List.singleton_append,
      List.cons_append]
  · have high := moreHigh byte member
    constructor <;> rintro rfl <;> exact absurd high (by decide)

/-- The search in the bytes of a text finds what the search in its characters does. -/
theorem unsupportedInBytes_bytes (text : List Char) :
    unsupportedInBytes (Text.bytes text) = unsupportedFeature text := by
  have parenthesis (rest : List Char) : Text.bytes ('(' :: rest) = 0x28 :: Text.bytes rest := rfl
  induction text using unsupportedFeature.induct with
  | case1 c rest reference =>
      obtain ⟨first, more, bytesEq, digit, -⟩ := exists_bytes_escape c rest
      rw [bytesEq, unsupportedInBytes_escape, if_pos (digit.mp reference), unsupportedFeature,
        if_pos reference]
  | case2 c rest noReference ih =>
      obtain ⟨first, more, bytesEq, digit, passed⟩ := exists_bytes_escape c rest
      rw [bytesEq, unsupportedInBytes_escape, if_neg (mt digit.mpr noReference),
        unsupportedInBytes_skip _ passed, ih, unsupportedFeature, if_neg noReference]
  | case3 rest looks =>
      rw [parenthesis, unsupportedInBytes_parenthesis, startsLookInBytes_bytes, startsLook,
        if_pos looks, unsupportedFeature, if_pos looks]
  | case4 rest noLook ih =>
      rw [parenthesis, unsupportedInBytes_parenthesis, startsLookInBytes_bytes, startsLook,
        if_neg noLook, ih, unsupportedFeature, if_neg noLook]
  | case5 c rest noEscape noParenthesis ih =>
      rw [unsupportedFeature.eq_3 c rest noEscape noParenthesis, Text.bytes_cons]
      by_cases escape : c = '\\'
      · -- A backslash at the end has nothing after it.
        subst escape
        obtain rfl : rest = [] := by
          cases rest with
          | nil => rfl
          | cons next rest => exact absurd rfl (noEscape next rest rfl)
        rfl
      · have passed (byte : UInt8) (member : byte ∈ String.utf8EncodeChar c) :
            byte ≠ 0x5C ∧ byte ≠ 0x28 :=
          ⟨Text.ne_of_mem_utf8EncodeChar (d := '\\') (by decide) escape byte member,
            Text.ne_of_mem_utf8EncodeChar (d := '(') (by decide) noParenthesis byte member⟩
        rw [unsupportedInBytes_skip _ passed, ih]
  | case6 => rfl

/-- The bytes behind a place.  There are none to look at if it lies behind the end. -/
def bytesFrom (bytes : List UInt8) (place : Nat) : Except Fault (List UInt8) :=
  if place ≤ bytes.length then .ok (bytes.drop place) else .error .index

/-- The same search from a place on, where places are sums of 64 bits and every byte is
looked up. -/
def unsupportedFrom (bytes : List UInt8) (place : Nat) : Except Fault (Option String) := do
  if inside : place < bytes.length then
    let byte ← byteAt bytes place
    if 0x10000000000000000 ≤ place + 1 then .error .sum
    else if byte = 0x5C then
      let refers := bytes[place + 1]?.any fun digit => decide (0x31 ≤ digit ∧ digit ≤ 0x39)
      if refers = true then .ok (some "back-references")
      else if 0x10000000000000000 ≤ place + 2 then .error .sum
      else unsupportedFrom bytes (place + 2)
    else if byte = 0x28 then
      let behind ← bytesFrom bytes (place + 1)
      if startsLookInBytes behind = true then .ok (some "look-around")
      else unsupportedFrom bytes (place + 1)
    else unsupportedFrom bytes (place + 1)
  else .ok none
termination_by bytes.length - place

section CheckedSearch

variable {bytes : List UInt8} {place : Nat}

theorem unsupportedFrom_end (outside : bytes.length ≤ place) :
    unsupportedFrom bytes place = .ok none := by
  rw [unsupportedFrom, dif_neg (Nat.not_lt_of_le outside)]

/-- The byte behind a backslash is looked up only if there is one. -/
theorem unsupportedFrom_escape (small : bytes.length < 0x8000000000000000)
    (inside : place < bytes.length) (escape : bytes[place] = 0x5C) :
    unsupportedFrom bytes place =
      if bytes[place + 1]?.any (fun digit => decide (0x31 ≤ digit ∧ digit ≤ 0x39)) = true then
        .ok (some "back-references")
      else unsupportedFrom bytes (place + 2) := by
  have byteEq : byteAt bytes place = .ok 0x5C := by simp [byteAt, inside, escape]
  have nextFits : ¬0x10000000000000000 ≤ place + 1 := by omega
  have laterFits : ¬0x10000000000000000 ≤ place + 2 := by omega
  rw [unsupportedFrom, dif_pos inside, byteEq]
  simp only [bind, Except.bind]
  rw [if_neg nextFits, if_pos trivial, if_neg laterFits]

/-- What stands behind a parenthesis is within the bytes, if it is nothing at all. -/
theorem unsupportedFrom_parenthesis (small : bytes.length < 0x8000000000000000)
    (inside : place < bytes.length) (parenthesis : bytes[place] = 0x28) :
    unsupportedFrom bytes place =
      if startsLookInBytes (bytes.drop (place + 1)) = true then .ok (some "look-around")
      else unsupportedFrom bytes (place + 1) := by
  have byteEq : byteAt bytes place = .ok 0x28 := by simp [byteAt, inside, parenthesis]
  have behindEq : bytesFrom bytes (place + 1) = .ok (bytes.drop (place + 1)) :=
    if_pos (Nat.succ_le_of_lt inside)
  have nextFits : ¬0x10000000000000000 ≤ place + 1 := by omega
  rw [unsupportedFrom, dif_pos inside, byteEq, behindEq]
  simp only [bind, Except.bind]
  rw [if_neg nextFits, if_neg (by decide), if_pos trivial]

theorem unsupportedFrom_pass (small : bytes.length < 0x8000000000000000)
    (inside : place < bytes.length) (noEscape : bytes[place] ≠ 0x5C)
    (noParenthesis : bytes[place] ≠ 0x28) :
    unsupportedFrom bytes place = unsupportedFrom bytes (place + 1) := by
  have byteEq : byteAt bytes place = .ok bytes[place] := by simp [byteAt, inside]
  have nextFits : ¬0x10000000000000000 ≤ place + 1 := by omega
  rw [unsupportedFrom, dif_pos inside, byteEq]
  simp only [bind, Except.bind]
  rw [if_neg nextFits, if_neg noEscape, if_neg noParenthesis]

/-- No lookup of the search lies outside, and no sum is too great. -/
theorem unsupportedFrom_eq (small : bytes.length < 0x8000000000000000) (place : Nat) :
    unsupportedFrom bytes place = .ok (unsupportedInBytes (bytes.drop place)) := by
  induction leftEq : bytes.length - place using Nat.strong_induction_on
    generalizing place with
  | _ left ih =>
      by_cases inside : place < bytes.length
      · have nextEq := ih (bytes.length - (place + 1)) (by omega) (place + 1) rfl
        have laterEq := ih (bytes.length - (place + 2)) (by omega) (place + 2) rfl
        rw [List.drop_eq_getElem_cons inside]
        by_cases escape : bytes[place] = 0x5C
        · rw [unsupportedFrom_escape small inside escape, laterEq, escape]
          by_cases more : place + 1 < bytes.length
          · rw [List.drop_eq_getElem_cons more, unsupportedInBytes_escape,
              List.getElem?_eq_getElem more]
            simp only [Option.any_some, decide_eq_true_eq]
            split <;> rfl
          · rw [List.getElem?_eq_none (by omega), List.drop_eq_nil_of_le (by omega),
              List.drop_eq_nil_of_le (by omega)]
            rfl
        by_cases parenthesis : bytes[place] = 0x28
        · rw [unsupportedFrom_parenthesis small inside parenthesis, nextEq, parenthesis,
            unsupportedInBytes_parenthesis]
          split <;> rfl
        · have passed : ∀ other ∈ [bytes[place]], other ≠ 0x5C ∧ other ≠ 0x28 := by
            simp [escape, parenthesis]
          rw [unsupportedFrom_pass small inside escape parenthesis, nextEq,
            ← List.singleton_append, unsupportedInBytes_skip _ passed]
      · have outside := Nat.le_of_not_lt inside
        rw [unsupportedFrom_end outside, List.drop_eq_nil_of_le outside]
        rfl

end CheckedSearch

/-- The whole search of a pattern never fails. -/
theorem unsupportedFrom_zero (text : List Char)
    (small : (Text.bytes text).length < 0x8000000000000000) :
    unsupportedFrom (Text.bytes text) 0 = .ok (unsupportedFeature text) := by
  rw [unsupportedFrom_eq small, List.drop_zero, unsupportedInBytes_bytes]

/-! ### Both together -/

/-- Filling leaves a pattern without back-references as it is.  What it makes of any pattern
has none, whatever was captured: none is reported as unsupported, and filling it once more
changes nothing.  A pattern with a back-reference gets shorter if nothing is captured.  The
searches in the bytes of a text find what is in its characters. -/
theorem fillReferences_consistent :
    (∀ line captures pattern,
      (hasReferences pattern = false → fillReferences line captures pattern = pattern) ∧
      hasReferences (fillReferences line captures pattern) = false ∧
      unsupportedFeature (fillReferences line captures pattern) ≠ some "back-references" ∧
      ∀ later others, fillReferences later others (fillReferences line captures pattern) =
        fillReferences line captures pattern) ∧
    (∀ line pattern, hasReferences pattern = true →
      Text.byteLength (fillReferences line [] pattern) < Text.byteLength pattern) ∧
    ∀ text, unsupportedInBytes (Text.bytes text) = unsupportedFeature text ∧
      ((Text.bytes text).length < 0x8000000000000000 →
        referenceFrom (Text.bytes text) 0 = .ok (hasReferences text)) := by
  refine ⟨fun line captures pattern => ?filled, fun line pattern references => ?shorter,
    fun text => ⟨unsupportedInBytes_bytes text, referenceFrom_zero text⟩⟩
  case filled =>
    have noneLeft := hasReferences_fillReferences line captures pattern
    exact ⟨fillReferences_of_not_hasReferences, noneLeft,
      unsupportedFeature_ne_of_not_hasReferences noneLeft,
      fun _ _ => fillReferences_of_not_hasReferences noneLeft⟩
  case shorter =>
    have takenOut := byteLength_fillReferences_le line pattern
    rw [references, if_pos rfl] at takenOut
    omega

/-- The captured text is itself a back-reference, and so is what stands behind a quoted
backslash. -/
theorem fillReferences_captured_reference :
    let line := ['\\', '1', 'é']
    let captures := [some (0, 4), some (0, 4)]
    let pattern := ['\\', '1', '\\', '\\', '1', 'é']
    hasReferences pattern = true ∧
      fillReferences line captures pattern =
        ['\\', '\\', '1', 'é', '\\', '\\', '1', 'é'] ∧
      fillReferences line captures (fillReferences line captures pattern) =
        fillReferences line captures pattern ∧
      fillReferences line captures ['\\', '\\', '1'] = ['\\', '\\', '1'] ∧
      Text.byteLength (fillReferences line [] pattern) < Text.byteLength pattern ∧
      referenceFrom (Text.bytes pattern) 0 = .ok true := by
  intro line captures pattern
  have references : hasReferences pattern = true := by decide
  refine ⟨references, by decide, (fillReferences_consistent.1 line captures pattern).2.2.2 _ _,
    (fillReferences_consistent.1 line captures ['\\', '\\', '1']).1 (by decide),
    fillReferences_consistent.2.1 line pattern references, ?_⟩
  rw [(fillReferences_consistent.2.2 pattern).2 (by decide), references]

end Pattern

end Scopelight
