import Mathlib.Data.Nat.PSub
import Scopelight.Proofs.LineSlices

/-!
# Painting within bounds

The words beside a line may be any words at all.  A painter that gives up where a slice does
not begin and end between characters, or where more columns are taken away than there are,
never gives up: it paints what the painter without these checks paints.  The columns that
are counted are those of the text that shows, there are never more than the limit, and
no attributes outlast the text they are for.
-/

namespace Scopelight

namespace Text

/-- The part of a text between two places.  There is none if a place is not between
characters of the text, or if they are in the wrong order. -/
def slice? (start stop : Nat) (text : List Char) : Option (List Char) :=
  if Boundary text start ∧ Boundary text stop ∧ start ≤ stop then some (slice start stop text)
  else none

theorem slice?_eq_some_iff {start stop : Nat} {text part : List Char} :
    slice? start stop text = some part ↔
      ∃ before after, text = before ++ (part ++ after) ∧ byteLength before = start ∧
        byteLength before + byteLength part = stop := by
  constructor
  · intro sliced
    obtain ⟨⟨first, last, ordered⟩, partEq⟩ := Option.ite_none_right_eq_some.mp sliced
    obtain rfl := Option.some.inj partEq
    obtain ⟨before, rest, rfl, rfl⟩ := first
    obtain ⟨part, after, rfl, rfl⟩ := last.exists_part ordered
    exact ⟨before, after, by rw [slice_append], rfl, by rw [slice_append]⟩
  · rintro ⟨before, after, rfl, rfl, rfl⟩
    have first := Boundary.start_of_part before (part ++ after)
    have last := Boundary.stop_of_part before part after
    rw [slice?, if_pos ⟨first, last, Nat.le_add_right _ _⟩, slice_append]

end Text

namespace Painting

/-- The text of a token, if it can be sliced out of the line. -/
def tokenText? (line : List Char) (start : Nat) (following : List UInt32) :
    Option (List Char) :=
  let stop :=
    match following with
    | [] => Text.byteLength line
    | next :: _ => next.toNat
  let (first, last) := bounds line start stop
  Text.slice? first last line

/-- The instructions for pairs of start and metadata, if every slice and every difference
that is used exists. -/
def paintPairs? (line : List Char) (palette : Palette) (limit : Nat) :
    Nat → List UInt32 → Option Painting
  | written, start :: word :: following =>
      if limit ≤ written then some ⟨[], written⟩
      else do
        let text ← tokenText? line start.toNat following
        if text.isEmpty then paintPairs? line palette limit written following
        else
          let room ← limit.psub written
          let fitting := Text.fitColumns room text
          let later ← paintPairs? line palette limit (written + Text.columns fitting) following
          return ⟨attributeInks palette ⟨word⟩ ++ [.text fitting, .reset] ++ later.inks,
            later.columns⟩
  | written, _ => some ⟨[], written⟩

/-- A painted line, if every slice and every difference that is used exists. -/
def ofLine? (line : List Char) (encoded : List UInt32) (palette : Palette) (limit : Nat) :
    Option Painting :=
  match encoded with
  | _ :: _ :: _ => paintPairs? line palette limit 0 encoded
  | _ =>
      let fitting := Text.fitColumns limit line
      some ⟨[.text fitting], Text.columns fitting⟩

variable {line : List Char} {palette : Palette} {limit : Nat}

theorem tokenText?_eq (line : List Char) (start : Nat) (following : List UInt32) :
    tokenText? line start following = some (tokenText line start following) :=
  if_pos (bounds_spec line start _)

theorem paintPairs?_eq (written : Nat) (encoded : List UInt32) :
    paintPairs? line palette limit written encoded =
      some (paintPairs line palette limit written encoded) := by
  fun_induction paintPairs line palette limit written encoded with
  | case1 written start word following full => rw [paintPairs?, if_pos full]
  | case2 written start word following room text empty ih =>
      rw [paintPairs?, if_neg room, tokenText?_eq, Option.bind_eq_bind, Option.bind_some,
        if_pos empty, ih]
  | case3 written start word following room text someText fitting later ih =>
      have difference : limit.psub written = some (limit - written) :=
        Nat.psub_eq_sub (Nat.le_of_not_le room)
      rw [paintPairs?, if_neg room, tokenText?_eq, Option.bind_eq_bind, Option.bind_some,
        if_neg someText, difference]
      change (paintPairs? line palette limit (written + Text.columns fitting) following).bind _ = _
      rw [ih]
      rfl
  | case4 written encoded noPair => rw [paintPairs?.eq_2 _ _ _ _ _ noPair]

theorem ofLine?_eq (line : List Char) (encoded : List UInt32) (palette : Palette)
    (limit : Nat) :
    ofLine? line encoded palette limit = some (ofLine line encoded palette limit) := by
  match encoded with
  | _ :: _ :: _ => exact paintPairs?_eq 0 _
  | [_] => rfl
  | [] => rfl

theorem not_mem_attributeInks (palette : Palette) (metadata : Metadata) (content : List Char) :
    .text content ∉ attributeInks palette metadata := by
  simp [attributeInks]

@[simp]
theorem flatMap_shown_attributeInks (palette : Palette) (metadata : Metadata) :
    (attributeInks palette metadata).flatMap Ink.shown = [] := by
  simp only [attributeInks, List.flatMap_append]
  cases palette.get? metadata.foreground <;> simp [Ink.shown, apply_ite]

/-- The text of a token is shown before that of the tokens after it. -/
theorem shown_token (palette : Palette) (metadata : Metadata) (content : List Char)
    (later : Painting) :
    (Painting.mk (attributeInks palette metadata ++ [.text content, .reset] ++ later.inks)
      later.columns).shown = content ++ later.shown := by
  simp [shown, Ink.shown]

/-- The columns that are written before and those that show are counted together. -/
theorem paintPairs_columns (written : Nat) (encoded : List UInt32) :
    (paintPairs line palette limit written encoded).columns =
      written + Text.columns (paintPairs line palette limit written encoded).shown := by
  fun_induction paintPairs line palette limit written encoded with
  | case1 written start word following full => rfl
  | case2 written start word following room text empty ih => exact ih
  | case3 written start word following room text someText fitting later ih =>
      rw [shown_token, Text.columns_append, ih, Nat.add_assoc]
  | case4 written encoded noPair => rfl

theorem paintPairs_columns_le {written : Nat} (encoded : List UInt32)
    (writtenLe : written ≤ limit) :
    (paintPairs line palette limit written encoded).columns ≤ limit := by
  fun_induction paintPairs line palette limit written encoded with
  | case1 written start word following full => exact writtenLe
  | case2 written start word following room text empty ih => exact ih writtenLe
  | case3 written start word following room text someText fitting later ih =>
      have fittingLe : Text.columns fitting ≤ limit - written :=
        Text.columns_fitColumns_le (limit - written) text
      exact ih (by omega)
  | case4 written encoded noPair => exact writtenLe

end Painting

namespace Ink

/-- Every text is reset before anything else is written. -/
def TextsReset (inks : List Ink) : Prop :=
  ∀ before content after, inks = before ++ .text content :: after → after.head? = some .reset

namespace TextsReset

theorem of_no_text {inks : List Ink} (noText : ∀ content, .text content ∉ inks) :
    TextsReset inks := by
  rintro before content after rfl
  exact absurd (by simp) (noText content)

theorem token (content : List Char) : TextsReset [.text content, .reset] := by
  intro before other after same
  match before with
  | [] =>
      obtain ⟨-, rfl⟩ := List.cons.inj same
      rfl
  | [_] => simp at same
  | _ :: _ :: _ => simp at same

theorem append {left right : List Ink} (first : TextsReset left) (second : TextsReset right) :
    TextsReset (left ++ right) := by
  intro before content after same
  rcases List.append_eq_append_iff.mp same with ⟨more, rfl, rightEq⟩ | ⟨more, leftEq, restEq⟩
  · exact second more content after rightEq
  · cases more with
    | nil => exact second [] content after restEq.symm
    | cons ink more =>
        rw [List.cons_append] at restEq
        obtain ⟨rfl, rfl⟩ := List.cons.inj restEq
        rw [List.head?_append, first before content more leftEq, Option.some_or]

end TextsReset

end Ink

namespace Painting

variable {line : List Char} {palette : Palette} {limit : Nat}

theorem paintPairs_textsReset (written : Nat) (encoded : List UInt32) :
    Ink.TextsReset (paintPairs line palette limit written encoded).inks := by
  have nothing : Ink.TextsReset [] := .of_no_text (by simp)
  fun_induction paintPairs line palette limit written encoded with
  | case1 written start word following full => exact nothing
  | case2 written start word following room text empty ih => exact ih
  | case3 written start word following room text someText fitting later ih =>
      have attributes := Ink.TextsReset.of_no_text (not_mem_attributeInks palette ⟨word⟩)
      exact (attributes.append (.token fitting)).append ih
  | case4 written encoded noPair => exact nothing

/-- Whatever words stand beside a line, no slice and no difference fails, the columns are
those of the text that shows and at most the limit, and every text that is written with
attributes is reset before anything else is written. -/
theorem ofLine_within_bounds (line : List Char) (encoded : List UInt32) (palette : Palette)
    (limit : Nat) :
    ofLine? line encoded palette limit = some (ofLine line encoded palette limit) ∧
      (ofLine line encoded palette limit).columns =
        Text.columns (ofLine line encoded palette limit).shown ∧
      (ofLine line encoded palette limit).columns ≤ limit ∧
      ∀ before content after,
        (ofLine line encoded palette limit).inks = before ++ .text content :: after →
          after.head? = some .reset ∨ encoded.length < 2 ∧ before = [] ∧ after = [] := by
  have plain (few : encoded.length < 2) : ofLine line encoded palette limit =
      ⟨[.text (Text.fitColumns limit line)], Text.columns (Text.fitColumns limit line)⟩ := by
    match encoded, few with
    | [], _ => rfl
    | [_], _ => rfl
  have pairs (many : 2 ≤ encoded.length) : ofLine line encoded palette limit =
      paintPairs line palette limit 0 encoded := by
    match encoded, many with
    | _ :: _ :: _, _ => rfl
  refine ⟨ofLine?_eq line encoded palette limit, ?_⟩
  rcases Nat.lt_or_ge encoded.length 2 with few | many
  · rw [plain few]
    refine ⟨by simp [shown, Ink.shown], Text.columns_fitColumns_le limit line, ?_⟩
    intro before content after inksEq
    rcases List.append_eq_singleton_iff.mp inksEq.symm with ⟨noMore, last⟩ | ⟨-, noneLeft⟩
    · exact .inr ⟨few, noMore, (List.cons.inj last).2⟩
    · cases noneLeft
  · rw [pairs many]
    refine ⟨?_, paintPairs_columns_le encoded (Nat.zero_le limit), ?_⟩
    · rw [paintPairs_columns, Nat.zero_add]
    · intro before content after inksEq
      exact .inl (paintPairs_textsReset 0 encoded before content after inksEq)

end Painting

end Scopelight
