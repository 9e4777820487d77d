import Scopelight.Proofs.CheckedPainting
import Scopelight.Proofs.LiteralClosing

/-!
# Cut lines

A line that does not fit is cut token by token: each token shows as much of its text as fits
into the columns that are left.  A wide character that does not fit ends its own token only.
So the text that shows need not be a beginning of the line: it is one exactly if the longest
beginning that fits fills the limit, or if at no later token anything fits beside it.
-/

namespace Scopelight

/-- The starts of tokens that cover a line: the first is the start of the line, they
increase, and each is between characters. -/
structure TokenStarts (line : List Char) (starts : List Nat) : Prop where
  first : ∀ start ∈ starts.head?, start = 0
  increasing : starts.Pairwise (· < ·)
  boundary : ∀ start ∈ starts, Boundary line start

namespace Text

/-- What shows of the parts of a text if each is cut to the columns that are left.  Once no
columns are left, no part shows at all. -/
def fitParts : Nat → List (List Char) → List Char
  | _, [] => []
  | room, part :: parts =>
      if room = 0 then []
      else
        let fitting := fitColumns room part
        fitting ++ fitParts (room - columns fitting) parts

/-- A text that starts at an offset is cut at starts into parts, of which only the last may be
empty. -/
inductive Cuts : Nat → List Char → List Nat → List (List Char) → Prop
  | last (offset : Nat) (part : List Char) : Cuts offset part [offset] [part]
  | part {offset : Nat} {part rest : List Char} {starts : List Nat} {parts : List (List Char)}
      (nonempty : part ≠ []) (later : Cuts (offset + byteLength part) rest starts parts) :
      Cuts offset (part ++ rest) (offset :: starts) (part :: parts)

/-- At no start behind the longest beginning that fits does anything fit beside it. -/
def NothingFitsLater (room offset : Nat) (text : List Char) (starts : List Nat) : Prop :=
  ∀ start ∈ starts, offset + byteLength (fitColumns room text) ≤ start →
    fitColumns (room - columns (fitColumns room text)) (dropBytes (start - offset) text) = []

variable {room offset : Nat} {text part rest : List Char} {starts : List Nat}
  {parts : List (List Char)}

theorem fitColumns_append_of_whole (whole : fitColumns room part = part) :
    fitColumns room (part ++ rest) = part ++ fitColumns (room - columns part) rest := by
  induction part generalizing room with
  | nil => rfl
  | cons c part ih =>
      rw [fitColumns] at whole
      split at whole
      next fits =>
        rw [List.cons_append, fitColumns, if_pos fits, ih (List.cons.inj whole).2, columns,
          Nat.sub_sub, List.cons_append]
      next => cases whole

/-- A text that does not fit is cut before a character that is wider than the columns that
are left there. -/
theorem exists_cut (notWhole : fitColumns room part ≠ part) :
    ∃ c left, part = fitColumns room part ++ c :: left ∧
      room - columns (fitColumns room part) < charColumns c ∧
      ∀ rest, fitColumns room (part ++ rest) = fitColumns room part := by
  induction part generalizing room with
  | nil => exact absurd rfl notWhole
  | cons c part ih =>
      by_cases fits : charColumns c ≤ room
      · have fitting : fitColumns room (c :: part) =
            c :: fitColumns (room - charColumns c) part := by rw [fitColumns, if_pos fits]
        obtain ⟨d, left, partEq, wide, cut⟩ :=
          @ih (room - charColumns c) (fun whole => notWhole (by rw [fitting, whole]))
        refine ⟨d, left, ?_, ?_, fun rest => ?_⟩
        · rw [fitting, List.cons_append, ← partEq]
        · rwa [fitting, columns, ← Nat.sub_sub]
        · rw [fitting, List.cons_append, fitColumns, if_pos fits, cut]
      · have fitting (rest : List Char) : fitColumns room (c :: rest) = [] := by
          rw [fitColumns, if_neg fits]
        refine ⟨c, part, by rw [fitting, List.nil_append], ?_, fun rest => ?_⟩
        · rw [fitting, columns, Nat.sub_zero]
          exact Nat.lt_of_not_le fits
        · rw [fitting, List.cons_append, fitting]

theorem fitColumns_append_eq_nil_iff (nonempty : part ≠ []) :
    fitColumns room (part ++ rest) = [] ↔ fitColumns room part = [] := by
  obtain ⟨c, part, rfl⟩ := List.exists_cons_of_ne_nil nonempty
  rw [List.cons_append, fitColumns, fitColumns]
  split <;> simp

@[simp]
theorem fitParts_zero (parts : List (List Char)) : fitParts 0 parts = [] := by
  cases parts <;> simp [fitParts]

/-- The first character that shows is not wider than all the columns. -/
theorem charColumns_le_of_fitParts {c : Char} {shown : List Char}
    (shownEq : fitParts room parts = c :: shown) : charColumns c ≤ room := by
  induction parts with
  | nil => cases shownEq
  | cons part parts ih =>
      rw [fitParts] at shownEq
      split at shownEq
      · cases shownEq
      · match part with
        | [] => exact ih shownEq
        | d :: part =>
            rw [fitColumns] at shownEq
            split at shownEq
            next fits =>
              obtain ⟨rfl, -⟩ := List.cons.inj shownEq
              exact fits
            next => exact ih shownEq

theorem fitParts_cons_of_whole (whole : fitColumns room part = part) :
    fitParts room (part :: parts) <+: part ++ rest ↔
      fitParts (room - columns part) parts <+: rest := by
  by_cases full : room = 0
  · simp [full]
  · rw [fitParts, if_neg full]
    simp only [whole, List.prefix_append_right_inj]

/-- Behind a part that is cut, nothing that shows goes on with the text. -/
theorem fitParts_cons_of_cut (notWhole : fitColumns room part ≠ part) :
    fitParts room (part :: parts) <+: part ++ rest ↔
      fitParts (room - columns (fitColumns room part)) parts = [] := by
  by_cases full : room = 0
  · simp [full]
  obtain ⟨c, left, partEq, wide, -⟩ := exists_cut notWhole
  have textEq : part ++ rest = fitColumns room part ++ (c :: (left ++ rest)) := by
    rw [← List.cons_append, ← List.append_assoc, ← partEq]
  rw [fitParts, if_neg full, textEq, List.prefix_append_right_inj]
  cases shown : fitParts (room - columns (fitColumns room part)) parts with
  | nil => simp
  | cons d more =>
      have narrow := charColumns_le_of_fitParts shown
      simp only [List.cons_prefix_cons, reduceCtorEq, iff_false]
      rintro ⟨rfl, -⟩
      exact Nat.not_le_of_lt wide narrow

/-- The start of a text counts as a later one only if nothing fits there. -/
theorem NothingFitsLater.cons_iff :
    NothingFitsLater room offset text (offset :: starts) ↔
      NothingFitsLater room offset text starts := by
  refine ⟨fun later start member => later start (List.mem_cons_of_mem _ member),
    fun later start member le => ?_⟩
  rcases List.mem_cons.mp member with rfl | member
  · have nothing : fitColumns room text = [] := by
      by_contra someText
      have := byteLength_pos someText
      omega
    rw [nothing, Nat.sub_self, dropBytes_zero, columns, Nat.sub_zero, nothing]
  · exact later start member le

namespace Cuts

theorem exists_starts (cuts : Cuts offset text starts parts) :
    ∃ later, starts = offset :: later := by
  cases cuts with
  | last => exact ⟨[], rfl⟩
  | part => exact ⟨_, rfl⟩

theorem le_start (cuts : Cuts offset text starts parts) : ∀ start ∈ starts, offset ≤ start := by
  induction cuts with
  | last offset part => simp
  | part nonempty later ih =>
      intro start member
      rcases List.mem_cons.mp member with rfl | member
      · exact Nat.le_refl _
      · exact Nat.le_trans (Nat.le_add_right _ _) (ih start member)

/-- From a later start on, a text and its rest are the same. -/
theorem dropBytes_later (later : Cuts (offset + byteLength part) rest starts parts) {start : Nat}
    (member : start ∈ starts) :
    dropBytes (start - offset) (part ++ rest) =
      dropBytes (start - (offset + byteLength part)) rest := by
  obtain ⟨distance, rfl⟩ := Nat.exists_eq_add_of_le (later.le_start start member)
  have first : offset + byteLength part + distance - offset = byteLength part + distance := by
    omega
  rw [first, Nat.add_sub_cancel_left, dropBytes_append]

/-- Nothing shows of a text if no columns are left, or if nothing fits at any start. -/
theorem fitParts_eq_nil_iff (cuts : Cuts offset text starts parts) (room : Nat) :
    fitParts room parts = [] ↔
      room = 0 ∨ ∀ start ∈ starts, fitColumns room (dropBytes (start - offset) text) = [] := by
  induction cuts with
  | last offset part =>
      by_cases full : room = 0
      · simp [full]
      · simp [fitParts, full]
  | @part offset part rest starts parts nonempty later ih =>
      by_cases full : room = 0
      · simp [full]
      · have shownEq : fitParts room (part :: parts) = [] ↔
            fitColumns room part = [] ∧ fitParts room parts = [] := by
          rw [fitParts, if_neg full, List.append_eq_nil_iff]
          refine and_congr_right fun nothing => ?_
          rw [nothing, columns, Nat.sub_zero]
        have laterEq : (∀ start ∈ starts,
              fitColumns room (dropBytes (start - offset) (part ++ rest)) = []) ↔
            ∀ start ∈ starts,
              fitColumns room (dropBytes (start - (offset + byteLength part)) rest) = [] :=
          forall₂_congr fun start member => by rw [later.dropBytes_later member]
        rw [shownEq, ih, List.forall_mem_cons, laterEq, Nat.sub_self, dropBytes_zero,
          fitColumns_append_eq_nil_iff nonempty]
        simp [full]

theorem nothingFitsLater_of_whole (whole : fitColumns room part = part)
    (later : Cuts (offset + byteLength part) rest starts parts) :
    NothingFitsLater room offset (part ++ rest) starts ↔
      NothingFitsLater (room - columns part) (offset + byteLength part) rest starts := by
  refine forall₂_congr fun start member => ?_
  rw [fitColumns_append_of_whole whole, byteLength_append, columns_append, ← Nat.add_assoc,
    Nat.sub_add_eq, later.dropBytes_later member]

theorem nothingFitsLater_of_cut (notWhole : fitColumns room part ≠ part)
    (later : Cuts (offset + byteLength part) rest starts parts) :
    NothingFitsLater room offset (part ++ rest) starts ↔
      ∀ start ∈ starts, fitColumns (room - columns (fitColumns room part))
        (dropBytes (start - (offset + byteLength part)) rest) = [] := by
  obtain ⟨c, left, partEq, -, cut⟩ := exists_cut notWhole
  have fittingLe : byteLength (fitColumns room part) ≤ byteLength part := by
    conv_rhs => rw [partEq, byteLength_append]
    exact Nat.le_add_right _ _
  refine forall₂_congr fun start member => ?_
  have startGe := later.le_start start member
  rw [cut rest, later.dropBytes_later member]
  exact imp_iff_right (by omega)

/-- What shows of a text that is cut at starts is a beginning of it exactly if the longest
beginning that fits fills the columns, or nothing fits beside it at any later start. -/
theorem fitParts_prefix_iff (cuts : Cuts offset text starts parts) (room : Nat) :
    fitParts room parts <+: text ↔
      columns (fitColumns room text) = room ∨ NothingFitsLater room offset text starts := by
  induction cuts generalizing room with
  | last offset part =>
      have shownPrefix : fitParts room [part] <+: part := by
        by_cases full : room = 0
        · simp [full]
        · simpa [fitParts, full] using fitColumns_prefix room part
      refine iff_of_true shownPrefix (.inr (NothingFitsLater.cons_iff.mpr ?_))
      simp [NothingFitsLater]
  | @part offset part rest starts parts nonempty later ih =>
      rw [NothingFitsLater.cons_iff]
      by_cases whole : fitColumns room part = part
      · -- The part shows as a whole, and what fits of the text goes on behind it.
        have partLe := columns_fitColumns_le room part
        rw [whole] at partLe
        have filled (fitting : Nat) :
            columns part + fitting = room ↔ fitting = room - columns part := by omega
        rw [fitParts_cons_of_whole whole, ih, nothingFitsLater_of_whole whole later,
          fitColumns_append_of_whole whole, columns_append, filled]
      · -- The part is cut, so nothing may show behind it.
        obtain ⟨c, left, -, -, cut⟩ := exists_cut whole
        have fittingLe := columns_fitColumns_le room part
        have filled : columns (fitColumns room part) = room ↔
            room - columns (fitColumns room part) = 0 := by omega
        rw [fitParts_cons_of_cut whole, later.fitParts_eq_nil_iff,
          nothingFitsLater_of_cut whole later, cut rest, filled]

end Cuts

end Text

namespace TokenStarts

/-- A line is cut into parts by the starts of its tokens. -/
theorem exists_cuts (before rest : List Char) {starts : List Nat}
    (increasing : (Text.byteLength before :: starts).Pairwise (· < ·))
    (boundary : ∀ start ∈ starts, Boundary (before ++ rest) start) :
    ∃ parts, Text.Cuts (Text.byteLength before) rest (Text.byteLength before :: starts) parts := by
  induction starts generalizing before rest with
  | nil => exact ⟨[rest], .last _ rest⟩
  | cons start starts ih =>
      obtain ⟨beforeLt, increasing⟩ := List.pairwise_cons.mp increasing
      have startGt := beforeLt start List.mem_cons_self
      obtain ⟨part, after, rfl, startEq⟩ :=
        (boundary start List.mem_cons_self).exists_part (Nat.le_of_lt startGt)
      have nonempty : part ≠ [] := by
        rintro rfl
        rw [Text.byteLength_nil] at startEq
        omega
      rw [← Text.byteLength_append] at startEq
      subst startEq
      rw [← List.append_assoc] at boundary
      obtain ⟨parts, cuts⟩ := ih (before ++ part) after increasing fun later member =>
        boundary later (List.mem_cons_of_mem _ member)
      rw [Text.byteLength_append] at cuts ⊢
      exact ⟨part :: parts, .part nonempty cuts⟩

end TokenStarts

namespace Painting

variable {line : List Char} {palette : Palette} {limit : Nat}

/-- The words for tokens with their starts and metadata. -/
def tokenWords (tokens : List (UInt32 × UInt32)) : List UInt32 :=
  tokens.flatMap fun token => [token.1, token.2]

/-- Between places between characters, the text of a token is the part of the line there. -/
theorem slice_bounds (before part after : List Char) :
    Text.slice
        (bounds (before ++ (part ++ after)) (Text.byteLength before)
          (Text.byteLength before + Text.byteLength part)).1
        (bounds (before ++ (part ++ after)) (Text.byteLength before)
          (Text.byteLength before + Text.byteLength part)).2
        (before ++ (part ++ after)) = part := by
  rw [bounds, Text.boundaryFrom_eq (.start_of_part before (part ++ after)),
    Text.boundaryUpTo_eq (.stop_of_part before part after),
    Nat.max_eq_right (Nat.le_add_right _ _), Text.slice_append]

/-- A token shows what fits of its text, and the tokens after it go on with the columns that
are left. -/
theorem shown_paintPairs_cons {part : List Char} {parts : List (List Char)} {start : UInt32}
    {following : List UInt32} (textEq : tokenText line start.toNat following = part)
    (later : ∀ written, (paintPairs line palette limit written following).shown =
      Text.fitParts (limit - written) parts) (written : Nat) (word : UInt32) :
    (paintPairs line palette limit written (start :: word :: following)).shown =
      Text.fitParts (limit - written) (part :: parts) := by
  rw [paintPairs, Text.fitParts, textEq]
  by_cases full : limit ≤ written
  · rw [if_pos full, if_pos (Nat.sub_eq_zero_of_le full)]
    rfl
  have roomLeft : limit - written ≠ 0 := Nat.sub_ne_zero_of_lt (Nat.lt_of_not_le full)
  rw [if_neg full, if_neg roomLeft]
  cases part with
  | nil => exact later written
  | cons c part =>
      refine (shown_token palette ⟨word⟩ _ _).trans (congrArg _ ?_)
      rw [later, Nat.sub_add_eq]

/-- The tokens of a line that is cut at their starts show what fits of the parts. -/
theorem shown_paintPairs {before rest : List Char} {offset : Nat} {starts : List Nat}
    {parts : List (List Char)} {tokens : List (UInt32 × UInt32)}
    (cuts : Text.Cuts offset rest starts parts)
    (startsEq : tokens.map (·.1.toNat) = starts) (lineEq : line = before ++ rest)
    (offsetEq : Text.byteLength before = offset) (written : Nat) :
    (paintPairs line palette limit written (tokenWords tokens)).shown =
      Text.fitParts (limit - written) parts := by
  induction cuts generalizing before tokens written with
  | last offset part =>
      obtain ⟨⟨start, word⟩, rfl, rfl⟩ := List.map_eq_singleton_iff.mp startsEq
      have textEq : tokenText line start.toNat [] = part := by
        have textEq := slice_bounds before part []
        rwa [List.append_nil, ← Text.byteLength_append, ← lineEq, offsetEq] at textEq
      exact shown_paintPairs_cons textEq (fun _ => rfl) written word
  | @part offset part rest starts parts nonempty later ih =>
      obtain ⟨⟨start, word⟩, following, rfl, rfl, laterEq⟩ := List.map_eq_cons_iff.mp startsEq
      have textEq : tokenText line start.toNat (tokenWords following) = part := by
        obtain ⟨starts, rfl⟩ := later.exists_starts
        obtain ⟨⟨next, _⟩, following, rfl, nextEq, -⟩ := List.map_eq_cons_iff.mp laterEq
        have textEq := slice_bounds before part rest
        rwa [← lineEq, offsetEq, ← nextEq] at textEq
      refine shown_paintPairs_cons textEq (fun written => ?_) written word
      exact ih laterEq (by rw [lineEq, List.append_assoc])
        (by rw [Text.byteLength_append, offsetEq]) written

/-- The text that shows of a line is a beginning of it exactly if the longest beginning that
fits fills the limit, or if at no later start of a token anything fits beside it. -/
theorem shown_prefix_iff {tokens : List (UInt32 × UInt32)}
    (starts : TokenStarts line (tokens.map (·.1.toNat))) (palette : Palette) (limit : Nat) :
    (ofLine line (tokenWords tokens) palette limit).shown <+: line ↔
      Text.columns (Text.fitColumns limit line) = limit ∨
        ∀ token ∈ tokens, Text.byteLength (Text.fitColumns limit line) ≤ token.1.toNat →
          Text.fitColumns (limit - Text.columns (Text.fitColumns limit line))
            (Text.dropBytes token.1.toNat line) = [] := by
  match tokens with
  | [] =>
      have shownEq : (ofLine line (tokenWords []) palette limit).shown =
          Text.fitColumns limit line := List.append_nil _
      rw [shownEq]
      exact iff_of_true (Text.fitColumns_prefix limit line) (.inr (by simp))
  | token :: tokens =>
      have firstEq : token.1.toNat = Text.byteLength [] := starts.first _ rfl
      have increasing := starts.increasing
      rw [List.map_cons, firstEq] at increasing
      obtain ⟨parts, cuts⟩ := TokenStarts.exists_cuts [] line increasing
        fun start member => starts.boundary start (List.mem_cons_of_mem _ member)
      rw [← firstEq] at cuts
      have shownEq : (ofLine line (tokenWords (token :: tokens)) palette limit).shown =
          Text.fitParts limit parts := shown_paintPairs cuts rfl rfl firstEq.symm 0
      rw [shownEq, cuts.fitParts_prefix_iff, Text.NothingFitsLater,
        ← List.map_cons (f := fun token : UInt32 × UInt32 => token.1.toNat), List.forall_mem_map]
      simp [firstEq]

/-- A character of two columns that does not fit is left out between two narrow ones. -/
theorem wide_left_out : TokenStarts ['a', '日', 'b'] [0, 1, 4] ∧
    ¬ (ofLine ['a', '日', 'b'] (tokenWords [(0, 0), (1, 0), (4, 0)]) ⟨[]⟩ 2).shown <+:
      ['a', '日', 'b'] := by
  have starts : TokenStarts ['a', '日', 'b'] [0, 1, 4] :=
    ⟨by simp, by decide, by decide +kernel⟩
  refine ⟨starts, fun shown => ?_⟩
  rcases (shown_prefix_iff starts ⟨[]⟩ 2).mp shown with full | later
  · exact absurd full (by decide +kernel)
  · exact absurd (later (4, 0) (by simp) (by decide +kernel)) (by decide +kernel)

/-- The text that shows of a line need not be a beginning of it. -/
theorem not_forall_shown_prefix :
    ¬ ∀ (line : List Char) (tokens : List (UInt32 × UInt32)) (palette : Palette) (limit : Nat),
      TokenStarts line (tokens.map (·.1.toNat)) →
        (ofLine line (tokenWords tokens) palette limit).shown <+: line := by
  intro allPrefix
  have starts : TokenStarts ['日', 'a'] [0, 3] := ⟨by simp, by decide, by decide +kernel⟩
  have shown := allPrefix ['日', 'a'] [(0, 0x8001), (3, 0x8001)]
    (.ofDefaults ⟨212, 212, 212⟩ ⟨30, 30, 30⟩) 1 starts
  exact absurd shown (by decide +kernel)

end Painting

end Scopelight
