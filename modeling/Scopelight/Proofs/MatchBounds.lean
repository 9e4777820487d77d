import Scopelight.Proofs.ThreadInvariants

/-!
# Bounds of matches

A thread notes only positions that it passes, so all offsets of a match lie in the line and
the match starts where its thread was started.
-/

namespace Scopelight

namespace Pattern

/-- A thread that was started at an offset and has noted no position beyond another one. -/
structure Thread.Noted (first offset : Nat) (thread : Thread) : Prop where
  startEq : thread.start = first
  savesLe : ∀ note ∈ thread.saves, note.2 ≤ offset

/-- A match that starts at an offset and ends at most at another one. -/
structure Acceptance.Noted (first last : Nat) (accepted : Acceptance) : Prop where
  startEq : accepted.start = first
  startLeStop : first ≤ accepted.stop
  stopLe : accepted.stop ≤ last
  savesLe : ∀ note ∈ accepted.saves, note.2 ≤ last

variable {code : Array Inst} {cursor : Cursor} {first last : Nat}

/-- What a thread has noted at a position of a text that ends at an offset. -/
def Thread.NotedBefore (first last : Nat) (cursor : Cursor) (thread : Thread) : Prop :=
  first ≤ cursor.offset ∧ cursor.offset + Text.byteLength cursor.rest = last ∧
    thread.Noted first cursor.offset

theorem noted_invariant (code : Array Inst) (first last : Nat) :
    ThreadInvariant code (Thread.NotedBefore first last) (Acceptance.Noted first last) where
  silent := by
    rintro cursor thread inst places next - - - ⟨started, ends, noted⟩
    refine ⟨started, ends, noted.startEq, fun note noteMember => ?_⟩
    simp only at noteMember
    unfold Inst.note at noteMember
    split at noteMember
    · rcases List.mem_cons.mp noteMember with rfl | old
      · exact Nat.le_refl _
      · exact noted.savesLe note old
    · exact noted.savesLe note noteMember
  take := by
    rintro cursor thread inst c rest next - restEq - ⟨started, ends, noted⟩
    rw [restEq, Text.byteLength_cons] at ends
    have longer : cursor.offset ≤ (cursor.after c rest).offset := Nat.le_add_right _ _
    refine ⟨started.trans longer, ?_, noted.startEq, fun note member => ?_⟩
    · rw [← ends, Cursor.after, Nat.add_assoc]
    · exact (noted.savesLe note member).trans longer
  accept := by
    rintro cursor thread - ⟨started, ends, noted⟩
    have within : cursor.offset ≤ last := ends ▸ Nat.le_add_right _ _
    exact ⟨noted.startEq, started, within,
      fun note member => (noted.savesLe note member).trans within⟩

theorem matchAt?_noted {accepted : Acceptance} (found : matchAt? code cursor = some accepted) :
    accepted.Noted cursor.offset (cursor.offset + Text.byteLength cursor.rest) :=
  (noted_invariant code _ _).matchAt ⟨Nat.le_refl _, rfl, rfl, by simp⟩ found

/-- What holds of all offsets that are noted holds of the ends of a group. -/
theorem Saves.forall_group? {saves : Saves} {index start stop : Nat} (holds : Nat → Prop)
    (allHold : ∀ note ∈ saves, holds note.2)
    (span : saves.group? index = some (start, stop)) : holds start ∧ holds stop := by
  have lastOffsetHolds : ∀ {slot offset}, saves.last? slot = some offset → holds offset := by
    intro slot offset found
    obtain ⟨note, noted, rfl⟩ := Option.map_eq_some_iff.mp found
    exact allHold note (List.mem_of_find?_eq_some noted)
  unfold Saves.group? at span
  split at span
  · next low high lowEq highEq =>
      cases span
      exact ⟨lastOffsetHolds lowEq, lastOffsetHolds highEq⟩
  · cases span

theorem Acceptance.Noted.captures_le {accepted : Acceptance} {last start stop groups : Nat}
    (noted : accepted.Noted first last)
    (member : some (start, stop) ∈ accepted.captures groups) :
    start ≤ last ∧ stop ≤ last := by
  rcases List.mem_cons.mp member with whole | group
  · cases whole
    have := noted.startEq
    have := noted.startLeStop
    have := noted.stopLe
    omega
  · obtain ⟨index, -, span⟩ := List.mem_map.mp group
    exact Saves.forall_group? (· ≤ last) noted.savesLe span

end Pattern

end Scopelight
