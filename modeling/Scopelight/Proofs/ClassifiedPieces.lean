import Scopelight.Proofs.BlankText
import Scopelight.Proofs.LaidPieces

/-!
# Classified pieces

Some scopes only say where a text stands, such as the scope of the whole text or of a
structure.  Pieces are classified if those whose innermost scope is one of them cover
nothing but white space.  A match keeps this in two ways: it has a scope of its own, or its
groups have one each and lie in a row with only white space between them.
-/

namespace Scopelight

/-- Some scopes say nothing of the text itself: there is none, or the innermost of them only
says where it stands. -/
def Vague (structural : Scope → Bool) (scopes : List Scope) : Prop :=
  scopes.getLast?.all structural = true

instance (structural : Scope → Bool) (scopes : List Scope) :
    Decidable (Vague structural scopes) :=
  inferInstanceAs (Decidable (_ = true))

/-- Names that say something of a text do so inside all other scopes. -/
theorem not_vague_append {structural : Scope → Bool} {names : List Scope}
    (telling : ¬ Vague structural names) (around : List Scope) :
    ¬ Vague structural (around ++ names) := by
  have someName : names ≠ [] := fun none => telling (none ▸ rfl)
  rwa [Vague, List.getLast?_append_of_ne_nil _ someName]

/-- Tokens whose innermost scope says nothing of the text cover only white space. -/
def Classified (structural : Scope → Bool) (line : List Char) (tokens : List Token) : Prop :=
  ∀ token ∈ tokens, Vague structural token.scopes → BlankBetween line token.start token.stop

/-- From an offset on, groups with telling names lie in a row up to another offset, and
there is only white space between them.  Groups without names do not count. -/
inductive GroupRow (structural : Scope → Bool) (line : List Char) (captures : Captures) :
    Nat → List (Option (Nat × Nat)) → Nat → Nat → Prop
  | nil (group start : Nat) : GroupRow structural line captures group [] start start
  | skip {group start stop : Nat} {spans : List (Option (Nat × Nat))}
      (span : Option (Nat × Nat)) (unnamed : captures.get? group = none)
      (rest : GroupRow structural line captures (group + 1) spans start stop) :
      GroupRow structural line captures group (span :: spans) start stop
  | cons {group start first last stop : Nat} {spans : List (Option (Nat × Nat))}
      {names : List Scope} (named : captures.get? group = some names)
      (telling : ¬ Vague structural names) (startLe : start ≤ first) (proper : first < last)
      (gap : BlankBetween line start first)
      (rest : GroupRow structural line captures (group + 1) spans last stop) :
      GroupRow structural line captures group (some (first, last) :: spans) start stop

theorem GroupRow.start_le_stop {structural : Scope → Bool} {line : List Char}
    {captures : Captures} {group start stop : Nat} {spans : List (Option (Nat × Nat))}
    (row : GroupRow structural line captures group spans start stop) : start ≤ stop := by
  induction row with
  | nil => exact Nat.le_refl _
  | skip _ _ _ ih => exact ih
  | cons _ _ startLe proper _ _ ih => exact startLe.trans (proper.le.trans ih)

namespace Pieces

variable {structural : Scope → Bool} {line : List Char} {pieces : Pieces}

theorem produce_classified (classified : Classified structural line pieces.tokens) {stop : Nat}
    {scopes : List Scope}
    (blank : Vague structural scopes → BlankBetween line pieces.covered stop) :
    Classified structural line (pieces.produce stop scopes).tokens := by
  obtain ⟨tokens, covered⟩ := pieces
  have freshBlank : Vague structural scopes → BlankBetween line covered stop := blank
  unfold produce
  split
  · exact classified
  · cases tokens with
    | nil =>
        intro token member
        rw [List.mem_singleton.mp member]
        exact freshBlank
    | cons last others =>
        simp only
        split
        · next same =>
            intro token member vague
            rcases List.mem_cons.mp member with rfl | old
            · have before := classified last List.mem_cons_self vague
              rw [same.1] at before
              exact before.trans (freshBlank (same.2 ▸ vague))
            · exact classified token (List.mem_cons_of_mem _ old) vague
        · intro token member
          rcases List.mem_cons.mp member with rfl | old
          · exact freshBlank
          · exact classified token old

/-- Where groups stand that have been laid down up to an offset: none is open, or one that
ends there. -/
inductive LaidUpTo (structural : Scope → Bool) (line : List Char) (offset : Nat) :
    OpenGroups → Pieces → Prop
  | none {pieces : Pieces} (classified : Classified structural line pieces.tokens)
      (coveredEq : pieces.covered = offset) : LaidUpTo structural line offset [] pieces
  | one {pieces : Pieces} {scopes : List Scope}
      (classified : Classified structural line pieces.tokens)
      (coveredLe : pieces.covered ≤ offset) (telling : ¬ Vague structural scopes) :
      LaidUpTo structural line offset [(scopes, offset)] pieces

theorem LaidUpTo.closed {offset : Nat} {opened : OpenGroups}
    (laid : LaidUpTo structural line offset opened pieces) :
    Classified structural line (closeAll opened pieces).tokens ∧
      (closeAll opened pieces).covered = offset := by
  cases laid with
  | none classified coveredEq => exact ⟨classified, coveredEq⟩
  | one classified coveredLe telling =>
      refine ⟨produce_classified classified fun vague => absurd vague telling, ?_⟩
      exact (covered_produce _ _ _).trans (Nat.max_eq_right coveredLe)

/-- An open group is closed before one that starts at or behind its end. -/
theorem LaidUpTo.closeUpTo_eq {offset start : Nat} {opened : OpenGroups}
    (laid : LaidUpTo structural line offset opened pieces) (le : offset ≤ start) :
    closeUpTo start opened pieces = ([], closeAll opened pieces) := by
  cases laid with
  | none => rfl
  | one => simp [closeUpTo, closeAll, le]

/-- Groups in a row are laid down one after another. -/
theorem layGroups_row {captures : Captures} {group start stop matchStop : Nat}
    {spans : List (Option (Nat × Nat))} (base : List Scope)
    (row : GroupRow structural line captures group spans start stop) (stopLe : stop ≤ matchStop)
    {opened : OpenGroups} (laid : LaidUpTo structural line start opened pieces) :
    Classified structural line
        (layGroups base captures matchStop group spans opened pieces).tokens ∧
      (layGroups base captures matchStop group spans opened pieces).covered = stop := by
  induction row generalizing opened pieces with
  | nil => exact laid.closed
  | skip span unnamed rest ih =>
      simp only [layGroups, unnamed]
      exact ih stopLe laid
  | @cons group start first last stop spans names named telling startLe proper gap rest ih =>
      have lastLe : last ≤ matchStop := rest.start_le_stop.trans stopLe
      have closed := laid.closed
      simp only [layGroups, named, Nat.min_eq_left lastLe, if_neg (Nat.not_le_of_lt proper),
        laid.closeUpTo_eq startLe, innermost]
      refine ih stopLe (.one ?_ ?_ (not_vague_append telling base))
      · exact produce_classified closed.1 fun _ => closed.2 ▸ gap
      · rw [covered_produce, closed.2]
        omega

variable {found : Match} {before scopes : List Scope} {captures : Captures}

/-- How a match with its scopes and groups classifies its text. -/
inductive Lays (structural : Scope → Bool) (line : List Char) (scopes : List Scope)
    (captures : Captures) (found : Match) : Prop
  /-- The match has a telling scope and its groups have none. -/
  | whole (noCaptures : captures.isEmpty = true) (telling : ¬ Vague structural scopes)
  /-- The groups have telling scopes and lie in a row. -/
  | row (someCaptures : captures.isEmpty = false)
      (wholeEq : found.captures.head? = some (some (found.start, found.stop)))
      (row : GroupRow structural line captures 0 found.captures found.start found.stop)

theorem layMatch_classified (classified : Classified structural line pieces.tokens)
    (lays : Lays structural line scopes captures found) (proper : found.start < found.stop)
    (coveredLe : pieces.covered ≤ found.start)
    (gap : Vague structural before → BlankBetween line pieces.covered found.start) :
    Classified structural line (pieces.layMatch before scopes captures found).tokens ∧
      (pieces.layMatch before scopes captures found).covered = found.stop := by
  have started := produce_classified classified gap
  have startedCovered : (pieces.produce found.start before).covered = found.start := by
    rw [covered_produce]
    omega
  unfold layMatch
  cases lays with
  | whole noCaptures telling =>
      simp only [applyCaptures, noCaptures, if_pos, covered_produce]
      exact ⟨produce_classified started fun vague => absurd vague telling, by omega⟩
  | row someCaptures wholeEq row =>
      have laid : Classified structural line
            ((pieces.produce found.start before).applyCaptures scopes captures
              found.captures).tokens ∧
          ((pieces.produce found.start before).applyCaptures scopes captures
            found.captures).covered = found.stop := by
        obtain ⟨others, capturesEq⟩ : ∃ others,
            found.captures = some (found.start, found.stop) :: others :=
          ⟨_, (List.head?_eq_some_iff.mp wholeEq).choose_spec⟩
        simp only [applyCaptures, someCaptures, capturesEq]
        exact layGroups_row scopes (capturesEq ▸ row) (Nat.le_refl _)
          (.none started startedCovered)
      refine ⟨produce_classified laid.1 fun _ => ?_, by rw [covered_produce, laid.2]; omega⟩
      rw [laid.2]
      exact .of_le (Nat.le_refl _)

end Pieces

end Scopelight
