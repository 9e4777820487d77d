import Scopelight.Pattern.Scanner
import Scopelight.Proofs.PlanMeaning

/-!
# Paths through match programs

A complete match is a path from the first instruction of a program to the accepting one.
The code of a plan is entered at its first instruction and left to its continuation, and in
between it takes what the plan takes; so the program of a plan has a path exactly if the
plan has a match.  Paths are counted in moves, because a loop is left after fewer of them
than it is entered with.
-/

namespace Scopelight

namespace Pattern

/-- What an instruction does: the place that is next and the spot there. -/
def Inst.Moves : Inst → Spot → Nat → Spot → Prop
  | .char expected next, first, place, last =>
      place = next ∧ first.cursor.Passes [expected] last.cursor ∧ last.saves = first.saves
  | .chars set next, first, place, last =>
      place = next ∧ ∃ c, set.contains c.toNat = true ∧
        first.cursor.Passes [c] last.cursor ∧ last.saves = first.saves
  | .look condition next, first, place, last =>
      place = next ∧ condition.holds first.cursor.before first.cursor.rest.head? = true ∧
        last = first
  | .save slot next, first, place, last => place = next ∧ last = first.note slot
  | .jump next, first, place, last => place = next ∧ last = first
  | .split left right, first, place, last => (place = left ∨ place = right) ∧ last = first
  | .accept, _, _, _ => False

/-- So many moves lead from a place to an accepting instruction. -/
inductive Arrives (code : Array Inst) : Nat → Nat → Spot → Spot → Prop
  | accept {place : Nat} {spot : Spot} (instEq : code[place]? = some .accept) :
      Arrives code 0 place spot spot
  | move {count place next : Nat} {inst : Inst} {first middle last : Spot}
      (instEq : code[place]? = some inst) (moves : inst.Moves first next middle)
      (later : Arrives code count next middle last) :
      Arrives code (count + 1) place first last

/-- The instructions of a program from a place on. -/
def Hosts (code : Array Inst) (base : Nat) (insts : List Inst) : Prop :=
  code.toList.drop base = insts

/-- Code of a given size leaves its tail right behind it. -/
def Emitter.Fits (body : Emitter) (size : Nat) : Prop :=
  ∀ base next tail, (body base next tail).drop size = tail

/-- Wherever the code stands in a program, it is entered and left as a relation says: a path
from its start passes its end with fewer moves to go, and every path from its end continues
one from its start. -/
structure Emitter.Means (code : Array Inst) (body : Emitter)
    (relation : Spot → Spot → Prop) : Prop where
  sound : ∀ {base next tail count first last}, Hosts code base (body base next tail) →
    Arrives code count base first last →
    ∃ less middle, less < count ∧ relation first middle ∧ Arrives code less next middle last
  complete : ∀ {base next tail count first middle last},
    Hosts code base (body base next tail) → relation first middle →
    Arrives code count next middle last → ∃ more, Arrives code more base first last

@[simp]
theorem Inst.branch_moves {greedy : Bool} {left right place : Nat} {first last : Spot} :
    (Inst.branch greedy left right).Moves first place last ↔
      (place = left ∨ place = right) ∧ last = first := by
  cases greedy <;> simp [Inst.branch, Inst.Moves, or_comm]

theorem Inst.branch_ne_accept (greedy : Bool) (left right : Nat) :
    Inst.branch greedy left right ≠ .accept := by
  cases greedy <;> simp [Inst.branch]

variable {code : Array Inst} {base next count size : Nat} {first middle last : Spot}
  {tail : List Inst}

theorem Hosts.cons {inst : Inst} (hosts : Hosts code base (inst :: tail)) :
    code[base]? = some inst ∧ Hosts code (base + 1) tail := by
  unfold Hosts at hosts ⊢
  constructor
  · rw [← Array.getElem?_toList, ← List.head?_drop, hosts, List.head?_cons]
  · rw [← List.tail_drop, hosts, List.tail_cons]

theorem Hosts.behind {body : Emitter} (hosts : Hosts code base (body base next tail))
    (fits : body.Fits size) : Hosts code (base + size) tail := by
  unfold Hosts at hosts ⊢
  rw [← List.drop_drop, hosts, fits]

/-- A path goes on from an instruction that does not accept. -/
theorem Arrives.from_inst {inst : Inst} (instEq : code[base]? = some inst)
    (going : inst ≠ .accept) (arrives : Arrives code count base first last) :
    ∃ less place middle, count = less + 1 ∧ inst.Moves first place middle ∧
      Arrives code less place middle last := by
  cases arrives with
  | accept acceptEq => exact absurd (Option.some.inj (instEq.symm.trans acceptEq)) going
  | move ownEq moves later =>
      obtain rfl := Option.some.inj (instEq.symm.trans ownEq)
      exact ⟨_, _, _, rfl, moves, later⟩

/-! ### The size of code -/

theorem fits_emitText (c : Char) (rest : List Char) :
    Emitter.Fits (emitText c rest) (rest.length + 1) := by
  induction rest generalizing c with
  | nil =>
      intro base next tail
      rfl
  | cons d rest ih =>
      intro base next tail
      exact ih d (base + 1) next tail

variable {body : Emitter}

theorem fits_emitCopies (fits : body.Fits size) (count : Nat) :
    Emitter.Fits (emitCopies size body count) (count * size) := by
  induction count with
  | zero =>
      intro base next tail
      simp [emitCopies]
  | succ count ih =>
      intro base next tail
      rw [emitCopies, Nat.succ_mul, ← List.drop_drop, ih, fits]

theorem fits_emitOptional (fits : body.Fits size) (greedy : Bool) (exit count : Nat) :
    Emitter.Fits (emitOptional greedy exit size body count) (count * (size + 1)) := by
  induction count with
  | zero =>
      intro base next tail
      simp [emitOptional]
  | succ count ih =>
      intro base next tail
      rw [emitOptional, Nat.succ_mul, ← List.drop_drop, ih, List.drop_succ_cons, fits]

theorem fits_emitRepeated (fits : body.Fits size) (least : Nat) (most : Option Nat)
    (greedy consumes : Bool) :
    Emitter.Fits (Plan.emitRepeated least most greedy consumes size body)
      (Plan.repeatedSize least most consumes size) := by
  intro base next tail
  unfold Plan.emitRepeated Plan.repeatedSize
  split
  · split
    · rw [List.drop_succ_cons, fits]
    · rw [List.drop_succ_cons, ← List.drop_drop, fits, List.drop_one, List.tail_cons]
  · rw [← List.drop_drop, fits_emitCopies fits, ← List.drop_drop, fits, List.drop_one,
      List.tail_cons]
  · rfl
  · rw [← List.drop_drop, fits_emitCopies fits, fits_emitOptional fits]

theorem fits_emit (plan : Plan) : Emitter.Fits plan.emit plan.size := by
  induction plan with
  | empty | chars | look =>
      intro base next tail
      rfl
  | text c rest => exact fits_emitText c rest
  | capture index body ih =>
      intro base next tail
      rw [Plan.emit, Plan.size, List.drop_succ_cons, ← List.drop_drop, ih, List.drop_one,
        List.tail_cons]
  | repeated least most greedy body ih => exact fits_emitRepeated ih least most greedy _
  | seq left right leftIH rightIH =>
      intro base next tail
      rw [Plan.emit, Plan.size, ← List.drop_drop, leftIH, rightIH]
  | alt left right leftIH rightIH =>
      intro base next tail
      rw [Plan.emit, Plan.size, List.drop_succ_cons, ← List.drop_drop, leftIH, rightIH]

/-! ### The meaning of code -/

/-- One instruction that goes on means what it does. -/
theorem means_inst {inst : Nat → Inst} {relation : Spot → Spot → Prop}
    (going : ∀ next, inst next ≠ .accept)
    (movesIff : ∀ {next place first last},
      (inst next).Moves first place last ↔ place = next ∧ relation first last) :
    Emitter.Means code (fun _ next tail => inst next :: tail) relation where
  sound := by
    intro base next tail count first last hosts arrives
    obtain ⟨less, place, middle, rfl, moves, later⟩ :=
      arrives.from_inst hosts.cons.1 (going next)
    obtain ⟨rfl, related⟩ := movesIff.mp moves
    exact ⟨less, middle, Nat.lt_succ_self less, related, later⟩
  complete := fun hosts related arrives =>
    ⟨_, .move hosts.cons.1 (movesIff.mpr ⟨rfl, related⟩) arrives⟩

variable {relation before after : Spot → Spot → Prop} {left right : Emitter}

theorem Emitter.Means.congr (means : Emitter.Means code body before)
    (iff : ∀ {first last}, before first last ↔ after first last) :
    Emitter.Means code body after where
  sound := fun hosts arrives => by
    obtain ⟨less, middle, lessLt, related, later⟩ := means.sound hosts arrives
    exact ⟨less, middle, lessLt, iff.mp related, later⟩
  complete := fun hosts related arrives => means.complete hosts (iff.mpr related) arrives

/-- Code with other code right behind it does both. -/
theorem Emitter.Means.seq (leftMeans : Emitter.Means code left before) (fits : left.Fits size)
    (rightMeans : Emitter.Means code right after) :
    Emitter.Means code
      (fun base next tail => left base (base + size) (right (base + size) next tail))
      (fun first last => ∃ middle, before first middle ∧ after middle last) where
  sound := by
    intro base next tail count first last hosts arrives
    obtain ⟨fewer, spot, fewerLt, earlier, later⟩ := leftMeans.sound hosts arrives
    obtain ⟨less, middle, lessLt, related, arrives⟩ :=
      rightMeans.sound (hosts.behind fits) later
    exact ⟨less, middle, by omega, ⟨spot, earlier, related⟩, arrives⟩
  complete := by
    rintro base next tail count first middle last hosts ⟨spot, earlier, related⟩ arrives
    obtain ⟨_, later⟩ := rightMeans.complete (hosts.behind fits) related arrives
    exact leftMeans.complete hosts earlier later

/-- A branch before two pieces of code that leave to the same place does either. -/
theorem Emitter.Means.either (leftMeans : Emitter.Means code left before)
    (fits : left.Fits size) (rightMeans : Emitter.Means code right after) :
    Emitter.Means code
      (fun base next tail => .split (base + 1) (base + 1 + size) ::
        left (base + 1) next (right (base + 1 + size) next tail))
      (fun first last => before first last ∨ after first last) where
  sound := by
    intro base next tail count first last hosts arrives
    obtain ⟨splitEq, leftHosts⟩ := hosts.cons
    obtain ⟨fewer, place, spot, rfl, ⟨rfl | rfl, rfl⟩, later⟩ :=
      arrives.from_inst splitEq (by simp)
    · obtain ⟨less, middle, lessLt, related, arrives⟩ := leftMeans.sound leftHosts later
      exact ⟨less, middle, by omega, .inl related, arrives⟩
    · obtain ⟨less, middle, lessLt, related, arrives⟩ :=
        rightMeans.sound (leftHosts.behind fits) later
      exact ⟨less, middle, by omega, .inr related, arrives⟩
  complete := by
    rintro base next tail count first middle last hosts (related | related) arrives
    · obtain ⟨splitEq, leftHosts⟩ := hosts.cons
      obtain ⟨_, entered⟩ := leftMeans.complete leftHosts related arrives
      exact ⟨_, .move splitEq ⟨.inl rfl, rfl⟩ entered⟩
    · obtain ⟨splitEq, leftHosts⟩ := hosts.cons
      obtain ⟨_, entered⟩ := rightMeans.complete (leftHosts.behind fits) related arrives
      exact ⟨_, .move splitEq ⟨.inr rfl, rfl⟩ entered⟩

/-- A branch around code runs it or not. -/
theorem Emitter.Means.maybe (means : Emitter.Means code body relation) (greedy : Bool) :
    Emitter.Means code
      (fun base next tail => .branch greedy (base + 1) next :: body (base + 1) next tail)
      (fun first last => relation first last ∨ last = first) where
  sound := by
    intro base next tail count first last hosts arrives
    obtain ⟨branchEq, bodyHosts⟩ := hosts.cons
    obtain ⟨fewer, place, spot, rfl, moves, later⟩ :=
      arrives.from_inst branchEq (Inst.branch_ne_accept _ _ _)
    obtain ⟨rfl | rfl, rfl⟩ := Inst.branch_moves.mp moves
    · obtain ⟨less, middle, lessLt, related, arrives⟩ := means.sound bodyHosts later
      exact ⟨less, middle, by omega, .inl related, arrives⟩
    · exact ⟨fewer, spot, by omega, .inr rfl, later⟩
  complete := by
    rintro base next tail count first middle last hosts (related | rfl) arrives
    · obtain ⟨branchEq, bodyHosts⟩ := hosts.cons
      obtain ⟨_, entered⟩ := means.complete bodyHosts related arrives
      exact ⟨_, .move branchEq (Inst.branch_moves.mpr ⟨.inl rfl, rfl⟩) entered⟩
    · exact ⟨_, .move hosts.cons.1 (Inst.branch_moves.mpr ⟨.inr rfl, rfl⟩) arrives⟩

theorem means_emitText (c : Char) (rest : List Char) :
    Emitter.Means code (emitText c rest) (Plan.text c rest).Takes := by
  have one (c : Char) : Emitter.Means code (fun _ next tail => .char c next :: tail)
      (Plan.text c []).Takes :=
    means_inst (fun next absurd => by cases absurd) Iff.rfl
  induction rest generalizing c with
  | nil => exact one c
  | cons d rest ih =>
      have fits : Emitter.Fits (fun _ next tail => .char c next :: tail) 1 := fun _ _ _ => rfl
      refine ((one c).seq fits (ih d)).congr fun {first last} => ?_
      constructor
      · rintro ⟨middle, ⟨passes, middleSaves⟩, others, lastSaves⟩
        exact ⟨passes.trans others, lastSaves.trans middleSaves⟩
      · rintro ⟨⟨text, textEq, others⟩, savesEq⟩
        exact ⟨⟨first.cursor.after c text, first.saves⟩, ⟨⟨text, textEq, rfl⟩, rfl⟩, others,
          savesEq⟩

/-- Copies without any are left where they are entered. -/
theorem copies_sound (means : Emitter.Means code body relation) (fits : body.Fits size)
    {copies : Nat} (hosts : Hosts code base (emitCopies size body copies base next tail))
    (empty : copies = 0 → next = base) (arrives : Arrives code count base first last) :
    ∃ less middle, less + copies ≤ count ∧ Times relation copies first middle ∧
      Arrives code less next middle last := by
  induction copies generalizing next tail with
  | zero =>
      rw [empty rfl]
      exact ⟨count, first, Nat.le_refl _, .zero first, arrives⟩
  | succ copies ih =>
      rw [emitCopies] at hosts
      have behind := hosts.behind (fits_emitCopies fits copies)
      obtain ⟨fewer, spot, fewerLe, before, later⟩ :=
        ih hosts (fun noneLeft => by simp [noneLeft])
      obtain ⟨less, middle, lessLt, related, arrives⟩ := means.sound behind later
      exact ⟨less, middle, by omega, .succ before related, arrives⟩

theorem copies_complete (means : Emitter.Means code body relation) (fits : body.Fits size)
    {copies : Nat} (hosts : Hosts code base (emitCopies size body copies base next tail))
    (empty : copies = 0 → next = base) (steps : Times relation copies first middle)
    (arrives : Arrives code count next middle last) :
    ∃ more, Arrives code more base first last := by
  induction copies generalizing next tail middle count with
  | zero =>
      cases steps
      exact ⟨count, empty rfl ▸ arrives⟩
  | succ copies ih =>
      rw [emitCopies] at hosts
      have behind := hosts.behind (fits_emitCopies fits copies)
      cases steps with
      | succ before related =>
          obtain ⟨more, earlier⟩ := means.complete behind related arrives
          exact ih hosts (fun noneLeft => by simp [noneLeft]) before earlier

/-- Optional copies are left to the exit after some of them, or to what follows the last. -/
theorem optional_sound (means : Emitter.Means code body relation) (fits : body.Fits size)
    {greedy : Bool} {exit copies : Nat}
    (hosts : Hosts code base (emitOptional greedy exit size body copies base next tail))
    (empty : copies = 0 → next = base) (arrives : Arrives code count base first last) :
    ∃ less taken middle, taken ≤ copies ∧ Times relation taken first middle ∧
      ((less < count ∧ Arrives code less exit middle last) ∨
        (taken = copies ∧ less + copies ≤ count ∧ Arrives code less next middle last)) := by
  induction copies generalizing next tail with
  | zero =>
      rw [empty rfl]
      exact ⟨count, 0, first, Nat.le_refl _, .zero first, .inr ⟨rfl, Nat.le_refl _, arrives⟩⟩
  | succ copies ih =>
      rw [emitOptional] at hosts
      obtain ⟨branchEq, bodyHosts⟩ :=
        (hosts.behind (fits_emitOptional fits greedy exit copies)).cons
      obtain ⟨fewer, taken, spot, takenLe, before, outcome⟩ :=
        ih hosts (fun noneLeft => by simp [noneLeft])
      rcases outcome with ⟨fewerLt, leaves⟩ | ⟨rfl, fewerLe, enters⟩
      · exact ⟨fewer, taken, spot, by omega, before, .inl ⟨fewerLt, leaves⟩⟩
      · obtain ⟨fewest, place, middle, rfl, moves, later⟩ :=
          enters.from_inst branchEq (Inst.branch_ne_accept _ _ _)
        obtain ⟨rfl | rfl, rfl⟩ := Inst.branch_moves.mp moves
        · obtain ⟨less, stop, lessLt, related, arrives⟩ := means.sound bodyHosts later
          exact ⟨less, taken + 1, stop, Nat.le_refl _, .succ before related,
            .inr ⟨rfl, by omega, arrives⟩⟩
        · exact ⟨fewest, taken, middle, by omega, before, .inl ⟨by omega, later⟩⟩

theorem optional_complete (means : Emitter.Means code body relation) (fits : body.Fits size)
    {greedy : Bool} {exit copies taken : Nat}
    (hosts : Hosts code base (emitOptional greedy exit size body copies base next tail))
    (empty : copies = 0 → next = base) (takenLe : taken ≤ copies)
    (steps : Times relation taken first middle)
    (arrives : Arrives code count (if taken = copies then next else exit) middle last) :
    ∃ more, Arrives code more base first last := by
  induction copies generalizing next tail middle count taken with
  | zero =>
      obtain rfl : taken = 0 := by omega
      cases steps
      exact ⟨count, empty rfl ▸ arrives⟩
  | succ copies ih =>
      rw [emitOptional] at hosts
      obtain ⟨branchEq, bodyHosts⟩ :=
        (hosts.behind (fits_emitOptional fits greedy exit copies)).cons
      have noCopies : copies = 0 → base + copies * (size + 1) = base := by
        intro noneLeft
        simp [noneLeft]
      by_cases all : taken = copies + 1
      · subst all
        rw [if_pos rfl] at arrives
        cases steps with
        | succ before related =>
            obtain ⟨more, entered⟩ := means.complete bodyHosts related arrives
            have branched := Arrives.move branchEq (Inst.branch_moves.mpr ⟨.inl rfl, rfl⟩) entered
            exact ih hosts noCopies (Nat.le_refl copies) before (by rwa [if_pos rfl])
      · rw [if_neg all] at arrives
        by_cases lastLeft : taken = copies
        · have branched := Arrives.move branchEq (Inst.branch_moves.mpr ⟨.inr rfl, rfl⟩) arrives
          exact ih hosts noCopies (by omega) steps (by rwa [if_pos lastLeft])
        · exact ih hosts noCopies (by omega) steps (by rwa [if_neg lastLeft])

/-- A loop that is decided before its body runs the body some times. -/
theorem means_while (means : Emitter.Means code body relation) (greedy : Bool) :
    Emitter.Means code
      (fun base next tail => .branch greedy (base + 1) next :: body (base + 1) base tail)
      (fun first last => ∃ copies, Times relation copies first last) where
  sound := by
    intro base next tail count first last hosts arrives
    obtain ⟨branchEq, bodyHosts⟩ := hosts.cons
    induction count using Nat.strong_induction_on generalizing first with
    | _ count ih =>
        obtain ⟨fewer, place, middle, rfl, moves, later⟩ :=
          arrives.from_inst branchEq (Inst.branch_ne_accept _ _ _)
        obtain ⟨rfl | rfl, rfl⟩ := Inst.branch_moves.mp moves
        · obtain ⟨fewest, spot, fewestLt, related, again⟩ := means.sound bodyHosts later
          obtain ⟨less, stop, lessLt, ⟨copies, steps⟩, arrives⟩ :=
            ih fewest (by omega) again
          exact ⟨less, stop, by omega, ⟨copies + 1, steps.cons related⟩, arrives⟩
        · exact ⟨fewer, middle, by omega, ⟨0, .zero middle⟩, later⟩
  complete := by
    rintro base next tail count first middle last hosts ⟨copies, steps⟩ arrives
    obtain ⟨branchEq, bodyHosts⟩ := hosts.cons
    induction copies generalizing first with
    | zero =>
        cases steps
        exact ⟨_, .move branchEq (Inst.branch_moves.mpr ⟨.inr rfl, rfl⟩) arrives⟩
    | succ copies ih =>
        obtain ⟨spot, related, others⟩ := steps.cases_cons
        obtain ⟨_, again⟩ := ih others
        obtain ⟨_, entered⟩ := means.complete bodyHosts related again
        exact ⟨_, .move branchEq (Inst.branch_moves.mpr ⟨.inl rfl, rfl⟩) entered⟩

/-- A loop that is decided behind its body runs the body at least once. -/
theorem means_until (means : Emitter.Means code body relation) (fits : body.Fits size)
    (greedy : Bool) :
    Emitter.Means code
      (fun base next tail => body base (base + size) (.branch greedy base next :: tail))
      (fun first last => ∃ copies, Times relation (copies + 1) first last) where
  sound := by
    intro base next tail count first last hosts arrives
    have branchEq := (hosts.behind fits).cons.1
    induction count using Nat.strong_induction_on generalizing first with
    | _ count ih =>
        obtain ⟨fewer, spot, fewerLt, related, decides⟩ := means.sound hosts arrives
        obtain ⟨fewest, place, middle, rfl, moves, later⟩ :=
          decides.from_inst branchEq (Inst.branch_ne_accept _ _ _)
        obtain ⟨rfl | rfl, rfl⟩ := Inst.branch_moves.mp moves
        · obtain ⟨less, stop, lessLt, ⟨copies, steps⟩, arrives⟩ := ih fewest (by omega) later
          exact ⟨less, stop, by omega, ⟨copies + 1, steps.cons related⟩, arrives⟩
        · exact ⟨fewest, middle, by omega, ⟨0, .single related⟩, later⟩
  complete := by
    rintro base next tail count first middle last hosts ⟨copies, steps⟩ arrives
    have branchEq := (hosts.behind fits).cons.1
    induction copies generalizing first with
    | zero =>
        obtain ⟨spot, related, none⟩ := steps.cases_cons
        cases none
        exact means.complete hosts related
          (.move branchEq (Inst.branch_moves.mpr ⟨.inr rfl, rfl⟩) arrives)
    | succ copies ih =>
        obtain ⟨spot, related, others⟩ := steps.cases_cons
        obtain ⟨_, again⟩ := ih others
        exact means.complete hosts related
          (.move branchEq (Inst.branch_moves.mpr ⟨.inl rfl, rfl⟩) again)

/-- Copies that are wanted and then optional ones. -/
theorem means_bounded (means : Emitter.Means code body relation) (fits : body.Fits size)
    (greedy : Bool) {least most : Nat} (nonempty : 0 < least ∨ least < most) :
    Emitter.Means code
      (fun base next tail =>
        emitCopies size body least base (if least < most then base + least * size else next)
          (emitOptional greedy next size body (most - least) (base + least * size) next tail))
      (fun first last => ∃ count, least ≤ count ∧ count ≤ max least most ∧
        Times relation count first last) where
  sound := by
    intro base next tail count first last hosts arrives
    have optionalHosts := hosts.behind (fits_emitCopies fits least)
    by_cases more : least < most
    · rw [if_pos more] at hosts
      obtain ⟨fewer, spot, fewerLe, before, later⟩ :=
        copies_sound means fits hosts (fun noneLeft => by simp [noneLeft]) arrives
      obtain ⟨less, taken, middle, takenLe, steps, outcome⟩ :=
        optional_sound means fits optionalHosts (fun noneLeft => by omega) later
      have times := before.trans steps
      rcases outcome with ⟨lessLt, arrives⟩ | ⟨-, lessLe, arrives⟩
      · exact ⟨less, middle, by omega, ⟨least + taken, by omega, by omega, times⟩, arrives⟩
      · exact ⟨less, middle, by omega, ⟨least + taken, by omega, by omega, times⟩, arrives⟩
    · rw [if_neg more] at hosts
      obtain ⟨less, middle, lessLe, steps, arrives⟩ :=
        copies_sound means fits hosts (fun noneLeft => by omega) arrives
      exact ⟨less, middle, by omega, ⟨least, Nat.le_refl _, by omega, steps⟩, arrives⟩
  complete := by
    rintro base next tail count first middle last hosts ⟨times, leastLe, timesLe, steps⟩ arrives
    have optionalHosts := hosts.behind (fits_emitCopies fits least)
    obtain ⟨taken, rfl⟩ : ∃ taken, times = least + taken := ⟨times - least, by omega⟩
    by_cases more : least < most
    · rw [if_pos more] at hosts
      obtain ⟨spot, wanted, optional⟩ := steps.split
      obtain ⟨_, later⟩ := optional_complete means fits optionalHosts
        (fun noneLeft => by omega) (show taken ≤ most - least by omega) optional
        (by simpa using arrives)
      exact copies_complete means fits hosts (fun noneLeft => by simp [noneLeft]) wanted later
    · rw [if_neg more] at hosts
      obtain rfl : taken = 0 := by omega
      exact copies_complete means fits hosts (fun noneLeft => by omega) steps arrives

/-- Copies that are wanted and then other code. -/
theorem means_copies (means : Emitter.Means code body relation) (fits : body.Fits size)
    (least : Nat) (rightMeans : Emitter.Means code right after) :
    Emitter.Means code
      (fun base next tail => emitCopies size body least base (base + least * size)
        (right (base + least * size) next tail))
      (fun first last => ∃ middle, Times relation least first middle ∧ after middle last) where
  sound := by
    intro base next tail count first last hosts arrives
    obtain ⟨fewer, spot, fewerLe, copies, later⟩ :=
      copies_sound means fits hosts (fun noneLeft => by simp [noneLeft]) arrives
    obtain ⟨less, middle, lessLt, related, arrives⟩ :=
      rightMeans.sound (hosts.behind (fits_emitCopies fits least)) later
    exact ⟨less, middle, by omega, ⟨spot, copies, related⟩, arrives⟩
  complete := by
    rintro base next tail count first middle last hosts ⟨spot, copies, related⟩ arrives
    obtain ⟨_, later⟩ :=
      rightMeans.complete (hosts.behind (fits_emitCopies fits least)) related arrives
    exact copies_complete means fits hosts (fun noneLeft => by simp [noneLeft]) copies later

theorem means_emitRepeated (means : Emitter.Means code body relation) (fits : body.Fits size)
    (least : Nat) (most : Option Nat) (greedy consumes : Bool) :
    Emitter.Means code (Plan.emitRepeated least most greedy consumes size body)
      (fun first last => ∃ count, least ≤ count ∧
        (∀ bound ∈ most, count ≤ max least bound) ∧ Times relation count first last) := by
  have loop := means_until means fits greedy
  match least, most with
  | 0, none =>
      cases consumes with
      | true => exact (means_while means greedy).congr (by simp)
      | false => exact (loop.maybe greedy).congr (by simp [← Times.exists_iff])
  | least + 1, none =>
      exact (means_copies means fits least loop).congr
        (by simp only [← Times.exists_gt_iff, Nat.lt_iff_add_one_le, Option.mem_def, reduceCtorEq,
          false_implies, implies_true, true_and])
  | 0, some 0 =>
      exact (means_inst (fun next absurd => by cases absurd) Iff.rfl).congr
        (by simp [Times.zero_iff])
  | 0, some (most + 1) =>
      exact (means_bounded means fits greedy (.inr (Nat.succ_pos most))).congr (by simp)
  | least + 1, some most =>
      exact (means_bounded means fits greedy (.inl (Nat.succ_pos least))).congr (by simp)

/-- The code of a plan means what the plan takes. -/
theorem means_emit (plan : Plan) : Emitter.Means code plan.emit plan.Takes := by
  have noted (slot : Nat) : Emitter.Means code (fun _ next tail => .save slot next :: tail)
      (fun first last => last = first.note slot) :=
    means_inst (fun next absurd => by cases absurd) Iff.rfl
  induction plan with
  | empty =>
      exact means_inst (fun next absurd => by cases absurd) Iff.rfl
  | text c rest => exact means_emitText c rest
  | chars set =>
      exact means_inst (fun next absurd => by cases absurd) Iff.rfl
  | look condition =>
      exact means_inst (fun next absurd => by cases absurd) Iff.rfl
  | capture index body ih =>
      have opens : Emitter.Fits (fun _ next tail => .save (2 * index) next :: tail) 1 :=
        fun _ _ _ => rfl
      refine ((noted (2 * index)).seq opens
        (ih.seq (fits_emit body) (noted (2 * index + 1)))).congr fun {first last} => ?_
      simp [Plan.Takes]
  | repeated least most greedy body ih =>
      exact means_emitRepeated ih (fits_emit body) least most greedy _
  | seq left right leftIH rightIH => exact leftIH.seq (fits_emit left) rightIH
  | alt left right leftIH rightIH => exact leftIH.either (fits_emit left) rightIH

/-- The program of a plan has a path between two spots exactly if the plan takes what lies
between them. -/
theorem arrives_ofPlan_iff (plan : Plan) (anchored : Bool) :
    (∃ count, Arrives (Compiled.ofPlan plan anchored).code count 0 first last) ↔
      plan.Takes first last := by
  have hosts : Hosts (Compiled.ofPlan plan anchored).code 0
      (plan.emit 0 plan.size [.accept]) := by
    simp [Hosts, Compiled.ofPlan]
  have accepts : (Compiled.ofPlan plan anchored).code[plan.size]? = some .accept := by
    simpa using (hosts.behind (fits_emit plan)).cons.1
  constructor
  · rintro ⟨count, arrives⟩
    obtain ⟨less, middle, -, takes, ends⟩ := (means_emit plan).sound hosts arrives
    cases ends with
    | accept => exact takes
    | move instEq moves =>
        obtain rfl := Option.some.inj (accepts.symm.trans instEq)
        exact absurd moves (by simp [Inst.Moves])
  · intro takes
    exact (means_emit plan).complete hosts takes (.accept accepts)

end Pattern

end Scopelight
