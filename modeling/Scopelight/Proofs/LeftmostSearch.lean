import Scopelight.Proofs.SilentWalks

/-!
# Leftmost searches

A search follows many threads at once and drops those that cannot count.  Here it is shown
to find what a search would find that tries one position after another: the match that
starts at the first position where any match starts.  A thread is live if a complete match
can be reached from it.  Threads that are not live have no influence on a run, and a live
thread has no influence from those behind it.
-/

namespace Scopelight

namespace Pattern

/-- The position after a character. -/
def Cursor.after (cursor : Cursor) (c : Char) (rest : List Char) : Cursor :=
  ⟨some c, cursor.offset + c.utf8Size, rest⟩

/-- The positions of a text from a position on. -/
def Cursor.onward (before : Option Char) (offset : Nat) : List Char → List Cursor
  | [] => [⟨before, offset, []⟩]
  | c :: rest =>
      ⟨before, offset, c :: rest⟩ :: Cursor.onward (some c) (offset + c.utf8Size) rest

/-- A run from a position on. -/
def runAt (code : Array Inst) (limit : Nat) (cursor : Cursor) (threads : List Thread)
    (best : Option Acceptance) : Option Acceptance :=
  run code limit cursor.rest cursor.before cursor.offset threads best

/-- The match of a program that starts at a position and nowhere else. -/
def matchAt? (code : Array Inst) (cursor : Cursor) : Option Acceptance :=
  runAt code 0 cursor [⟨0, cursor.offset, []⟩] none

/-- From a place at a position a complete match can be reached. -/
inductive Accepts (code : Array Inst) : Cursor → Nat → Prop
  | accept {cursor : Cursor} {place : Nat} (instEq : code[place]? = some .accept) :
      Accepts code cursor place
  | silent {cursor : Cursor} {place next : Nat} {inst : Inst} {places : List Nat}
      (instEq : code[place]? = some inst) (goes : inst.silent? cursor = some places)
      (member : next ∈ places) (later : Accepts code cursor next) :
      Accepts code cursor place
  | take {cursor : Cursor} {place next : Nat} {inst : Inst} {c : Char} {rest : List Char}
      (instEq : code[place]? = some inst) (restEq : cursor.rest = c :: rest)
      (takes : inst.after? c = some next) (later : Accepts code (cursor.after c rest) next) :
      Accepts code cursor place

open Classical in
/-- Whether a place is live at a position. -/
noncomputable def live (code : Array Inst) (cursor : Cursor) (place : Nat) : Bool :=
  decide (Accepts code cursor place)

variable {code : Array Inst}

theorem not_live_iff {cursor : Cursor} {place : Nat} :
    live code cursor place = false ↔ ¬ Accepts code cursor place := by
  simp [live]

noncomputable def liveOf (code : Array Inst) (cursor : Cursor) (threads : List Thread) :
    List Thread :=
  Thread.thoseAt (live code cursor) threads

theorem liveOf_cons_congr {cursor : Cursor} (thread : Thread) {threads threads' : List Thread}
    (same : liveOf code cursor threads = liveOf code cursor threads') :
    liveOf code cursor (thread :: threads) = liveOf code cursor (thread :: threads') := by
  unfold liveOf Thread.thoseAt at same ⊢
  rw [List.filter_cons, List.filter_cons, same]

/-- The live threads that wait at a position depend on the live pending threads alone. -/
theorem liveOf_settle {cursor : Cursor} {threads threads' : List Thread}
    (same : liveOf code cursor threads = liveOf code cursor threads') :
    liveOf code cursor (settle code cursor threads) =
      liveOf code cursor (settle code cursor threads') := by
  have deadEnd : ∀ {place inst places next}, live code cursor place = false →
      code[place]? = some inst → inst.silent? cursor = some places → next ∈ places →
      live code cursor next = false := by
    intro place inst places next dead instEq goes member
    rw [not_live_iff] at dead ⊢
    exact fun accepts => dead (.silent instEq goes member accepts)
  obtain ⟨after, walk⟩ := settle_walk code cursor threads
  obtain ⟨after', walk'⟩ := settle_walk code cursor threads'
  obtain ⟨_, pruned⟩ := walk.prune deadEnd
  obtain ⟨_, pruned'⟩ := walk'.prune deadEnd
  rw [show Thread.thoseAt _ threads = Thread.thoseAt _ threads' from same] at pruned
  exact (pruned.deterministic pruned').2

theorem settle_append (code : Array Inst) (cursor : Cursor) (threads later : List Thread) :
    ∃ behind, settle code cursor (threads ++ later) = settle code cursor threads ++ behind := by
  obtain ⟨_, walk⟩ := settle_walk code cursor (threads ++ later)
  obtain ⟨_, first, second, before, -, waitingEq⟩ := walk.append_inv
  obtain ⟨_, walk'⟩ := settle_walk code cursor threads
  exact ⟨second, (before.deterministic walk').2 ▸ waitingEq⟩

theorem settle_waits {cursor : Cursor} {threads : List Thread} {thread : Thread}
    (member : thread ∈ settle code cursor threads) :
    ∃ inst, code[thread.place]? = some inst ∧ inst.silent? cursor = none := by
  obtain ⟨_, walk⟩ := settle_walk code cursor threads
  exact walk.waiting_waits member

/-- From a live thread a live thread is reached that waits. -/
theorem settle_live {cursor : Cursor} {threads : List Thread} {thread : Thread}
    (member : thread ∈ threads) (accepts : Accepts code cursor thread.place) :
    ∃ waiting ∈ settle code cursor threads, Accepts code cursor waiting.place := by
  obtain ⟨after, walk⟩ := settle_walk code cursor threads
  have reached := walk.pending_reached member
  -- The induction follows the way to the complete match.  Its silent steps stay among the
  -- reached places, and its first other step starts at a thread that waits.
  generalize thread.place = place at accepts reached
  generalize cursorEq : cursor = here at accepts
  induction accepts with
  | @accept _ place instEq =>
      subst cursorEq
      rcases reached with reached | absent
      · obtain ⟨waiting, found, rfl⟩ := walk.waits_at reached (by simp) instEq rfl
        exact ⟨waiting, found, .accept instEq⟩
      · exact absurd absent (by simp [instEq])
  | @silent _ place next inst places instEq goes nextMember later ih =>
      subst cursorEq
      rcases reached with reached | absent
      · exact ih (walk.goes_from reached (by simp) instEq goes nextMember rfl) rfl
      · exact absurd absent (by simp [instEq])
  | @take _ place next inst c rest instEq restEq takes later =>
      subst cursorEq
      rcases reached with reached | absent
      · have waits : inst.silent? cursor = none := Inst.silent?_eq_none_of_after? takes
        obtain ⟨waiting, found, rfl⟩ := walk.waits_at reached (by simp) instEq waits
        exact ⟨waiting, found, .take instEq restEq takes later⟩
      · exact absurd absent (by simp [instEq])

/-- What the first waiting thread does: it completes the match, takes the character, or
ends. -/
theorem advance_cons (code : Array Inst) (offset : Nat) (taken : Option Char)
    (thread : Thread) (threads : List Thread) :
    (code[thread.place]? = some .accept ∧
        advance code offset taken (thread :: threads) =
          (some ⟨thread.start, offset, thread.saves⟩, [])) ∨
      (∃ inst c next, code[thread.place]? = some inst ∧ taken = some c ∧
        inst.after? c = some next ∧
        advance code offset taken (thread :: threads) =
          ((advance code offset taken threads).1,
            { thread with place := next } :: (advance code offset taken threads).2)) ∨
      (code[thread.place]? ≠ some .accept ∧
        (∀ inst c, code[thread.place]? = some inst → taken = some c →
          inst.after? c = none) ∧
        advance code offset taken (thread :: threads) =
          advance code offset taken threads) := by
  simp only [advance]
  split
  case h_1 instEq => exact .inl ⟨instEq, rfl⟩
  case h_2 inst notAccept instEq =>
    refine .inr ?_
    split
    case h_1 next takes =>
      obtain ⟨c, takenEq, takes⟩ := Option.bind_eq_some_iff.mp takes
      exact .inl ⟨inst, c, next, instEq, takenEq, takes, rfl⟩
    case h_2 stays =>
      refine .inr ⟨fun accepts => ?_, ?_, rfl⟩
      · exact notAccept (Option.some.inj (instEq.symm.trans accepts))
      · intro other c otherEq takenEq
        obtain rfl := Option.some.inj (instEq.symm.trans otherEq)
        simpa [takenEq] using stays
  case h_3 absent =>
    exact .inr (.inr ⟨by simp [absent], by simp [absent], rfl⟩)

theorem advance_append (code : Array Inst) (offset : Nat) (taken : Option Char)
    (threads later : List Thread) :
    advance code offset taken (threads ++ later) =
      match advance code offset taken threads with
      | (some accepted, next) => (some accepted, next)
      | (none, next) =>
          ((advance code offset taken later).1, next ++ (advance code offset taken later).2) := by
  induction threads with
  | nil => rfl
  | cons thread threads ih =>
      simp only [List.cons_append, advance]
      split
      · rfl
      · split
        · rw [ih]
          cases advance code offset taken threads with
          | mk accepted next => cases accepted <;> rfl
        · exact ih
      · exact ih

/-- A live thread that waits and is not passed by a complete match takes a character. -/
theorem advance_live {cursor : Cursor} {threads : List Thread}
    (waits : ∀ thread ∈ threads, ∃ inst, code[thread.place]? = some inst ∧
      inst.silent? cursor = none)
    (alive : ∃ thread ∈ threads, Accepts code cursor thread.place)
    (incomplete : (advance code cursor.offset cursor.rest.head? threads).1 = none) :
    ∃ c rest, cursor.rest = c :: rest ∧
      ∃ next ∈ (advance code cursor.offset cursor.rest.head? threads).2,
        Accepts code (cursor.after c rest) next.place := by
  obtain ⟨living, member, accepts⟩ := alive
  induction threads with
  | nil => exact absurd member List.not_mem_nil
  | cons thread threads ih =>
      have later := fun member incomplete =>
        ih (fun other found => waits other (List.mem_cons_of_mem _ found)) incomplete member
      rcases advance_cons code cursor.offset cursor.rest.head? thread threads with
        ⟨-, completes⟩ | ⟨inst, c, next, instEq, takenEq, takes, goes⟩ |
          ⟨notAccept, stays, goes⟩
      · exact absurd incomplete (by simp [completes])
      · rw [goes] at incomplete ⊢
        rcases List.mem_cons.mp member with rfl | behind
        · cases accepts with
          | accept acceptEq =>
              obtain rfl := Option.some.inj (instEq.symm.trans acceptEq)
              exact absurd takes (by simp [Inst.after?])
          | silent instEq' goes' =>
              obtain rfl := Option.some.inj (instEq.symm.trans instEq')
              exact absurd goes' (by simp [Inst.silent?_eq_none_of_after? takes])
          | @take _ _ next' inst' c' rest instEq' restEq takes' nextAccepts =>
              obtain rfl := Option.some.inj (instEq.symm.trans instEq')
              obtain rfl : c = c' := by simpa [restEq, eq_comm] using takenEq
              obtain rfl := Option.some.inj (takes.symm.trans takes')
              exact ⟨c, rest, restEq, _, List.mem_cons_self, nextAccepts⟩
        · obtain ⟨c, rest, restEq, other, found, otherAccepts⟩ := later behind incomplete
          exact ⟨c, rest, restEq, other, List.mem_cons_of_mem _ found, otherAccepts⟩
      · rw [goes] at incomplete ⊢
        rcases List.mem_cons.mp member with rfl | behind
        · obtain ⟨inst, instEq, instWaits⟩ := waits living List.mem_cons_self
          cases accepts with
          | accept acceptEq => exact absurd acceptEq notAccept
          | silent instEq' goes' =>
              obtain rfl := Option.some.inj (instEq.symm.trans instEq')
              exact absurd goes' (by simp [instWaits])
          | @take _ _ _ inst' c rest instEq' restEq takes =>
              have notTaken := stays inst' c instEq' (by simp [restEq])
              exact absurd takes (by simp [notTaken])
        · exact later behind incomplete

/-- The complete match and the live threads at the next position depend on the live threads
alone. -/
theorem advance_liveOf (code : Array Inst) (cursor : Cursor) (threads : List Thread) :
    (advance code cursor.offset cursor.rest.head? (liveOf code cursor threads)).1 =
        (advance code cursor.offset cursor.rest.head? threads).1 ∧
      ∀ c rest, cursor.rest = c :: rest →
        liveOf code (cursor.after c rest)
            (advance code cursor.offset cursor.rest.head? (liveOf code cursor threads)).2 =
          liveOf code (cursor.after c rest)
            (advance code cursor.offset cursor.rest.head? threads).2 := by
  induction threads with
  | nil => exact ⟨rfl, fun _ _ _ => rfl⟩
  | cons thread threads ih =>
      obtain ⟨acceptedEq, nextEq⟩ := ih
      cases alive : live code cursor thread.place with
      | true =>
          rw [show liveOf code cursor (thread :: threads) = thread :: liveOf code cursor threads
            from Thread.thoseAt_cons_live alive]
          simp only [advance]
          split
          · exact ⟨rfl, fun _ _ _ => rfl⟩
          · split
            · refine ⟨acceptedEq, fun c rest restEq => ?_⟩
              exact liveOf_cons_congr _ (nextEq c rest restEq)
            · exact ⟨acceptedEq, nextEq⟩
          · exact ⟨acceptedEq, nextEq⟩
      | false =>
          have dead := not_live_iff.mp alive
          rw [show liveOf code cursor (thread :: threads) = liveOf code cursor threads
            from Thread.thoseAt_cons_dead alive]
          rcases advance_cons code cursor.offset cursor.rest.head? thread threads with
            ⟨acceptEq, -⟩ | ⟨inst, c, next, instEq, takenEq, takes, goes⟩ | ⟨-, -, goes⟩
          · exact absurd (Accepts.accept acceptEq) dead
          · rw [goes]
            refine ⟨acceptedEq, fun c' rest restEq => ?_⟩
            obtain rfl : c = c' := by simpa [restEq, eq_comm] using takenEq
            have nextDead : live code (cursor.after c rest) next = false :=
              not_live_iff.mpr fun accepts => dead (.take instEq restEq takes accepts)
            rw [nextEq c rest restEq]
            exact (Thread.thoseAt_cons_dead nextDead).symm
          · rw [goes]
            exact ⟨acceptedEq, nextEq⟩

theorem turn_congr {cursor : Cursor} {threads threads' : List Thread}
    (same : liveOf code cursor threads = liveOf code cursor threads') :
    (turn code cursor threads).1 = (turn code cursor threads').1 ∧
      ∀ c rest, cursor.rest = c :: rest →
        liveOf code (cursor.after c rest) (turn code cursor threads).2 =
          liveOf code (cursor.after c rest) (turn code cursor threads').2 := by
  have left := advance_liveOf code cursor (settle code cursor threads)
  have right := advance_liveOf code cursor (settle code cursor threads')
  rw [liveOf_settle same] at left
  refine ⟨left.1.symm.trans right.1, fun c rest restEq => ?_⟩
  exact (left.2 c rest restEq).symm.trans (right.2 c rest restEq)

/-- With a live thread a position has a complete match or leaves a live thread, and the
threads behind are dropped or stay behind. -/
theorem turn_append {cursor : Cursor} {threads : List Thread}
    (alive : ∃ thread ∈ threads, Accepts code cursor thread.place) (later : List Thread) :
    (∃ accepted, (turn code cursor threads).1 = some accepted ∧
        turn code cursor (threads ++ later) = turn code cursor threads) ∨
      ((turn code cursor threads).1 = none ∧
        (∃ behind, (turn code cursor (threads ++ later)).2 =
          (turn code cursor threads).2 ++ behind) ∧
        ∃ c rest, cursor.rest = c :: rest ∧ ∃ next ∈ (turn code cursor threads).2,
          Accepts code (cursor.after c rest) next.place) := by
  obtain ⟨thread, member, accepts⟩ := alive
  obtain ⟨behind, settled⟩ := settle_append code cursor threads later
  have joined := advance_append code cursor.offset cursor.rest.head?
    (settle code cursor threads) behind
  cases complete : (turn code cursor threads).1 with
  | some accepted =>
      refine .inl ⟨accepted, rfl, ?_⟩
      unfold turn at complete ⊢
      rw [settled, joined]
      revert complete
      cases advance code cursor.offset cursor.rest.head? (settle code cursor threads) with
      | mk first next => rintro rfl; rfl
  | none =>
      refine .inr ⟨rfl, ?_, ?_⟩
      · unfold turn at complete ⊢
        rw [settled, joined]
        revert complete
        cases advance code cursor.offset cursor.rest.head? (settle code cursor threads) with
        | mk first next => rintro rfl; exact ⟨_, rfl⟩
      · exact advance_live (fun _ member => settle_waits member)
          (settle_live member accepts) complete

/-- A run from a position on, once the threads that start there have been added. -/
def proceed (code : Array Inst) (limit : Nat) (cursor : Cursor) (threads : List Thread)
    (best : Option Acceptance) : Option Acceptance :=
  match cursor.rest with
  | [] => (turn code cursor threads).1.or best
  | c :: rest =>
      runAt code limit (cursor.after c rest) (turn code cursor threads).2
        ((turn code cursor threads).1.or best)

theorem enter_of_known {limit offset : Nat} {best : Option Acceptance}
    (closed : best.isSome = true ∨ limit ≤ offset) (threads : List Thread) :
    enter limit offset best threads = threads := by
  rcases closed with known | beyond
  · obtain ⟨accepted, rfl⟩ := Option.isSome_iff_exists.mp known
    simp [enter]
  · simp [enter, Nat.not_lt.mpr beyond]

@[simp]
theorem turn_nil (code : Array Inst) (cursor : Cursor) : turn code cursor [] = (none, []) := by
  obtain ⟨_, walk⟩ := settle_walk code cursor []
  have settled : settle code cursor [] = [] := by
    generalize settle code cursor [] = waiting at walk
    cases walk
    rfl
  simp [turn, settled, advance]

/-- Without threads, and where none start any more, a run is over. -/
theorem runAt_nil {limit : Nat} {cursor : Cursor} {best : Option Acceptance}
    (closed : best.isSome = true ∨ limit ≤ cursor.offset) :
    runAt code limit cursor [] best = best := by
  obtain ⟨before, offset, rest⟩ := cursor
  change run code limit rest before offset [] best = best
  unfold run
  rw [enter_of_known closed, turn_nil]
  cases rest with
  | nil => rfl
  | cons c rest =>
      refine if_pos ?_
      simpa using closed

/-- The run may stop early only where it is over. -/
theorem runAt_eq_proceed (limit : Nat) (cursor : Cursor) (threads : List Thread)
    (best : Option Acceptance) :
    runAt code limit cursor threads best =
      proceed code limit cursor (enter limit cursor.offset best threads) best := by
  obtain ⟨before, offset, rest⟩ := cursor
  cases rest with
  | nil => rfl
  | cons c rest =>
      change run code limit (c :: rest) before offset threads best = _
      unfold run proceed
      simp only
      generalize turn code ⟨before, offset, c :: rest⟩ (enter limit offset best threads) =
        outcome
      split
      case isFalse => rfl
      case isTrue stops =>
        simp only [Bool.and_eq_true, List.isEmpty_iff, Bool.or_eq_true,
          decide_eq_true_eq] at stops
        rw [stops.1]
        exact (runAt_nil (stops.2.imp_right fun beyond => Nat.le_add_right_of_le beyond)).symm

/-- Once a match is known, no limit matters. -/
theorem runAt_known (limit limit' : Nat) (cursor : Cursor) (threads : List Thread)
    (accepted : Acceptance) :
    runAt code limit cursor threads (some accepted) =
      runAt code limit' cursor threads (some accepted) := by
  obtain ⟨before, offset, rest⟩ := cursor
  induction rest generalizing before offset threads accepted with
  | nil =>
      rw [runAt_eq_proceed, runAt_eq_proceed, enter_of_known (.inl rfl),
        enter_of_known (.inl rfl)]
      rfl
  | cons c rest ih =>
      rw [runAt_eq_proceed, runAt_eq_proceed, enter_of_known (.inl rfl),
        enter_of_known (.inl rfl)]
      simp only [proceed]
      cases (turn code ⟨before, offset, c :: rest⟩ threads).1 with
      | none => exact ih _ _ _ _
      | some better => exact ih _ _ _ _

theorem enter_eq_append (limit offset : Nat) (best : Option Acceptance)
    (threads : List Thread) : ∃ later, enter limit offset best threads = threads ++ later := by
  unfold enter
  split
  · exact ⟨_, rfl⟩
  · exact ⟨[], (List.append_nil _).symm⟩

/-- Where threads are live, those behind them and those that start later do not count. -/
theorem proceed_append (limit : Nat) {cursor : Cursor} {threads : List Thread}
    (alive : ∃ thread ∈ threads, Accepts code cursor thread.place) (later : List Thread)
    (best : Option Acceptance) :
    proceed code limit cursor (threads ++ later) best = proceed code 0 cursor threads none := by
  -- The threads behind stay behind or are dropped, until a complete match of the live ones
  -- replaces whatever was found and nothing starts any more.
  obtain ⟨before, offset, rest⟩ := cursor
  induction rest generalizing before offset threads later best with
  | nil =>
      rcases turn_append alive later with ⟨accepted, complete, same⟩ | ⟨-, -, _, _, absurd, -⟩
      · simp [proceed, same, complete]
      · cases absurd
  | cons c rest ih =>
      rcases turn_append alive later with ⟨accepted, complete, same⟩ |
        ⟨incomplete, ⟨behind, nextEq⟩, c', rest', restEq, next, member, accepts⟩
      · simp only [proceed, same, complete, Option.some_or]
        exact runAt_known _ _ _ _ _
      · obtain ⟨rfl, rfl⟩ := List.cons.inj restEq
        simp only [proceed, incomplete, Option.none_or, nextEq]
        obtain ⟨entered, enterEq⟩ := enter_eq_append limit (offset + c.utf8Size)
          ((turn code ⟨before, offset, c :: rest⟩ (threads ++ later)).1.or best)
          ((turn code ⟨before, offset, c :: rest⟩ threads).2 ++ behind)
        rw [runAt_eq_proceed, runAt_eq_proceed, enter_of_known (.inr (Nat.zero_le _))]
        simp only [Cursor.after, enterEq, List.append_assoc]
        apply ih
        exact ⟨next, member, accepts⟩

theorem enter_congr {cursor : Cursor} {threads threads' : List Thread}
    (same : liveOf code cursor threads = liveOf code cursor threads') (limit : Nat)
    (best : Option Acceptance) :
    liveOf code cursor (enter limit cursor.offset best threads) =
      liveOf code cursor (enter limit cursor.offset best threads') := by
  unfold enter
  split
  · unfold liveOf Thread.thoseAt at same ⊢
    rw [List.filter_append, List.filter_append, same]
  · exact same

theorem runAt_congr (limit : Nat) {cursor : Cursor} {threads threads' : List Thread}
    (same : liveOf code cursor threads = liveOf code cursor threads')
    (best : Option Acceptance) :
    runAt code limit cursor threads best = runAt code limit cursor threads' best := by
  obtain ⟨before, offset, rest⟩ := cursor
  induction rest generalizing before offset threads threads' best with
  | nil =>
      obtain ⟨completeEq, -⟩ := turn_congr (enter_congr same limit best)
      rw [runAt_eq_proceed, runAt_eq_proceed]
      simp only [proceed]
      rw [completeEq]
  | cons c rest ih =>
      obtain ⟨completeEq, nextEq⟩ := turn_congr (enter_congr same limit best)
      rw [runAt_eq_proceed, runAt_eq_proceed]
      simp only [proceed]
      rw [completeEq]
      exact ih _ _ _ (nextEq c rest rfl)

theorem turn_found {cursor : Cursor} {threads : List Thread}
    (alive : ∃ thread ∈ threads, Accepts code cursor thread.place) (later : List Thread) :
    (turn code cursor (threads ++ later)).1.isSome = true ∨
      ∃ c rest, cursor.rest = c :: rest ∧
        ∃ next ∈ (turn code cursor (threads ++ later)).2,
          Accepts code (cursor.after c rest) next.place := by
  rcases turn_append alive later with ⟨accepted, complete, same⟩ |
    ⟨-, ⟨behind, nextEq⟩, c, rest, restEq, next, member, accepts⟩
  · exact .inl (by simp [same, complete])
  · exact .inr ⟨c, rest, restEq, next, by simp [nextEq, member], accepts⟩

theorem runAt_isSome (limit : Nat) {cursor : Cursor} {threads : List Thread}
    {best : Option Acceptance}
    (found : best.isSome = true ∨ ∃ thread ∈ threads, Accepts code cursor thread.place) :
    (runAt code limit cursor threads best).isSome = true := by
  obtain ⟨before, offset, rest⟩ := cursor
  induction rest generalizing before offset threads best with
  | nil =>
      rw [runAt_eq_proceed]
      simp only [proceed, Option.isSome_or, Bool.or_eq_true]
      rcases found with known | alive
      · exact .inr known
      · obtain ⟨later, enterEq⟩ := enter_eq_append limit offset best threads
        rw [enterEq]
        rcases turn_found alive later with complete | ⟨_, _, absurd, -⟩
        · exact .inl complete
        · cases absurd
  | cons c rest ih =>
      rw [runAt_eq_proceed]
      simp only [proceed]
      apply ih
      rw [Option.isSome_or, Bool.or_eq_true]
      rcases found with known | alive
      · exact .inl (.inr known)
      · obtain ⟨later, enterEq⟩ := enter_eq_append limit offset best threads
        simp only [enterEq]
        rcases turn_found alive later with complete | ⟨_, _, restEq, alive⟩
        · exact .inl (.inl complete)
        · obtain ⟨rfl, rfl⟩ := List.cons.inj restEq
          exact .inr alive

theorem matchAt?_isSome_iff {cursor : Cursor} :
    (matchAt? code cursor).isSome = true ↔ Accepts code cursor 0 := by
  constructor
  · intro found
    by_contra dead
    have noneLive : liveOf code cursor [⟨0, cursor.offset, []⟩] = liveOf code cursor [] :=
      Thread.thoseAt_cons_dead (not_live_iff.mpr dead)
    rw [matchAt?, runAt_congr 0 noneLive, runAt_nil (.inr (Nat.zero_le _))] at found
    cases found
  · intro accepts
    exact runAt_isSome 0 (.inr ⟨_, List.mem_singleton_self _, accepts⟩)

theorem Cursor.le_offset_of_mem_onward {before : Option Char} {offset : Nat}
    {rest : List Char} {position : Cursor}
    (member : position ∈ Cursor.onward before offset rest) : offset ≤ position.offset := by
  induction rest generalizing before offset with
  | nil =>
      rw [List.mem_singleton.mp member]
  | cons c rest ih =>
      rcases List.mem_cons.mp member with rfl | later
      · exact Nat.le_refl _
      · exact (Nat.le_add_right _ _).trans (ih later)

/-- A run that starts with no threads finds the match that starts at its position, or goes
on without live threads. -/
theorem runAt_start {limit : Nat} {cursor : Cursor} (inside : cursor.offset < limit) :
    runAt code limit cursor [] none =
      (matchAt? code cursor).or
        (match cursor.rest with
        | [] => none
        | c :: rest => runAt code limit (cursor.after c rest) [] none) := by
  have enterEq : enter limit cursor.offset none [] = [⟨0, cursor.offset, []⟩] := by
    simp [enter, inside]
  rw [runAt_eq_proceed, enterEq]
  by_cases accepts : Accepts code cursor 0
  case pos =>
    have alone := @proceed_append code limit cursor [⟨0, cursor.offset, []⟩]
      ⟨_, List.mem_singleton_self _, accepts⟩ [] none
    rw [List.append_nil] at alone
    obtain ⟨accepted, found⟩ :=
      Option.isSome_iff_exists.mp (matchAt?_isSome_iff.mpr accepts)
    rw [found, Option.some_or, alone, ← found, matchAt?, runAt_eq_proceed,
      enter_of_known (.inr (Nat.zero_le _))]
  case neg =>
    -- The thread that starts here leads nowhere: the run goes on as if it had not started.
    have noneLive : liveOf code cursor [⟨0, cursor.offset, []⟩] = liveOf code cursor [] :=
      Thread.thoseAt_cons_dead (not_live_iff.mpr accepts)
    have notFound : matchAt? code cursor = none :=
      Option.not_isSome_iff_eq_none.mp (mt matchAt?_isSome_iff.mp accepts)
    obtain ⟨completeEq, nextEq⟩ := turn_congr noneLive
    rw [notFound, Option.none_or, proceed, completeEq, turn_nil]
    split
    · rfl
    · next c rest restEq =>
        refine runAt_congr limit ?_ none
        simpa using nextEq c rest restEq

theorem Cursor.filter_onward_of_le {before : Option Char} {offset limit : Nat}
    (beyond : limit ≤ offset) (rest : List Char) :
    (Cursor.onward before offset rest).filter (fun position => position.offset < limit) =
      [] := by
  refine List.filter_eq_nil_iff.mpr fun position member => ?_
  have := Cursor.le_offset_of_mem_onward member
  rw [decide_eq_true_eq]
  omega

/-- A search finds the match of the first position at which a match starts. -/
theorem search?_eq_findSome? (code : Array Inst) (limit : Nat) (cursor : Cursor) :
    search? code limit cursor =
      ((Cursor.onward cursor.before cursor.offset cursor.rest).filter
        fun position => position.offset < limit).findSome? (matchAt? code) := by
  change runAt code limit cursor [] none = _
  obtain ⟨before, offset, rest⟩ := cursor
  by_cases inside : offset < limit
  case neg =>
    have beyond := Nat.le_of_not_lt inside
    rw [Cursor.filter_onward_of_le beyond, runAt_nil (.inr beyond)]
    rfl
  case pos =>
    rw [runAt_start inside]
    induction rest generalizing before offset with
    | nil => simp [Cursor.onward, inside]
    | cons c rest ih =>
        rw [Cursor.onward, List.filter_cons_of_pos (by simpa using inside),
          List.findSome?_cons]
        cases matchAt? code ⟨before, offset, c :: rest⟩ with
        | some accepted => rfl
        | none =>
            by_cases nextInside : offset + c.utf8Size < limit
            case neg =>
              have beyond := Nat.le_of_not_lt nextInside
              rw [Cursor.filter_onward_of_le beyond]
              exact runAt_nil (.inr beyond)
            case pos =>
              rw [Option.none_or, ← ih _ _ nextInside]
              exact runAt_start nextInside

end Pattern

end Scopelight
