import Mathlib.Data.Set.Insert
import Scopelight.Pattern.Search

/-!
# Silent walks

At one position of a text the pending threads are followed depth first until each of them
waits or is dropped.  The relation `Walk` states this without a bound on the steps and with
sets of places.  The bound of `settle` is large enough, so the threads that wait are those
of a walk.  What a walk finds does not depend on threads that come later, and threads at
places that lead nowhere can be left out.
-/

namespace Scopelight

namespace Pattern

/-- The threads that a thread goes on as. -/
def Thread.onward (thread : Thread) (inst : Inst) (offset : Nat) (places : List Nat) :
    List Thread :=
  places.map fun place => ⟨place, thread.start, inst.note offset thread.saves⟩

/-- The threads of a list that stand at a live place. -/
def Thread.thoseAt (live : Nat → Bool) (threads : List Thread) : List Thread :=
  threads.filter fun thread => live thread.place

theorem Thread.thoseAt_cons_live {live : Nat → Bool} {thread : Thread}
    {threads : List Thread} (alive : live thread.place = true) :
    Thread.thoseAt live (thread :: threads) = thread :: Thread.thoseAt live threads :=
  List.filter_cons_of_pos alive

theorem Thread.thoseAt_cons_dead {live : Nat → Bool} {thread : Thread}
    {threads : List Thread} (dead : live thread.place = false) :
    Thread.thoseAt live (thread :: threads) = Thread.thoseAt live threads :=
  List.filter_cons_of_neg (by simp [dead])

theorem Inst.length_silent?_le {inst : Inst} {cursor : Cursor} {places : List Nat}
    (goes : inst.silent? cursor = some places) : places.length ≤ 2 := by
  cases inst with
  | look condition next =>
      obtain rfl := Option.some.inj goes
      split <;> simp
  | char | chars | accept => exact absurd goes (by simp [Inst.silent?])
  | jump | save | split =>
      obtain rfl := Option.some.inj goes
      simp

theorem Inst.silent?_eq_none_of_after? {inst : Inst} {cursor : Cursor} {c : Char}
    {next : Nat} (takes : inst.after? c = some next) : inst.silent? cursor = none := by
  cases inst with
  | char | chars => rfl
  | look | jump | save | split | accept => exact absurd takes (by simp [Inst.after?])

/-- The pending threads, with some places already reached, lead to waiting threads and to
more reached places.  Only the kept places are gone on to. -/
inductive Walk (code : Array Inst) (cursor : Cursor) (kept : Nat → Bool) :
    List Thread → Set Nat → Set Nat → List Thread → Prop
  | nil (reached : Set Nat) : Walk code cursor kept [] reached reached []
  | drop {thread : Thread} {pending waiting : List Thread} {reached after : Set Nat}
      (dropped : thread.place ∈ reached ∨ code[thread.place]? = none)
      (later : Walk code cursor kept pending reached after waiting) :
      Walk code cursor kept (thread :: pending) reached after waiting
  | wait {thread : Thread} {pending waiting : List Thread} {reached after : Set Nat}
      {inst : Inst} (fresh : thread.place ∉ reached)
      (instEq : code[thread.place]? = some inst) (waits : inst.silent? cursor = none)
      (later : Walk code cursor kept pending (insert thread.place reached) after waiting) :
      Walk code cursor kept (thread :: pending) reached after (thread :: waiting)
  | go {thread : Thread} {pending waiting : List Thread} {reached after : Set Nat}
      {inst : Inst} {places : List Nat} (fresh : thread.place ∉ reached)
      (instEq : code[thread.place]? = some inst)
      (goes : inst.silent? cursor = some places)
      (later : Walk code cursor kept
        (thread.onward inst cursor.offset (places.filter kept) ++ pending)
        (insert thread.place reached) after waiting) :
      Walk code cursor kept (thread :: pending) reached after waiting

abbrev FullWalk (code : Array Inst) (cursor : Cursor) :=
  Walk code cursor fun _ => true

namespace Sweep

def places (sweep : Sweep) : Set Nat :=
  { place | sweep.reached[place]? = some true }

def unreached (sweep : Sweep) : Nat :=
  sweep.reached.count false

/-- A sweep has reached one more place than another. -/
structure Marks (place : Nat) (before after : Sweep) : Prop where
  fresh : place ∉ before.places
  sizeEq : after.reached.size = before.reached.size
  placesEq : after.places = insert place before.places
  unreachedEq : before.unreached = after.unreached + 1

theorem marks_setIfInBounds {reached : Array Bool} {place : Nat}
    (fresh : reached[place]? = some false) (waiting waiting' : List Thread) :
    Marks place ⟨reached, waiting⟩ ⟨reached.setIfInBounds place true, waiting'⟩ := by
  obtain ⟨inside, value⟩ := Array.getElem?_eq_some_iff.mp fresh
  constructor
  · simp [places, fresh]
  · simp
  · ext other
    by_cases same : place = other
    · subst same
      simp [places, inside]
    · have differs : other ≠ place := fun otherEq => same otherEq.symm
      simp [places, Array.getElem?_setIfInBounds, same, differs]
  · have found : 0 < reached.count false :=
      Array.count_pos_iff.mpr (value ▸ Array.getElem_mem inside)
    simp only [unreached, Array.setIfInBounds, inside, dite_true, Array.count_set, value]
    simp
    omega

/-- A step drops its thread, or marks the place of the thread and lets it wait or go on. -/
theorem expand_cases {code : Array Inst} {sweep : Sweep} (cursor : Cursor) (thread : Thread)
    (sizeEq : sweep.reached.size = code.size) :
    ((thread.place ∈ sweep.places ∨ code[thread.place]? = none) ∧
        sweep.expand code cursor thread = ([], sweep)) ∨
      ∃ inst marked, code[thread.place]? = some inst ∧ Marks thread.place sweep marked ∧
        ((inst.silent? cursor = none ∧ marked.waiting = thread :: sweep.waiting ∧
            sweep.expand code cursor thread = ([], marked)) ∨
          ∃ places, inst.silent? cursor = some places ∧ marked.waiting = sweep.waiting ∧
            sweep.expand code cursor thread =
              (thread.onward inst cursor.offset places, marked)) := by
  obtain ⟨reached, waiting⟩ := sweep
  simp only at sizeEq
  cases value : reached[thread.place]? with
  | none =>
      refine .inl ⟨.inr (by simpa [sizeEq] using value), ?_⟩
      simp [expand, Array.getD_eq_getD_getElem?, value]
  | some mark =>
      cases mark with
      | true =>
          refine .inl ⟨.inl value, ?_⟩
          simp [expand, Array.getD_eq_getD_getElem?, value]
      | false =>
          have inside := (Array.getElem?_eq_some_iff.mp value).1
          obtain ⟨inst, instEq⟩ : ∃ inst, code[thread.place]? = some inst :=
            ⟨_, Array.getElem?_eq_getElem (by omega)⟩
          right
          cases silent : inst.silent? cursor with
          | none =>
              refine ⟨inst, _, instEq, marks_setIfInBounds value waiting (thread :: waiting),
                .inl ⟨silent, rfl, ?_⟩⟩
              simp [expand, Array.getD_eq_getD_getElem?, value, instEq, silent]
          | some places =>
              refine ⟨inst, _, instEq, marks_setIfInBounds value waiting waiting,
                .inr ⟨places, silent, rfl, ?_⟩⟩
              simp [expand, Array.getD_eq_getD_getElem?, value, instEq, silent, Thread.onward]

/-- With enough steps, a sweep follows a walk to its end. -/
theorem follow_walk {code : Array Inst} {cursor : Cursor} {fuel : Nat}
    {threads : List Thread} {sweep : Sweep} (sizeEq : sweep.reached.size = code.size)
    (enough : threads.length + 2 * sweep.unreached ≤ fuel) :
    ∃ after waiting, FullWalk code cursor threads sweep.places after waiting ∧
      (follow code cursor fuel threads sweep).waiting = waiting.reverse ++ sweep.waiting := by
  -- A thread is replaced by at most two, but only where a place is reached for the first
  -- time, so each step uses up at least one of the steps that are left.
  induction fuel generalizing threads sweep with
  | zero =>
      have noneLeft : threads = [] := List.length_eq_zero_iff.mp (by omega)
      subst noneLeft
      exact ⟨_, [], .nil _, rfl⟩
  | succ fuel ih =>
      cases threads with
      | nil => exact ⟨_, [], .nil _, rfl⟩
      | cons thread pending =>
          rw [List.length_cons] at enough
          rcases expand_cases cursor thread sizeEq with
            ⟨dropped, expandEq⟩ | ⟨inst, marked, instEq, marks, outcome⟩
          · obtain ⟨after, found, walk, waitingEq⟩ := @ih pending sweep sizeEq (by omega)
            refine ⟨after, found, .drop dropped walk, ?_⟩
            simpa [follow, expandEq] using waitingEq
          · have fewer := marks.unreachedEq
            have markedSize := marks.sizeEq.trans sizeEq
            rcases outcome with ⟨waits, markedWaiting, expandEq⟩ |
              ⟨places, goes, markedWaiting, expandEq⟩
            · obtain ⟨after, found, walk, waitingEq⟩ :=
                @ih pending marked markedSize (by omega)
              rw [marks.placesEq] at walk
              refine ⟨after, thread :: found, .wait marks.fresh instEq waits walk, ?_⟩
              simpa [follow, expandEq, markedWaiting] using waitingEq
            · have branches := Inst.length_silent?_le goes
              have shorter : (thread.onward inst cursor.offset places ++ pending).length +
                  2 * marked.unreached ≤ fuel := by
                simp only [Thread.onward, List.length_append, List.length_map]
                omega
              obtain ⟨after, found, walk, waitingEq⟩ := @ih _ marked markedSize shorter
              have unfiltered : places.filter (fun _ => true) = places :=
                List.filter_eq_self.mpr fun _ _ => rfl
              rw [marks.placesEq, ← unfiltered] at walk
              refine ⟨after, found, .go marks.fresh instEq goes walk, ?_⟩
              simpa [follow, expandEq, markedWaiting] using waitingEq

end Sweep

/-- The threads that wait at a position are those of a walk. -/
theorem settle_walk (code : Array Inst) (cursor : Cursor) (threads : List Thread) :
    ∃ after, FullWalk code cursor threads ∅ after (settle code cursor threads) := by
  have sizeEq : (Sweep.empty code).reached.size = code.size := by simp [Sweep.empty]
  have enough : threads.length + 2 * (Sweep.empty code).unreached ≤
      threads.length + 2 * code.size := by
    simp [Sweep.empty, Sweep.unreached]
  obtain ⟨after, waiting, walk, waitingEq⟩ :=
    @Sweep.follow_walk code cursor _ threads _ sizeEq enough
  have noneReached : (Sweep.empty code).places = ∅ := by
    ext place
    simp [Sweep.places, Sweep.empty, Array.getElem?_replicate]
  refine ⟨after, ?_⟩
  rw [noneReached] at walk
  have settled : settle code cursor threads = waiting := by
    rw [settle, waitingEq]
    simp [Sweep.empty]
  rwa [settled]

namespace Walk

variable {code : Array Inst} {cursor : Cursor} {kept : Nat → Bool}

theorem deterministic {threads : List Thread} {reached after after' : Set Nat}
    {waiting waiting' : List Thread}
    (first : Walk code cursor kept threads reached after waiting)
    (second : Walk code cursor kept threads reached after' waiting') :
    after = after' ∧ waiting = waiting' := by
  induction first generalizing after' waiting' with
  | nil => cases second; exact ⟨rfl, rfl⟩
  | drop dropped _ ih =>
      cases second with
      | drop _ later => exact ih later
      | wait fresh instEq => simp_all
      | go fresh instEq => simp_all
  | wait fresh instEq waits _ ih =>
      cases second with
      | drop dropped => simp_all
      | wait _ _ _ later =>
          obtain ⟨afterEq, waitingEq⟩ := ih later
          exact ⟨afterEq, congrArg _ waitingEq⟩
      | go _ instEq' goes => simp_all
  | go fresh instEq goes _ ih =>
      cases second with
      | drop dropped => simp_all
      | wait _ instEq' waits => simp_all
      | go _ instEq' goes' later =>
          obtain rfl := Option.some.inj (instEq.symm.trans instEq')
          obtain rfl := Option.some.inj (goes.symm.trans goes')
          exact ih later

/-- A walk of two rows of threads is one walk after the other. -/
theorem append_inv {threads later : List Thread} {reached after : Set Nat}
    {waiting : List Thread}
    (walk : Walk code cursor kept (threads ++ later) reached after waiting) :
    ∃ between first second, Walk code cursor kept threads reached between first ∧
      Walk code cursor kept later between after second ∧ waiting = first ++ second := by
  generalize allEq : threads ++ later = all at walk
  induction walk generalizing threads with
  | nil reached =>
      obtain ⟨rfl, rfl⟩ := List.append_eq_nil_iff.mp allEq
      exact ⟨reached, [], [], .nil reached, .nil reached, rfl⟩
  | @drop thread pending waiting reached after dropped walk ih =>
      cases threads with
      | nil =>
          subst allEq
          exact ⟨reached, [], waiting, .nil reached, .drop dropped walk, rfl⟩
      | cons head threads =>
          obtain ⟨rfl, restEq⟩ := List.cons.inj allEq
          obtain ⟨between, first, second, before, behind, waitingEq⟩ := ih restEq
          exact ⟨between, first, second, .drop dropped before, behind, waitingEq⟩
  | @wait thread pending waiting reached after inst fresh instEq waits walk ih =>
      cases threads with
      | nil =>
          subst allEq
          exact ⟨reached, [], thread :: waiting, .nil reached,
            .wait fresh instEq waits walk, rfl⟩
      | cons head threads =>
          obtain ⟨rfl, restEq⟩ := List.cons.inj allEq
          obtain ⟨between, first, second, before, behind, waitingEq⟩ := ih restEq
          exact ⟨between, _ :: first, second, .wait fresh instEq waits before, behind,
            congrArg _ waitingEq⟩
  | @go thread pending waiting reached after inst places fresh instEq goes walk ih =>
      cases threads with
      | nil =>
          subst allEq
          exact ⟨reached, [], waiting, .nil reached, .go fresh instEq goes walk, rfl⟩
      | cons head threads =>
          obtain ⟨rfl, restEq⟩ := List.cons.inj allEq
          obtain ⟨between, first, second, before, behind, waitingEq⟩ :=
            @ih (_ ++ threads) ((List.append_assoc _ _ _).trans (congrArg _ restEq))
          exact ⟨between, first, second, .go fresh instEq goes before, behind, waitingEq⟩

theorem subset {threads : List Thread} {reached after : Set Nat} {waiting : List Thread}
    (walk : Walk code cursor kept threads reached after waiting) : reached ⊆ after := by
  induction walk with
  | nil => exact subset_rfl
  | drop _ _ ih => exact ih
  | wait _ _ _ _ ih => exact (Set.subset_insert _ _).trans ih
  | go _ _ _ _ ih => exact (Set.subset_insert _ _).trans ih

/-- The place of every pending thread is reached. -/
theorem pending_reached {threads : List Thread} {reached after : Set Nat}
    {waiting : List Thread} (walk : Walk code cursor kept threads reached after waiting)
    {thread : Thread} (member : thread ∈ threads) :
    thread.place ∈ after ∨ code[thread.place]? = none := by
  induction walk with
  | nil => exact absurd member List.not_mem_nil
  | drop dropped later ih =>
      rcases List.mem_cons.mp member with rfl | behind
      · exact dropped.imp_left fun seen => later.subset seen
      · exact ih behind
  | wait _ _ _ later ih =>
      rcases List.mem_cons.mp member with rfl | behind
      · exact .inl (later.subset (Set.mem_insert _ _))
      · exact ih behind
  | go _ _ _ later ih =>
      rcases List.mem_cons.mp member with rfl | behind
      · exact .inl (later.subset (Set.mem_insert _ _))
      · exact ih (List.mem_append_right _ behind)

theorem waiting_waits {threads : List Thread} {reached after : Set Nat}
    {waiting : List Thread} (walk : Walk code cursor kept threads reached after waiting)
    {thread : Thread} (member : thread ∈ waiting) :
    ∃ inst, code[thread.place]? = some inst ∧ inst.silent? cursor = none := by
  induction walk with
  | nil => exact absurd member List.not_mem_nil
  | drop _ _ ih => exact ih member
  | wait _ instEq waits _ ih =>
      rcases List.mem_cons.mp member with rfl | behind
      · exact ⟨_, instEq, waits⟩
      · exact ih behind
  | go _ _ _ _ ih => exact ih member

theorem waits_at {threads : List Thread} {reached after : Set Nat} {waiting : List Thread}
    (walk : Walk code cursor kept threads reached after waiting) {place : Nat} {inst : Inst}
    (added : place ∈ after) (new : place ∉ reached) (instEq : code[place]? = some inst)
    (waits : inst.silent? cursor = none) : ∃ thread ∈ waiting, thread.place = place := by
  induction walk with
  | nil => exact absurd added new
  | drop _ _ ih => exact ih added new
  | @wait thread _ _ _ _ _ _ _ _ _ ih =>
      by_cases here : place = thread.place
      · exact ⟨thread, by simp, here.symm⟩
      · obtain ⟨other, member, otherEq⟩ := ih added (by simp [here, new])
        exact ⟨other, List.mem_cons_of_mem _ member, otherEq⟩
  | @go thread _ _ _ _ _ _ _ instEq' goes _ ih =>
      by_cases here : place = thread.place
      · subst here
        obtain rfl := Option.some.inj (instEq.symm.trans instEq')
        exact absurd goes (by simp [waits])
      · exact ih added (by simp [here, new])

theorem goes_from {threads : List Thread} {reached after : Set Nat} {waiting : List Thread}
    (walk : Walk code cursor kept threads reached after waiting) {place : Nat} {inst : Inst}
    {places : List Nat} (added : place ∈ after) (new : place ∉ reached)
    (instEq : code[place]? = some inst) (goes : inst.silent? cursor = some places)
    {next : Nat} (member : next ∈ places) (nextKept : kept next = true) :
    next ∈ after ∨ code[next]? = none := by
  induction walk with
  | nil => exact absurd added new
  | drop _ _ ih => exact ih added new
  | @wait thread _ _ _ _ _ _ instEq' waits _ ih =>
      by_cases here : place = thread.place
      · subst here
        obtain rfl := Option.some.inj (instEq.symm.trans instEq')
        exact absurd goes (by simp [waits])
      · exact ih added (by simp [here, new])
  | @go thread _ _ _ _ inst' _ _ instEq' goes' later ih =>
      by_cases here : place = thread.place
      · subst here
        obtain rfl := Option.some.inj (instEq.symm.trans instEq')
        obtain rfl := Option.some.inj (goes.symm.trans goes')
        have pending : ⟨next, thread.start, inst.note cursor.offset thread.saves⟩ ∈
            thread.onward inst cursor.offset (places.filter kept) :=
          List.mem_map_of_mem (List.mem_filter.mpr ⟨member, nextKept⟩)
        exact later.pending_reached (List.mem_append_left _ pending)
      · exact ih added (by simp [here, new])

/-- Places that lead to no live place can be left out of a walk. -/
theorem prune {live : Nat → Bool}
    (deadEnd : ∀ {place inst places next}, live place = false → code[place]? = some inst →
      inst.silent? cursor = some places → next ∈ places → live next = false)
    {threads : List Thread} {reached after : Set Nat} {waiting : List Thread}
    (walk : FullWalk code cursor threads reached after waiting) :
    ∃ after', Walk code cursor live (Thread.thoseAt live threads)
      (reached ∩ { place | live place }) after' (Thread.thoseAt live waiting) := by
  induction walk with
  | nil => exact ⟨_, .nil _⟩
  | @drop thread pending waiting reached after dropped _ ih =>
      obtain ⟨after', walk'⟩ := ih
      refine ⟨after', ?_⟩
      cases alive : live thread.place with
      | false => rwa [Thread.thoseAt_cons_dead alive]
      | true =>
          rw [Thread.thoseAt_cons_live alive]
          exact .drop (dropped.imp_left fun seen => ⟨seen, alive⟩) walk'
  | @wait thread pending waiting reached after inst fresh instEq waits _ ih =>
      obtain ⟨after', walk'⟩ := ih
      refine ⟨after', ?_⟩
      cases alive : live thread.place with
      | false =>
          rw [Set.insert_inter_of_notMem (by simp [alive])] at walk'
          rwa [Thread.thoseAt_cons_dead alive, Thread.thoseAt_cons_dead alive]
      | true =>
          rw [Set.insert_inter_of_mem (by simp [alive])] at walk'
          rw [Thread.thoseAt_cons_live alive, Thread.thoseAt_cons_live alive]
          exact .wait (fun seen => fresh seen.1) instEq waits walk'
  | @go thread pending waiting reached after inst places fresh instEq goes _ ih =>
      obtain ⟨after', walk'⟩ := ih
      refine ⟨after', ?_⟩
      have pendingEq : Thread.thoseAt live
          (thread.onward inst cursor.offset (places.filter fun _ => true) ++ pending) =
          thread.onward inst cursor.offset (places.filter live) ++
            Thread.thoseAt live pending := by
        simp [Thread.thoseAt, Thread.onward, List.filter_map, Function.comp_def]
      rw [pendingEq] at walk'
      cases alive : live thread.place with
      | false =>
          -- All threads that this one goes on as are left out together with it.
          have noneLive : places.filter live = [] :=
            List.filter_eq_nil_iff.mpr fun next member => by
              simp [deadEnd alive instEq goes member]
          rw [Set.insert_inter_of_notMem (by simp [alive]), noneLive] at walk'
          rw [Thread.thoseAt_cons_dead alive]
          exact walk'
      | true =>
          rw [Set.insert_inter_of_mem (by simp [alive])] at walk'
          rw [Thread.thoseAt_cons_live alive]
          exact .go (fun seen => fresh seen.1) instEq goes walk'

end Walk

end Pattern

end Scopelight
