import Scopelight.Pattern.Plan

/-!
# Match programs

A plan is compiled to a list of instructions.  Every instruction names the ones that may
follow it, the preferred one first, so a match is a path from the first instruction to the
accepting one.  The code of a plan starts at its first instruction and leaves to a given
continuation, and its length depends on the plan alone.
-/

namespace Scopelight

namespace Pattern

/-- One instruction of a match program. -/
inductive Inst where
  | char (expected : Char) (next : Nat)
  | chars (set : CharSet) (next : Nat)
  /-- Go on where the condition holds. -/
  | look (condition : Look) (next : Nat)
  | save (slot next : Nat)
  | jump (next : Nat)
  | split (first second : Nat)
  | accept

/-- A split that prefers its first way if the repetition is greedy. -/
def Inst.branch (greedy : Bool) (body next : Nat) : Inst :=
  if greedy then .split body next else .split next body

/-- Code that is placed at a base, before a tail of instructions that are placed right
after it, and leaves to a given place. -/
abbrev Emitter := (base next : Nat) → (tail : List Inst) → List Inst

/-- A row of instructions that take the characters of a text. -/
def emitText : Char → List Char → Emitter
  | c, [], _, next, tail => .char c next :: tail
  | c, d :: rest, base, next, tail =>
      .char c (base + 1) :: emitText d rest (base + 1) next tail

def emitCopies (size : Nat) (body : Emitter) : Nat → Emitter
  | 0, _, _, tail => tail
  | count + 1, base, next, tail =>
      emitCopies size body count base (base + count * size)
        (body (base + count * size) next tail)

/-- Up to so many copies of a body, each wanted only after the one before it; all of them
may leave to `exit`. -/
def emitOptional (greedy : Bool) (exit size : Nat) (body : Emitter) : Nat → Emitter
  | 0, _, _, tail => tail
  | count + 1, base, next, tail =>
      let start := base + count * (size + 1)
      emitOptional greedy exit size body count base start
        (.branch greedy (start + 1) exit :: body (start + 1) next tail)

namespace Plan

/-- The number of instructions of a repetition whose body has a given size. -/
def repeatedSize (least : Nat) (most : Option Nat) (consumes : Bool) (size : Nat) : Nat :=
  match least, most with
  | 0, none => if consumes then size + 1 else size + 2
  | least + 1, none => least * size + (size + 1)
  | 0, some 0 => 1
  | least, some most => least * size + (most - least) * (size + 1)

def size : Plan → Nat
  | .empty => 1
  | .text _ rest => rest.length + 1
  | .chars _ => 1
  | .look _ => 1
  | .capture _ body => body.size + 2
  | .repeated least most _ body => repeatedSize least most body.consumes body.size
  | .seq first rest => first.size + rest.size
  | .alt first rest => first.size + rest.size + 1

/-- The instructions of a repetition.  A body that can match without taking a character is
run once before it is decided whether to run it again. -/
def emitRepeated (least : Nat) (most : Option Nat) (greedy consumes : Bool) (size : Nat)
    (body : Emitter) : Emitter :=
  fun base next tail =>
    match least, most with
    | 0, none =>
        if consumes then .branch greedy (base + 1) next :: body (base + 1) base tail
        else
          .branch greedy (base + 1) next ::
            body (base + 1) (base + 1 + size) (.branch greedy (base + 1) next :: tail)
    | least + 1, none =>
        let last := base + least * size
        emitCopies size body least base last
          (body last (last + size) (.branch greedy last next :: tail))
    | 0, some 0 => .jump next :: tail
    | least, some most =>
        let optional := base + least * size
        emitCopies size body least base (if least < most then optional else next)
          (emitOptional greedy next size body (most - least) optional next tail)

def emit : Plan → Emitter
  | .empty, _, next, tail => .jump next :: tail
  | .text first rest, base, next, tail => emitText first rest base next tail
  | .chars set, _, next, tail => .chars set next :: tail
  | .look condition, _, next, tail => .look condition next :: tail
  | .capture index body, base, next, tail =>
      .save (2 * index) (base + 1) ::
        body.emit (base + 1) (base + 1 + body.size) (.save (2 * index + 1) next :: tail)
  | .repeated least most greedy body, base, next, tail =>
      emitRepeated least most greedy body.consumes body.size body.emit base next tail
  | .seq first rest, base, next, tail =>
      first.emit base (base + first.size) (rest.emit (base + first.size) next tail)
  | .alt first rest, base, next, tail =>
      .split (base + 1) (base + 1 + first.size) ::
        first.emit (base + 1) next (rest.emit (base + 1 + first.size) next tail)

theorem length_emitText (first : Char) (rest : List Char) (base next : Nat)
    (tail : List Inst) :
    (emitText first rest base next tail).length = rest.length + 1 + tail.length := by
  induction rest generalizing first base with
  | nil => simp [emitText, Nat.add_comm]
  | cons c rest ih => simp [emitText, ih]; omega

theorem length_emitCopies (size : Nat) (body : Emitter)
    (lengthBody : ∀ base next tail, (body base next tail).length = size + tail.length)
    (count base next : Nat) (tail : List Inst) :
    (emitCopies size body count base next tail).length = count * size + tail.length := by
  induction count generalizing next tail with
  | zero => simp [emitCopies]
  | succ count ih => simp [emitCopies, ih, lengthBody, Nat.succ_mul]; omega

theorem length_emitOptional (greedy : Bool) (exit size : Nat) (body : Emitter)
    (lengthBody : ∀ base next tail, (body base next tail).length = size + tail.length)
    (count base next : Nat) (tail : List Inst) :
    (emitOptional greedy exit size body count base next tail).length =
      count * (size + 1) + tail.length := by
  induction count generalizing next tail with
  | zero => simp [emitOptional]
  | succ count ih => simp [emitOptional, ih, lengthBody, Nat.succ_mul]; omega

theorem length_emitRepeated (least : Nat) (most : Option Nat) (greedy consumes : Bool)
    (size : Nat) (body : Emitter)
    (lengthBody : ∀ base next tail, (body base next tail).length = size + tail.length)
    (base next : Nat) (tail : List Inst) :
    (emitRepeated least most greedy consumes size body base next tail).length =
      repeatedSize least most consumes size + tail.length := by
  unfold emitRepeated repeatedSize
  split
  · split <;> simp only [List.length_cons, lengthBody] <;> omega
  · simp only [length_emitCopies _ _ lengthBody, lengthBody, List.length_cons]
    omega
  · simp only [List.length_cons]
    omega
  · simp only [length_emitCopies _ _ lengthBody,
      length_emitOptional _ _ _ _ lengthBody]
    omega

theorem length_emit (plan : Plan) (base next : Nat) (tail : List Inst) :
    (plan.emit base next tail).length = plan.size + tail.length := by
  induction plan generalizing base next tail with
  | empty => simp [emit, size, Nat.add_comm]
  | text first rest => simp [emit, size, length_emitText]
  | chars => simp [emit, size, Nat.add_comm]
  | look => simp [emit, size, Nat.add_comm]
  | capture index body ih => simp [emit, size, ih]; omega
  | repeated least most greedy body ih =>
      simp [emit, size, length_emitRepeated _ _ _ _ _ _ ih]
  | seq first rest firstIH restIH => simp [emit, size, firstIH, restIH]; omega
  | alt first rest firstIH restIH => simp [emit, size, firstIH, restIH]; omega

end Plan

end Pattern

end Scopelight
