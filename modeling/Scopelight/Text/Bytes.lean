/-!
# Byte offsets in texts

Positions in a line are counted in bytes of its UTF-8 form.  A text is a list of
characters here; these functions measure and cut it by byte offsets.  An offset inside a
character counts as the position after that character.
-/

namespace Scopelight

namespace Text

/-- The number of bytes of a text. -/
def byteLength : List Char → Nat
  | [] => 0
  | c :: rest => c.utf8Size + byteLength rest

def dropBytes : Nat → List Char → List Char
  | _, [] => []
  | count, c :: rest =>
      if count = 0 then c :: rest else dropBytes (count - c.utf8Size) rest

/-- The characters that start before a byte offset. -/
def takeBytes : Nat → List Char → List Char
  | _, [] => []
  | count, c :: rest =>
      if count = 0 then [] else c :: takeBytes (count - c.utf8Size) rest

/-- The characters that start between two byte offsets. -/
def slice (start stop : Nat) (text : List Char) : List Char :=
  takeBytes (stop - start) (dropBytes start text)

/-- The first offset between characters that is not below an offset, or the end. -/
def boundaryFrom : Nat → List Char → Nat
  | _, [] => 0
  | offset, c :: rest =>
      if offset = 0 then 0 else c.utf8Size + boundaryFrom (offset - c.utf8Size) rest

/-- The last offset between characters that is not above an offset. -/
def boundaryUpTo : Nat → List Char → Nat
  | _, [] => 0
  | offset, c :: rest =>
      if offset < c.utf8Size then 0 else c.utf8Size + boundaryUpTo (offset - c.utf8Size) rest

@[simp]
theorem byteLength_nil : byteLength [] = 0 :=
  rfl

@[simp]
theorem byteLength_cons (c : Char) (rest : List Char) :
    byteLength (c :: rest) = c.utf8Size + byteLength rest :=
  rfl

theorem byteLength_append (first second : List Char) :
    byteLength (first ++ second) = byteLength first + byteLength second := by
  induction first with
  | nil => simp
  | cons c rest ih => simp [ih, Nat.add_assoc]

end Text

end Scopelight
