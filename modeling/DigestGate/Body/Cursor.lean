import DigestGate.Body.Readable

namespace DigestGate

/-- A position in bytes held in memory, possibly beyond their end. -/
structure Cursor where
  content : Bytes
  position : Nat := 0
  rest : Bytes := content.drop position
  rest_eq : rest = content.drop position := by rfl
deriving DecidableEq, Repr

namespace Cursor

def take (n : Nat) (c : Cursor) : Bytes × Cursor :=
  (c.rest.take n, {
    content := c.content
    position := c.position + (c.rest.take n).length
    rest := c.rest.drop n
    rest_eq := by
      rw [List.length_take]
      rcases Nat.le_total n c.rest.length with h | h
      · rw [Nat.min_eq_left h, ← List.drop_drop, ← c.rest_eq]
      · rw [Nat.min_eq_right h, List.drop_eq_nil_of_le h, ← List.drop_drop, ← c.rest_eq,
          List.drop_length] })

def span (size : Option Int) (c : Cursor) : Nat :=
  (Readable.bound size).getD c.rest.length

def read (size : Option Int) (c : Cursor) : Bytes × Cursor :=
  c.take (c.span size)

def goTo (position : Nat) (c : Cursor) : Cursor :=
  { content := c.content, position }

@[simp] theorem rest_take (n : Nat) (c : Cursor) : (c.take n).2.rest = c.rest.drop n := rfl

theorem take_append_rest (n : Nat) (c : Cursor) : (c.take n).1 ++ (c.take n).2.rest = c.rest :=
  List.take_append_drop n c.rest

theorem rest_read_lt {size : Int} (c : Cursor) (hsize : size ≠ 0) (hrest : c.rest ≠ []) :
    (c.read (some size)).2.rest.length < c.rest.length := by
  have hpos := List.length_pos_iff.2 hrest
  have hspan : 0 < c.span (some size) := by
    cases size with
    | ofNat n =>
      cases n with
      | zero => exact absurd rfl hsize
      | succ n => exact Nat.succ_pos n
    | negSucc n => exact hpos
  simp only [read, rest_take, List.length_drop]
  omega

theorem length_rest_read_le (size : Option Int) (c : Cursor) :
    (c.read size).2.rest.length ≤ c.rest.length := by
  simp [read]

end Cursor

end DigestGate
