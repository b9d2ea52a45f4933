/-!
# Numbers as bytes

A number of a fixed width as a row of bytes, least significant byte first. The other order is the
reverse of the row.
-/

namespace HeatingHub.Bytes

/-- The low `width` bytes of a number, least significant first. -/
def ofNat : (width number : Nat) → List UInt8
  | 0, _ => []
  | width + 1, number => UInt8.ofNat number :: ofNat width (number / 256)

/-- The number of a row of bytes, least significant first. -/
def toNat : List UInt8 → Nat
  | [] => 0
  | byte :: rest => byte.toNat + 256 * toNat rest

/-- A number is written with as many bytes as asked for. -/
@[simp] theorem length_ofNat (width number : Nat) : (ofNat width number).length = width := by
  induction width generalizing number with
  | zero => rfl
  | succ width ih => simp [ofNat, ih]

end HeatingHub.Bytes
