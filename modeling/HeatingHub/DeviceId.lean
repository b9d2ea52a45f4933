import HeatingHub.Frame.Bytes
import HeatingHub.Text.Blank
import HeatingHub.Text.Line
import HeatingHub.Text.Number

/-!
# Device ids

A device is known by its 48-bit link-layer address. The id has two other forms, six bytes with the
most significant first, and six pairs of hexadecimal digits between colons; ids are ordered as
numbers.
-/

namespace HeatingHub

/-- The number of 48-bit addresses. -/
def DeviceId.count : Nat := 0x1000000000000

/-- The link-layer address of a device or of the hub. -/
structure DeviceId where
  number : Nat
  number_lt : number < DeviceId.count := by decide
  deriving DecidableEq

namespace DeviceId

/-- Ids are ordered by their numbers. -/
instance : Ord DeviceId := ⟨compareOn DeviceId.number⟩

/-- The id of a number, of which the low 48 bits count. -/
def ofNat (number : Nat) : DeviceId :=
  ⟨number % count, Nat.mod_lt _ (by decide)⟩

/-- The id that stands for an address that cannot be read. -/
def zero : DeviceId := ⟨0, by decide⟩

/-- The six bytes of an id, most significant first. -/
def toBytes (id : DeviceId) : List UInt8 :=
  (Bytes.ofNat 6 id.number).reverse

/-- The id of a row of bytes, most significant first. -/
def ofBytes (bytes : List UInt8) : DeviceId :=
  ofNat (Bytes.toNat bytes.reverse)

/-- A byte as two hexadecimal digits. -/
def hexPair (byte : UInt8) : List Char :=
  [(Nat.digitChar (byte.toNat / 16)).toUpper, (Nat.digitChar (byte.toNat % 16)).toUpper]

/-- The written form of an id: its bytes in hexadecimal with colons between them. -/
def written (id : DeviceId) : List Char :=
  [':'].intercalate (id.toBytes.map hexPair)

/-- An id is shown as it is written. -/
instance : ToString DeviceId := ⟨fun id => String.ofList id.written⟩

/-- The id that a text denotes: six hexadecimal bytes with colons between them, blanks around the
whole left out. -/
def read? (text : List Char) : Option DeviceId :=
  match (Text.splitAt ':' (Text.trim text)).mapM (Text.readNat? 16 255) with
  | some bytes => if bytes.length = 6 then some (ofBytes (bytes.map UInt8.ofNat)) else none
  | none => none

end DeviceId

/-- The order of ids is transitive. -/
instance : Std.TransOrd DeviceId :=
  inferInstanceAs (Std.TransCmp (compareOn DeviceId.number))

/-- Ids that compare as equal are equal. -/
instance : Std.LawfulEqOrd DeviceId where
  eq_of_compare {a b} h := by
    have same : a.number = b.number := Nat.compare_eq_eq.1 h
    cases a
    cases b
    cases same
    rfl

end HeatingHub
