/-!
# UTF-8

Texts as bytes and back. One scanner reads a byte string as a row of characters and malformed
spots, where a malformed spot is the longest start of a character that is not completed, or one
byte that starts none. The strict reading refuses every malformed spot, the lenient one writes a
replacement character for each.
-/

namespace HeatingHub.Text

/-- The bytes of a text. -/
def encode (text : List Char) : List UInt8 :=
  text.flatMap String.utf8EncodeChar

/-- What the bytes read so far leave open. -/
inductive Utf8Pending
  /-- The next byte starts a character. -/
  | start
  /-- A character has begun: its bits so far, the number of bytes still to come, and the range
  that the next of them has to lie in. -/
  | within (bits left low high : Nat)

/-- How a byte that starts a character is read: the characters and malformed spots that it
completes, and what it leaves open. The ranges of the second byte exclude overlong forms,
surrogates, and code points above U+10FFFF. -/
def utf8Lead (byte : Nat) : List (Option Char) × Utf8Pending :=
  if byte < 0x80 then ([some (Char.ofNat byte)], .start)
  else if 0xC2 ≤ byte ∧ byte ≤ 0xDF then ([], .within (byte - 0xC0) 1 0x80 0xBF)
  else if byte = 0xE0 then ([], .within 0 2 0xA0 0xBF)
  else if byte = 0xED then ([], .within 0xD 2 0x80 0x9F)
  else if 0xE1 ≤ byte ∧ byte ≤ 0xEF then ([], .within (byte - 0xE0) 2 0x80 0xBF)
  else if byte = 0xF0 then ([], .within 0 3 0x90 0xBF)
  else if 0xF1 ≤ byte ∧ byte ≤ 0xF3 then ([], .within (byte - 0xF0) 3 0x80 0xBF)
  else if byte = 0xF4 then ([], .within 4 3 0x80 0x8F)
  else ([none], .start)

/-- One more byte after what is pending. -/
def utf8Next : Utf8Pending → Nat → List (Option Char) × Utf8Pending
  | .start, byte => utf8Lead byte
  | .within bits left low high, byte =>
    if low ≤ byte ∧ byte ≤ high then
      let bits := bits * 64 + byte % 64
      if left ≤ 1 then ([some (Char.ofNat bits)], .start)
      else ([], .within bits (left - 1) 0x80 0xBF)
    else
      let next := utf8Lead byte
      (none :: next.1, next.2)

/-- The characters of a byte string, with `none` for each malformed spot. -/
def utf8Scan (pending : Utf8Pending) : List UInt8 → List (Option Char)
  | [] =>
    match pending with
    | .start => []
    | .within .. => [none]
  | byte :: rest =>
    let next := utf8Next pending byte.toNat
    next.1 ++ utf8Scan next.2 rest

/-- The text that a byte string encodes, if it is well formed. -/
def decode? (bytes : List UInt8) : Option (List Char) :=
  (utf8Scan .start bytes).mapM id

/-- The text of a byte string, with U+FFFD for each malformed spot. -/
def decodeLenient (bytes : List UInt8) : List Char :=
  (utf8Scan .start bytes).map (·.getD '\uFFFD')

end HeatingHub.Text
