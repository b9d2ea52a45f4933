import HeatingHub.Proofs.Frame.RoundTrip

/-!
# What the frame format accepts

A row of bytes is refused for its length, then for its version, then for its type, and else it is a
request or a reply (`decode_eq_iff`). The name of a request is what its payload holds before the
first byte 00 or FF, as long as these are ASCII letters and digits (`isSome_name_iff`). Nothing
behind them matters, and neither does the case of the letters (`name_congr`).
-/

namespace HeatingHub

namespace Frame

/-- The bytes of a frame's payload before the first byte 00 or FF, or all of them. -/
def nameBytes (bytes : List UInt8) : List UInt8 :=
  (payload bytes).takeWhile fun byte => byte != 0x00 && byte != 0xFF

/-- The byte of an ASCII letter or digit. -/
def isAlphanumeric (byte : UInt8) : Bool :=
  (0x30 ≤ byte && byte ≤ 0x39) || (0x41 ≤ byte && byte ≤ 0x5A) || (0x61 ≤ byte && byte ≤ 0x7A)

/-- The byte of the capital letter, if it is the one of a small letter. -/
def capital (byte : UInt8) : UInt8 :=
  if 0x61 ≤ byte && byte ≤ 0x7A then byte - 0x20 else byte

/-! ## Bytes as letters -/

/-- The letter of a byte has the code of that byte. -/
lemma toNat_letter (byte : UInt8) : (Char.ofNat byte.toNat).toNat = byte.toNat := by
  have small := byte.toNat_lt
  have valid : byte.toNat.isValidChar := .inl (by omega)
  rw [Char.ofNat, dif_pos valid]
  rfl

/-- The letter of a byte is alphanumeric exactly if the byte is. -/
lemma isAlphanum_letter (byte : UInt8) :
    (Char.ofNat byte.toNat).isAlphanum = isAlphanumeric byte := by
  rw [Bool.eq_iff_iff, Text.isAlphanum_iff, toNat_letter]
  simp [isAlphanumeric, UInt8.le_iff_toNat_le, or_assoc]

/-- The letter of a byte in upper case is the letter of its capital. -/
lemma toUpper_letter (byte : UInt8) :
    (Char.ofNat byte.toNat).toUpper = Char.ofNat (capital byte).toNat := by
  have small : (0x61 ≤ byte && byte ≤ 0x7A) = true ↔ 97 ≤ byte.toNat ∧ byte.toNat ≤ 122 := by
    simp [UInt8.le_iff_toNat_le]
  rw [← Char.toNat_inj, Text.toNat_toUpper, toNat_letter, toNat_letter, capital]
  split
  · next inside =>
    have distance : (0x20 : UInt8) ≤ byte := by
      rw [UInt8.le_iff_toNat_le]
      exact Nat.le_trans (by decide) inside.1
    rw [if_pos (small.2 inside), UInt8.toNat_sub_of_le _ _ distance]
    rfl
  · next outside => rw [if_neg (mt small.1 outside)]

/-- Letters in upper case are the letters of the capitals. -/
lemma upper_letters (bytes : List UInt8) :
    Text.upper (letters bytes) = letters (bytes.map capital) := by
  rw [letters, letters, Text.upper, List.map_map, List.map_map]
  exact List.map_congr_left fun byte _ => toUpper_letter byte

/-- The letters of bytes name a heater exactly if there are any, and all are alphanumeric. -/
lemma isHeaterName_letters (bytes : List UInt8) :
    isHeaterName (letters bytes) ↔ bytes ≠ [] ∧ ∀ byte ∈ bytes, isAlphanumeric byte := by
  rw [isHeaterName, Bool.and_eq_true, Text.allAlphanumeric, letters, List.all_map, List.all_eq_true]
  simp [isAlphanum_letter]

/-! ## Names -/

/-- The name in a frame, by its bytes: their capitals, if they name a heater. -/
lemma name_eq (bytes : List UInt8) :
    name bytes =
      if isHeaterName (letters (nameBytes bytes)) then
        some (String.ofList (letters ((nameBytes bytes).map capital)))
      else none := by
  have stops : (fun byte => !Message.endsName byte) =
      fun byte : UInt8 => byte != 0x00 && byte != 0xFF := by
    funext byte
    rw [Message.endsName, Bool.not_or]
    rfl
  rw [name, Message.readName, stops, ← nameBytes, ← letters, Text.isHeaterName_upper,
    upper_letters]

/-- A name is read exactly if there is one before the first byte 00 or FF. -/
lemma isSome_name_iff (bytes : List UInt8) :
    (name bytes).isSome ↔ nameBytes bytes ≠ [] ∧ ∀ byte ∈ nameBytes bytes, isAlphanumeric byte := by
  rw [name_eq, ← isHeaterName_letters]
  split <;> simp_all

/-- Names that differ in the case of their letters are read alike, whatever follows them. -/
lemma name_congr {first second : List UInt8}
    (alike : (nameBytes first).map capital = (nameBytes second).map capital) :
    name first = name second := by
  have valid : isHeaterName (letters (nameBytes first)) =
      isHeaterName (letters (nameBytes second)) := by
    rw [← Text.isHeaterName_upper, upper_letters, alike, ← upper_letters, Text.isHeaterName_upper]
  rw [name_eq, name_eq, valid, alike]

end Frame

namespace Message

open HeatingHub.Frame (IsRequest)

/-- What bytes are decoded to. -/
inductive Decodes (bytes : List UInt8) : Except FrameError Message → Prop
  | wrongLength (other : bytes.length ≠ 64) : Decodes bytes (.error (.wrongLength bytes.length))
  | unsupportedVersion {version : UInt8} (length : bytes.length = 64)
      (first : bytes[0]? = some version) (other : version ≠ 1) :
      Decodes bytes (.error (.unsupportedVersion version))
  | unknownType {type : UInt8} (length : bytes.length = 64) (version : bytes[0]? = some 1)
      (second : bytes[1]? = some type) (other : type ≠ 1 ∧ type ≠ 2) :
      Decodes bytes (.error (.unknownType type (.ofBytes ((bytes.drop 2).take 6))))
  | request (length : bytes.length = 64) (version : bytes[0]? = some 1)
      (type : bytes[1]? = some 1) :
      Decodes bytes (.ok (.request
        { version := 1, device := Frame.device bytes, counter := Frame.counter bytes }
        (Frame.name bytes)))
  | reply {code : UInt8} (length : bytes.length = 64) (version : bytes[0]? = some 1)
      (type : bytes[1]? = some 2) (mode : bytes[16]? = some code) :
      Decodes bytes (.ok (.reply
        { version := 1, device := Frame.device bytes, counter := Frame.counter bytes } code))

/-- A byte that is found is read, whatever the default. -/
lemma getD_of_getElem? {bytes : List UInt8} {index : Nat} {byte : UInt8}
    (found : bytes[index]? = some byte) : bytes.getD index 0 = byte := by
  rw [List.getD_eq_getElem?_getD, found, Option.getD_some]

/-- Bytes are decoded as the format says. -/
lemma Decodes.eq {bytes : List UInt8} {result : Except FrameError Message}
    (decodes : Decodes bytes result) : decode bytes = result := by
  cases decodes with
  | wrongLength other => rw [decode, Frame.size, if_pos other]
  | unsupportedVersion length first other =>
    rw [decode, Frame.size, if_neg (not_not_intro length)]
    dsimp only
    rw [getD_of_getElem? first, Frame.version, if_pos other]
  | unknownType length version second other =>
    rw [decode, Frame.size, if_neg (not_not_intro length)]
    dsimp only
    rw [getD_of_getElem? version, Frame.version, if_neg (not_not_intro rfl),
      getD_of_getElem? second, requestType, if_neg other.1, replyType, if_neg other.2]
  | request length version type => exact decode_of_isRequest ⟨length, version, type⟩
  | reply length version type mode =>
    refine decode_eq_reply_iff.2
      ⟨length, getD_of_getElem? version, getD_of_getElem? type, rfl, ?_⟩
    rw [Frame.payload, Frame.headerSize, List.getD_eq_getElem?_getD, List.getElem?_drop, mode,
      Option.getD_some]

/-- Every row of bytes is refused for one reason, or is a message. -/
lemma exists_decodes (bytes : List UInt8) : ∃ result, Decodes bytes result := by
  by_cases length : bytes.length = 64
  · have byte (index : Nat) (inside : index < 64) : ∃ byte, bytes[index]? = some byte :=
      ⟨_, List.getElem?_eq_getElem (length ▸ inside)⟩
    obtain ⟨version, first⟩ := byte 0 (by decide)
    obtain ⟨type, second⟩ := byte 1 (by decide)
    obtain ⟨code, mode⟩ := byte 16 (by decide)
    by_cases known : version = 1
    · rw [known] at first
      by_cases asks : type = 1
      · exact ⟨_, .request length first (asks ▸ second)⟩
      · by_cases tells : type = 2
        · exact ⟨_, .reply length first (tells ▸ second) mode⟩
        · exact ⟨_, .unknownType length first second ⟨asks, tells⟩⟩
    · exact ⟨_, .unsupportedVersion length first known⟩
  · exact ⟨_, .wrongLength length⟩

/-- The length is judged before the version, the version before the type, and nothing else can be
wrong with bytes. -/
theorem decode_eq_iff {bytes : List UInt8} {result : Except FrameError Message} :
    decode bytes = result ↔ Decodes bytes result := by
  refine ⟨fun decoded => ?_, Decodes.eq⟩
  obtain ⟨found, decodes⟩ := exists_decodes bytes
  rwa [← decoded, decodes.eq]

/-- Frames with the same header are decoded alike if their names differ in the case of letters only.
That the names are equally long says that both are ended at the same place or fill the payload. -/
lemma decode_congr {first second : List UInt8} (request : IsRequest first)
    (request' : IsRequest second) (header : first.take 16 = second.take 16)
    (alike : (Frame.nameBytes first).map Frame.capital =
      (Frame.nameBytes second).map Frame.capital) : decode first = decode second := by
  have device (bytes : List UInt8) : (bytes.drop 2).take 6 = ((bytes.take 16).drop 2).take 6 := by
    rw [List.drop_take, List.take_take]
    rfl
  have counter (bytes : List UInt8) : (bytes.drop 8).take 8 = ((bytes.take 16).drop 8).take 8 := by
    rw [List.drop_take, List.take_take]
    rfl
  rw [decode_of_isRequest request, decode_of_isRequest request', Frame.name_congr alike,
    Frame.device, Frame.device, device, header, ← device, Frame.counter, Frame.counter, counter,
    header, ← counter]

/-- Bytes are refused for their length exactly if they are not 64. Otherwise they are refused for
the version exactly if the first byte is not 1, and otherwise for the type, with the sender's id,
exactly if the second byte is neither 1 nor 2. All others are a message. The name of a request is
absent or an upper name of at most 48 letters; it is present exactly if all bytes before the first
00 or FF are letters and digits and there is one, and then these bytes are it, in upper case. Two
requests with the same header are decoded alike if these bytes, equally many in both, differ in the
case of letters only. -/
theorem format_exact (bytes : List UInt8) :
    (∀ length, decode bytes = .error (.wrongLength length) ↔
      bytes.length ≠ 64 ∧ length = bytes.length) ∧
    (∀ version, decode bytes = .error (.unsupportedVersion version) ↔
      bytes.length = 64 ∧ bytes[0]? = some version ∧ version ≠ 1) ∧
    (∀ type device, decode bytes = .error (.unknownType type device) ↔
      bytes.length = 64 ∧ bytes[0]? = some 1 ∧ bytes[1]? = some type ∧ type ≠ 1 ∧ type ≠ 2 ∧
        device = .ofBytes ((bytes.drop 2).take 6)) ∧
    ((∃ message, decode bytes = .ok message) ↔
      bytes.length = 64 ∧ bytes[0]? = some 1 ∧ (bytes[1]? = some 1 ∨ bytes[1]? = some 2)) ∧
    (∀ header name, decode bytes = .ok (.request header name) →
      Givable name ∧
      (name.isSome ↔ Frame.nameBytes bytes ≠ [] ∧
        ∀ byte ∈ Frame.nameBytes bytes, Frame.isAlphanumeric byte) ∧
      ∀ text, name = some text →
        text.toList = Frame.letters ((Frame.nameBytes bytes).map Frame.capital)) ∧
    ∀ other, IsRequest bytes → IsRequest other → bytes.take 16 = other.take 16 →
      (Frame.nameBytes bytes).map Frame.capital = (Frame.nameBytes other).map Frame.capital →
      decode bytes = decode other := by
  refine ⟨fun length => ?_, fun version => ?_, fun type device => ?_, ?_,
    fun header name decoded => ?_, fun other => decode_congr⟩
  · -- Each refusal is a constructor of the format, and no other constructor ends in it.
    rw [decode_eq_iff]
    constructor
    · rintro (other | _)
      exact ⟨other, rfl⟩
    · rintro ⟨other, rfl⟩
      exact .wrongLength other
  · rw [decode_eq_iff]
    constructor
    · rintro (_ | ⟨length, first, other⟩)
      exact ⟨length, first, other⟩
    · rintro ⟨length, first, other⟩
      exact .unsupportedVersion length first other
  · rw [decode_eq_iff]
    constructor
    · rintro (_ | _ | ⟨length, version, second, other⟩)
      exact ⟨length, version, second, other.1, other.2, rfl⟩
    · rintro ⟨length, version, second, asks, tells, rfl⟩
      exact .unknownType length version second ⟨asks, tells⟩
  · simp only [decode_eq_iff]
    constructor
    · rintro ⟨message, decodes⟩
      cases decodes with
      | request length version type => exact ⟨length, version, .inl type⟩
      | reply length version type _ => exact ⟨length, version, .inr type⟩
    · rintro ⟨length, version, type | type⟩
      · exact ⟨_, .request length version type⟩
      · have mode : bytes[16]? = some bytes[16] := List.getElem?_eq_getElem _
        exact ⟨_, .reply length version type mode⟩
  · have request := isRequest_of_decode decoded
    rw [decode_of_isRequest request] at decoded
    cases decoded
    refine ⟨name_givable request, Frame.isSome_name_iff bytes, fun text read => ?_⟩
    rw [Frame.name_eq] at read
    split at read
    · cases read
      exact String.toList_ofList
    · cases read

/-- A name in small letters before a zero byte, and the same name in capitals before padding. -/
theorem format_exact_of_boiler :
    let small := frame requestType (.ofNat 7) 5 ([98, 111, 105, 108, 101, 114] ++ [0, 33, 1])
    let large := frame requestType (.ofNat 7) 5 [66, 79, 73, 76, 69, 82]
    decode small = .ok (.request { version := 1, device := .ofNat 7, counter := 5 }
        (some "BOILER")) ∧
      Givable (some "BOILER") ∧ decode small = decode large := by
  intro small large
  have decoded : decode small =
      .ok (.request { version := 1, device := .ofNat 7, counter := 5 } (some "BOILER")) := by
    decide +kernel
  obtain ⟨-, -, -, -, names, alike⟩ := format_exact small
  refine ⟨decoded, (names _ _ decoded).1, alike large ?_ ?_ ?_ ?_⟩ <;> decide +kernel

end Message

end HeatingHub
