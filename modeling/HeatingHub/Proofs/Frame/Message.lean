import HeatingHub.Frame.Message
import HeatingHub.Proofs.Text.Letter
import Mathlib.Algebra.Group.Nat.Defs
import Mathlib.Data.List.TakeWhile

/-!
# What frames say

A frame is a request exactly if it has the right length, version and type (`decode_eq_request_iff`);
which device it names, and what its payload carries, is then read off its bytes
(`decode_of_isRequest`). A valid name that a payload carries is read in upper case, whatever ends it
(`name_of_carries`), and only such names are ever read (`name_givable`). A reply of the hub is
decoded to what it was made of (`decode_encodeReply`).
-/

namespace HeatingHub

/-- The name that a device gives, if it gives one, is an upper name and fits into a payload. -/
def Givable (name : Option String) : Prop :=
  ∀ text, name = some text → isUpperName text.toList ∧ text.length ≤ Frame.payloadSize

/-! ## Numbers -/

/-- A number that is written with bytes and read again, up to their width. -/
lemma Bytes.toNat_ofNat (width number : Nat) :
    toNat (ofNat width number) = number % 256 ^ width := by
  induction width generalizing number with
  | zero => rw [ofNat, toNat, Nat.pow_zero, Nat.mod_one]
  | succ width ih =>
    have byte : (UInt8.ofNat number).toNat = number % 256 := UInt8.toNat_ofNat'
    rw [ofNat, toNat, ih, byte, Nat.pow_succ', Nat.mod_mul]

/-- An id is read from its bytes. -/
lemma DeviceId.ofBytes_toBytes (id : DeviceId) : ofBytes id.toBytes = id := by
  obtain ⟨number, small⟩ := id
  have width : 256 ^ 6 = count := by decide
  simp only [ofBytes, toBytes, ofNat, List.reverse_reverse, Bytes.toNat_ofNat, mk.injEq]
  rw [width, Nat.mod_eq_of_lt (Nat.mod_lt _ (by decide)), Nat.mod_eq_of_lt small]

/-! ## Requests -/

namespace Frame

/-- The device that a frame names. -/
def device (bytes : List UInt8) : DeviceId :=
  .ofBytes ((bytes.drop 2).take 6)

/-- The counter of a frame. -/
def counter (bytes : List UInt8) : UInt64 :=
  .ofNat (Bytes.toNat ((bytes.drop 8).take 8))

/-- The part of a frame behind the header. -/
def payload (bytes : List UInt8) : List UInt8 :=
  bytes.drop headerSize

/-- The name in the payload of a frame, in upper case, if it is a valid one. -/
def name (bytes : List UInt8) : Option String :=
  Message.readName (payload bytes)

/-- The bytes are a request, by their number, the version and the type. -/
structure IsRequest (bytes : List UInt8) : Prop where
  length : bytes.length = size
  version : bytes[0]? = some version
  type : bytes[1]? = some Message.requestType

/-- Whether bytes are a request can be computed. -/
instance (bytes : List UInt8) : Decidable (IsRequest bytes) :=
  decidable_of_iff
    (bytes.length = size ∧ bytes[0]? = some version ∧ bytes[1]? = some Message.requestType)
    ⟨fun ⟨length, version, type⟩ => ⟨length, version, type⟩,
      fun request => ⟨request.length, request.version, request.type⟩⟩

/-- A payload carries a text, of one byte for each letter, up to its end or up to a byte 00 or
FF. -/
def Carries (payload : List UInt8) (text : String) : Prop :=
  ∃ rest, payload = (text.toList.map fun c => UInt8.ofNat c.toNat) ++ rest ∧
    ∀ byte, rest.head? = some byte → byte = 0x00 ∨ byte = 0xFF

end Frame

namespace Message

open HeatingHub.Frame (IsRequest Carries)

/-- A request is decoded to its parts. -/
lemma decode_of_isRequest {bytes : List UInt8} (request : IsRequest bytes) :
    decode bytes = .ok (.request
      { version := Frame.version, device := Frame.device bytes, counter := Frame.counter bytes }
      (Frame.name bytes)) := by
  have version : bytes.getD 0 0 = Frame.version := by
    rw [List.getD_eq_getElem?_getD, request.version, Option.getD_some]
  have type : bytes.getD 1 0 = requestType := by
    rw [List.getD_eq_getElem?_getD, request.type, Option.getD_some]
  rw [decode, if_neg (not_not_intro request.length)]
  dsimp only
  rw [version, if_neg (not_not_intro rfl), if_pos type]
  rfl

/-- Only requests are decoded to requests. -/
lemma isRequest_of_decode {bytes : List UInt8} {header : Header} {name : Option String}
    (h : decode bytes = .ok (.request header name)) : IsRequest bytes := by
  rw [decode] at h
  split at h
  · cases h
  · next length =>
    have length := Decidable.of_not_not length
    have byte {i : Nat} (inside : i < Frame.size) : bytes[i]? = some (bytes.getD i 0) := by
      rw [List.getD_eq_getElem?_getD, List.getElem?_eq_getElem (length ▸ inside),
        Option.getD_some]
    dsimp only at h
    split at h
    · cases h
    · next version =>
      split at h
      · next type =>
        refine ⟨length, ?_, ?_⟩
        · rw [byte (by decide), Decidable.of_not_not version]
        · rw [byte (by decide), type]
      · split at h <;> cases h

/-- The bytes that are decoded to requests are the requests. -/
theorem decode_eq_request_iff {bytes : List UInt8} :
    (∃ header name, decode bytes = .ok (.request header name)) ↔ IsRequest bytes := by
  constructor
  · rintro ⟨header, name, h⟩
    exact isRequest_of_decode h
  · intro request
    exact ⟨_, _, decode_of_isRequest request⟩

/-! ## Names -/

/-- The name in a request can be given to a device. -/
lemma name_givable {bytes : List UInt8} (request : IsRequest bytes) :
    Givable (Frame.name bytes) := by
  intro text read
  rw [Frame.name, readName] at read
  split at read
  · next named =>
    obtain rfl := Option.some.inj read
    rw [String.toList_ofList, String.length_ofList]
    refine ⟨?_, ?_⟩
    · rw [← Text.upper_upper]
      exact Text.isUpperName_upper named
    · have payload : (Frame.payload bytes).length = Frame.payloadSize := by
        rw [Frame.payload, List.length_drop, request.length]
        rfl
      rw [Text.upper, List.length_map, List.length_map, ← payload]
      exact (List.takeWhile_sublist _).length_le
  · cases read

/-- A byte that stands for a letter or digit is read as it, and does not end a name. -/
lemma letter_byte {c : Char} (h : c.isAlphanum) :
    Char.ofNat (UInt8.ofNat c.toNat).toNat = c ∧ endsName (UInt8.ofNat c.toNat) = false := by
  rw [Text.isAlphanum_iff] at h
  have byte : (UInt8.ofNat c.toNat).toNat = c.toNat := by
    rw [UInt8.toNat_ofNat']
    omega
  refine ⟨by rw [byte, Char.ofNat_toNat], ?_⟩
  rw [endsName, Bool.or_eq_false_iff, beq_eq_false_iff_ne, beq_eq_false_iff_ne]
  constructor
  · intro zero
    rw [zero, UInt8.toNat_zero] at byte
    omega
  · intro padding
    have full : Frame.padding.toNat = 255 := rfl
    rw [padding, full] at byte
    omega

/-- A valid name that a payload carries is read in upper case. -/
theorem name_of_carries {bytes : List UInt8} {name : String}
    (carries : Carries (Frame.payload bytes) name) (named : isHeaterName name.toList) :
    Frame.name bytes = some (Text.upperString name) := by
  obtain ⟨rest, payload, ends⟩ := carries
  have letters (c : Char) (mem : c ∈ name.toList) : c.isAlphanum :=
    List.all_eq_true.1 ((Bool.and_eq_true _ _).mp named).2 c mem
  have before : ∀ byte ∈ name.toList.map fun c => UInt8.ofNat c.toNat, !endsName byte := by
    intro byte mem
    obtain ⟨c, typed, rfl⟩ := List.mem_map.1 mem
    rw [(letter_byte (letters c typed)).2, Bool.not_false]
  have behind : rest.takeWhile (!endsName ·) = [] := by
    cases rest with
    | nil => rfl
    | cons byte rest => obtain rfl | rfl := ends byte rfl <;> rfl
  have read : (name.toList.map fun c => UInt8.ofNat c.toNat).map
      (fun byte => Char.ofNat byte.toNat) = name.toList := by
    rw [List.map_map]
    refine (List.map_congr_left fun c typed => ?_).trans (List.map_id _)
    exact (letter_byte (letters c typed)).1
  have upper : isHeaterName (Text.upper name.toList) :=
    Text.isHeaterName_of_isUpperName (Text.isUpperName_upper named)
  rw [Frame.name, payload, readName, List.takeWhile_append_of_pos before, behind, List.append_nil,
    read]
  exact if_pos upper

/-! ## Replies -/

/-- Bytes are decoded to a reply exactly if their number, the version and the type are right, and
then all that the reply says is read off the bytes. -/
lemma decode_eq_reply_iff {bytes : List UInt8} {header : Header} {code : UInt8} :
    decode bytes = .ok (.reply header code) ↔
      bytes.length = Frame.size ∧ bytes.getD 0 0 = Frame.version ∧ bytes.getD 1 0 = replyType ∧
        header = { version := Frame.version, device := Frame.device bytes,
                   counter := Frame.counter bytes } ∧
        code = (Frame.payload bytes).getD 0 0 := by
  constructor
  · intro h
    rw [decode] at h
    split at h
    · cases h
    · next length =>
      dsimp only at h
      split at h
      · cases h
      · next version =>
        have version := Decidable.of_not_not version
        split at h
        · cases h
        · split at h
          · next type =>
            cases h
            exact ⟨Decidable.of_not_not length, version, type, by rw [version]; rfl, rfl⟩
          · cases h
  · rintro ⟨length, version, type, rfl, rfl⟩
    rw [decode, if_neg (not_not_intro length)]
    dsimp only
    rw [version, type, if_neg (not_not_intro rfl), if_neg (by decide), if_pos rfl]
    rfl

/-! ## Frames that were written -/

section

variable (type : UInt8) (device : DeviceId) (counter : UInt64) {payload : List UInt8}

/-- The id in a frame. -/
lemma device_frame : Frame.device (frame type device counter payload) = device := by
  have six : device.toBytes.length = 6 := length_toBytes device
  have sender : ((frame type device counter payload).drop 2).take 6 = device.toBytes := by
    rw [frame, List.append_assoc, List.append_assoc, List.cons_append, List.cons_append,
      List.drop_succ_cons, List.drop_succ_cons, List.drop_zero, List.take_left' six]
  rw [Frame.device, sender, DeviceId.ofBytes_toBytes]

/-- The counter in a frame. -/
lemma counter_frame : Frame.counter (frame type device counter payload) = counter := by
  have six : device.toBytes.length = 6 := length_toBytes device
  have eight : (Bytes.ofNat 8 counter.toNat).length = 8 := Bytes.length_ofNat ..
  have small : counter.toNat % 256 ^ 8 = counter.toNat := Nat.mod_eq_of_lt counter.toNat_lt
  have counted : ((frame type device counter payload).drop 8).take 8 =
      Bytes.ofNat 8 counter.toNat := by
    rw [frame, List.append_assoc, List.append_assoc, List.cons_append, List.cons_append,
      List.drop_succ_cons, List.drop_succ_cons, List.drop_left' six, List.take_left' eight]
  rw [Frame.counter, counted, Bytes.toNat_ofNat, small, UInt64.ofNat_toNat]

/-- The payload in a frame, with the padding behind it. -/
lemma payload_frame :
    Frame.payload (frame type device counter payload) =
      payload ++ List.replicate (Frame.payloadSize - payload.length) Frame.padding := by
  have width : (device.toBytes ++ Bytes.ofNat 8 counter.toNat).length = 14 := by
    rw [List.length_append, length_toBytes, Bytes.length_ofNat]
  rw [Frame.payload, Frame.headerSize, frame, List.append_assoc, List.cons_append,
    List.cons_append, List.cons_append, List.cons_append, List.drop_succ_cons, List.drop_succ_cons,
    List.drop_left' width]

end

/-- A reply is decoded to what it was made of. -/
theorem decode_encodeReply (hub : DeviceId) (counter : UInt64) (mode : Mode) :
    decode (encodeReply hub counter mode) =
      .ok (.reply { version := Frame.version, device := hub, counter } mode.code) := by
  refine decode_eq_reply_iff.2 ⟨length_encodeReply hub counter mode, rfl, rfl, ?_, ?_⟩
  · rw [encodeReply, device_frame, counter_frame]
  · rw [encodeReply, payload_frame]
    rfl

end Message

end HeatingHub
