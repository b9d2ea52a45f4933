import HeatingHub.Proofs.Frame.Message
import Mathlib.Data.List.Basic
import Mathlib.Data.List.TakeDrop

/-!
# Frames, read back and written again

A request is decoded to what it was made of, except that of its name no more arrives than the first
47 bytes up to a zero byte, and nothing unless these are a valid name (`decode_encodeRequest`). So a
name that was decoded arrives whole when it is sent again, unless it fills its payload
(`arriving_of_isUpperName`). A frame is made again from its parts (`frame_eq_self`), and so a reply
that is padded as the hub pads its own is written again byte by byte.
-/

namespace HeatingHub

/-- A code that is read as a mode is the code of this mode. -/
lemma Mode.code_of_ofCode? {code : UInt8} {mode : Mode} (h : ofCode? code = some mode) :
    mode.code = code := by
  rw [ofCode?] at h
  have same := List.find?_some h
  exact beq_iff_eq.1 same

/-! ## Bytes and numbers -/

namespace Bytes

/-- Bytes write numbers below their limit. -/
lemma toNat_lt (bytes : List UInt8) : toNat bytes < 256 ^ bytes.length := by
  induction bytes with
  | nil => exact Nat.one_pos
  | cons byte rest ih =>
    have := byte.toNat_lt
    rw [toNat, List.length_cons, Nat.pow_succ']
    omega

/-- Bytes are found again in their number. -/
lemma ofNat_toNat (bytes : List UInt8) : ofNat bytes.length (toNat bytes) = bytes := by
  induction bytes with
  | nil => rfl
  | cons byte rest ih =>
    have small := byte.toNat_lt
    have low : UInt8.ofNat (toNat (byte :: rest)) = byte := by
      rw [← UInt8.toNat_inj, UInt8.toNat_ofNat', toNat]
      omega
    have high : toNat (byte :: rest) / 256 = toNat rest := by
      rw [toNat]
      omega
    rw [List.length_cons, ofNat, low, high, ih]

end Bytes

/-- Six bytes are found again in their id. -/
lemma DeviceId.toBytes_ofBytes {bytes : List UInt8} (six : bytes.length = 6) :
    (ofBytes bytes).toBytes = bytes := by
  have turned : bytes.reverse.length = 6 := List.length_reverse.trans six
  have small : Bytes.toNat bytes.reverse < count := by
    have small := Bytes.toNat_lt bytes.reverse
    rwa [turned] at small
  have number : (ofBytes bytes).number = Bytes.toNat bytes.reverse := Nat.mod_eq_of_lt small
  rw [toBytes, number, ← turned, Bytes.ofNat_toNat, List.reverse_reverse]

/-! ## Letters and bytes -/

namespace Text

/-- The byte FF stands in no text. -/
lemma padding_not_mem_encode (text : List Char) : Frame.padding ∉ encode text := by
  have low {number : Nat} (small : number < 255) : Frame.padding ≠ UInt8.ofNat number := by
    have full : Frame.padding.toNat = 255 := rfl
    intro same
    rw [same, UInt8.toNat_ofNat'] at full
    omega
  rw [encode, List.mem_flatMap]
  rintro ⟨c, -, mem⟩
  -- Each byte of a character is a remainder below a power of two, moved up to its mark.
  rw [String.utf8EncodeChar] at mem
  split_ifs at mem <;> simp only [List.mem_cons, List.not_mem_nil, or_false] at mem
  · exact low (by omega) mem
  · obtain same | same := mem <;> exact low (by omega) same
  · obtain same | same | same := mem <;> exact low (by omega) same
  · obtain same | same | same | same := mem <;> exact low (by omega) same

/-- A letter or digit takes one byte. -/
lemma encode_of_allAlphanumeric {text : List Char} (letters : allAlphanumeric text) :
    encode text = text.map fun c => UInt8.ofNat c.toNat := by
  rw [encode, List.map_eq_flatMap]
  apply List.flatMap_congr
  intro c mem
  have letter := isAlphanum_iff.1 (List.all_eq_true.1 letters c mem)
  have single : c.val.toNat ≤ 127 := by
    rw [Char.toNat_val]
    omega
  rw [String.utf8EncodeChar]
  exact if_pos single

end Text

/-! ## Names on their way -/

namespace Frame

/-- The bytes of a name that are sent: as many as leave room for the zero byte that ends it, up to
the first zero byte among them. -/
def sent (name : String) : List UInt8 :=
  ((Text.encode name.toList).take (payloadSize - 1)).takeWhile (· != 0)

/-- The characters that bytes stand for by their numbers. -/
def letters (bytes : List UInt8) : List Char :=
  bytes.map fun byte => Char.ofNat byte.toNat

/-- The name that arrives when a device sends one: what was sent of it, in upper case, if that is a
valid name. -/
def arriving (name : String) : Option String :=
  if isHeaterName (letters (sent name)) then
    some (String.ofList (Text.upper (letters (sent name))))
  else none

/-- A zero byte ends what is read of a name, and padding is no part of what is sent. -/
lemma takeWhile_endsName {bytes : List UInt8} (unpadded : padding ∉ bytes) (rest : List UInt8) :
    (bytes ++ 0 :: rest).takeWhile (!Message.endsName ·) = bytes.takeWhile (· != 0) := by
  induction bytes with
  | nil => rfl
  | cons byte bytes ih =>
    have other : (byte == padding) = false := by
      rw [beq_eq_false_iff_ne]
      rintro rfl
      exact unpadded List.mem_cons_self
    have same : (!Message.endsName byte) = (byte != 0) := by
      rw [Message.endsName, other, Bool.or_false]
      rfl
    rw [List.cons_append, List.takeWhile_cons, List.takeWhile_cons, same,
      ih fun mem => unpadded (List.mem_cons_of_mem _ mem)]

/-- A name that was sent is read as it arrives: cut to what fits in front of the closing zero. -/
lemma readName_sent (name : String) (rest : List UInt8) :
    Message.readName ((Text.encode name.toList).take (payloadSize - 1) ++ 0 :: rest) =
      arriving name := by
  have unpadded : padding ∉ (Text.encode name.toList).take (payloadSize - 1) :=
    fun mem => Text.padding_not_mem_encode _ (List.mem_of_mem_take mem)
  rw [Message.readName, takeWhile_endsName unpadded, ← sent, ← letters, Text.isHeaterName_upper,
    arriving]

/-- A valid name is sent letter by letter. -/
lemma letters_sent {name : String} (named : isHeaterName name.toList) :
    letters (sent name) = name.toList.take (payloadSize - 1) := by
  have alphanumeric : Text.allAlphanumeric name.toList := ((Bool.and_eq_true _ _).mp named).2
  have letter (c : Char) (mem : c ∈ name.toList) :=
    Message.letter_byte (List.all_eq_true.1 alphanumeric c mem)
  have filled : ∀ byte ∈ (Text.encode name.toList).take (payloadSize - 1), (byte != 0) = true := by
    intro byte mem
    have mem := List.mem_of_mem_take mem
    rw [Text.encode_of_allAlphanumeric alphanumeric] at mem
    obtain ⟨c, typed, rfl⟩ := List.mem_map.1 mem
    have inner := (letter c typed).2
    rw [Message.endsName, Bool.or_eq_false_iff] at inner
    rw [bne, inner.1, Bool.not_false]
  rw [letters, sent, List.takeWhile_eq_self_iff.2 filled,
    Text.encode_of_allAlphanumeric alphanumeric, ← List.map_take, List.map_map]
  refine (List.map_congr_left fun c mem => ?_).trans (List.map_id _)
  exact (letter c (List.mem_of_mem_take mem)).1

/-- Of an upper name, as many letters arrive as leave room for the zero byte. -/
lemma arriving_of_isUpperName {name : String} (named : isUpperName name.toList) :
    arriving name = some (String.ofList (name.toList.take (payloadSize - 1))) := by
  have valid := Text.isHeaterName_of_isUpperName named
  have kept : isUpperName (name.toList.take (payloadSize - 1)) := by
    rw [isUpperName, Bool.and_eq_true, List.all_eq_true] at named ⊢
    refine ⟨?_, fun c mem => named.2 c (List.mem_of_mem_take mem)⟩
    cases found : name.toList with
    | nil => simp [found] at named
    | cons c rest => rfl
  rw [arriving, letters_sent valid, if_pos (Text.isHeaterName_of_isUpperName kept),
    Text.upper_of_isUpperName kept]

end Frame

/-! ## Frames -/

namespace Message

/-- A request is decoded to what it was made of, with the name that arrives. -/
theorem decode_encodeRequest (device : DeviceId) (counter : UInt64) (name : Option String) :
    decode (encodeRequest device counter name) =
      .ok (.request { version := Frame.version, device, counter } (name.bind Frame.arriving)) := by
  cases name with
  | none =>
    have request : Frame.IsRequest (encodeRequest device counter none) :=
      ⟨length_frame _ _ _ (Nat.zero_le _), rfl, rfl⟩
    rw [decode_of_isRequest request, Frame.name, encodeRequest, device_frame, counter_frame,
      payload_frame]
    rfl
  | some name =>
    have short : ((Text.encode name.toList).take (Frame.payloadSize - 1) ++ [0]).length ≤
        Frame.payloadSize := by
      rw [List.length_append, List.length_take]
      exact Nat.succ_le_succ (Nat.min_le_left _ _)
    have request : Frame.IsRequest (encodeRequest device counter (some name)) :=
      ⟨length_frame _ _ _ short, rfl, rfl⟩
    rw [decode_of_isRequest request, Frame.name, encodeRequest, device_frame, counter_frame,
      payload_frame, List.append_assoc, List.singleton_append, Frame.readName_sent]
    rfl

/-- A frame is made again from its parts. -/
lemma frame_eq_self {bytes payload : List UInt8} (length : bytes.length = Frame.size)
    (version : bytes.getD 0 0 = Frame.version)
    (filled : payload ++ List.replicate (Frame.payloadSize - payload.length) Frame.padding =
      Frame.payload bytes) :
    frame (bytes.getD 1 0) (Frame.device bytes) (Frame.counter bytes) payload = bytes := by
  -- Behind the first two bytes come the id, the counter and the payload.
  obtain ⟨first, second, rest, rfl⟩ : ∃ first second rest, bytes = first :: second :: rest := by
    cases bytes with
    | nil => cases length
    | cons first rest =>
      cases rest with
      | nil => cases length
      | cons second rest => exact ⟨first, second, rest, rfl⟩
  have long : rest.length = 62 := by
    simpa [Frame.size] using length
  have six : (rest.take 6).length = 6 := by
    rw [List.length_take, long]
    rfl
  have eight : ((rest.drop 6).take 8).length = 8 := by
    rw [List.length_take, List.length_drop, long]
    rfl
  have number : (Frame.counter (first :: second :: rest)).toNat =
      Bytes.toNat ((rest.drop 6).take 8) := by
    have small := Bytes.toNat_lt ((rest.drop 6).take 8)
    rw [eight] at small
    exact UInt64.toNat_ofNat_of_lt' small
  have sender : (Frame.device (first :: second :: rest)).toBytes = rest.take 6 :=
    DeviceId.toBytes_ofBytes six
  have counted := Bytes.ofNat_toNat ((rest.drop 6).take 8)
  rw [eight] at counted
  have version : first = Frame.version := version
  have behind : Frame.payload (first :: second :: rest) = (rest.drop 6).drop 8 := by
    rw [List.drop_drop]
    rfl
  rw [frame, List.append_assoc, filled, behind, number, counted, sender, List.append_assoc,
    List.cons_append, List.cons_append, List.take_append_drop, List.take_append_drop, version]
  rfl

/-- A request that was decoded is decoded again once it is sent again, with its name cut to what
leaves room for the zero byte. -/
lemma decode_encodeRequest_of_decode {bytes : List UInt8} {header : Header} {name : Option String}
    (decoded : decode bytes = .ok (.request header name)) :
    decode (encodeRequest header.device header.counter name) =
      .ok (.request header (name.map fun text => String.ofList (text.toList.take 47))) := by
  have request := isRequest_of_decode decoded
  have givable := name_givable request
  rw [decode_of_isRequest request] at decoded
  cases decoded
  rw [decode_encodeRequest]
  cases read : Frame.name bytes with
  | none => rfl
  | some text =>
    rw [Option.bind_some, Frame.arriving_of_isUpperName (givable text read).1]
    rfl

/-- Nothing is cut off the name of a request that was decoded, unless it has more than 47 bytes. -/
lemma cut_eq_self_iff {bytes : List UInt8} {header : Header} {name : Option String}
    (decoded : decode bytes = .ok (.request header name)) :
    (name.map fun text => String.ofList (text.toList.take 47)) = name ↔
      ∀ text, name = some text → (Text.encode text.toList).length ≤ 47 := by
  have request := isRequest_of_decode decoded
  have givable := name_givable request
  rw [decode_of_isRequest request] at decoded
  cases decoded
  cases read : Frame.name bytes with
  | none => simp
  | some text =>
    have valid := Text.isHeaterName_of_isUpperName (givable text read).1
    have width : (Text.encode text.toList).length = text.toList.length := by
      rw [Text.encode_of_allAlphanumeric ((Bool.and_eq_true _ _).mp valid).2, List.length_map]
    rw [Option.map_some, Option.some_inj, ← String.toList_inj, String.toList_ofList,
      List.take_eq_self_iff, ← width]
    exact ⟨fun short other same => Option.some.inj same ▸ short, fun short => short text rfl⟩

/-- A reply with a known mode is written again byte by byte, if all behind the mode is padding. -/
lemma encodeReply_of_decode {bytes : List UInt8} {header : Header} {code : UInt8} {mode : Mode}
    (decoded : decode bytes = .ok (.reply header code)) (known : Mode.ofCode? code = some mode)
    (padded : ∀ byte ∈ bytes.drop 17, byte = 0xFF) :
    encodeReply header.device header.counter mode = bytes := by
  obtain ⟨length, version, type, rfl, rfl⟩ := decode_eq_reply_iff.1 decoded
  have inside : 16 < bytes.length := by
    rw [length]
    decide
  have behind : bytes.drop 17 = List.replicate 47 0xFF := by
    rw [List.eq_replicate_iff, List.length_drop, length]
    exact ⟨rfl, padded⟩
  have filled : mode.code :: List.replicate 47 0xFF = Frame.payload bytes := by
    rw [Mode.code_of_ofCode? known, Frame.payload, Frame.headerSize,
      List.drop_eq_getElem_cons inside, behind]
    rfl
  rw [encodeReply, ← type]
  exact frame_eq_self length version filled

/-- Replies are decoded to what they were made of, and requests likewise, up to what arrives of the
name. What was decoded to a request is the same once it is sent again, unless its name has 48 bytes,
of which the last is lost; and what was decoded to a reply with a known mode is written again byte
by byte, if all behind the mode is padding. -/
theorem frames_round_trip :
    (∀ (hub : DeviceId) (counter : UInt64) (mode : Mode), ∃ code : UInt8,
      decode (encodeReply hub counter mode) =
        .ok (.reply { version := 1, device := hub, counter } code) ∧
      Mode.ofCode? code = some mode) ∧
    (∀ (device : DeviceId) (counter : UInt64) (name : Option String),
      decode (encodeRequest device counter name) =
        .ok (.request { version := 1, device, counter } (name.bind Frame.arriving))) ∧
    (∀ (bytes : List UInt8) (header : Header) (name : Option String),
      decode bytes = .ok (.request header name) →
      decode (encodeRequest header.device header.counter name) =
        .ok (.request header (name.map fun text => String.ofList (text.toList.take 47))) ∧
      (decode (encodeRequest header.device header.counter name) = .ok (.request header name) ↔
        ∀ text, name = some text → (Text.encode text.toList).length ≤ 47)) ∧
    ∀ (bytes : List UInt8) (header : Header) (code : UInt8) (mode : Mode),
      decode bytes = .ok (.reply header code) → Mode.ofCode? code = some mode →
      (∀ byte ∈ bytes.drop 17, byte = 0xFF) →
      encodeReply header.device header.counter mode = bytes := by
  refine ⟨fun hub counter mode => ?_, decode_encodeRequest, fun bytes header name decoded => ?_,
    fun bytes header code mode => encodeReply_of_decode⟩
  · exact ⟨mode.code, decode_encodeReply hub counter mode, mode.ofCode?_code⟩
  · have again := decode_encodeRequest_of_decode decoded
    refine ⟨again, ?_⟩
    rw [again, ← cut_eq_self_iff decoded]
    simp

/-- A name that fills the payload comes back without its last letter, and a reply as it was. -/
theorem frames_round_trip_of_long_name :
    (decode (frame requestType (.ofNat 7) 5 (List.replicate 48 97)) =
        .ok (.request { version := 1, device := .ofNat 7, counter := 5 }
          (some (String.ofList (List.replicate 48 'A')))) ∧
      decode (encodeRequest (.ofNat 7) 5 (some (String.ofList (List.replicate 48 'A')))) =
        .ok (.request { version := 1, device := .ofNat 7, counter := 5 }
          (some (String.ofList (List.replicate 47 'A'))))) ∧
    decode (frame replyType (.ofNat 1) 6 [2]) =
        .ok (.reply { version := 1, device := .ofNat 1, counter := 6 } 2) ∧
      encodeReply (.ofNat 1) 6 .eco = frame replyType (.ofNat 1) 6 [2] := by
  have asked : decode (frame requestType (.ofNat 7) 5 (List.replicate 48 97)) =
      .ok (.request { version := 1, device := .ofNat 7, counter := 5 }
        (some (String.ofList (List.replicate 48 'A')))) := by
    decide +kernel
  have told : decode (frame replyType (.ofNat 1) 6 [2]) =
      .ok (.reply { version := 1, device := .ofNat 1, counter := 6 } 2) := by
    decide +kernel
  have padded : ∀ byte ∈ (frame replyType (.ofNat 1) 6 [2]).drop 17, byte = 0xFF := by
    decide +kernel
  have known : Mode.ofCode? 2 = some .eco := by decide
  have cut : (some (String.ofList (List.replicate 48 'A'))).map
      (fun text => String.ofList (text.toList.take 47)) =
      some (String.ofList (List.replicate 47 'A')) := by
    decide +kernel
  obtain ⟨-, -, again, written⟩ := frames_round_trip
  have again := (again _ _ _ asked).1
  have written := written _ _ _ .eco told known padded
  rw [cut] at again
  exact ⟨⟨asked, again⟩, told, written⟩

end Message

end HeatingHub
