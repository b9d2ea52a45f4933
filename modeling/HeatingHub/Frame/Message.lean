import HeatingHub.DeviceId
import HeatingHub.Mode
import HeatingHub.Name
import HeatingHub.Text.Utf8

/-!
# Messages between the hub and its devices

Every message is one frame of 64 bytes: a version, a type, the sender's id, a counter, and 48 bytes
of payload padded with 0xFF. A device asks which mode to run and may give its heater's name; the
hub replies with the code of a mode. This module reads frames as messages and writes them.
-/

namespace HeatingHub

namespace Frame

/-- The number of bytes of a frame. -/
def size : Nat := 64

/-- The number of bytes before the payload. -/
def headerSize : Nat := 16

/-- The number of bytes of the payload. -/
def payloadSize : Nat := 48

/-- The only version of the frame format. -/
def version : UInt8 := 1

/-- The byte that fills what a payload leaves free. -/
def padding : UInt8 := 0xFF

/-- A row of bytes cut into pieces of the size of a frame; the last piece may be shorter. -/
def cut (bytes : List UInt8) : List (List UInt8) :=
  if bytes.isEmpty then [] else bytes.take size :: cut (bytes.drop size)
termination_by bytes.length
decreasing_by
  have : bytes ≠ [] := by simp_all
  have := List.length_pos_iff.2 this
  simp only [List.length_drop, size]
  omega

end Frame

/-- What every message says before its payload. -/
structure Header where
  version : UInt8
  device : DeviceId
  counter : UInt64
  deriving DecidableEq

/-- A message of the frame format. -/
inductive Message
  /-- A device asks for its mode, under its heater's name in upper case if it gives a valid one. -/
  | request (header : Header) (name : Option String)
  /-- The hub tells a device its mode. -/
  | reply (header : Header) (mode : UInt8)
  deriving DecidableEq

/-- Why bytes are no message. -/
inductive FrameError
  | wrongLength (length : Nat)
  | unsupportedVersion (version : UInt8)
  | unknownType (type : UInt8) (device : DeviceId)
  deriving DecidableEq

/-- The wording of a rejection. -/
def FrameError.message : FrameError → String
  | .wrongLength length => "frame is " ++ toString length ++ " bytes, expected 64"
  | .unsupportedVersion version => "protocol version " ++ toString version ++ " not supported"
  | .unknownType type device =>
    "unknown message type " ++ toString type ++ " from device " ++ toString device

namespace Message

/-- The type byte of a request. -/
def requestType : UInt8 := 1

/-- The type byte of a reply. -/
def replyType : UInt8 := 2

/-- The header of a message. -/
def header : Message → Header
  | .request header _ | .reply header _ => header

/-- The type byte of a message. -/
def type : Message → UInt8
  | .request .. => requestType
  | .reply .. => replyType

/-- A name ends at a zero byte, at padding, or with the payload. -/
def endsName (byte : UInt8) : Bool :=
  byte == 0 || byte == Frame.padding

/-- The heater's name in a payload, in upper case; nothing when it is no valid name. -/
def readName (payload : List UInt8) : Option String :=
  let name := Text.upper ((payload.takeWhile (!endsName ·)).map fun byte => Char.ofNat byte.toNat)
  if isHeaterName name then some (String.ofList name) else none

/-- Reads the bytes of a frame. The length is looked at first, then the version, then the type. -/
def decode (bytes : List UInt8) : Except FrameError Message :=
  if bytes.length ≠ Frame.size then .error (.wrongLength bytes.length)
  else
    let header : Header :=
      { version := bytes.getD 0 0
        device := DeviceId.ofBytes ((bytes.drop 2).take 6)
        counter := UInt64.ofNat (Bytes.toNat ((bytes.drop 8).take 8)) }
    let type := bytes.getD 1 0
    let payload := bytes.drop Frame.headerSize
    if header.version ≠ Frame.version then .error (.unsupportedVersion header.version)
    else if type = requestType then .ok (.request header (readName payload))
    else if type = replyType then .ok (.reply header (payload.getD 0 0))
    else .error (.unknownType type header.device)

/-- The frame with the given type, sender, counter and start of the payload. -/
def frame (type : UInt8) (device : DeviceId) (counter : UInt64) (payload : List UInt8) :
    List UInt8 :=
  Frame.version :: type :: device.toBytes ++ Bytes.ofNat 8 counter.toNat ++ payload ++
    List.replicate (Frame.payloadSize - payload.length) Frame.padding

/-- The hub's reply that tells a device its mode. -/
def encodeReply (hub : DeviceId) (counter : UInt64) (mode : Mode) : List UInt8 :=
  frame replyType hub counter [mode.code]

/-- A device's request. Of the name as much is sent as leaves room for the zero byte that ends
it. -/
def encodeRequest (device : DeviceId) (counter : UInt64) (name : Option String) : List UInt8 :=
  let payload := match name with
    | some name => (Text.encode name.toList).take (Frame.payloadSize - 1) ++ [0]
    | none => []
  frame requestType device counter payload

/-- An id takes six bytes. -/
@[simp] theorem length_toBytes (device : DeviceId) : device.toBytes.length = 6 := by
  simp [DeviceId.toBytes]

/-- A frame has the fixed size if its payload fits. -/
theorem length_frame (type : UInt8) (device : DeviceId) (counter : UInt64)
    {payload : List UInt8} (h : payload.length ≤ Frame.payloadSize) :
    (frame type device counter payload).length = Frame.size := by
  simp only [Frame.payloadSize] at h
  simp [frame, Frame.payloadSize, Frame.size]
  omega

/-- A reply has the size of a frame. -/
theorem length_encodeReply (hub : DeviceId) (counter : UInt64) (mode : Mode) :
    (encodeReply hub counter mode).length = Frame.size :=
  length_frame _ _ _ (by simp [Frame.payloadSize])

end Message

end HeatingHub
