import HeatingHub.Config.Basic
import HeatingHub.Config.Json
import HeatingHub.Text.Letter
import HeatingHub.Text.Utf8

/-!
# Reading a configuration

A configuration file is a JSON object with any of the fields, or an array that gives the fields in
their order. A field that is not given keeps its default. Members of an object that are no fields
are ignored, but a field may not be given twice.
-/

namespace HeatingHub.Config

/-- The text of a string value. -/
def textOf : Json → Option String
  | .string (some text) => some (String.ofList text)
  | _ => none

/-- The whole number of a number value, if it is at most `limit`. -/
def wholeOf (limit : Nat) : Json → Option Nat
  | .number (some whole) => if whole ≤ limit then some whole else none
  | _ => none

/-- A field: its name, and how its value changes a configuration. -/
structure Field where
  name : String
  set : Config → Json → Option Config

/-- All fields, in their order. -/
def fields : List Field :=
  [ ⟨"device_port", fun config value =>
      (wholeOf 65535 value).map ({ config with devicePort := · })⟩,
    ⟨"state_file", fun config value => (textOf value).map ({ config with stateFile := · })⟩,
    ⟨"sms_incoming_dir", fun config value =>
      (textOf value).map ({ config with smsIncomingDir := · })⟩,
    ⟨"sms_outgoing_dir", fun config value =>
      (textOf value).map ({ config with smsOutgoingDir := · })⟩,
    ⟨"modem_data_node", fun config value =>
      (textOf value).map ({ config with modemDataNode := · })⟩,
    ⟨"modem_control_node", fun config value =>
      (textOf value).map ({ config with modemControlNode := · })⟩,
    ⟨"network_interface", fun config value =>
      (textOf value).map ({ config with networkInterface := · })⟩,
    ⟨"sms_daemon_process", fun config value =>
      (textOf value).map ({ config with smsDaemonProcess := · })⟩,
    ⟨"pin", fun config value => (textOf value).map ({ config with pin := · })⟩,
    ⟨"public_ip_url", fun config value => (textOf value).map ({ config with publicIpUrl := · })⟩,
    ⟨"log_unit", fun config value => (textOf value).map ({ config with logUnit := · })⟩,
    ⟨"cycle_interval_ms", fun config value =>
      (wholeOf Text.greatest64 value).map ({ config with cycleInterval := · })⟩ ]

/-- The configuration of an object's members, where the fields named in `seen` have been given. -/
def ofMembers (config : Config) (seen : List String) :
    List (Option (List Char) × Json) → Option Config
  | [] => some config
  | (none, _) :: _ => none
  | (some key, value) :: rest =>
    let name := String.ofList key
    match fields.find? (·.name == name) with
    | none => ofMembers config seen rest
    | some field =>
      if seen.contains name then none
      else (field.set config value).bind fun config => ofMembers config (name :: seen) rest

/-- The configuration of an array's items, for the given fields. -/
def ofItems (config : Config) : List Field → List Json → Option Config
  | _, [] => some config
  | [], _ :: _ => none
  | field :: others, item :: rest =>
    (field.set config item).bind fun config => ofItems config others rest

/-- The configuration of a JSON value. -/
def ofJson? : Json → Option Config
  | .object members => ofMembers {} [] members
  | .array items => ofItems {} fields items
  | _ => none

/-- A PIN is a row of ASCII digits, at least one. -/
def isPin (pin : String) : Bool :=
  !pin.isEmpty && Text.allDigits pin.toList

/-- The configuration of a file's bytes, where `path` is the file's. -/
def ofBytes (path : String) (bytes : List UInt8) : Except Fault Config :=
  match Text.decode? bytes with
  | none => .error (.io .notText)
  | some text =>
    match (Json.parse? text).bind ofJson? with
    | none => .error .configMalformed
    | some config => if isPin config.pin then .ok config else .error (.pinMalformed path)

end HeatingHub.Config
