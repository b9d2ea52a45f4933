import HeatingHub.Proofs.Hub.Order

/-!
# What a hub shows

A hub *shows* a mode for a heater when a device that asks under the heater's name is told this mode
and recorded with it, and when everybody admitted who asks for the heater is told it as well
(`Shows`). Both ways lead to the same mode, however the name is typed, and to the mode of the last
command for the heater at once (`views_agree`).
-/

namespace HeatingHub

/-- The reply tells a device this mode. -/
def Reply.Tells (reply : Reply) (mode : Mode) : Prop :=
  ∃ header code, Message.decode reply.bytes = .ok (.reply header code) ∧
    Mode.ofCode? code = some mode

namespace Hub

/-- The hub shows this mode for the heater of this name: to a device that asks under the name, in
the record of the device, and to everybody admitted who asks by a text message. -/
structure Shows (hub : Hub) (name : String) (mode : Mode) : Prop where
  device (now : Nat) (wall : Int) (frame : Inbound) (request : Frame.IsRequest frame.bytes)
    (carries : Frame.Carries (Frame.payload frame.bytes) name) :
    (∃ reply, (hub.handleFrame now wall frame).replies = hub.replies ++ [reply] ∧
      reply.connection = frame.connection ∧ reply.Tells mode) ∧
    ∃ record, record.name = some (Text.upperString name) ∧ record.mode = mode ∧
      (hub.handleFrame now wall frame).station.fleet.records[Frame.device frame.bytes]? =
        some record
  phone (sms : Sms) (admitted : hub.station.gate.admits sms.number)
    (typed : Text.upperString sms.text = Text.upperString ("GET HEATER " ++ name)) :
    ∃ dispatch, (hub.station.receive hub.pin sms).post.log = hub.station.post.log ++ [dispatch] ∧
      dispatch.sms =
        { number := sms.number
          text := "HEATER " ++ Text.upperString name ++ " " ++ mode.label }

section

variable {name : String} (named : isHeaterName name.toList)

include named

/-- A hub shows for each heater the mode that the fleet has for its name. -/
lemma shows_modeOf (hub : Hub) : hub.Shows name (hub.station.fleet.modeOf (some name)) where
  device now wall frame request carries := by
    have read := Message.name_of_carries carries named
    have mode : hub.station.fleet.modeOf (Frame.name frame.bytes) =
        hub.station.fleet.modeOf (some name) := by
      rw [read, Fleet.modeOf_upperString]
    obtain ⟨fleet, delivered, replies⟩ :=
      (hub.handleFrame_handles now wall frame).of_isRequest request
    refine ⟨⟨hub.replyTo frame delivered, replies, rfl, ?_⟩, ?_⟩
    · refine ⟨_, _, Message.decode_encodeReply .., ?_⟩
      rw [Mode.ofCode?_code, mode]
    · rw [fleet, recorded, Fleet.request]
      exact ⟨_, read, mode, Std.ExtTreeMap.getElem?_insert_self⟩
  phone sms admitted typed := by
    rw [Station.receive, if_pos admitted, Command.parse_getHeater_of_typed named typed,
      Station.obey, Fleet.modeOf_upperString]
    exact ⟨_, rfl, rfl⟩

/-- What a hub shows for a heater to its device is what it shows to a phone, and after a command for
the heater both are the mode that the command asks for. -/
theorem views_agree (hub : Hub) :
    hub.Shows name (hub.station.fleet.modeOf (some name)) ∧
    ∀ (sms : Sms) (word : ModeWord), hub.station.gate.admits sms.number →
      Text.upperString sms.text = Text.upperString ("HEATER " ++ name ++ " " ++ word.text) →
      { hub with station := hub.station.receive hub.pin sms }.Shows name word.mode := by
  refine ⟨hub.shows_modeOf named, fun sms word admitted typed => ?_⟩
  have ordered : hub.station.ordered sms =
      some (.heater (Text.upperString name) word.mode) := by
    rw [Station.ordered, if_pos admitted, ← Command.parse_order,
      Command.parse_heater_of_typed named typed, Command.order]
  have moves := hub.station.receive_moves hub.pin sms
  rw [ordered] at moves
  have mode : (hub.station.receive hub.pin sms).fleet.modeOf (some name) = word.mode := by
    have upper := Text.isUpperName_upperString named
    rw [← Fleet.modeOf_upperString, moves.modeOf (some _) upper, Option.bind_some, Order.modeFor,
      if_pos rfl, Option.getD_some]
  have shows := shows_modeOf named { hub with station := hub.station.receive hub.pin sms }
  exact mode ▸ shows

end

/-- A command, a device and a text message spell one name in three ways. -/
theorem views_agree_of_boiler :
    let hub := start (.ofNat 1) "1234" (.fresh .missing) 0 0
    let order : Sms := { number := "3310203040506", text := "heater BOILER eco" }
    let question : Sms := { number := "0033102030405", text := "get heater boiler" }
    let frame : Inbound :=
      { connection := 0, peer := none
        bytes := Message.encodeRequest (.ofNat 7) 1 (some "Boiler") }
    let next := { hub with station := hub.station.receive hub.pin order }
    (∃ reply, (next.handleFrame 0 0 frame).replies = next.replies ++ [reply] ∧
      reply.Tells .eco) ∧
      ∃ dispatch, (next.station.receive next.pin question).post.log =
        next.station.post.log ++ [dispatch] ∧ dispatch.sms.text = "HEATER BOILER ECO" := by
  intro hub order question frame next
  have named : isHeaterName "Boiler".toList := by decide
  have shows : next.Shows "Boiler" .eco :=
    (views_agree named hub).2 order .eco (by decide +kernel) (by decide +kernel)
  have request : Frame.IsRequest frame.bytes :=
    ⟨by decide +kernel, by decide +kernel, by decide +kernel⟩
  have carries : Frame.Carries (Frame.payload frame.bytes) "Boiler" :=
    ⟨0x00 :: List.replicate 41 0xFF, by decide +kernel,
      fun _ same => .inl (Option.some.inj same).symm⟩
  obtain ⟨⟨reply, tried, -, tells⟩, -⟩ := shows.device 0 0 frame request carries
  obtain ⟨dispatch, sent, answer⟩ := shows.phone question (by decide +kernel) (by decide +kernel)
  refine ⟨⟨reply, tried, tells⟩, dispatch, sent, ?_⟩
  rw [answer]
  decide +kernel

end Hub

end HeatingHub
