import HeatingHub.Proofs.Command.Token
import HeatingHub.Proofs.Fleet.Move
import HeatingHub.Proofs.Watch.Duties

/-!
# Orders to a station

A text orders modes when its tokens say so, and a station follows the orders of the senders that its
gate admits (`ordered`). Whatever a text says otherwise is no matter of the fleet, so that hearing a
message does to the fleet what this order does (`receive_follows`), as a check of the watch does,
which orders the safe mode when it collapses (`Checked.follows`). Both are moves of the fleet
(`receive_moves`, `Checked.moves`).
-/

namespace HeatingHub

/-- The order that the tokens of a text give. -/
def Order.ofTokens? : List String → Option Order
  | ["ALL", word] => (ModeWord.ofText? word).map fun word => .all word.mode
  | ["HEATER", name, word] =>
    if isHeaterName name.toList then
      (ModeWord.ofText? word).map fun word => .heater name word.mode
    else none
  | _ => none

/-- The order that a command gives. -/
def Command.order : Command → Option Order
  | .all word => some (.all word.mode)
  | .heater name word => some (.heater name word.mode)
  | _ => none

/-- The command that is read from a text gives the order that its tokens give. -/
lemma Command.parse_order (text : String) :
    (parse text).order = Order.ofTokens? (tokens text) := by
  cases found : Order.ofTokens? (tokens text) with
  | some order =>
    rw [Order.ofTokens?.eq_def] at found
    split at found
    · next words =>
      obtain ⟨word, known, rfl⟩ := Option.map_eq_some_iff.1 found
      rw [ModeWord.ofText?_inv known] at words
      rw [parse_eq_all_iff.2 words, order]
    · next words =>
      split at found
      · next named =>
        obtain ⟨word, known, rfl⟩ := Option.map_eq_some_iff.1 found
        rw [ModeWord.ofText?_inv known] at words
        rw [parse_eq_heater_iff.2 ⟨words, named⟩, order]
      · cases found
    · cases found
  | none =>
    cases command : parse text with
    | all word =>
      rw [parse_eq_all_iff.1 command, Order.ofTokens?, ModeWord.ofText?_text] at found
      cases found
    | heater name word =>
      obtain ⟨words, named⟩ := parse_eq_heater_iff.1 command
      rw [words, Order.ofTokens?, if_pos named, ModeWord.ofText?_text] at found
      cases found
    | _ => rfl

namespace Station

/-- The order that a station follows when it hears a message. -/
def ordered (station : Station) (sms : Sms) : Option Order :=
  if station.gate.admits sms.number then Order.ofTokens? (Command.tokens sms.text) else none

/-- Of all that a command changes, only its order is a matter of the fleet. -/
lemma enact_fleet (station : Station) (secret number : String) (command : Command) :
    (station.enact secret number command).fleet =
      command.order.elim station.fleet station.fleet.follow := by
  cases command with
  | all word => exact setFleet_fleet _ _
  | heater name word => exact setFleet_fleet _ _
  | lock =>
    rw [enact]
    split <;> rfl
  | unlock pin =>
    rw [enact]
    split <;> rfl
  | addPhone pin phone =>
    rw [enact]
    split
    · rfl
    · exact setGate_fleet _ _ _
  | removePhone pin phone =>
    rw [enact]
    split
    · rfl
    · exact setGate_fleet _ _ _
  | setEmergencyPhone pin phone =>
    rw [enact]
    split
    · rfl
    · exact setGate_fleet _ _ _
  | removeEmergencyPhone => exact setGate_fleet _ _ _
  | _ => rfl

/-- To hear a message is to follow its order, if it gives one and the sender is admitted. -/
lemma receive_follows (station : Station) (secret : String) (sms : Sms) :
    (station.receive secret sms).fleet =
      (station.ordered sms).elim station.fleet station.fleet.follow := by
  rw [receive, ordered]
  split
  · rw [(station.obey_answers _ _ _).fleet, enact_fleet, Command.parse_order]
  · rfl

/-- To hear a message is a move of the fleet, with the order that the station follows. -/
theorem receive_moves (station : Station) (secret : String) (sms : Sms) :
    station.fleet.Moves (station.ordered sms) (station.receive secret sms).fleet := by
  rw [receive_follows, ordered]
  split
  · rw [← Command.parse_order]
    cases command : Command.parse sms.text with
    | all word => exact .all word.mode
    | heater name word => exact .heater (Command.heater_isUpperName command) word.mode
    | _ => exact .rests
  · exact .rests

end Station

namespace Watch

/-- A check makes the fleet fall back when it collapses. -/
lemma Checked.follows {station next : Station} {collapsed : Bool}
    (checked : Checked station collapsed next) :
    next.fleet = (if collapsed then some (.all .safe) else none).elim station.fleet
      station.fleet.follow := by
  cases checked with
  | stands answers => exact answers.fleet
  | collapses answers =>
    rw [Station.setAll, Station.setFleet_fleet, answers.fleet]
    rfl

/-- A check is a move of the fleet, with the order to fall back when it collapses. -/
lemma Checked.moves {station next : Station} {collapsed : Bool}
    (checked : Checked station collapsed next) :
    station.fleet.Moves (if collapsed then some (.all .safe) else none) next.fleet := by
  rw [checked.follows]
  cases collapsed with
  | true => exact .all .safe
  | false => exact .rests

end Watch

end HeatingHub
