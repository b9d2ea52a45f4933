import HeatingHub.Proofs.Hub.Act
import HeatingHub.Proofs.Station.Attempt

/-!
# What a message costs

Every message that a hub tries to send costs its owner money. A hub answers what it hears by one
message at most, unless it is asked for a log that it can read (`Station.ShowsLog`). Of the log it
sends the last 2048 bytes in parts of at most 512 bytes. These are four messages whenever four such
parts can hold the text at all, and five otherwise, since a part may end before a character that
would not fit (`outbound_cost`, `log_in_five_messages`).
-/

namespace HeatingHub

/-- A healthy host that has this log to show. -/
def Host.logging (logs : String) : Host where
  answers _ := { Host.healthy.now with logs := .ok logs }

namespace Hub

/-- A hub answers a message by five messages at most, and by more than one only if they are the end
of a log. The end of a log makes at least one message, none of more than 512 bytes, and not more
than four exactly if four such messages can hold it. -/
theorem outbound_cost (hub : Hub) (sms : Sms) :
    ∃ texts, Station.Replies sms.number hub.station texts (hub.station.receive hub.pin sms) ∧
      texts.length ≤ 5 ∧
      ((∀ logs, ¬ hub.station.ShowsLog sms logs) → texts.length ≤ 1) ∧
      ∀ logs, hub.station.ShowsLog sms logs →
        1 ≤ texts.length ∧ (∀ text ∈ texts, text.utf8ByteSize ≤ 512) ∧
          (texts.length ≤ 4 ↔ Text.Divides 4 512 (Text.keepLast 2048 logs.toList)) := by
  have wide : 4 ≤ 512 := by decide
  obtain ⟨logs, shows, replies⟩ | ⟨other, answer, replies⟩ :=
    hub.station.receive_replies hub.pin sms
  · have bounds := Station.length_logTexts shows.filled
    have parts := Station.logTexts_of_ne_empty shows.filled
    refine ⟨_, replies, ?_, fun other => absurd shows (other logs), fun found shows' => ?_⟩
    · rw [List.length_map]
      exact bounds.2
    · -- There is one log only, so it is the same in both.
      cases shows.readable.symm.trans shows'.readable
      rw [List.length_map]
      refine ⟨bounds.1, fun text mem => ?_, ?_⟩
      · obtain ⟨part, piece, rfl⟩ := List.mem_map.1 mem
        rw [parts] at piece
        rw [Text.utf8ByteSize_ofList]
        exact Text.width_of_mem_pieces wide piece
      · rw [parts]
        exact Text.length_pieces_le_iff wide
  · have few : answer.toList.length ≤ 1 := by
      cases answer with
      | none => exact Nat.zero_le 1
      | some text => exact Nat.le_refl 1
    exact ⟨_, replies, few.trans (by decide), fun _ => few,
      fun logs shows => absurd shows (other logs)⟩

/-- A short log is sent in one message. -/
theorem outbound_cost_of_short_log :
    let hub := start (.ofNat 1) "1234" { Station.fresh .missing with host := .logging "ok" } 0 0
    let sms : Sms := { number := "3310203040506", text := "debug log" }
    hub.station.ShowsLog sms "ok" ∧
      ∃ texts, Station.Replies sms.number hub.station texts (hub.station.receive hub.pin sms) ∧
        1 ≤ texts.length ∧ texts.length ≤ 4 ∧ ∀ text ∈ texts, text.utf8ByteSize ≤ 512 := by
  intro hub sms
  have shows : hub.station.ShowsLog sms "ok" :=
    ⟨by decide +kernel, by decide +kernel, rfl, by decide⟩
  obtain ⟨texts, replies, -, -, log⟩ := outbound_cost hub sms
  obtain ⟨one, small, four⟩ := log "ok" shows
  have divides : Text.Divides 4 512 (Text.keepLast 2048 "ok".toList) :=
    ⟨["ok".toList], by decide +kernel, by decide, by decide +kernel⟩
  exact ⟨shows, texts, replies, one, four.2 divides, small⟩

/-- A log of 681 characters of three bytes, of which 170 fit into a message, takes five messages. -/
theorem log_in_five_messages :
    let euros := String.ofList (List.replicate 681 '€')
    let hub := start (.ofNat 1) "1234" { Station.fresh .missing with host := .logging euros } 0 0
    let sms : Sms := { number := "3310203040506", text := "DEBUG LOG" }
    hub.station.ShowsLog sms euros ∧
      (hub.station.receive hub.pin sms).post.tried.length = hub.station.post.tried.length + 5 := by
  intro euros hub sms
  have filled : euros ≠ "" := by
    intro none
    have length := congrArg String.length none
    rw [String.length_ofList, List.length_replicate] at length
    cases length
  have shows : hub.station.ShowsLog sms euros :=
    ⟨by decide +kernel, by decide +kernel, rfl, filled⟩
  have cut : (Text.pieces 512 (Text.keepLast 2048 euros.toList)).length = 5 := by
    rw [String.toList_ofList]
    decide +kernel
  have replies := shows.replies hub.pin
  rw [Station.Replies] at replies
  rw [replies, List.length_append, List.length_map, List.length_map,
    Station.logTexts_of_ne_empty filled]
  exact ⟨shows, congrArg _ cut⟩

end Hub

end HeatingHub
