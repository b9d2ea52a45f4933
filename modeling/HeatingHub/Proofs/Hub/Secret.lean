import HeatingHub.Proofs.Command.Meaning
import HeatingHub.Proofs.Hub.Act

/-!
# The PIN guards the gate

Nobody who does not know the PIN can open the gate to anybody. A text that does not have the PIN
among its tokens may still lock the gate and make the hub forget the emergency phone, but it leaves
the whitelist and a lock as they are, and sets no new emergency phone: the gate only *narrows*
(`Gate.Narrows`). So does the gate of a hub over any run in which the hub does not hear the PIN
(`gate_narrows`).
-/

namespace HeatingHub

namespace Command

/-- The PIN that a command gives, if it is one that has to. -/
def pin? : Command → Option String
  | .unlock pin | .addPhone pin _ | .removePhone pin _ | .setEmergencyPhone pin _ => some pin
  | _ => none

/-- The PIN that a command gives is one of the tokens of its text. -/
lemma pin_mem_tokens {text pin : String} (given : (parse text).pin? = some pin) :
    pin ∈ tokens text := by
  have told : parse text ∉ [.invalidHeaterName, .invalidName, .invalid] := by
    intro untold
    simp only [List.mem_cons, List.not_mem_nil, or_false] at untold
    obtain none | none | none := untold <;> rw [none] at given <;> cases given
  have tells := tells_of_parse rfl told
  generalize parse text = command at given tells
  cases command with
  | unlock | addPhone | removePhone | setEmergencyPhone =>
    cases given
    have words : tokens text = _ := tells
    simp [words]
  | _ => cases given

end Command

namespace Gate

/-- Nobody is put on the whitelist or taken off it, a lock stays, and the emergency phone is the same
or forgotten. -/
structure Narrows (gate next : Gate) : Prop where
  whitelist : next.whitelist = gate.whitelist
  locked : gate.locked → next.locked
  emergency : next.emergency = gate.emergency ∨ next.emergency = none

/-- To leave a gate alone narrows it. -/
lemma Narrows.refl (gate : Gate) : Narrows gate gate :=
  ⟨rfl, id, .inl rfl⟩

/-- To narrow a gate twice narrows it. -/
lemma Narrows.trans {gate next last : Gate} (first : Narrows gate next)
    (second : Narrows next last) : Narrows gate last where
  whitelist := second.whitelist.trans first.whitelist
  locked := second.locked ∘ first.locked
  emergency := by
    cases second.emergency with
    | inl same => exact same ▸ first.emergency
    | inr none => exact .inr none

end Gate

namespace Station

/-- A command that does not give the PIN narrows the gate. -/
lemma enact_narrows (station : Station) (secret number : String) {command : Command}
    (unsaid : command.pin? ≠ some secret) :
    station.gate.Narrows (station.enact secret number command).gate := by
  cases command with
  | all word =>
    rw [enact, setAll, setFleet_gate]
    exact .refl _
  | heater name word =>
    rw [enact, setOverride, setFleet_gate]
    exact .refl _
  | lock =>
    rw [enact]
    split
    · exact ⟨rfl, fun _ => rfl, .inl rfl⟩
    · exact .refl _
  | unlock pin =>
    have wrong : pin ≠ secret := fun same => unsaid (congrArg some same)
    rw [enact, if_neg wrong]
    exact .refl _
  | addPhone pin phone =>
    have wrong : pin ≠ secret := fun same => unsaid (congrArg some same)
    rw [enact, if_pos (.inr wrong)]
    exact .refl _
  | removePhone pin phone =>
    have wrong : pin ≠ secret := fun same => unsaid (congrArg some same)
    rw [enact, if_pos (.inr wrong)]
    exact .refl _
  | setEmergencyPhone pin phone =>
    have wrong : pin ≠ secret := fun same => unsaid (congrArg some same)
    rw [enact, if_pos wrong]
    exact .refl _
  | removeEmergencyPhone =>
    rw [enact, clearEmergency, setGate_gate]
    exact ⟨rfl, id, .inr rfl⟩
  | _ => exact .refl _

/-- A turn narrows the gate, unless it hears the PIN. -/
lemma Turn.narrows {secret : String} {station next : Station} {heard : Option Sms}
    (turn : Turn secret station heard next)
    (unsaid : ∀ sms, heard = some sms → secret ∉ Command.tokens sms.text) :
    station.gate.Narrows next.gate := by
  cases turn with
  | rests rests => exact rests.gate.symm ▸ .refl _
  | fallsBack rests =>
    rw [setAll, setFleet_gate, rests.gate]
    exact .refl _
  | ignores => exact .refl _
  | @obeys sms next admitted rests =>
    rw [rests.gate]
    exact station.enact_narrows secret sms.number fun given =>
      unsaid sms rfl (Command.pin_mem_tokens given)

end Station

namespace Hub

/-- The messages that acts make the hub hear, one after the other. -/
def hears (hub : Hub) : List Act → List Sms
  | [] => []
  | act :: rest => (hub.heard act).toList ++ (hub.act act).hears rest

/-- Acts in which nobody says the PIN only narrow the gate. -/
lemma perform_narrows {hub : Hub} {acts : List Act}
    (unsaid : ∀ sms ∈ hub.hears acts, hub.pin ∉ Command.tokens sms.text) :
    hub.station.gate.Narrows (hub.perform acts).station.gate := by
  induction acts generalizing hub with
  | nil => exact .refl _
  | cons act acts ih =>
    have first : hub.station.gate.Narrows (hub.act act).station.gate := by
      refine (hub.act_turn act).narrows fun sms heard => unsaid sms ?_
      rw [hears, heard]
      exact List.mem_cons_self
    refine first.trans (ih fun sms mem => ?_)
    rw [act_pin]
    exact unsaid sms (List.mem_append_right _ mem)

/-- A message whose tokens do not include the PIN narrows the gate at most, whoever has sent it. So
do all that a hub hears in a run and whatever else happens in it, as long as the PIN is not among
the tokens of a message: no number is put on the whitelist or taken off it, a locked hub stays
locked, and no number becomes the emergency phone. -/
theorem gate_narrows (hub : Hub) :
    (∀ sms, hub.pin ∉ Command.tokens sms.text →
      hub.station.gate.Narrows (hub.station.receive hub.pin sms).gate) ∧
    ∀ acts, (∀ sms ∈ hub.hears acts, hub.pin ∉ Command.tokens sms.text) →
      hub.station.gate.Narrows (hub.perform acts).station.gate := by
  refine ⟨fun sms unsaid => ?_, fun acts => perform_narrows⟩
  refine (hub.station.receive_turn hub.pin sms).narrows fun other same => ?_
  cases same
  exact unsaid

/-- The PIN of a locked hub is guessed in vain, even by a member, and the emergency phone is removed.
Whoever knows the PIN opens the hub. -/
theorem gate_narrows_of_guesses :
    let member := "3310203040506"
    let file := .text "whitelist=3310203040506\nemergency_phone=0612345678\n"
    let hub := (start (.ofNat 1) "1234" (.fresh file) 0 0).run
      [.message { number := member, text := "lock" }, .cycle 0 0]
    let guesses : List Act :=
      ["unlock 12345", "Add phone 0000 0600000000", "remove emergency phone"].flatMap fun text =>
        [.message { number := member, text }, .obeys]
    let guessed := hub.perform guesses
    (hub.station.gate.locked ∧ (hub.hears guesses).length = 3 ∧
        guessed.station.gate.emergency = none) ∧
      guessed.station.gate.locked ∧
      guessed.station.gate.whitelist = hub.station.gate.whitelist ∧
      (hub.station.receive hub.pin { number := member, text := "unlock 1234" }).gate.locked =
        false := by
  intro member file hub guesses guessed
  have locked : hub.station.gate.locked := by decide +kernel
  have unsaid : ∀ sms ∈ hub.hears guesses, hub.pin ∉ Command.tokens sms.text := by decide +kernel
  have narrows : hub.station.gate.Narrows guessed.station.gate :=
    (gate_narrows hub).2 guesses unsaid
  refine ⟨⟨locked, ?_, ?_⟩, narrows.locked locked, narrows.whitelist, ?_⟩
  · decide +kernel
  · decide +kernel
  · decide +kernel

end Hub

end HeatingHub
