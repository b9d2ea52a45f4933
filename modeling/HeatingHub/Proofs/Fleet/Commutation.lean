import HeatingHub.Proofs.Fleet
import Mathlib.Data.List.FinRange

/-!
# Devices that ask in another order

What a device is told, and what is written down about it, depends on its own requests alone: the
requests of the other devices may as well be left out (`told_filter`). So when requests come in
another order, in which those of each device keep theirs, every request is told the same, and the
fleet is the same in the end (`devices_commute`).
-/

namespace HeatingHub

/-- A request as it reaches the fleet. -/
structure Request where
  id : DeviceId
  name : Option String
  counter : UInt64
  address : Option String
  /-- The wall clock at the request, in milliseconds. -/
  wall : Int
  deriving DecidableEq

namespace Fleet

/-- Answers a request. -/
def serve (fleet : Fleet) (request : Request) : Outcome × Fleet :=
  fleet.request request.id request.name request.counter request.address request.wall

/-- Answers requests one after the other. -/
def serveAll (fleet : Fleet) : List Request → List Outcome × Fleet
  | [] => ([], fleet)
  | request :: rest =>
    let (outcome, fleet) := fleet.serve request
    let (outcomes, fleet) := fleet.serveAll rest
    (outcome :: outcomes, fleet)

/-- The settings are the same, and so are the books on one device. -/
structure Agrees (id : DeviceId) (fleet other : Fleet) : Prop where
  modes : fleet.modes = other.modes
  record : fleet.records[id]? = other.records[id]?
  counter : fleet.counters[id]? = other.counters[id]?

/-! ## One request -/

section

variable {id : DeviceId} {fleet other : Fleet} {request : Request}

/-- A fleet agrees with itself about a device. -/
lemma Agrees.refl (id : DeviceId) (fleet : Fleet) : Agrees id fleet fleet :=
  ⟨rfl, rfl, rfl⟩

/-- To agree about a device goes both ways. -/
lemma Agrees.symm (agrees : Agrees id fleet other) : Agrees id other fleet :=
  ⟨agrees.modes.symm, agrees.record.symm, agrees.counter.symm⟩

/-- Two fleets that agree with a third about a device agree about it. -/
lemma Agrees.trans {last : Fleet} (first : Agrees id fleet other) (second : Agrees id other last) :
    Agrees id fleet last :=
  ⟨first.modes.trans second.modes, first.record.trans second.record,
    first.counter.trans second.counter⟩

/-- Fleets that agree on every device are the same. -/
lemma eq_of_agrees (agrees : ∀ id, Agrees id fleet other) : fleet = other := by
  obtain ⟨default, overrides⟩ := Prod.mk.inj (agrees .zero).modes
  have records := Std.ExtTreeMap.ext_getElem? fun {id} => (agrees id).record
  have counters := Std.ExtTreeMap.ext_getElem? fun {id} => (agrees id).counter
  obtain ⟨_, _, _, _⟩ := fleet
  obtain ⟨_, _, _, _⟩ := other
  cases default
  cases overrides
  cases records
  cases counters
  rfl

/-- A device is told the same by fleets that agree on it. -/
lemma Agrees.outcome (agrees : Agrees request.id fleet other) :
    (fleet.serve request).1 = (other.serve request).1 := by
  have mode := modeOf_congr agrees.modes request.name
  have check : checkCounter fleet.counters[request.id]? request.counter =
      checkCounter other.counters[request.id]? request.counter := by rw [agrees.counter]
  exact congrArg₂ Outcome.mk mode check

/-- Fleets that agree on a device do so after any request. -/
lemma Agrees.serve (agrees : Agrees id fleet other) (request : Request) :
    Agrees id (fleet.serve request).2 (other.serve request).2 where
  modes := agrees.modes
  record := by
    have mode := modeOf_congr agrees.modes request.name
    refine (getElem?_insert_eq ..).trans (Eq.trans ?_ (getElem?_insert_eq ..).symm)
    rw [agrees.record]
    exact congrArg (fun mode => if id = request.id then some (Record.mk _ _ mode _) else _) mode
  counter := by
    refine (getElem?_insert_eq ..).trans (Eq.trans ?_ (getElem?_insert_eq ..).symm)
    rw [agrees.counter]

/-- The request of another device changes nothing for a device. -/
lemma Agrees.serve_other (agrees : Agrees id fleet other) (apart : request.id ≠ id) :
    Agrees id (fleet.serve request).2 other where
  modes := agrees.modes
  record := (getElem?_insert_eq ..).trans ((if_neg (Ne.symm apart)).trans agrees.record)
  counter := (getElem?_insert_eq ..).trans ((if_neg (Ne.symm apart)).trans agrees.counter)

end

/-! ## Requests in some order -/

section

variable {ι : Type} {requests : ι → Request}

/-- What requests are told that come in this order, each with its own outcome. -/
def told (fleet : Fleet) (requests : ι → Request) (order : List ι) : List (ι × Outcome) :=
  order.zip (fleet.serveAll (order.map requests)).1

/-- What is told in a run begins with the first request. -/
lemma told_cons (fleet : Fleet) (first : ι) (rest : List ι) :
    fleet.told requests (first :: rest) =
      (first, (fleet.serve (requests first)).1) ::
        (fleet.serve (requests first)).2.told requests rest :=
  rfl

/-- Every request has an outcome. -/
lemma length_serveAll (fleet : Fleet) (requests : List Request) :
    (fleet.serveAll requests).1.length = requests.length := by
  induction requests generalizing fleet with
  | nil => rfl
  | cons request rest ih => exact congrArg Nat.succ (ih (fleet.serve request).2)

/-- For one device it is as if the others did not ask. -/
lemma told_filter {id : DeviceId} {fleet other : Fleet} (agrees : Agrees id fleet other)
    (order : List ι) :
    let own := order.filter fun index => (requests index).id = id
    ((fleet.told requests order).filter fun entry => (requests entry.1).id = id) =
        other.told requests own ∧
      Agrees id (fleet.serveAll (order.map requests)).2
        (other.serveAll (own.map requests)).2 := by
  induction order generalizing fleet other with
  | nil => exact ⟨rfl, agrees⟩
  | cons first rest ih =>
    dsimp only at ih ⊢
    rw [told_cons]
    by_cases own : (requests first).id = id
    · obtain ⟨told, last⟩ := ih (agrees.serve (requests first))
      subst own
      rw [List.filter_cons_of_pos (by simp), List.filter_cons_of_pos (by simp), told, told_cons,
        agrees.outcome]
      exact ⟨rfl, last⟩
    · obtain ⟨told, last⟩ := ih (agrees.serve_other own)
      rw [List.filter_cons_of_neg (by simpa using own),
        List.filter_cons_of_neg (by simpa using own)]
      exact ⟨told, last⟩

end

/-! ## Another order -/

section

variable {requests : List Request} {order : List (Fin requests.length)}

/-- Each request comes once, and those of one device come in the order of the list. -/
structure Reorders (requests : List Request) (order : List (Fin requests.length)) : Prop where
  once : order.Perm (List.finRange requests.length)
  kept : order.Pairwise fun first second =>
    (requests.get first).id = (requests.get second).id → first < second

/-- The requests of one device come in the order in which they stand in the list. -/
lemma Reorders.filter (reorders : Reorders requests order) (id : DeviceId) :
    (order.filter fun index => (requests.get index).id = id) =
      (List.finRange requests.length).filter fun index => (requests.get index).id = id := by
  have ordered : (order.filter fun index => (requests.get index).id = id).Pairwise (· < ·) := by
    rw [List.pairwise_filter]
    refine reorders.kept.imp fun less first second => less ?_
    exact (of_decide_eq_true first).trans (of_decide_eq_true second).symm
  refine List.Perm.eq_of_pairwise ?_ ordered ((List.pairwise_lt_finRange _).filter _)
    (reorders.once.filter _)
  intro first second _ _ less greater
  exact absurd less (Nat.lt_asymm greater)

/-- In another order, each request is told the same. -/
lemma Reorders.mem_told_iff (reorders : Reorders requests order) (fleet : Fleet)
    (entry : Fin requests.length × Outcome) :
    entry ∈ fleet.told requests.get order ↔
      entry ∈ fleet.told requests.get (List.finRange requests.length) := by
  -- An entry is found among those of its own device, which are the same in both orders.
  have own (order : List (Fin requests.length)) :
      entry ∈ fleet.told requests.get order ↔
        entry ∈ fleet.told requests.get
          (order.filter fun index => (requests.get index).id = (requests.get entry.1).id) := by
    obtain ⟨told, -⟩ := told_filter (.refl (requests.get entry.1).id fleet) order
    rw [← told, List.mem_filter, decide_eq_true rfl, and_iff_left rfl]
  rw [own order, own (List.finRange _), reorders.filter]

/-- In another order, the requests lead to the same fleet. -/
lemma Reorders.serveAll (reorders : Reorders requests order) (fleet : Fleet) :
    (fleet.serveAll (order.map requests.get)).2 = (fleet.serveAll requests).2 := by
  apply eq_of_agrees
  intro id
  have own (order : List (Fin requests.length)) : Agrees id
      (fleet.serveAll (order.map requests.get)).2
      (fleet.serveAll
        ((order.filter fun index => (requests.get index).id = id).map requests.get)).2 :=
    (told_filter (.refl id fleet) order).2
  have reordered := own order
  have straight := own (List.finRange _)
  rw [reorders.filter] at reordered
  rw [List.map_get_finRange] at straight
  exact reordered.trans straight.symm

/-- The entry at a place of an order is for the request that comes there. -/
lemma told_getElem? (fleet : Fleet) (order : List (Fin requests.length)) {place : Nat}
    {index : Fin requests.length} {outcome : Outcome} :
    (fleet.told requests.get order)[place]? = some (index, outcome) ↔
      order[place]? = some index ∧
        (fleet.serveAll (order.map requests.get)).1[place]? = some outcome :=
  List.getElem?_zip_eq_some

/-- Requests of different devices commute. Let them come in another order, in which those of each
device keep theirs: then the fleet is the same in the end, and each request is told the same. -/
theorem devices_commute (fleet : Fleet) (requests : List Request)
    (order : List (Fin requests.length)) (reorders : Reorders requests order) :
    let straight := fleet.serveAll requests
    let reordered := fleet.serveAll (order.map requests.get)
    reordered.2 = straight.2 ∧
      ∀ (place : Nat) (index : Fin requests.length), order[place]? = some index →
        ∃ outcome, reordered.1[place]? = some outcome ∧
          straight.1[index.val]? = some outcome := by
  intro straight reordered
  refine ⟨reorders.serveAll fleet, fun place index found => ?_⟩
  have inside : place < reordered.1.length := by
    rw [length_serveAll, List.length_map]
    exact (List.getElem?_eq_some_iff.1 found).1
  refine ⟨reordered.1[place], List.getElem?_eq_getElem inside, ?_⟩
  have entry := (fleet.told_getElem? order).2 ⟨found, List.getElem?_eq_getElem inside⟩
  have mem := (reorders.mem_told_iff fleet _).1 (List.mem_of_getElem? entry)
  obtain ⟨place', entry'⟩ := List.mem_iff_getElem?.1 mem
  obtain ⟨found', outcome⟩ := (fleet.told_getElem? _).1 entry'
  -- In the list itself, each request stands at its own place.
  have same : place' = index.val := by
    obtain ⟨inside', rfl⟩ := List.getElem?_eq_some_iff.1 found'
    rw [List.getElem_finRange]
    rfl
  rwa [List.map_get_finRange, same] at outcome

/-- A device asks twice in the same way and then reboots, and another one with the same name asks
after it instead of in between. -/
theorem devices_commute_of_neighbours :
    let boiler : Request := ⟨.ofNat 7, some "BOILER", 1, none, 0⟩
    let requests := [boiler, ⟨.ofNat 8, some "BOILER", 5, none, 0⟩, boiler,
      { boiler with counter := 9 }]
    let order : List (Fin 4) := [0, 2, 3, 1]
    let reordered := ({} : Fleet).serveAll (order.map requests.get)
    Reorders requests order ∧ reordered.2 = (({} : Fleet).serveAll requests).2 ∧
      reordered.1.map (·.counter) = [.firstSeen, .inSequence, .rebooted 1, .firstSeen] ∧
      (({} : Fleet).serveAll requests).1[1]? = some ⟨.safe, .firstSeen⟩ := by
  intro boiler requests order reordered
  have reorders : Reorders requests order := ⟨by decide, by decide⟩
  obtain ⟨same, told⟩ := devices_commute {} requests order reorders
  have last : reordered.1[3]? = some ⟨.safe, .firstSeen⟩ := by decide +kernel
  obtain ⟨outcome, there, here⟩ := told 3 1 rfl
  exact ⟨reorders, same, by decide +kernel, here.trans (there.symm.trans last)⟩

end

end Fleet

end HeatingHub
