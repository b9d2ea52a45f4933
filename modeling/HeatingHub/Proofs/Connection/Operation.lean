import HeatingHub.Hub.Run
import HeatingHub.Proofs.Connection.Poll
import Mathlib.Data.List.Nodup

/-!
# Operations of a switchboard

All that is done to a switchboard is an operation, and its connections are told by the operations
alone: whatever is done, a connection is held from the moment at which it is accepted until an
operation that is aimed at it (`mem_after_numbers`), and the numbers of those that are held increase
(`Ordered.after`).
-/

namespace HeatingHub

/-- What is done to a switchboard at once. -/
inductive Operation
  | accepts (socket : Socket) (peer : Option String) (now : Nat)
  | device (number : Nat) (deed : Deed)
  | touches (number now : Nat)
  | sends (number : Nat) (bytes : List UInt8)
  | sweepsStale (now maxIdle : Nat)
  | evicts (number : Nat)
  | closesAll
  | polls

namespace Switchboard

/-- The switchboard after an operation. -/
def after (board : Switchboard) : Operation → Switchboard
  | .accepts socket peer now => (board.accept socket peer now).2
  | .device number deed => board.peerDoes number deed.apply
  | .touches number now => board.touch number now
  | .sends number bytes => (board.send number bytes).2
  | .sweepsStale now maxIdle => board.sweepStale now maxIdle
  | .evicts number => board.evict number
  | .closesAll => board.closeAll
  | .polls => board.poll.2

/-- The switchboard after operations one after the other. -/
def operate (board : Switchboard) (operations : List Operation) : Switchboard :=
  operations.foldl after board

/-- An operation lets go of the connection with this number: a poll that finds it over, a sweep for
which it has been idle for too long, or what is meant to let go of it or of all. -/
inductive Removes (board : Switchboard) (number : Nat) : Operation → Prop
  | ended (ended : board.isOver number) : Removes board number .polls
  | idle {connection : Connection} {now maxIdle : Nat} (held : connection ∈ board.held)
      (same : connection.number = number) (idle : maxIdle ≤ now - connection.lastActivity) :
      Removes board number (.sweepsStale now maxIdle)
  | evicted : Removes board number (.evicts number)
  | closed : Removes board number .closesAll

/-! ## Numbers -/

/-- A send lets go of no connection. -/
lemma send_held (board : Switchboard) (number : Nat) (bytes : List UInt8) :
    (board.send number bytes).2.held = board.held := by
  rw [send]
  split <;> rfl

/-- A send keeps the numbers that are held. -/
lemma send_numbers (board : Switchboard) (number : Nat) (bytes : List UInt8) :
    (board.send number bytes).2.numbers = board.numbers :=
  congrArg (List.map _) (board.send_held number bytes)

/-- A send keeps the number of sockets. -/
lemma send_length (board : Switchboard) (number : Nat) (bytes : List UInt8) :
    (board.send number bytes).2.sockets.length = board.sockets.length := by
  rw [send]
  split
  · exact List.length_set
  · rfl

/-- A number is held exactly if a connection with it is. -/
lemma mem_numbers {board : Switchboard} {number : Nat} :
    number ∈ board.numbers ↔ ∃ connection ∈ board.held, connection.number = number :=
  List.mem_map

/-- In an ordered switchboard no number is held twice. -/
lemma Ordered.nodup {board : Switchboard} (ordered : board.Ordered) : board.numbers.Nodup :=
  ordered.increasing.imp Nat.ne_of_lt

/-- A connection that is held is known by its number. -/
lemma Ordered.eq_of_number {board : Switchboard} (ordered : board.Ordered)
    {connection other : Connection} (held : connection ∈ board.held) (held' : other ∈ board.held)
    (same : connection.number = other.number) : connection = other :=
  List.inj_on_of_nodup_map ordered.nodup held held' same

/-- A sweep keeps the numbers of all connections but those that it removes. -/
lemma mem_sweepStale_numbers {board : Switchboard} (ordered : board.Ordered)
    {number now maxIdle : Nat} :
    number ∈ (board.sweepStale now maxIdle).numbers ↔
      number ∈ board.numbers ∧ ¬ board.Removes number (.sweepsStale now maxIdle) := by
  rw [mem_numbers, mem_numbers]
  constructor
  · rintro ⟨connection, kept, rfl⟩
    obtain ⟨held, recent⟩ := List.mem_filter.1 kept
    refine ⟨⟨connection, held, rfl⟩, ?_⟩
    rintro (_ | ⟨held', same, idle⟩)
    rw [ordered.eq_of_number held' held same] at idle
    simp [isStale, idle] at recent
  · rintro ⟨⟨connection, held, rfl⟩, stays⟩
    refine ⟨connection, List.mem_filter.2 ⟨held, ?_⟩, rfl⟩
    rw [isStale, Bool.not_eq_true', decide_eq_false_iff_not]
    exact fun idle => stays (.idle held rfl idle)

/-- A poll keeps the numbers of all connections but those that it removes. -/
lemma mem_poll_numbers {board : Switchboard} (ordered : board.Ordered) {number : Nat} :
    number ∈ board.poll.2.numbers ↔
      number ∈ board.numbers ∧ ¬ board.Removes number .polls := by
  have ended : board.Removes number .polls ↔ board.isOver number :=
    ⟨fun | .ended ended => ended, .ended⟩
  rw [ended, mem_numbers, mem_numbers]
  constructor
  · rintro ⟨connection, kept, rfl⟩
    obtain ⟨held, stays⟩ := (mem_poll_held ordered.nodup).1 kept
    exact ⟨⟨connection, held, rfl⟩, stays⟩
  · rintro ⟨⟨connection, held, rfl⟩, stays⟩
    exact ⟨connection, (mem_poll_held ordered.nodup).2 ⟨held, stays⟩, rfl⟩

/-! ## Operations -/

/-- An operation accepts the connection with this number. -/
def Accepts (board : Switchboard) (number : Nat) (operation : Operation) : Prop :=
  ∃ socket peer now, operation = .accepts socket peer now ∧
    (board.accept socket peer now).1 = number

/-- A connection is held after an operation exactly if it was held before, and the operation is not
aimed at it, or if the operation accepts it. -/
theorem mem_after_numbers {board : Switchboard} (ordered : board.Ordered) {number : Nat}
    {operation : Operation} :
    number ∈ (board.after operation).numbers ↔
      number ∈ board.numbers ∧ ¬ board.Removes number operation ∨
        board.Accepts number operation := by
  -- All operations but one accept nothing, so that the right side is only about removal.
  have only (other : ¬ board.Accepts number operation)
      (stays : number ∈ (board.after operation).numbers ↔
        number ∈ board.numbers ∧ ¬ board.Removes number operation) :
      number ∈ (board.after operation).numbers ↔
        number ∈ board.numbers ∧ ¬ board.Removes number operation ∨
          board.Accepts number operation := by
    rw [stays, or_iff_left other]
  have keeps (numbers : (board.after operation).numbers = board.numbers)
      (never : ¬ board.Removes number operation) :
      number ∈ (board.after operation).numbers ↔
        number ∈ board.numbers ∧ ¬ board.Removes number operation := by
    rw [numbers, and_iff_left never]
  cases operation with
  | accepts socket peer now =>
    have numbers : (board.after (.accepts socket peer now)).numbers =
        board.numbers ++ [board.sockets.length] := List.map_append
    have accepts : board.Accepts number (.accepts socket peer now) ↔
        number = board.sockets.length := by
      constructor
      · rintro ⟨_, _, _, -, rfl⟩
        rfl
      · rintro rfl
        exact ⟨socket, peer, now, rfl, rfl⟩
    rw [numbers, List.mem_append, List.mem_singleton, accepts, and_iff_left nofun]
  | device other deed => exact only nofun (keeps rfl nofun)
  | touches other now => exact only nofun (keeps (board.touch_numbers other now) nofun)
  | sends other bytes => exact only nofun (keeps (board.send_numbers other bytes) nofun)
  | sweepsStale now maxIdle => exact only nofun (mem_sweepStale_numbers ordered)
  | polls => exact only nofun (mem_poll_numbers ordered)
  | closesAll =>
    refine only nofun (iff_of_false List.not_mem_nil ?_)
    exact fun stays => stays.2 .closed
  | evicts other =>
    refine only nofun ?_
    have removes : board.Removes number (.evicts other) ↔ number = other := by
      constructor
      · rintro ⟨⟩
        rfl
      · rintro rfl
        exact .evicted
    rw [after, evict_numbers, List.mem_filter, removes, bne_iff_ne]

/-- Only to accept a connection adds a socket. -/
lemma length_after (board : Switchboard) (operation : Operation) :
    (board.after operation).sockets.length = match operation with
      | .accepts .. => board.sockets.length + 1
      | _ => board.sockets.length := by
  cases operation with
  | accepts socket peer now => exact List.length_append
  | device number deed => exact List.length_modify _ _ _
  | sends number bytes => exact board.send_length number bytes
  | polls => exact (board.pollEach_quiet board.held).length
  | _ => rfl

/-- Whatever is done, the connections are held in the order of their numbers. -/
lemma Ordered.after {board : Switchboard} (ordered : board.Ordered) (operation : Operation) :
    (board.after operation).Ordered := by
  have length := board.length_after operation
  cases operation with
  | accepts socket peer now => exact ordered.accept socket peer now
  | device number deed => exact ordered.sublist (.refl _) length
  | touches number now =>
    refine ordered.sublist ?_ length
    rw [Switchboard.after, touch_numbers]
  | sends number bytes =>
    refine ordered.sublist ?_ length
    rw [Switchboard.after, send_numbers]
  | sweepsStale now maxIdle =>
    exact ordered.sublist (board.sweepStale_quiet now maxIdle).numbers length
  | evicts number => exact ordered.sublist (board.evict_quiet number).numbers length
  | closesAll => exact ordered.sublist (List.nil_sublist _) length
  | polls => exact ordered.sublist (board.pollEach_quiet board.held).numbers length

/-- A switchboard without connections is ordered. -/
lemma ordered_empty : ({} : Switchboard).Ordered where
  increasing := .nil
  given _ mem := absurd mem List.not_mem_nil

/-- Any operations keep a switchboard ordered. -/
lemma Ordered.operate {board : Switchboard} (ordered : board.Ordered)
    (operations : List Operation) : (board.operate operations).Ordered := by
  induction operations generalizing board with
  | nil => exact ordered
  | cons operation rest ih => exact ih (ordered.after operation)

end Switchboard

end HeatingHub
