import HeatingHub.Connection.Switchboard
import HeatingHub.Proofs.Connection.Socket
import Mathlib.Data.List.Pairwise

/-!
# What the connections take

Most of what happens to a switchboard is *quiet*: no connection is taken on and none takes a byte,
though some may be let go (`Quiet`). Only a send makes a connection take bytes, a beginning of those
that are sent, and all of them exactly if the send succeeds; no other connection notices
(`send_sends`). The connections are held in the order in which they were accepted, and are polled in
this order (`Ordered.poll`).
-/

namespace HeatingHub.Switchboard

open Socket (writtenAt)

/-! ## Quiet changes -/

/-- No connection is taken on and nothing is sent. -/
structure Quiet (board next : Switchboard) : Prop where
  numbers : next.numbers.Sublist board.numbers
  length : next.sockets.length = board.sockets.length
  written (number : Nat) : writtenAt next.sockets number = writtenAt board.sockets number

/-- To do nothing is quiet. -/
lemma Quiet.refl (board : Switchboard) : Quiet board board :=
  ⟨.refl _, rfl, fun _ => rfl⟩

/-- Two quiet changes make a quiet change. -/
lemma Quiet.trans {board next last : Switchboard} (first : Quiet board next)
    (second : Quiet next last) : Quiet board last where
  numbers := second.numbers.trans first.numbers
  length := second.length.trans first.length
  written number := (second.written number).trans (first.written number)

/-- To evict a connection takes its number out. -/
lemma evict_numbers (board : Switchboard) (number : Nat) :
    (board.evict number).numbers = board.numbers.filter (· != number) := by
  rw [numbers, numbers, List.filter_map]
  rfl

/-- To note an activity keeps the numbers. -/
lemma touch_numbers (board : Switchboard) (number now : Nat) :
    (board.touch number now).numbers = board.numbers := by
  rw [numbers, numbers, touch, List.map_map]
  refine List.map_congr_left fun connection _ => ?_
  dsimp only [Function.comp]
  split <;> rfl

/-- To evict a connection is quiet. -/
lemma evict_quiet (board : Switchboard) (number : Nat) : Quiet board (board.evict number) :=
  { Quiet.refl board with numbers := List.filter_sublist.map _ }

/-- A sweep for idle connections is quiet. -/
lemma sweepStale_quiet (board : Switchboard) (now maxIdle : Nat) :
    Quiet board (board.sweepStale now maxIdle) :=
  { Quiet.refl board with numbers := List.filter_sublist.map _ }

/-- A deed of a peer is quiet if it leaves alone what was written to the connection. -/
lemma peerDoes_quiet (board : Switchboard) (number : Nat) {deed : Socket → Socket}
    (silent : ∀ socket, (deed socket).written = socket.written) :
    Quiet board (board.peerDoes number deed) where
  numbers := .refl _
  length := List.length_modify _ _ _
  written other := by
    rw [writtenAt, writtenAt, peerDoes, List.getElem?_modify]
    cases board.sockets[other]? with
    | none => rfl
    | some socket =>
      have kept : (if number = other then deed socket else socket).written = socket.written := by
        split
        · exact silent socket
        · rfl
      exact kept

/-- Another socket in the place of a connection's changes what this connection has taken. -/
lemma setSocket_written {board : Switchboard} {number : Nat} {old : Socket}
    (found : board.sockets[number]? = some old) (socket : Socket) (other : Nat) :
    writtenAt (board.setSocket number socket).sockets other =
      if other = number then socket.written else writtenAt board.sockets other := by
  have inside : number < board.sockets.length := (List.getElem?_eq_some_iff.1 found).1
  rw [writtenAt, setSocket, List.getElem?_set]
  by_cases same : number = other
  · rw [if_pos same, if_pos inside, if_pos same.symm]
    rfl
  · rw [if_neg same, if_neg (Ne.symm same), writtenAt]

/-- A socket may be replaced quietly by one that was written the same. -/
lemma setSocket_quiet {board : Switchboard} {number : Nat} {old socket : Socket}
    (found : board.sockets[number]? = some old) (silent : socket.written = old.written) :
    Quiet board (board.setSocket number socket) where
  numbers := .refl _
  length := List.length_set
  written other := by
    rw [setSocket_written found]
    split
    · next same => rw [same, writtenAt, found, silent, Option.map_some, Option.getD_some]
    · rfl

/-! ## Polls -/

/-- To poll a connection is quiet. -/
lemma pollOne_quiet (board : Switchboard) (connection : Connection) :
    Quiet board (board.pollOne connection).2 := by
  rw [pollOne]
  split
  · exact .refl _
  · next socket found =>
    have read := setSocket_quiet found (socket.read_written Frame.size)
    dsimp only
    split
    · split <;> exact read
    · exact read
    · exact read.trans (evict_quiet _ _)
    · exact read.trans (evict_quiet _ _)

/-- A frame from a connection carries the number of that connection. -/
lemma pollOne_connection (board : Switchboard) (connection : Connection) :
    ((board.pollOne connection).1.toList.map (·.connection)).Sublist [connection.number] := by
  rw [pollOne]
  split
  · exact List.nil_sublist _
  · dsimp only
    split
    · split
      · exact .refl _
      · exact List.nil_sublist _
    · exact List.nil_sublist _
    · exact List.nil_sublist _
    · exact List.nil_sublist _

/-- To poll connections one after the other is quiet. -/
lemma pollEach_quiet (board : Switchboard) (connections : List Connection) :
    Quiet board (board.pollEach connections).2 := by
  induction connections generalizing board with
  | nil => exact .refl _
  | cons connection others ih => exact (board.pollOne_quiet connection).trans (ih _)

/-- The frames come in the order in which the connections are polled, one at most from each. -/
lemma pollEach_connections (board : Switchboard) (connections : List Connection) :
    ((board.pollEach connections).1.map (·.connection)).Sublist
      (connections.map (·.number)) := by
  induction connections generalizing board with
  | nil => exact .refl _
  | cons connection others ih =>
    rw [pollEach, List.map_append]
    exact (board.pollOne_connection connection).append (ih _)

/-! ## Order -/

/-- The connections are held in the order of their numbers, and all the numbers are given out. -/
structure Ordered (board : Switchboard) : Prop where
  increasing : board.numbers.Pairwise (· < ·)
  given (number : Nat) : number ∈ board.numbers → number < board.sockets.length

/-- To let go of connections keeps the order of the others. -/
lemma Ordered.sublist {board next : Switchboard} (ordered : board.Ordered)
    (numbers : next.numbers.Sublist board.numbers)
    (length : next.sockets.length = board.sockets.length) : next.Ordered where
  increasing := ordered.increasing.sublist numbers
  given number mem := length ▸ ordered.given number (numbers.subset mem)

/-- A new connection has the next number, and is the last that is held. -/
lemma Ordered.accept {board : Switchboard} (ordered : board.Ordered) (socket : Socket)
    (peer : Option String) (now : Nat) : (board.accept socket peer now).2.Ordered := by
  have numbers : (board.accept socket peer now).2.numbers =
      board.numbers ++ [board.sockets.length] := List.map_append
  have length : (board.accept socket peer now).2.sockets.length = board.sockets.length + 1 :=
    List.length_append
  constructor
  · rw [numbers, List.pairwise_append]
    refine ⟨ordered.increasing, List.pairwise_singleton _ _, fun number mem last here => ?_⟩
    rw [List.mem_singleton.1 here]
    exact ordered.given number mem
  · intro number mem
    rw [numbers, List.mem_append, List.mem_singleton] at mem
    rw [length]
    obtain mem | rfl := mem
    · exact Nat.lt_succ_of_lt (ordered.given number mem)
    · exact Nat.lt_succ_self _

/-- A poll brings the frames in the order in which their connections were accepted, one of each at
most. -/
lemma Ordered.poll {board : Switchboard} (ordered : board.Ordered) :
    (board.poll.1.map (·.connection)).Pairwise (· < ·) :=
  ordered.increasing.sublist (board.pollEach_connections board.held)

/-! ## Sends -/

/-- One connection has taken a beginning of these bytes, and all of them exactly if they are
delivered. The connections that are held are the same. -/
structure Sends (board : Switchboard) (number : Nat) (bytes : List UInt8) (delivered : Bool)
    (next : Switchboard) : Prop where
  numbers : next.numbers = board.numbers
  length : next.sockets.length = board.sockets.length
  taken : ∃ part, Taken bytes part delivered ∧
    ∀ other, writtenAt next.sockets other =
      writtenAt board.sockets other ++ if other = number then part else []

/-- To send writes to the connection that is meant, all of it exactly if the send succeeds. -/
lemma send_sends (board : Switchboard) (number : Nat) {bytes : List UInt8} (some : bytes ≠ []) :
    board.Sends number bytes (board.send number bytes).1.isOk (board.send number bytes).2 := by
  rw [send]
  split
  · next socket _ found =>
    obtain ⟨part, written, taken⟩ := socket.write_taken bytes
    refine ⟨rfl, List.length_set, part, ?_, fun other => ?_⟩
    · dsimp only
      refine ⟨taken.begins, taken.whole.trans ?_⟩
      cases (socket.write bytes).1 with
      | complete => exact iff_of_true rfl rfl
      | closed sent => exact iff_of_false (by simp) Bool.false_ne_true
      | failed cause => exact iff_of_false (by simp) Bool.false_ne_true
    · dsimp only
      rw [setSocket_written found]
      split
      · next same => rw [same, writtenAt, found, written, Option.map_some, Option.getD_some]
      · exact (List.append_nil _).symm
  · refine ⟨rfl, rfl, [], .nil some Bool.false_ne_true, fun other => ?_⟩
    rw [ite_self, List.append_nil]

end HeatingHub.Switchboard
