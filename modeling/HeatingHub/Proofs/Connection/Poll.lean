import HeatingHub.Proofs.Connection.Switchboard

/-!
# What a poll finds

A poll reads once from every connection that is held, and what it finds at one of them has nothing
to do with the others. The frames that it brings (`poll_frames`), what it leaves in the sockets
(`poll_socket`) and which connections it lets go (`mem_poll_held`) is told by each connection's own
socket: a frame is the next 64 bytes if there are as many, and a connection is let go when it is
over.
-/

namespace HeatingHub

namespace Socket

/-- A read meets the end of the stream, or it fails. -/
def isOver (socket : Socket) : Bool :=
  match (socket.read Frame.size).1 with
  | .ended | .failed => true
  | .bytes _ | .nothing => false

/-- The frame that a poll reads from the socket, if there are enough bytes for one. -/
def frame? (socket : Socket) : Option (List UInt8) :=
  if Frame.size ≤ socket.pending.length then some (socket.pending.take Frame.size) else none

/-- The socket after a poll has read from it. -/
def polled (socket : Socket) : Socket :=
  { socket with pending := socket.pending.drop Frame.size }

/-- A socket is over when all is read and its peer sends no more. -/
lemma isOver_iff {socket : Socket} :
    socket.isOver ↔ socket.pending = [] ∧ socket.ending ≠ .open := by
  rw [isOver, read]
  cases pending : socket.pending with
  | nil => cases socket.ending <;> simp
  | cons byte rest => simp

end Socket

namespace Switchboard

/-- The frame that a poll reads from a connection. -/
def frameOf (board : Switchboard) (connection : Connection) : Option Inbound :=
  (board.sockets[connection.number]?.bind (·.frame?)).map fun bytes =>
    { connection := connection.number, peer := connection.peer, bytes }

/-- A read from the connection with this number would meet the end of its stream, or fail. -/
def isOver (board : Switchboard) (number : Nat) : Bool :=
  board.sockets[number]?.any (·.isOver)

/-! ## One connection -/

section

variable {board : Switchboard} {connection : Connection}

/-- There is no frame to be read from a connection that is over. -/
lemma frameOf_of_isOver (ended : board.isOver connection.number) :
    board.frameOf connection = none := by
  rw [isOver, Option.any_eq_true] at ended
  obtain ⟨socket, found, ended⟩ := ended
  have nothing : socket.frame? = none := by
    rw [Socket.frame?, (Socket.isOver_iff.1 ended).1]
    rfl
  rw [frameOf, found, Option.bind_some, nothing, Option.map_none]

/-- To read from a connection brings a frame, takes bytes from its socket, and lets it go when it is
over. -/
lemma pollOne_of_found {socket : Socket}
    (found : board.sockets[connection.number]? = some socket) :
    board.pollOne connection =
      (board.frameOf connection,
        let next := board.setSocket connection.number socket.polled
        if socket.isOver then next.evict connection.number else next) := by
  rw [pollOne, found, frameOf, found, Option.bind_some]
  obtain ⟨pending, ending, answers, written⟩ := socket
  cases pending with
  | nil => cases ending <;> rfl
  | cons byte rest =>
    -- There is something to read, which is a frame exactly if there are enough bytes for one.
    have ended : Socket.isOver ⟨byte :: rest, ending, answers, written⟩ = false := rfl
    have full : ((byte :: rest).take Frame.size).length = Frame.size ↔
        Frame.size ≤ (byte :: rest).length := by
      rw [List.length_take]
      omega
    simp only [Socket.read, List.isEmpty_cons, Bool.false_eq_true, if_false, ended, full,
      Socket.frame?]
    split <;> rfl

/-- To poll a connection without a socket does nothing. -/
lemma pollOne_of_missing (missing : board.sockets[connection.number]? = none) :
    board.pollOne connection = (none, board) := by
  rw [pollOne, missing]

/-- To read from a connection is to take bytes from its socket, and then to let it go if it is
over. -/
lemma pollOne_board (board : Switchboard) (connection : Connection) :
    (board.pollOne connection).2 =
      let read := { board with sockets := (board.pollOne connection).2.sockets }
      if board.isOver connection.number then read.evict connection.number else read := by
  rw [isOver]
  cases found : board.sockets[connection.number]? with
  | none => rw [pollOne_of_missing found]; rfl
  | some socket =>
    rw [pollOne_of_found found, Option.any_some]
    dsimp only
    split <;> rfl

/-- To poll a connection brings the frame that its socket offers. -/
lemma pollOne_frame : (board.pollOne connection).1 = board.frameOf connection := by
  cases found : board.sockets[connection.number]? with
  | none => rw [pollOne_of_missing found, frameOf, found]; rfl
  | some socket => rw [pollOne_of_found found]

/-- To poll a connection reads from its socket, and from no other. -/
lemma pollOne_socket (number : Nat) :
    (board.pollOne connection).2.sockets[number]? =
      if number = connection.number then board.sockets[number]?.map (·.polled)
      else board.sockets[number]? := by
  cases found : board.sockets[connection.number]? with
  | none =>
    rw [pollOne_of_missing found]
    split
    · next same => rw [same, found, Option.map_none]
    · rfl
  | some socket =>
    have sockets : (board.pollOne connection).2.sockets =
        board.sockets.set connection.number socket.polled := by
      rw [pollOne_of_found found]
      dsimp only
      split <;> rfl
    have inside := (List.getElem?_eq_some_iff.1 found).1
    rw [sockets, List.getElem?_set]
    by_cases same : number = connection.number
    · rw [if_pos same.symm, if_pos inside, if_pos same, same, found, Option.map_some]
    · rw [if_neg (Ne.symm same), if_neg same]

/-- To poll a connection lets go of it if it is over, and of no other. -/
lemma mem_pollOne_held {other : Connection} :
    other ∈ (board.pollOne connection).2.held ↔
      other ∈ board.held ∧ ¬ (other.number = connection.number ∧ board.isOver other.number) := by
  have same : other.number = connection.number ∧ board.isOver other.number ↔
      other.number = connection.number ∧ board.isOver connection.number :=
    and_congr_right fun same => by rw [same]
  rw [same, pollOne_board]
  cases ended : board.isOver connection.number with
  | false => simp
  | true => simp [evict]

end

/-! ## All connections -/

section

variable {board : Switchboard} {connections : List Connection}

/-- Whether another connection is over is not changed by a read from this one. -/
lemma pollOne_other (connection : Connection) {number : Nat} (other : number ≠ connection.number) :
    (board.pollOne connection).2.sockets[number]? = board.sockets[number]? := by
  rw [pollOne_socket, if_neg other]

/-- To poll connections one after the other brings the frames that their sockets offer. -/
lemma pollEach_frames (distinct : (connections.map (·.number)).Nodup) :
    (board.pollEach connections).1 = connections.filterMap board.frameOf := by
  induction connections generalizing board with
  | nil => rfl
  | cons connection others ih =>
    rw [List.map_cons, List.nodup_cons] at distinct
    have same : ∀ other ∈ others,
        (board.pollOne connection).2.frameOf other = board.frameOf other := by
      intro other mem
      rw [frameOf, pollOne_other, frameOf]
      rintro twice
      exact distinct.1 (twice ▸ List.mem_map_of_mem mem)
    rw [pollEach]
    dsimp only
    rw [ih distinct.2, List.filterMap_congr same, pollOne_frame]
    cases read : board.frameOf connection with
    | none => rw [List.filterMap_cons_none read, Option.toList_none, List.nil_append]
    | some frame => rw [List.filterMap_cons_some read]; rfl

/-- To poll connections one after the other reads from their sockets, and from no others. -/
lemma pollEach_socket (distinct : (connections.map (·.number)).Nodup) (number : Nat) :
    (board.pollEach connections).2.sockets[number]? =
      if number ∈ connections.map (·.number) then board.sockets[number]?.map (·.polled)
      else board.sockets[number]? := by
  induction connections generalizing board with
  | nil => rfl
  | cons connection others ih =>
    rw [List.map_cons, List.nodup_cons] at distinct
    rw [pollEach]
    dsimp only
    rw [ih distinct.2, pollOne_socket, List.map_cons]
    by_cases same : number = connection.number
    · rw [if_neg (same ▸ distinct.1), if_pos same, if_pos (same ▸ List.mem_cons_self)]
    · simp [same]

/-- To poll connections one after the other lets go of those that are over, and of no others. -/
lemma mem_pollEach_held (distinct : (connections.map (·.number)).Nodup) {other : Connection} :
    other ∈ (board.pollEach connections).2.held ↔
      other ∈ board.held ∧
        ¬ (other.number ∈ connections.map (·.number) ∧ board.isOver other.number) := by
  induction connections generalizing board with
  | nil => simp [pollEach]
  | cons connection others ih =>
    rw [List.map_cons, List.nodup_cons] at distinct
    rw [pollEach]
    dsimp only
    rw [ih distinct.2, mem_pollOne_held, List.map_cons, List.mem_cons]
    by_cases same : other.number = connection.number
    · have single : other.number ∉ others.map (·.number) := same ▸ distinct.1
      simp [same, distinct.1]
    · have ended : (board.pollOne connection).2.isOver other.number =
          board.isOver other.number := by
        rw [isOver, pollOne_other connection same, isOver]
      simp [same, ended]

end

/-! ## Those that are held -/

section

variable {board : Switchboard}

/-- A poll brings the frames that the sockets of all connections offer. -/
lemma poll_frames (distinct : board.numbers.Nodup) :
    board.poll.1 = board.held.filterMap board.frameOf :=
  pollEach_frames distinct

/-- A poll reads from the sockets of the connections that are held, and from no others. -/
lemma poll_socket (distinct : board.numbers.Nodup) (number : Nat) :
    board.poll.2.sockets[number]? =
      if number ∈ board.numbers then board.sockets[number]?.map (·.polled)
      else board.sockets[number]? :=
  pollEach_socket distinct number

/-- A poll lets go of the connections that are over, and of no others. -/
lemma mem_poll_held (distinct : board.numbers.Nodup) {connection : Connection} :
    connection ∈ board.poll.2.held ↔
      connection ∈ board.held ∧ ¬ board.isOver connection.number := by
  rw [poll, mem_pollEach_held distinct]
  refine and_congr_right fun held => not_congr (and_iff_right ?_)
  exact List.mem_map_of_mem held

end

end Switchboard

end HeatingHub
