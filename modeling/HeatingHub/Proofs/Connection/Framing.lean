import HeatingHub.Proofs.Connection.Operation

/-!
# Frames out of a stream of bytes

A device sends a stream of bytes, and each poll takes at most a frame's length of it. As long as the
device sends whole frames, they come out as they were sent (`frames_of_writes`). A piece of a frame
that has come alone is thrown away by the next poll, and from then on the same holds again. When the
device has finished, each poll takes one of the frames that are left, and only a poll that finds
none lets the connection go (`frames_of_closed`).
-/

namespace HeatingHub

/-! ## Pieces -/

namespace Frame

/-- Of no bytes there is nothing to cut. -/
@[simp]
lemma cut_nil : cut [] = [] := by
  rw [cut, if_pos List.isEmpty_nil]

/-- The first piece of some bytes is as long as a frame, if there are enough. -/
lemma cut_of_ne_nil {bytes : List UInt8} (some : bytes ≠ []) :
    cut bytes = bytes.take size :: cut (bytes.drop size) := by
  rw [cut, if_neg (mt List.isEmpty_iff.1 some)]

/-- Whole frames are no shorter than one, unless there are none. -/
lemma size_le_of_whole {bytes : List UInt8} (whole : size ∣ bytes.length) (some : bytes ≠ []) :
    size ≤ bytes.length :=
  Nat.le_of_dvd (List.length_pos_iff.2 some) whole

/-- Whole frames less the first one are whole frames. -/
lemma whole_drop {bytes : List UInt8} (whole : size ∣ bytes.length) :
    size ∣ (bytes.drop size).length := by
  rw [List.length_drop]
  exact Nat.dvd_sub whole (Nat.dvd_refl size)

/-- What comes after whole frames is cut on its own. -/
lemma cut_append {bytes : List UInt8} (whole : size ∣ bytes.length) (more : List UInt8) :
    cut (bytes ++ more) = cut bytes ++ cut more := by
  induction bytes using cut.induct with
  | case1 bytes empty =>
    rw [List.isEmpty_iff.1 empty]
    simp
  | case2 bytes some ih =>
    have some := mt List.isEmpty_iff.2 some
    have long := size_le_of_whole whole some
    rw [cut_of_ne_nil (List.append_ne_nil_of_left_ne_nil some more), cut_of_ne_nil some,
      List.take_append_of_le_length long, List.drop_append_of_le_length long, ih (whole_drop whole)]
    rfl

end Frame

/-- What an operation makes the peer of a connection write. -/
def Operation.writes (number : Nat) : Operation → Option (List UInt8)
  | .device other (.sends bytes) => if other = number then some bytes else none
  | _ => none

namespace Switchboard

/-- The bytes that have arrived at a connection and are not yet read. -/
def pendingOf (board : Switchboard) (number : Nat) : List UInt8 :=
  (board.sockets[number]?.map (·.pending)).getD []

/-- The peer of a connection sends no more. -/
def isClosed (board : Switchboard) (number : Nat) : Bool :=
  board.sockets[number]?.any (·.ending ≠ .open)

/-- The frames that an operation brings from a connection. -/
def brings (board : Switchboard) (number : Nat) : Operation → List (List UInt8)
  | .polls => (board.poll.1.filter (·.connection = number)).map (·.bytes)
  | _ => []

/-- The frames that come from a connection in operations one after the other. -/
def framesFrom (board : Switchboard) (number : Nat) : List Operation → List (List UInt8)
  | [] => []
  | operation :: rest =>
    board.brings number operation ++ (board.after operation).framesFrom number rest

/-! ## One operation -/

section

variable {board : Switchboard} {number : Nat}

/-- A connection is over when all is read and its peer sends no more. -/
lemma isOver_iff : board.isOver number ↔ board.pendingOf number = [] ∧ board.isClosed number := by
  cases found : board.sockets[number]? with
  | none => simp [isOver, isClosed, found]
  | some socket => simp [isOver, pendingOf, isClosed, found, Socket.isOver_iff]

/-- The frame of a connection is a frame from its own number only. -/
lemma frameOf_number (connection : Connection) :
    ((board.frameOf connection).toList.filter (·.connection = number)).map (·.bytes) =
      if connection.number = number then (board.sockets[number]?.bind (·.frame?)).toList
      else [] := by
  split
  · next same =>
    subst same
    cases read : board.sockets[connection.number]?.bind (·.frame?) <;> simp [frameOf, read]
  · next other =>
    cases read : board.sockets[connection.number]?.bind (·.frame?) <;> simp [frameOf, read, other]

/-- Of all frames that are read, those from a number are the one of its connection, if any. -/
lemma filterMap_frameOf {connections : List Connection}
    (distinct : (connections.map (·.number)).Nodup) :
    ((connections.filterMap board.frameOf).filter (·.connection = number)).map (·.bytes) =
      if number ∈ connections.map (·.number) then
        (board.sockets[number]?.bind (·.frame?)).toList
      else [] := by
  induction connections with
  | nil => rfl
  | cons connection others ih =>
    rw [List.map_cons, List.nodup_cons] at distinct
    have first : (connection :: others).filterMap board.frameOf =
        (board.frameOf connection).toList ++ others.filterMap board.frameOf := by
      cases read : board.frameOf connection <;> simp [read]
    rw [first, List.filter_append, List.map_append, frameOf_number, ih distinct.2, List.map_cons]
    by_cases same : connection.number = number
    · subst same
      simp [distinct.1]
    · simp [same, Ne.symm same]

/-- The frame that a connection offers: the first bytes of what is pending, if they are enough. -/
lemma bind_frame : board.sockets[number]?.bind (·.frame?) =
    if Frame.size ≤ (board.pendingOf number).length then
      some ((board.pendingOf number).take Frame.size)
    else none := by
  cases found : board.sockets[number]? with
  | none =>
    rw [pendingOf, found]
    rfl
  | some socket => simp [pendingOf, found, Socket.frame?]

/-- A poll brings the next frame of a connection that is held, if enough bytes have arrived. -/
lemma brings_polls (distinct : board.numbers.Nodup) :
    board.brings number .polls =
      if number ∈ board.numbers ∧ Frame.size ≤ (board.pendingOf number).length then
        [(board.pendingOf number).take Frame.size]
      else [] := by
  rw [brings, poll_frames distinct]
  refine (filterMap_frameOf distinct).trans ?_
  rw [bind_frame, ← numbers]
  by_cases held : number ∈ board.numbers
  · by_cases long : Frame.size ≤ (board.pendingOf number).length <;> simp [held, long]
  · simp [held]

/-- A poll takes a frame, or what there is of it, from the bytes pending at a connection that is
held. -/
lemma pendingOf_polls (distinct : board.numbers.Nodup) :
    (board.after .polls).pendingOf number =
      if number ∈ board.numbers then (board.pendingOf number).drop Frame.size
      else board.pendingOf number := by
  rw [pendingOf, after, poll_socket distinct, pendingOf]
  split
  · cases board.sockets[number]? with
    | none => rfl
    | some socket => rfl
  · rfl

/-- A send changes nothing about what there is to read. -/
lemma send_socket {socket : Socket} (found : board.sockets[number]? = some socket)
    (receiver : Nat) (bytes : List UInt8) :
    ∃ next, (board.send receiver bytes).2.sockets[number]? = some next ∧
      next.pending = socket.pending ∧ next.ending = socket.ending := by
  rw [send]
  split
  · next there =>
    by_cases same : receiver = number
    · subst same
      cases there.symm.trans found
      have inside := (List.getElem?_eq_some_iff.1 found).1
      exact ⟨_, List.getElem?_set_self inside, Socket.write_stream _ bytes⟩
    · exact ⟨socket, (List.getElem?_set_ne same).trans found, rfl, rfl⟩
  · exact ⟨socket, found, rfl, rfl⟩

/-- Nothing but a poll takes from what has arrived, and a peer that has finished does not begin
again. -/
lemma socket_after {socket : Socket} (found : board.sockets[number]? = some socket)
    {operation : Operation} (other : operation ≠ .polls) :
    ∃ next, (board.after operation).sockets[number]? = some next ∧
      next.pending = socket.pending ++ (operation.writes number).getD [] ∧
      (socket.ending ≠ .open → next.ending ≠ .open) := by
  -- Most operations leave the socket as it is.
  have stays (silent : operation.writes number = none)
      (same : (board.after operation).sockets[number]? = some socket) :
      ∃ next, (board.after operation).sockets[number]? = some next ∧
        next.pending = socket.pending ++ (operation.writes number).getD [] ∧
        (socket.ending ≠ .open → next.ending ≠ .open) :=
    ⟨socket, same, by simp [silent], id⟩
  cases operation with
  | accepts fresh peer now =>
    have inside := (List.getElem?_eq_some_iff.1 found).1
    exact stays rfl ((List.getElem?_append_left inside).trans found)
  | device doer deed =>
    have modified : (board.after (.device doer deed)).sockets[number]? =
        some (if doer = number then deed.apply socket else socket) := by
      simp only [after, peerDoes, List.getElem?_modify, found]
      split <;> rfl
    by_cases same : doer = number
    · rw [if_pos same] at modified
      refine ⟨_, modified, ?_⟩
      cases deed <;> simp [Operation.writes, same, Deed.apply, Socket.receive, Socket.finish,
        Socket.reset]
    · rw [if_neg same] at modified
      refine stays ?_ modified
      cases deed <;> simp [Operation.writes, same]
  | sends receiver bytes =>
    obtain ⟨next, found', pending, ending⟩ := send_socket found receiver bytes
    refine ⟨next, found', ?_, ?_⟩
    · rw [pending]
      exact (List.append_nil _).symm
    · rw [ending]
      exact id
  | touches toucher now => exact stays rfl found
  | sweepsStale now maxIdle => exact stays rfl found
  | evicts gone => exact stays rfl found
  | closesAll => exact stays rfl found
  | polls => exact absurd rfl other

/-- Nothing but a poll takes from what is pending, and only the peer adds to it. -/
lemma pendingOf_after (given : number < board.sockets.length) {operation : Operation}
    (other : operation ≠ .polls) :
    (board.after operation).pendingOf number =
      board.pendingOf number ++ (operation.writes number).getD [] := by
  have found := List.getElem?_eq_getElem given
  obtain ⟨next, found', pending, -⟩ := socket_after found other
  simp [pendingOf, found, found', pending]

/-- A peer that has finished stays so. -/
lemma isClosed_after (distinct : board.numbers.Nodup) (closed : board.isClosed number)
    (operation : Operation) : (board.after operation).isClosed number := by
  obtain ⟨socket, found, ending⟩ := (Option.any_eq_true _ _).1 closed
  by_cases polls : operation = .polls
  · subst polls
    rw [isClosed, after, poll_socket distinct, found]
    split <;> exact ending
  · obtain ⟨next, found', -, stays⟩ := socket_after found polls
    simpa [isClosed, found'] using stays (by simpa using ending)

end

/-! ## Operations -/

section

variable {board : Switchboard} {number : Nat}

/-- A number that was given to a connection stays given. -/
lemma given_after (given : number < board.sockets.length) (operation : Operation) :
    number < (board.after operation).sockets.length := by
  have length := board.length_after operation
  cases operation with
  | accepts socket peer now => exact length ▸ Nat.lt_succ_of_lt given
  | _ => exact length ▸ given

/-- Nothing but a poll brings frames. -/
lemma brings_of_ne {operation : Operation} (other : operation ≠ .polls) :
    board.brings number operation = [] := by
  cases operation <;> simp [brings] at other ⊢

/-- The frames that an operation brings, and the pieces of what it leaves, are the pieces of what
was there and of what it makes the peer write. -/
lemma brings_cut (ordered : board.Ordered) (given : number < board.sockets.length)
    (operation : Operation) (whole : Frame.size ∣ (board.pendingOf number).length) :
    board.brings number operation ++ Frame.cut ((board.after operation).pendingOf number) =
      Frame.cut (board.pendingOf number) ++
        (operation.writes number).toList.flatMap Frame.cut := by
  by_cases polls : operation = .polls
  · subst polls
    have silent : Operation.writes number .polls = none := rfl
    rw [brings_polls ordered.nodup, pendingOf_polls ordered.nodup, silent]
    by_cases held : number ∈ board.numbers
    · by_cases nothing : board.pendingOf number = []
      · have short : ¬ Frame.size ≤ 0 := by decide
        simp [nothing, short]
      · have long := Frame.size_le_of_whole whole nothing
        simp [held, long, Frame.cut_of_ne_nil nothing]
    · simp [held]
  · rw [brings_of_ne polls, pendingOf_after given polls, Frame.cut_append whole]
    cases operation.writes number <;> simp

/-- While the peer writes whole frames, whole frames are pending. -/
lemma whole_after (ordered : board.Ordered) (given : number < board.sockets.length)
    {operation : Operation} (whole : Frame.size ∣ (board.pendingOf number).length)
    (writes : ∀ bytes ∈ operation.writes number, Frame.size ∣ bytes.length) :
    Frame.size ∣ ((board.after operation).pendingOf number).length := by
  by_cases polls : operation = .polls
  · subst polls
    rw [pendingOf_polls ordered.nodup]
    split
    · exact Frame.whole_drop whole
    · exact whole
  · rw [pendingOf_after given polls, List.length_append]
    refine Nat.dvd_add whole ?_
    cases written : operation.writes number with
    | none => simp
    | some bytes => exact writes bytes written

/-- As long as the peer writes whole frames, they come out in their order, and what has not come out
is pending. -/
theorem frames_of_writes (ordered : board.Ordered) (given : number < board.sockets.length)
    {operations : List Operation}
    (writes : ∀ bytes ∈ operations.filterMap (·.writes number), Frame.size ∣ bytes.length)
    (whole : Frame.size ∣ (board.pendingOf number).length) :
    board.framesFrom number operations ++
        Frame.cut ((board.operate operations).pendingOf number) =
      Frame.cut (board.pendingOf number) ++
        (operations.filterMap (·.writes number)).flatMap Frame.cut := by
  induction operations generalizing board with
  | nil => simp [framesFrom, operate]
  | cons operation rest ih =>
    have first : (operation :: rest).filterMap (·.writes number) =
        (operation.writes number).toList ++ rest.filterMap (·.writes number) := by
      cases written : operation.writes number <;> simp [written]
    rw [first] at writes ⊢
    have rest := ih (ordered.after operation) (given_after given operation)
      (fun bytes mem => writes bytes (List.mem_append_right _ mem))
      (whole_after ordered given whole fun bytes mem =>
        writes bytes (List.mem_append_left _ (Option.mem_toList.2 mem)))
    rw [framesFrom, operate, List.foldl_cons, ← operate, List.append_assoc, rest,
      ← List.append_assoc, brings_cut ordered given operation whole, List.flatMap_append,
      List.append_assoc]

/-! ## The end of the stream -/

/-- Nothing comes from a connection that is no longer held. -/
lemma frames_of_gone (ordered : board.Ordered) (given : number < board.sockets.length)
    (gone : number ∉ board.numbers) (operations : List Operation) :
    board.framesFrom number operations = [] ∧ number ∉ (board.operate operations).numbers := by
  induction operations generalizing board with
  | nil => exact ⟨rfl, gone⟩
  | cons operation rest ih =>
    have still : number ∉ (board.after operation).numbers := by
      rw [mem_after_numbers ordered]
      rintro (⟨held, -⟩ | ⟨socket, peer, now, -, rfl⟩)
      · exact gone held
      · exact Nat.lt_irrefl _ given
    have nothing : board.brings number operation = [] := by
      by_cases polls : operation = .polls
      · rw [polls, brings_polls ordered.nodup, if_neg fun both => gone both.1]
      · exact brings_of_ne polls
    obtain ⟨none, last⟩ := ih (ordered.after operation) (given_after given operation) still
    exact ⟨by rw [framesFrom, nothing, none, List.append_nil], last⟩

/-- Nothing but a poll lets go of the connection, and its peer writes nothing. -/
def Undisturbed (board : Switchboard) (number : Nat) (operations : List Operation) : Prop :=
  ∀ earlier operation later, operations = earlier ++ operation :: later →
    operation.writes number = none ∧
      (operation ≠ .polls → ¬ (board.operate earlier).Removes number operation)

/-- After the first operation the rest leaves the connection undisturbed. -/
lemma Undisturbed.tail {operation : Operation} {rest : List Operation}
    (undisturbed : board.Undisturbed number (operation :: rest)) :
    (board.after operation).Undisturbed number rest := by
  intro earlier next later split
  exact undisturbed (operation :: earlier) next later (congrArg _ split)

/-- The number of polls among operations. -/
def polls (operations : List Operation) : Nat :=
  operations.countP (· matches .polls)

/-- When the peer has finished, each poll brings one of the frames that are left, and the connection
is held until a poll finds nothing. -/
theorem frames_of_closed (ordered : board.Ordered) (held : number ∈ board.numbers)
    (closed : board.isClosed number) {operations : List Operation}
    (undisturbed : board.Undisturbed number operations) :
    board.framesFrom number operations =
        ((Frame.cut (board.pendingOf number)).take (polls operations)).filter
          (·.length = Frame.size) ∧
      (number ∈ (board.operate operations).numbers ↔
        polls operations ≤ (Frame.cut (board.pendingOf number)).length) := by
  induction operations generalizing board with
  | nil => simp [framesFrom, polls, operate, held]
  | cons operation rest ih =>
    have given := ordered.given number held
    have ordered' := ordered.after operation
    have closed' := isClosed_after ordered.nodup closed operation
    obtain ⟨silent, spared⟩ := undisturbed [] operation rest rfl
    -- As long as it is held, the rest goes as it does from the next switchboard on.
    have goes (stays : ¬ board.Removes number operation) :=
      ih ordered' ((mem_after_numbers ordered).2 (.inl ⟨held, stays⟩)) closed' undisturbed.tail
    rw [framesFrom, operate, List.foldl_cons, ← operate]
    by_cases polling : operation = .polls
    · subst polling
      have count : polls (.polls :: rest) = polls rest + 1 := List.countP_cons_of_pos rfl
      rw [count, brings_polls ordered.nodup]
      by_cases nothing : board.pendingOf number = []
      · have gone : number ∉ (board.after .polls).numbers := by
          rw [mem_after_numbers ordered]
          rintro (⟨-, stays⟩ | ⟨_, _, _, impossible, -⟩)
          · exact stays (.ended (isOver_iff.2 ⟨nothing, closed⟩))
          · cases impossible
        obtain ⟨none, last⟩ := frames_of_gone ordered' (given_after given _) gone rest
        have short : ¬ Frame.size ≤ 0 := by decide
        simp [nothing, short, none, last]
      · have stays : ¬ board.Removes number .polls := by
          rintro ⟨ended⟩
          exact nothing (isOver_iff.1 ended).1
        obtain ⟨frames, last⟩ := goes stays
        rw [frames, last, pendingOf_polls ordered.nodup, if_pos held, Frame.cut_of_ne_nil nothing]
        by_cases long : Frame.size ≤ (board.pendingOf number).length
        · simp [held, long]
        · have part : min Frame.size (board.pendingOf number).length ≠ Frame.size := by omega
          simp [long, part]
    · obtain ⟨frames, last⟩ := goes (spared polling)
      have count : polls (operation :: rest) = polls rest :=
        List.countP_cons_of_neg (by cases operation <;> simp at polling ⊢)
      rw [brings_of_ne polling, count, frames, last, pendingOf_after given polling, silent]
      simp

/-! ## The stream of a connection -/

/-- Whatever else is done to the switchboard, and whenever it is polled: if the peer of a connection
writes whole frames, they come out one for one and in their order, and those that have not come out
are pending. When the peer has finished, each poll brings the next of the whole frames that are
left, and only a poll that finds nothing lets the connection go. A poll that finds less than a frame
throws it away and lets nothing go; if the peer writes whole frames from then on, they come out as
if nothing had been written before. -/
theorem stream_framed (earlier : List Operation) (number : Nat) (later : List Operation) :
    let board := ({} : Switchboard).operate earlier
    let writes := later.filterMap (·.writes number)
    let pending := board.pendingOf number
    (number < board.sockets.length → Frame.size ∣ pending.length →
      (∀ bytes ∈ writes, Frame.size ∣ bytes.length) →
      board.framesFrom number later ++ Frame.cut ((board.operate later).pendingOf number) =
        Frame.cut pending ++ writes.flatMap Frame.cut) ∧
    (number ∈ board.numbers → board.isClosed number → board.Undisturbed number later →
      board.framesFrom number later =
        ((Frame.cut pending).take (polls later)).filter (·.length = Frame.size) ∧
      (number ∈ (board.operate later).numbers ↔ polls later ≤ (Frame.cut pending).length)) ∧
    (number ∈ board.numbers → 0 < pending.length → pending.length < Frame.size →
      let next := board.poll.2
      board.brings number .polls = [] ∧ next.pendingOf number = [] ∧ number ∈ next.numbers ∧
      ((∀ bytes ∈ writes, Frame.size ∣ bytes.length) →
        next.framesFrom number later ++ Frame.cut ((next.operate later).pendingOf number) =
          writes.flatMap Frame.cut)) := by
  intro board writes pending
  have ordered : board.Ordered := ordered_empty.operate earlier
  refine ⟨fun given whole wholes => frames_of_writes ordered given wholes whole,
    fun held closed => frames_of_closed ordered held closed, fun held some short => ?_⟩
  intro next
  have given := ordered.given number held
  have taken : next.pendingOf number = [] := by
    refine (pendingOf_polls ordered.nodup).trans ?_
    rw [if_pos held]
    exact List.drop_eq_nil_of_le (Nat.le_of_lt short)
  -- The poll takes the remnant away, so that later frames begin afresh.
  refine ⟨?_, taken, ?_, fun wholes => ?_⟩
  · rw [brings_polls ordered.nodup, if_neg fun both => Nat.not_le.2 short both.2]
  · have stays : ¬ board.Removes number .polls := by
      rintro ⟨ended⟩
      exact List.ne_nil_of_length_pos some (isOver_iff.1 ended).1
    have held' : number ∈ (board.after .polls).numbers :=
      (mem_after_numbers ordered).2 (.inl ⟨held, stays⟩)
    exact held'
  · have whole : Frame.size ∣ (next.pendingOf number).length := by simp [taken]
    have frames := frames_of_writes (ordered.after .polls) (given_after given .polls) wholes whole
    have nothing : Frame.cut ((board.after .polls).pendingOf number) = [] :=
      (congrArg Frame.cut taken).trans Frame.cut_nil
    rw [nothing] at frames
    exact frames

/-- A device sends three frames in two writes. If part of a frame was pending before, the first poll
throws it away and the frames come out all the same. If the device has finished instead after two of
them, the connection is held for as many polls. -/
theorem stream_framed_of_remnant :
    let frame (number : Nat) := Message.encodeRequest (.ofNat number) 1 none
    let sends (bytes : List UInt8) : Operation := .device 0 (.sends bytes)
    let three := [sends (frame 1 ++ frame 2), .polls, sends (frame 3)]
    let fresh := [Operation.accepts {} none 0]
    let board := ({} : Switchboard).operate fresh
    let torn := ({} : Switchboard).operate (fresh ++ [sends [1, 2, 3]])
    let next := torn.poll.2
    let closed := ({} : Switchboard).operate
      (fresh ++ [sends (frame 1 ++ frame 2), .device 0 .finishes])
    board.framesFrom 0 three ++ Frame.cut ((board.operate three).pendingOf 0) =
        [frame 1, frame 2, frame 3] ∧
      torn.brings 0 .polls = [] ∧ 0 ∈ next.numbers ∧
      next.framesFrom 0 three ++ Frame.cut ((next.operate three).pendingOf 0) =
        [frame 1, frame 2, frame 3] ∧
      closed.framesFrom 0 (.replicate 3 .polls) = [frame 1, frame 2] ∧
      0 ∉ (closed.operate (.replicate 3 .polls)).numbers := by
  intro frame sends three fresh board torn next closed
  have written : (three.filterMap (·.writes 0)).flatMap Frame.cut = [frame 1, frame 2, frame 3] := by
    decide +kernel
  have whole : ∀ bytes ∈ three.filterMap (·.writes 0), Frame.size ∣ bytes.length := by
    decide +kernel
  have polling : closed.Undisturbed 0 (.replicate 3 .polls) := by
    intro earlier operation later split
    have mem : operation ∈ List.replicate 3 Operation.polls := by simp [split]
    rw [List.eq_of_mem_replicate mem]
    exact ⟨rfl, fun other => absurd rfl other⟩
  obtain ⟨frames, -, -⟩ := stream_framed fresh 0 three
  obtain ⟨-, -, remnant⟩ := stream_framed (fresh ++ [sends [1, 2, 3]]) 0 three
  obtain ⟨nothing, -, held, again⟩ :=
    remnant (by decide +kernel) (by decide +kernel) (by decide +kernel)
  obtain ⟨-, last, -⟩ := stream_framed
    (fresh ++ [sends (frame 1 ++ frame 2), .device 0 .finishes]) 0 (.replicate 3 .polls)
  obtain ⟨left, gone⟩ := last (by decide +kernel) (by decide +kernel) polling
  refine ⟨?_, nothing, held, (again whole).trans written, ?_, ?_⟩
  · refine (frames (by decide +kernel) (by decide +kernel) whole).trans ?_
    rw [written]
    decide +kernel
  · refine left.trans ?_
    decide +kernel
  · exact mt gone.1 (by decide +kernel)

end

end Switchboard

end HeatingHub
