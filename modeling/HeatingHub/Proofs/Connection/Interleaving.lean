import HeatingHub.Proofs.Connection.Operation
import Mathlib.Data.List.Induction

/-!
# Polls among other operations

Several threads work at one switchboard. Most operations are made at a stretch, but a poll is not:
it takes down which connections are held, then reads from one after the other, and lets each one go
that it finds over in a stretch of its own. Anything may be done between its stretches, so that it
works from a list that grows old (`Exchange`).

The list does no harm. A poll has only to do with connections that were held when it began
(`begun_run`), numbers are never given out again (`issued_run`), and a poll that nothing comes
between is the poll of the switchboard (`run_proceeds`). So a connection is held until something is
aimed at it (`held_until_removed`).
-/

namespace HeatingHub

/-- A poll that a thread has begun. -/
structure Poll where
  /-- The connections that it has still to read from, as they were when it began. -/
  waiting : List Connection
  /-- The number of the connection that it has found over and has still to let go. -/
  leaving : Option Nat := none
  /-- The frames that it has read so far. -/
  frames : List Inbound := []

/-- A switchboard with the polls that were ever begun on it, by number. -/
structure Exchange where
  board : Switchboard := {}
  polls : List Poll := []

/-- What a thread does at a stretch: an operation, or a part of a poll. -/
inductive Stretch
  | whole (operation : Operation)
  /-- A poll takes down the connections that are held. -/
  | begins
  /-- The poll with this number goes on: it lets go of the connection that it has found over, or
  else it reads from the next one. -/
  | proceeds (poll : Nat)

namespace Poll

/-- The poll and the switchboard after the next stretch. A read does not let go of the connection
yet. -/
def proceed (poll : Poll) (board : Switchboard) : Poll × Switchboard :=
  match poll.leaving, poll.waiting with
  | some number, _ => ({ poll with leaving := none }, board.evict number)
  | none, [] => (poll, board)
  | none, connection :: waiting =>
    let (frame, read) := board.pollOne connection
    ({ waiting
       leaving := if board.isOver connection.number then some connection.number else none
       frames := poll.frames ++ frame.toList },
      { board with sockets := read.sockets })

/-- The connections that a poll has a frame of, is about to let go, or has still to read from. -/
def numbers (poll : Poll) : List Nat :=
  poll.frames.map (·.connection) ++ (poll.leaving.toList ++ poll.waiting.map (·.number))

/-- The poll is about to read from the connection with this number. -/
def Reads (poll : Poll) (number : Nat) : Prop :=
  poll.leaving = none ∧ ∃ connection waiting, poll.waiting = connection :: waiting ∧
    connection.number = number

end Poll

namespace Exchange

/-- The exchange after a stretch. -/
def after (exchange : Exchange) : Stretch → Exchange
  | .whole operation => { exchange with board := exchange.board.after operation }
  | .begins => { exchange with polls := exchange.polls ++ [{ waiting := exchange.board.held }] }
  | .proceeds number =>
    match exchange.polls[number]? with
    | none => exchange
    | some poll =>
      let (poll, board) := poll.proceed exchange.board
      { board, polls := exchange.polls.set number poll }

/-- The exchange after stretches of any threads one after the other. -/
def run (exchange : Exchange) (stretches : List Stretch) : Exchange :=
  stretches.foldl after exchange

/-- A stretch lets go of the connection with this number: it is an operation that does, or it is the
one that comes in a poll after this connection was found over. -/
inductive Removes (exchange : Exchange) (number : Nat) : Stretch → Prop
  | whole {operation : Operation} (removes : exchange.board.Removes number operation) :
      Removes exchange number (.whole operation)
  | found {index : Nat} {poll : Poll} (begun : exchange.polls[index]? = some poll)
      (leaving : poll.leaving = some number) : Removes exchange number (.proceeds index)

/-- A stretch accepts the connection with this number. -/
def Accepts (exchange : Exchange) (number : Nat) (stretch : Stretch) : Prop :=
  ∃ operation, stretch = .whole operation ∧ exchange.board.Accepts number operation

/-- The number that a stretch gives out. -/
def issues (exchange : Exchange) : Stretch → Option Nat
  | .whole (.accepts socket peer now) => some (exchange.board.accept socket peer now).1
  | _ => none

/-- Nothing is read from the connection with this number in a stretch, and it is held afterwards
exactly as it was before. -/
structure Spares (exchange : Exchange) (number : Nat) (stretch : Stretch) : Prop where
  socket : (exchange.after stretch).board.sockets[number]? = exchange.board.sockets[number]?
  held (connection : Connection) (same : connection.number = number) :
    connection ∈ (exchange.after stretch).board.held ↔ connection ∈ exchange.board.held

/-- The numbers that stretches give out which come one after the other. -/
def issued (exchange : Exchange) : List Stretch → List Nat
  | [] => []
  | stretch :: rest => (exchange.issues stretch).toList ++ (exchange.after stretch).issued rest

end Exchange

/-! ## The stretches of a poll -/

namespace Poll

variable {poll : Poll} {board : Switchboard}

/-- A poll never turns to a connection that it had not to do with before, or twice to the same. -/
lemma proceed_numbers : (poll.proceed board).1.numbers.Sublist poll.numbers := by
  obtain ⟨waiting, leaving, frames⟩ := poll
  cases leaving with
  | some number => exact (List.sublist_cons_self _ _).append_left _
  | none =>
    cases waiting with
    | nil => exact .refl _
    | cons connection waiting =>
      simp only [proceed, numbers, Switchboard.pollOne_frame, List.map_append, List.append_assoc,
        Option.toList_none, List.nil_append, List.map_cons]
      refine List.Sublist.append_left ?_ _
      -- What was read is a frame, or the connection was found over, or neither of them.
      split
      · next ended => simp [Switchboard.frameOf_of_isOver ended]
      · rw [Switchboard.frameOf]
        cases board.sockets[connection.number]?.bind (·.frame?) with
        | none => exact List.sublist_cons_self _ _
        | some bytes => exact .refl _

/-- A step of a poll is quiet. -/
lemma proceed_quiet : board.Quiet (poll.proceed board).2 := by
  obtain ⟨waiting, leaving, frames⟩ := poll
  cases leaving with
  | some number => exact board.evict_quiet number
  | none =>
    cases waiting with
    | nil => exact .refl _
    | cons connection waiting =>
      have quiet := board.pollOne_quiet connection
      exact ⟨.refl _, quiet.length, quiet.written⟩

/-- A poll lets go of nothing but the connection that it has found over. -/
lemma mem_proceed_numbers {number : Nat} :
    number ∈ (poll.proceed board).2.numbers ↔
      number ∈ board.numbers ∧ poll.leaving ≠ some number := by
  obtain ⟨waiting, leaving, frames⟩ := poll
  cases leaving with
  | some other =>
    have evicted : (proceed ⟨waiting, some other, frames⟩ board).2 = board.evict other := rfl
    rw [evicted, Switchboard.evict_numbers, List.mem_filter, bne_iff_ne]
    exact and_congr_right fun _ => not_congr (eq_comm.trans Option.some_inj.symm)
  | none =>
    have kept : (proceed ⟨waiting, none, frames⟩ board).2.numbers = board.numbers := by
      cases waiting <;> rfl
    rw [kept, and_iff_left nofun]

/-- What a poll finds over is what it has just read from. -/
lemma reads_of_leaving {number : Nat} (leaving : (poll.proceed board).1.leaving = some number) :
    poll.Reads number ∧ board.isOver number := by
  obtain ⟨waiting, left, frames⟩ := poll
  cases left with
  | some other => cases leaving
  | none =>
    cases waiting with
    | nil => cases leaving
    | cons connection waiting =>
      have chosen : (if board.isOver connection.number then some connection.number else none) =
          some number := leaving
      split at chosen
      · next ended =>
        cases chosen
        exact ⟨⟨rfl, connection, waiting, rfl, rfl⟩, ended⟩
      · cases chosen

/-- A connection that a poll has nothing to do with is left alone by it. -/
lemma proceed_other (poll : Poll) (board : Switchboard) {number : Nat}
    (other : number ∉ poll.numbers) :
    (poll.proceed board).2.sockets[number]? = board.sockets[number]? ∧
      ∀ connection : Connection, connection.number = number →
        (connection ∈ (poll.proceed board).2.held ↔ connection ∈ board.held) := by
  obtain ⟨waiting, leaving, frames⟩ := poll
  cases leaving with
  | some found =>
    refine ⟨rfl, fun connection same => ?_⟩
    have apart : number ≠ found := by
      rintro rfl
      simp [numbers] at other
    have evicted : (proceed ⟨waiting, some found, frames⟩ board).2.held =
        board.held.filter (·.number != found) := rfl
    rw [evicted, List.mem_filter, same, bne_iff_ne, and_iff_left apart]
  | none =>
    cases waiting with
    | nil => exact ⟨rfl, fun _ _ => .rfl⟩
    | cons connection waiting =>
      have apart : number ≠ connection.number := by
        rintro rfl
        simp [numbers] at other
      exact ⟨Switchboard.pollOne_other connection apart, fun _ _ => .rfl⟩

end Poll

/-! ## Stretches -/

namespace Exchange

/-- Two rows of stretches one after the other are one row. -/
lemma run_append (exchange : Exchange) (first rest : List Stretch) :
    exchange.run (first ++ rest) = (exchange.run first).run rest :=
  List.foldl_append

/-- A stretch of a poll that has begun is a step of this poll. -/
lemma after_proceeds {exchange : Exchange} {index : Nat} {poll : Poll}
    (begun : exchange.polls[index]? = some poll) :
    exchange.after (.proceeds index) =
      { board := (poll.proceed exchange.board).2
        polls := exchange.polls.set index (poll.proceed exchange.board).1 } := by
  rw [after, begun]

/-- A stretch of one poll leaves all other polls as they are. -/
lemma polls_after_proceeds {exchange : Exchange} {number : Nat} {poll : Poll}
    (begun : exchange.polls[number]? = some poll) (other : Nat) :
    (exchange.after (.proceeds number)).polls[other]? =
      if other = number then some (poll.proceed exchange.board).1 else exchange.polls[other]? := by
  rw [after_proceeds begun, List.getElem?_set]
  split
  · next same =>
    rw [if_pos (List.getElem?_eq_some_iff.1 begun).1, if_pos same.symm]
  · next apart => rw [if_neg (Ne.symm apart)]

/-- A stretch keeps the connections in the order of their numbers. -/
lemma after_ordered {exchange : Exchange} (ordered : exchange.board.Ordered)
    (stretch : Stretch) : (exchange.after stretch).board.Ordered := by
  cases stretch with
  | whole operation => exact ordered.after operation
  | begins => exact ordered
  | proceeds index =>
    cases begun : exchange.polls[index]? with
    | none =>
      rw [after, begun]
      exact ordered
    | some poll =>
      have quiet : exchange.board.Quiet (poll.proceed exchange.board).2 := poll.proceed_quiet
      rw [after_proceeds begun]
      exact ordered.sublist quiet.numbers quiet.length

/-- After any stretches the connections are held in the order of their numbers. -/
lemma run_ordered (stretches : List Stretch) : (({} : Exchange).run stretches).board.Ordered := by
  induction stretches using List.reverseRecOn with
  | nil => exact Switchboard.ordered_empty
  | append_singleton stretches stretch ih =>
    rw [run_append]
    exact after_ordered ih stretch

/-- A connection is held after a stretch exactly if it was held before, and the stretch is not aimed
at it, or if the stretch accepts it. -/
theorem mem_after_numbers {exchange : Exchange} (ordered : exchange.board.Ordered)
    {number : Nat} {stretch : Stretch} :
    number ∈ (exchange.after stretch).board.numbers ↔
      number ∈ exchange.board.numbers ∧ ¬ exchange.Removes number stretch ∨
        exchange.Accepts number stretch := by
  cases stretch with
  | whole operation =>
    have removes : exchange.Removes number (.whole operation) ↔
        exchange.board.Removes number operation :=
      ⟨fun | .whole removes => removes, .whole⟩
    have accepts : exchange.Accepts number (.whole operation) ↔
        exchange.board.Accepts number operation := by
      constructor
      · rintro ⟨_, ⟨⟩, accepts⟩
        exact accepts
      · exact fun accepts => ⟨operation, rfl, accepts⟩
    rw [removes, accepts]
    exact Switchboard.mem_after_numbers ordered
  | begins =>
    rw [or_iff_left nofun, and_iff_left nofun]
    rfl
  | proceeds index =>
    rw [or_iff_left nofun]
    cases begun : exchange.polls[index]? with
    | none =>
      rw [after, begun, and_iff_left]
      rintro (_ | ⟨found, _⟩)
      cases begun.symm.trans found
    | some poll =>
      have removes : exchange.Removes number (.proceeds index) ↔ poll.leaving = some number := by
        constructor
        · rintro (_ | ⟨found, leaving⟩)
          cases begun.symm.trans found
          exact leaving
        · exact .found begun
      rw [after_proceeds begun, removes]
      exact Poll.mem_proceed_numbers

/-- A connection that is no longer held after some stretches was let go by one of them. -/
lemma removed_of_run {exchange : Exchange} (ordered : exchange.board.Ordered) {number : Nat}
    (held : number ∈ exchange.board.numbers) {stretches : List Stretch}
    (gone : number ∉ (exchange.run stretches).board.numbers) :
    ∃ earlier stretch later, stretches = earlier ++ stretch :: later ∧
      (exchange.run earlier).Removes number stretch := by
  induction stretches generalizing exchange with
  | nil => exact absurd held gone
  | cons stretch rest ih =>
    by_cases stays : number ∈ (exchange.after stretch).board.numbers
    · obtain ⟨earlier, other, later, rfl, removes⟩ := ih (after_ordered ordered stretch) stays gone
      exact ⟨stretch :: earlier, other, later, rfl, removes⟩
    · refine ⟨[], stretch, rest, rfl, ?_⟩
      by_contra spared
      exact stays ((mem_after_numbers ordered).2 (.inl ⟨held, spared⟩))

/-- The numbers that are given out are all the numbers there are, in their order. -/
lemma issued_run (exchange : Exchange) (stretches : List Stretch) :
    List.range exchange.board.sockets.length ++ exchange.issued stretches =
      List.range (exchange.run stretches).board.sockets.length := by
  induction stretches generalizing exchange with
  | nil => exact List.append_nil _
  | cons stretch rest ih =>
    have given : List.range (exchange.after stretch).board.sockets.length =
        List.range exchange.board.sockets.length ++ (exchange.issues stretch).toList := by
      cases stretch with
      | whole operation =>
        have length := exchange.board.length_after operation
        cases operation with
        | accepts socket peer now => exact (congrArg List.range length).trans List.range_succ
        | _ => exact (congrArg List.range length).trans (List.append_nil _).symm
      | begins => exact (List.append_nil _).symm
      | proceeds index =>
        refine Eq.trans ?_ (List.append_nil _).symm
        cases begun : exchange.polls[index]? with
        | none => rw [after, begun]
        | some poll => rw [after_proceeds begun, poll.proceed_quiet.length]
    rw [issued, ← List.append_assoc, ← given, ih, run, run, List.foldl_cons]

/-! ## Polls -/

/-- The poll that began as the next one of `begun` has to do with no connection but those that were
held then. -/
def Bounded (begun exchange : Exchange) : Prop :=
  ∃ poll, exchange.polls[begun.polls.length]? = some poll ∧
    poll.numbers.Sublist begun.board.numbers

/-- Whatever stretch comes next, a poll has to do with no connection but those held when it
began. -/
lemma Bounded.after {begun exchange : Exchange} (bounded : Bounded begun exchange)
    (stretch : Stretch) : Bounded begun (exchange.after stretch) := by
  obtain ⟨poll, found, numbers⟩ := bounded
  cases stretch with
  | whole operation => exact ⟨poll, found, numbers⟩
  | begins =>
    have inside := (List.getElem?_eq_some_iff.1 found).1
    exact ⟨poll, (List.getElem?_append_left inside).trans found, numbers⟩
  | proceeds index =>
    cases other : exchange.polls[index]? with
    | none =>
      rw [Exchange.after, other]
      exact ⟨poll, found, numbers⟩
    | some next =>
      rw [Bounded, polls_after_proceeds other]
      split
      · next same =>
        rw [← same] at other
        cases other.symm.trans found
        exact ⟨_, rfl, Poll.proceed_numbers.trans numbers⟩
      · exact ⟨poll, found, numbers⟩

/-- Whatever comes between its stretches, a poll has to do with the connections that were held when
it began, and with no others. -/
lemma begun_run (begun : Exchange) (later : List Stretch) :
    Bounded begun ((begun.after .begins).run later) := by
  induction later using List.reverseRecOn with
  | nil => exact ⟨{ waiting := begun.board.held }, List.getElem?_concat_length, .refl _⟩
  | append_singleton later stretch ih =>
    rw [run_append]
    exact ih.after stretch

/-- What a poll is about to let go it has read from, and found over. -/
lemma found_of_leaving {stretches : List Stretch} {index number : Nat} {poll : Poll}
    (begun : (({} : Exchange).run stretches).polls[index]? = some poll)
    (leaving : poll.leaving = some number) :
    ∃ earlier later reading, stretches = earlier ++ .proceeds index :: later ∧
      (({} : Exchange).run earlier).polls[index]? = some reading ∧ reading.Reads number ∧
      (({} : Exchange).run earlier).board.isOver number := by
  induction stretches using List.reverseRecOn generalizing poll with
  | nil => cases begun
  | append_singleton stretches stretch ih =>
    -- It was found over in the last stretch, or before it.
    have before (old : (({} : Exchange).run stretches).polls[index]? = some poll) :
        ∃ earlier later reading, stretches ++ [stretch] = earlier ++ .proceeds index :: later ∧
          (({} : Exchange).run earlier).polls[index]? = some reading ∧ reading.Reads number ∧
          (({} : Exchange).run earlier).board.isOver number := by
      obtain ⟨earlier, later, reading, rfl, found⟩ := ih old leaving
      exact ⟨earlier, later ++ [stretch], reading, by simp, found⟩
    rw [run_append] at begun
    cases stretch with
    | whole operation => exact before begun
    | begins =>
      obtain inside | outside := Nat.lt_or_ge index (({} : Exchange).run stretches).polls.length
      · exact before ((List.getElem?_append_left inside).symm.trans begun)
      · have fresh := List.mem_of_getElem? ((List.getElem?_append_right outside).symm.trans begun)
        rw [List.mem_singleton.1 fresh] at leaving
        cases leaving
    | proceeds other =>
      cases found : (({} : Exchange).run stretches).polls[other]? with
      | none =>
        have same : (({} : Exchange).run stretches).after (.proceeds other) =
            ({} : Exchange).run stretches := by
          rw [after, found]
        exact before (same ▸ begun)
      | some reading =>
        have polls := polls_after_proceeds found index
        by_cases same : index = other
        · rw [if_pos same] at polls
          cases polls.symm.trans begun
          obtain ⟨reads, ended⟩ := Poll.reads_of_leaving leaving
          rw [← same] at found ⊢
          exact ⟨stretches, [], reading, rfl, found, reads, ended⟩
        · rw [if_neg same] at polls
          exact before (polls.symm.trans begun)

/-- A poll that nothing comes between is made in some stretches, and brings and leaves behind what a
poll of the switchboard does. -/
lemma run_proceeds (polls : List Poll) (poll : Poll) (board : Switchboard)
    (resting : poll.leaving = none) :
    ∃ count, run { board, polls := polls ++ [poll] } (.replicate count (.proceeds polls.length)) =
      { board := (board.pollEach poll.waiting).2
        polls := polls ++
          [{ waiting := [], frames := poll.frames ++ (board.pollEach poll.waiting).1 }] } := by
  obtain ⟨waiting, leaving, frames⟩ := poll
  cases resting
  induction waiting generalizing board frames with
  | nil =>
    refine ⟨0, ?_⟩
    rw [Switchboard.pollEach, List.append_nil]
    rfl
  | cons connection waiting ih =>
    have goes (board : Switchboard) (poll : Poll) :
        after { board, polls := polls ++ [poll] } (.proceeds polls.length) =
          { board := (poll.proceed board).2, polls := polls ++ [(poll.proceed board).1] } := by
      have found : ({ board, polls := polls ++ [poll] } : Exchange).polls[polls.length]? =
          some poll := List.getElem?_concat_length
      rw [after_proceeds found]
      simp
    obtain ⟨count, rest⟩ :=
      ih (board.pollOne connection).2 (frames ++ (board.pollOne connection).1.toList)
    rw [List.append_assoc] at rest
    have next := board.pollOne_board connection
    cases ended : board.isOver connection.number with
    | false =>
      rw [ended, if_neg Bool.false_ne_true] at next
      refine ⟨count + 1, ?_⟩
      rw [List.replicate_succ, run, List.foldl_cons, goes, ← run, Poll.proceed]
      simp only [ended, Bool.false_eq_true, if_false]
      rw [← next]
      exact rest
    | true =>
      -- It takes one more stretch to let go of the connection.
      rw [ended, if_pos rfl] at next
      refine ⟨count + 2, ?_⟩
      rw [List.replicate_succ, List.replicate_succ, run, List.foldl_cons, List.foldl_cons, goes,
        goes, ← run, Poll.proceed, Poll.proceed]
      simp only [ended, if_true]
      rw [← next]
      exact rest

/-- A poll that other stretches come between has nothing to do with a connection that was not held
when it began. -/
lemma spares_of_bounded {begun exchange : Exchange} (bounded : Bounded begun exchange) {number : Nat}
    (late : number ∉ begun.board.numbers) :
    ¬ exchange.Removes number (.proceeds begun.polls.length) ∧
      exchange.Spares number (.proceeds begun.polls.length) := by
  obtain ⟨poll, found, numbers⟩ := bounded
  have other : number ∉ poll.numbers := fun mem => late (numbers.subset mem)
  obtain ⟨socket, held⟩ := poll.proceed_other exchange.board other
  constructor
  · rintro (_ | ⟨same, leaving⟩)
    cases found.symm.trans same
    simp [Poll.numbers, leaving] at other
  · constructor
    · rw [after_proceeds found, socket]
    · rw [after_proceeds found]
      exact held

/-! ## Any threads -/

/-- Threads accept connections, poll them, touch them, send to them, sweep them and let them go, and
what they do is mixed in any order, also within a poll. The connections that are held are in the
order of their numbers, which have all been given out, none of them twice. From when it is accepted,
a connection is held until a stretch that is aimed at it, or at all; a poll aims only at what it has
read from itself and found over. A poll brings at most one frame of each connection, in their order,
and it neither reads from nor lets go a connection that was accepted after it began. With nothing in
between it is the poll of the switchboard. -/
theorem held_until_removed (stretches : List Stretch) :
    let first : Exchange := {}
    let exchange := first.run stretches
    exchange.board.numbers.Pairwise (· < ·) ∧
    (∀ number ∈ exchange.board.numbers, number < exchange.board.sockets.length) ∧
    first.issued stretches = List.range exchange.board.sockets.length ∧
    (∀ stretch number, number ∈ (exchange.after stretch).board.numbers ↔
      number ∈ exchange.board.numbers ∧ ¬ exchange.Removes number stretch ∨
        exchange.Accepts number stretch) ∧
    (∀ later, ∀ number ∈ exchange.board.numbers,
      number ∉ (exchange.run later).board.numbers →
      ∃ before stretch rest, later = before ++ stretch :: rest ∧
        (exchange.run before).Removes number stretch) ∧
    (∀ index poll number, exchange.polls[index]? = some poll → poll.leaving = some number →
      ∃ earlier later reading, stretches = earlier ++ .proceeds index :: later ∧
        (first.run earlier).polls[index]? = some reading ∧ reading.Reads number ∧
        (first.run earlier).board.isOver number) ∧
    (∀ later,
      let last := (exchange.after .begins).run later
      ∃ poll, last.polls[exchange.polls.length]? = some poll ∧
        (poll.frames.map (·.connection)).Sublist exchange.board.numbers ∧
        (poll.frames.map (·.connection)).Pairwise (· < ·) ∧
        ∀ number, exchange.board.sockets.length ≤ number →
          ¬ poll.Reads number ∧ ¬ last.Removes number (.proceeds exchange.polls.length) ∧
          last.Spares number (.proceeds exchange.polls.length)) ∧
    ∃ count, exchange.run (.begins :: .replicate count (.proceeds exchange.polls.length)) =
      { board := exchange.board.poll.2
        polls := exchange.polls ++ [{ waiting := [], frames := exchange.board.poll.1 }] } := by
  intro first exchange
  have ordered : exchange.board.Ordered := run_ordered stretches
  refine ⟨ordered.increasing, ordered.given, issued_run first stretches,
    fun _ _ => mem_after_numbers ordered, fun _ _ held gone => removed_of_run ordered held gone,
    fun _ _ _ => found_of_leaving, fun later => ?_,
    run_proceeds exchange.polls { waiting := exchange.board.held } exchange.board rfl⟩
  have bounded := begun_run exchange later
  obtain ⟨poll, found, numbers⟩ := id bounded
  have frames : (poll.frames.map (·.connection)).Sublist exchange.board.numbers :=
    (List.sublist_append_left _ _).trans numbers
  refine ⟨poll, found, frames, ordered.increasing.sublist frames, fun number late => ?_⟩
  have unknown : number ∉ exchange.board.numbers :=
    fun mem => Nat.not_lt.2 late (ordered.given number mem)
  refine ⟨?_, spares_of_bounded bounded unknown⟩
  rintro ⟨leaving, connection, waiting, next, rfl⟩
  refine unknown (numbers.subset ?_)
  simp [Poll.numbers, next]

/-- A connection is accepted while a poll is under way that finds another one over. The poll lets
go of that one only, and brings the frame of a third. -/
theorem held_until_removed_of_late :
    let accepts : Stretch := .whole (.accepts {} none 0)
    let bytes := Message.encodeRequest (.ofNat 7) 1 none
    let before := [accepts, accepts, .whole (.device 0 .finishes),
      .whole (.device 1 (.sends bytes))]
    let within := [accepts, .whole (.device 2 (.sends bytes)), .proceeds 0,
      .whole (.touches 1 5), .proceeds 0, .proceeds 0]
    let first : Exchange := {}
    let begun := first.run before
    let last := (begun.after .begins).run within
    begun.board.numbers = [0, 1] ∧ last.board.numbers = [1, 2] ∧
      last.polls.map (·.frames) = [[{ connection := 1, peer := none, bytes }]] ∧
      (∃ earlier stretch later, .begins :: within = earlier ++ stretch :: later ∧
        (begun.run earlier).Removes 0 stretch) ∧
      last.Spares 2 (.proceeds 0) := by
  intro accepts bytes before within first begun last
  have held : begun.board.numbers = [0, 1] := by decide +kernel
  have kept : last.board.numbers = [1, 2] := by decide +kernel
  obtain ⟨-, -, -, -, removed, -, late, -⟩ := held_until_removed before
  refine ⟨held, kept, by decide +kernel, removed (.begins :: within) 0 ?_ ?_, ?_⟩
  · rw [held]
    decide
  · have gone : 0 ∉ last.board.numbers := by
      rw [kept]
      decide
    exact gone
  · obtain ⟨_, -, -, -, spares⟩ := late within
    exact (spares 2 (by decide +kernel)).2.2

end Exchange

end HeatingHub
