import HeatingHub.Proofs.Hub.Request
import HeatingHub.Proofs.Hub.Traffic

/-!
# Torn frames

A socket may refuse at any byte of a reply, and then a torn frame is the last thing that its
connection takes. Whoever holds the connection knows nothing of that; it is the hub that lets go of
the connection when the reply fails (`Answered`), and never writes to one that it does not hold
(`act_of_gone`). So a connection takes the replies that are delivered on it one after the other, each
of them whole, and behind them a part of one reply at most (`nothing_behind_torn`).
-/

namespace HeatingHub

open Socket (writtenAt)

/-- The connections that an act brings. -/
def Act.sockets : Act → List Socket
  | .connects socket _ _ => [socket]
  | _ => []

namespace Switchboard

/-- Nothing is written to a connection that is not held. -/
lemma send_of_gone {board : Switchboard} {number : Nat} (gone : number ∉ board.numbers)
    (bytes : List UInt8) :
    board.send number bytes = (.error (.connectionGone number), board) := by
  have none : board.holds number = false := by
    rw [holds, List.any_eq_false]
    intro connection held same
    exact gone (List.mem_map.2 ⟨connection, held, beq_iff_eq.1 same⟩)
  rw [send, none]

/-- A send succeeds exactly if the connection has taken all the bytes. -/
lemma send_isOk_iff (board : Switchboard) (number : Nat) {bytes : List UInt8} (some : bytes ≠ []) :
    (board.send number bytes).1.isOk ↔
      writtenAt (board.send number bytes).2.sockets number =
        writtenAt board.sockets number ++ bytes := by
  obtain ⟨-, -, part, taken, written⟩ := board.send_sends number some
  rw [written number, if_pos rfl, List.append_cancel_left_eq]
  exact taken.whole.symm

end Switchboard

namespace Hub

/-- The frames that were delivered on a connection, oldest first. -/
def framesOn (hub : Hub) (number : Nat) : List (List UInt8) :=
  (hub.replies.filter fun reply => reply.connection = number ∧ reply.delivered).map (·.bytes)

/-- A reply on this connection has failed, of which the connection has taken this part and no more,
and it is not held any longer. -/
structure Torn (hub : Hub) (number : Nat) (part : List UInt8) : Prop where
  given : number < hub.board.sockets.length
  gone : number ∉ hub.board.numbers
  begins : ∃ reply ∈ hub.replies, reply.connection = number ∧ reply.delivered = false ∧
    part <+: reply.bytes ∧ part ≠ reply.bytes

/-- What an act does to the connections: nothing is written to any of them, or one more is accepted,
or one request is answered, where nothing is written unless its connection is held. -/
inductive Exchanges (hub : Hub) : List Socket → Hub → Prop
  | quiet {next : Hub} (id : next.id = hub.id) (replies : next.replies = hub.replies)
      (quiet : hub.board.Quiet next.board) : Exchanges hub [] next
  | connects (socket : Socket) (peer : Option String) (now : Nat) :
      Exchanges hub [socket] { hub with board := (hub.board.accept socket peer now).2 }
  | answers {next : Hub} {wall : Int} {frame : Inbound} {delivered : Bool} {part : List UInt8}
      (answered : Answered wall hub frame delivered part next)
      (gone : frame.connection ∉ hub.board.numbers → part = []) : Exchanges hub [] next

/-! ## One act -/

/-- A frame from a connection that is not held has nothing written to any connection. -/
lemma handleFrame_of_gone {hub : Hub} {frame : Inbound}
    (gone : frame.connection ∉ hub.board.numbers) (now : Nat) (wall : Int) (number : Nat) :
    writtenAt (hub.handleFrame now wall frame).board.sockets number =
      writtenAt hub.board.sockets number := by
  by_cases request : Frame.IsRequest frame.bytes
  · rw [← hub.board.touch_numbers frame.connection now] at gone
    rw [hub.handleFrame_of_isRequest now wall request, sendReply]
    dsimp only
    rw [Switchboard.send_of_gone gone]
    rfl
  · rw [hub.handleFrame_of_other now wall request]

/-- To handle a frame answers a request on its connection, or does nothing to the connections. -/
lemma handleFrame_exchanges (hub : Hub) (now : Nat) (wall : Int) (frame : Inbound) :
    hub.Exchanges [] (hub.handleFrame now wall frame) := by
  by_cases request : Frame.IsRequest frame.bytes
  · obtain ⟨delivered, part, answered⟩ := hub.handleFrame_answered now wall request
    refine .answers answered fun gone => ?_
    have written := answered.written frame.connection
    rw [handleFrame_of_gone gone, if_pos rfl] at written
    exact List.append_right_eq_self.1 written.symm
  · rw [hub.handleFrame_of_other now wall request]
    exact .quiet rfl rfl (.refl _)

/-- Every act is an exchange with the connections. -/
lemma act_exchanges (hub : Hub) (act : Act) : hub.Exchanges act.sockets (hub.act act) := by
  cases act with
  | connects socket peer now => exact .connects socket peer now
  | device number deed =>
    have silent (socket : Socket) : (deed.apply socket).written = socket.written := by
      cases deed <;> rfl
    exact .quiet rfl rfl (hub.board.peerDoes_quiet number silent)
  | polls => exact .quiet rfl rfl (hub.board.pollEach_quiet hub.board.held)
  | handles frame now wall => exact hub.handleFrame_exchanges now wall frame
  | obeys =>
    have rest : hub.obeyNext.id = hub.id ∧ hub.obeyNext.replies = hub.replies ∧
        hub.obeyNext.board = hub.board := by
      rw [obeyNext, Inbox.pop]
      cases hub.inbox.waiting <;> exact ⟨rfl, rfl, rfl⟩
    obtain ⟨id, replies, board⟩ := rest
    exact .quiet id replies (board ▸ .refl _)
  | sweepsStale now =>
    refine .quiet rfl rfl ?_
    rw [Hub.act, Watch.staleDuty]
    dsimp only
    split
    · exact hub.board.sweepStale_quiet now Watch.maxIdle
    · exact .refl _
  | _ => exact .quiet rfl rfl (.refl _)

/-- A connection that is no longer held is never held again, and nothing more is written to it. -/
lemma act_of_gone {hub : Hub} {number : Nat} (given : number < hub.board.sockets.length)
    (gone : number ∉ hub.board.numbers) (act : Act) :
    number < (hub.act act).board.sockets.length ∧ number ∉ (hub.act act).board.numbers ∧
      writtenAt (hub.act act).board.sockets number = writtenAt hub.board.sockets number := by
  have exchanges := hub.act_exchanges act
  generalize hub.act act = next, act.sockets = sockets at exchanges
  cases exchanges with
  | quiet id replies quiet =>
    exact ⟨quiet.length ▸ given, fun held => gone (quiet.numbers.subset held),
      quiet.written number⟩
  | connects socket peer now =>
    refine ⟨?_, fun held => ?_, Socket.writtenAt_append_left given⟩
    · exact Nat.lt_of_lt_of_le given (List.length_append ▸ Nat.le_add_right _ _)
    · obtain ⟨connection, mem, rfl⟩ := List.mem_map.1 held
      obtain old | new := List.mem_append.1 mem
      · exact gone (List.mem_map_of_mem old)
      · rw [List.mem_singleton.1 new] at given
        exact Nat.lt_irrefl _ given
  | answers answered none =>
    refine ⟨answered.length ▸ given, fun still => gone (answered.sublist.subset still), ?_⟩
    rw [answered.written]
    split
    · next same => rw [none (same ▸ gone), List.append_nil]
    · exact List.append_nil _

/-- A connection that was let go stays so, and nothing more is written to it. -/
lemma perform_of_gone {hub : Hub} {number : Nat} (given : number < hub.board.sockets.length)
    (gone : number ∉ hub.board.numbers) (acts : List Act) :
    number ∉ (hub.perform acts).board.numbers ∧
      writtenAt (hub.perform acts).board.sockets number = writtenAt hub.board.sockets number := by
  induction acts generalizing hub with
  | nil => exact ⟨gone, rfl⟩
  | cons act acts ih =>
    obtain ⟨given, gone, written⟩ := act_of_gone given gone act
    obtain ⟨last, whole⟩ := ih given gone
    exact ⟨last, whole.trans written⟩

/-! ## Whole frames -/

/-- Every reply is a frame of the hub with this id, and each of these connections has taken the ones
that were delivered on it since it came, and behind them a torn one at most. -/
structure Framed (hub : Hub) (id : DeviceId) (sockets : List Socket) : Prop where
  sender : hub.id = id
  length : hub.board.sockets.length = sockets.length
  replies : ∀ reply ∈ hub.replies, ∃ counter mode,
    reply.bytes = Message.encodeReply id counter mode
  written (number : Nat) : ∃ part, (part = [] ∨ hub.Torn number part) ∧
    writtenAt hub.board.sockets number =
      writtenAt sockets number ++ (hub.framesOn number).flatten ++ part

section

variable {hub next : Hub} {id : DeviceId} {sockets : List Socket} {number : Nat}
  {part : List UInt8}

/-- A torn connection stays so while it is not held. -/
lemma Torn.grow (torn : hub.Torn number part) {more : List Reply}
    (replies : next.replies = hub.replies ++ more)
    (given : number < next.board.sockets.length) (gone : number ∉ next.board.numbers) :
    next.Torn number part where
  given := given
  gone := gone
  begins := by
    obtain ⟨reply, mem, begins⟩ := torn.begins
    exact ⟨reply, replies ▸ List.mem_append_left _ mem, begins⟩

/-- A reply that is delivered is a whole frame more on its connection. -/
lemma framesOn_of_answered {wall : Int} {frame : Inbound} {delivered : Bool}
    (answered : Answered wall hub frame delivered part next) (number : Nat) :
    next.framesOn number = hub.framesOn number ++
      if frame.connection = number ∧ delivered then [(hub.replyTo frame delivered).bytes]
      else [] := by
  rw [framesOn, answered.replies, List.filter_append, List.map_append, framesOn]
  congr 1
  by_cases whole : frame.connection = number ∧ delivered
  · simp [replyTo, whole]
  · rw [if_neg whole, List.map_eq_nil_iff, List.filter_eq_nil_iff]
    intro reply mem
    rw [List.mem_singleton.1 mem]
    exact mt of_decide_eq_true whole

/-- What was torn before a request was answered is torn after it. -/
lemma Torn.of_answered {wall : Int} {frame : Inbound} {delivered : Bool} {torn : List UInt8}
    (before : hub.Torn number torn) (answered : Answered wall hub frame delivered part next) :
    next.Torn number torn :=
  before.grow answered.replies (answered.length ▸ before.given) fun held =>
    before.gone (answered.sublist.subset held)

/-- A quiet change without replies keeps all that is written framed. -/
lemma Framed.quiet (framed : hub.Framed id sockets) (same : next.id = hub.id)
    (replies : next.replies = hub.replies) (quiet : hub.board.Quiet next.board) :
    next.Framed id sockets where
  sender := same.trans framed.sender
  length := quiet.length.trans framed.length
  replies := by
    rw [replies]
    exact framed.replies
  written number := by
    obtain ⟨part, torn, written⟩ := framed.written number
    refine ⟨part, torn.imp_right fun torn => ?_, ?_⟩
    · exact torn.grow (replies.trans (List.append_nil _).symm) (quiet.length ▸ torn.given)
        fun held => torn.gone (quiet.numbers.subset held)
    · rw [quiet.written, written, framesOn, framesOn, replies]

/-- A connection that is accepted has taken nothing from the hub. -/
lemma Framed.connects (framed : hub.Framed id sockets) (socket : Socket) (peer : Option String)
    (now : Nat) :
    { hub with board := (hub.board.accept socket peer now).2 }.Framed id
      (sockets ++ [socket]) where
  sender := framed.sender
  length := by
    rw [List.length_append, ← framed.length]
    exact List.length_append
  replies := framed.replies
  written number := by
    obtain ⟨part, torn, written⟩ := framed.written number
    by_cases inside : number < hub.board.sockets.length
    · refine ⟨part, torn.imp_right fun torn => ?_, ?_⟩
      · obtain ⟨given, gone, -⟩ := act_of_gone torn.given torn.gone (.connects socket peer now)
        exact torn.grow (List.append_nil _).symm given gone
      · refine (Socket.writtenAt_append_left inside).trans (written.trans ?_)
        rw [Socket.writtenAt_append_left (framed.length ▸ inside)]
        rfl
    · have outside := Nat.le_of_not_lt inside
      have outside' : sockets.length ≤ number := framed.length ▸ outside
      rw [Socket.writtenAt_of_le outside, Socket.writtenAt_of_le outside', List.nil_append]
        at written
      refine ⟨[], .inl rfl, (Socket.writtenAt_append_right outside).trans ?_⟩
      have same : { hub with board := (hub.board.accept socket peer now).2 }.framesOn number =
          hub.framesOn number := rfl
      obtain ⟨frames, -⟩ := List.append_eq_nil_iff.1 written.symm
      rw [same, frames, Socket.writtenAt_append_right outside', framed.length, List.append_nil,
        List.append_nil]

/-- A connection takes a whole frame more, or what it has taken of the last one is torn off, and
then it was not held before or is no longer held. -/
lemma torn_of_answered {wall : Int} {frame : Inbound} {delivered : Bool} {torn : List UInt8}
    (answered : Answered wall hub frame delivered part next)
    (none : frame.connection ∉ hub.board.numbers → part = [])
    (before : torn = [] ∨ hub.Torn frame.connection torn) :
    delivered ∧ torn = [] ∧ part = (hub.replyTo frame delivered).bytes ∨
      delivered = false ∧ (torn ++ part = [] ∨ next.Torn frame.connection (torn ++ part)) := by
  have filled : (hub.replyTo frame delivered).bytes ≠ [] :=
    List.ne_nil_of_length_eq_add_one (Message.length_encodeReply _ _ _)
  obtain rfl | torn := before
  · cases delivered with
    | true => exact .inl ⟨rfl, rfl, answered.taken.whole.2 rfl⟩
    | false =>
      refine .inr ⟨rfl, ?_⟩
      rw [List.nil_append]
      by_cases nothing : part = []
      · exact .inl nothing
      · refine .inr ⟨?_, answered.gone, ?_⟩
        -- Only a connection that was accepted can have taken something.
        · by_contra outside
          have written := answered.written frame.connection
          rw [Socket.writtenAt_of_le (Nat.le_of_not_lt outside), if_pos rfl] at written
          exact nothing (List.append_eq_nil_iff.1 written.symm).2
        · refine ⟨_, answered.replies ▸ List.mem_append_right _ List.mem_cons_self, rfl, rfl,
            answered.taken.begins, fun whole => ?_⟩
          exact Bool.false_ne_true (answered.taken.whole.1 whole)
  · -- The connection is gone, so that nothing is written to it.
    have nothing := none torn.gone
    cases delivered with
    | true => exact absurd ((answered.taken.whole.2 rfl).symm.trans nothing) filled
    | false =>
      rw [nothing, List.append_nil]
      exact .inr ⟨rfl, .inr (torn.of_answered answered)⟩

/-- An answer to a request keeps all that is written framed, be it delivered or torn. -/
lemma Framed.answers {wall : Int} {frame : Inbound} {delivered : Bool}
    (framed : hub.Framed id sockets) (answered : Answered wall hub frame delivered part next)
    (none : frame.connection ∉ hub.board.numbers → part = []) : next.Framed id sockets where
  sender := answered.id.trans framed.sender
  length := answered.length.trans framed.length
  replies := by
    intro reply mem
    rw [answered.replies, List.mem_append, List.mem_singleton] at mem
    obtain old | rfl := mem
    · exact framed.replies reply old
    · exact framed.sender ▸ ⟨_, _, rfl⟩
  written number := by
    obtain ⟨torn, before, written⟩ := framed.written number
    rw [answered.written, written, framesOn_of_answered answered]
    by_cases own : number = frame.connection
    · subst own
      obtain ⟨rfl, rfl, rfl⟩ | ⟨rfl, after⟩ := torn_of_answered answered none before
      · refine ⟨[], .inl rfl, ?_⟩
        simp
      · refine ⟨_, after, ?_⟩
        simp
    · refine ⟨torn, before.imp_right fun torn => torn.of_answered answered, ?_⟩
      rw [if_neg own, if_neg fun both => own both.1.symm, List.append_nil, List.append_nil]

/-- Whatever an act does to the connections keeps all that is written framed. -/
lemma Framed.exchanges {more : List Socket} (framed : hub.Framed id sockets)
    (exchanges : hub.Exchanges more next) : next.Framed id (sockets ++ more) := by
  cases exchanges with
  | quiet same replies quiet =>
    exact (List.append_nil sockets).symm ▸ framed.quiet same replies quiet
  | connects socket peer now => exact framed.connects socket peer now
  | answers answered none => exact (List.append_nil sockets).symm ▸ framed.answers answered none

/-- Acts keep all that is written framed. -/
lemma Framed.perform (framed : hub.Framed id sockets) (acts : List Act) :
    (hub.perform acts).Framed id (sockets ++ acts.flatMap (·.sockets)) := by
  induction acts generalizing hub sockets with
  | nil => exact (List.append_nil sockets).symm ▸ framed
  | cons act acts ih =>
    rw [List.flatMap_cons, ← List.append_assoc]
    exact ih (framed.exchanges (hub.act_exchanges act))

end

/-- A hub that starts has written nothing. -/
lemma start_framed (id : DeviceId) (pin : String) (surroundings : Station) (counter : UInt64)
    (now : Nat) : (start id pin surroundings counter now).Framed id [] where
  sender := rfl
  length := rfl
  replies := nofun
  written _ := ⟨[], .inl rfl, rfl⟩

/-- The connection of a reply that failed is let go. -/
lemma gone_of_failed {hub : Hub} {frame : Inbound} {now : Nat} {wall : Int}
    (failed : (hub.act (.handles frame now wall)).replies =
      hub.replies ++ [hub.replyTo frame false]) :
    frame.connection ∉ (hub.act (.handles frame now wall)).board.numbers := by
  rw [Hub.act] at failed ⊢
  by_cases request : Frame.IsRequest frame.bytes
  · obtain ⟨delivered, part, answered⟩ := hub.handleFrame_answered now wall request
    rw [answered.replies, List.append_cancel_left_eq, List.singleton_inj] at failed
    obtain rfl : delivered = false := congrArg Reply.delivered failed
    exact answered.gone
  · rw [hub.handleFrame_of_other now wall request] at failed
    exact absurd (List.append_right_eq_self.1 failed.symm) (List.cons_ne_nil _ _)

/-- However the sockets answer, what a connection has taken since it came are whole replies, each of
them the one frame that was made for it, and behind these a part of one more reply at most, which
failed. A reply that fails makes the hub let go of its connection; and nothing more is ever written
to a connection that is not held. A send succeeds exactly if all its bytes are taken. -/
theorem nothing_behind_torn (id : DeviceId) (pin : String) (surroundings : Station)
    (counter : UInt64) (now : Nat) (acts : List Act) (number : Nat) :
    let hub := (start id pin surroundings counter now).perform acts
    (∃ part, (part = [] ∨ hub.Torn number part) ∧
      writtenAt hub.board.sockets number =
        writtenAt (acts.flatMap (·.sockets)) number ++ (hub.framesOn number).flatten ++ part) ∧
    (∀ frame ∈ hub.framesOn number, frame.length = Frame.size ∧
      ∃ counter mode, frame = Message.encodeReply id counter mode) ∧
    (∀ (frame : Inbound) (now : Nat) (wall : Int),
      (hub.act (.handles frame now wall)).replies = hub.replies ++ [hub.replyTo frame false] →
        frame.connection ∉ (hub.act (.handles frame now wall)).board.numbers) ∧
    (number < hub.board.sockets.length → number ∉ hub.board.numbers → ∀ later,
      number ∉ (hub.perform later).board.numbers ∧
        writtenAt (hub.perform later).board.sockets number =
          writtenAt hub.board.sockets number) ∧
    ∀ (board : Switchboard) (bytes : List UInt8), bytes ≠ [] →
      ((board.send number bytes).1.isOk ↔
        writtenAt (board.send number bytes).2.sockets number =
          writtenAt board.sockets number ++ bytes) := by
  intro hub
  have framed := (start_framed id pin surroundings counter now).perform acts
  refine ⟨framed.written number, fun frame mem => ?_, fun frame now wall failed =>
    gone_of_failed failed, fun given gone later => perform_of_gone given gone later,
    fun board bytes some => board.send_isOk_iff number some⟩
  obtain ⟨reply, sent, rfl⟩ := List.mem_map.1 mem
  obtain ⟨counter', mode, bytes⟩ := framed.replies reply (List.mem_of_mem_filter sent)
  rw [bytes]
  exact ⟨Message.length_encodeReply _ _ _, counter', mode, rfl⟩

/-- A device asks twice, and the connection takes ten bytes of the second reply before it blocks;
then it is let go, and a third reply is not written. -/
theorem nothing_behind_torn_of_blocked :
    let first := start (.ofNat 1) "1234" (.fresh .missing) 0 0
    let question : Inbound :=
      { connection := 0, peer := none, bytes := Message.encodeRequest (.ofNat 7) 1 none }
    let socket : Socket := { answers := [.takes 64, .takes 10, .interrupted, .fails .wouldBlock] }
    let acts : List Act := [.connects socket none 0, .handles question 0 0]
    let blocked := (first.perform acts).act (.handles question 0 0)
    let reply (counter : UInt64) := Message.encodeReply (.ofNat 1) counter .safe
    writtenAt blocked.board.sockets 0 = reply 0 ++ (reply 1).take 10 ∧ 0 ∉ blocked.board.numbers ∧
      writtenAt (blocked.act (.handles question 0 0)).board.sockets 0 =
        reply 0 ++ (reply 1).take 10 ∧
      ((first.perform acts).board.send 0 (reply 1)).1.isOk = false := by
  intro first question socket acts blocked reply
  obtain ⟨-, -, failing, -, sends⟩ :=
    nothing_behind_torn (.ofNat 1) "1234" (.fresh .missing) 0 0 acts 0
  obtain ⟨-, -, -, silent, -⟩ :=
    nothing_behind_torn (.ofNat 1) "1234" (.fresh .missing) 0 0 (acts ++ [.handles question 0 0]) 0
  have same : ((start (.ofNat 1) "1234" (.fresh .missing) 0 0).perform acts).act
      (.handles question 0 0) = blocked := rfl
  rw [perform_concat, same] at silent
  have torn : writtenAt blocked.board.sockets 0 = reply 0 ++ (reply 1).take 10 := by
    decide +kernel
  have gone : 0 ∉ blocked.board.numbers := failing question 0 0 (by decide +kernel)
  have given : 0 < blocked.board.sockets.length := by decide +kernel
  obtain ⟨-, last⟩ := silent given gone [.handles question 0 0]
  rw [perform, List.foldl_cons, List.foldl_nil] at last
  refine ⟨torn, gone, last.trans torn, ?_⟩
  have part : writtenAt ((first.perform acts).board.send 0 (reply 1)).2.sockets 0 ≠
      writtenAt (first.perform acts).board.sockets 0 ++ reply 1 := by decide +kernel
  have sent := sends (first.perform acts).board (reply 1) (by decide +kernel)
  exact (Bool.not_eq_true _).mp (mt sent.1 part)

end Hub

end HeatingHub
