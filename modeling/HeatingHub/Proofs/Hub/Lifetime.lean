import HeatingHub.Proofs.Connection.Operation
import HeatingHub.Proofs.Hub.Request
import HeatingHub.Proofs.Hub.Traffic
import HeatingHub.Proofs.Watch.Round
import Mathlib.Data.List.Induction

/-!
# How long a connection is held

A hub knows of each connection that it holds when it was last active: when it was accepted, or when
the last request from it was handled (`perform_active`). It lets go of a connection for three
reasons only (`act_loses`), of which the last is that it was idle for half an hour when the watch
swept. The watch sweeps a minute or more after its last sweep, as soon as it is asked. A connection
that was active within half an hour of a sweep has not been idle for much longer than that when the
watch is asked the next time (`Swept`), so that none is ever kept that has been idle for more than a
minute longer.
-/

namespace HeatingHub

/-- The time at which an act can show that a connection is active. -/
def Act.activeAt : Act → Option Nat
  | .connects _ _ now | .handles _ now _ => some now
  | _ => none

/-- The time of a sweep over the connections. -/
def Act.sweptAt : Act → Option Nat
  | .sweepsStale now => some now
  | _ => none

/-- The clock does not go back: no connection is accepted, and no frame is handled, at a time before
the start or before a sweep that has already been made. -/
structure Act.Steady (started : Nat) (acts : List Act) : Prop where
  start (act : Act) : act ∈ acts → ∀ now ∈ act.activeAt, started ≤ now
  sweeps : acts.Pairwise fun first next =>
    ∀ swept ∈ first.sweptAt, ∀ now ∈ next.activeAt, swept ≤ now

/-- The time that a happening tells. -/
def Happening.time : Happening → Option Nat
  | .connects _ _ now | .cycle now _ => some now
  | _ => none

namespace Hub

/-- The time at which an act shows that a connection is active: it is accepted, or a request from it
is handled. Other frames show nothing. -/
def activity (hub : Hub) (number : Nat) : Act → Option Nat
  | .connects socket peer now =>
    if (hub.board.accept socket peer now).1 = number then some now else none
  | .handles frame now _ =>
    if frame.connection = number ∧ Frame.IsRequest frame.bytes then some now else none
  | _ => none

/-- The times at which acts one after the other show that a connection is active. -/
def activities (hub : Hub) (number : Nat) : List Act → List Nat
  | [] => []
  | act :: rest => (hub.activity number act).toList ++ (hub.act act).activities number rest

/-- The time at which acts one after the other have last shown that a connection is active. -/
def lastActivity (hub : Hub) (number : Nat) (acts : List Act) : Option Nat :=
  (hub.activities number acts).getLast?

/-- An act makes the hub let go of a connection that was last seen active at this time: a poll finds
the end of its stream or fails to read from it, a reply on it fails, or a sweep finds that it has
been idle for half an hour. -/
inductive Loses (hub : Hub) (number seen : Nat) : Act → Prop
  | ended (ended : hub.board.isOver number) : Loses hub number seen .polls
  | unanswered {frame : Inbound} {now : Nat} {wall : Int}
      (request : Frame.IsRequest frame.bytes) (same : frame.connection = number)
      (failed : (hub.handleFrame now wall frame).replies =
        hub.replies ++ [hub.replyTo frame false]) :
      Loses hub number seen (.handles frame now wall)
  | idle {now : Nat} (idle : seen + Duration.minutes 30 ≤ now) :
      Loses hub number seen (.sweepsStale now)

/-! ## The switchboard of a hub -/

/-- To obey a message leaves the connections alone. -/
lemma obeyNext_board (hub : Hub) : hub.obeyNext.board = hub.board := by
  rw [obeyNext, Inbox.pop]
  cases hub.inbox.waiting <;> rfl

/-- A sweep that is due lets go of the idle connections, and another does nothing. -/
lemma act_sweepsStale_board (hub : Hub) (now : Nat) :
    (hub.act (.sweepsStale now)).board =
      if hub.watch.staleTimer.isDue now then hub.board.sweepStale now Watch.maxIdle
      else hub.board :=
  rfl

/-- The act of handling a frame is to handle it. -/
lemma act_handles (hub : Hub) (frame : Inbound) (now : Nat) (wall : Int) :
    hub.act (.handles frame now wall) = hub.handleFrame now wall frame :=
  rfl

/-- An act keeps the connections in the order of their numbers. -/
lemma act_ordered {hub : Hub} (ordered : hub.board.Ordered) (act : Act) :
    (hub.act act).board.Ordered := by
  cases act with
  | connects socket peer now => exact ordered.accept socket peer now
  | device number deed => exact ordered.after (.device number deed)
  | polls => exact ordered.after .polls
  | handles frame now wall =>
    by_cases request : Frame.IsRequest frame.bytes
    · obtain ⟨delivered, part, answered⟩ := hub.handleFrame_answered now wall request
      exact ordered.sublist answered.sublist answered.length
    · rwa [act_handles, hub.handleFrame_of_other now wall request]
  | obeys => rwa [Hub.act, obeyNext_board]
  | sweepsStale now =>
    rw [act_sweepsStale_board]
    split
    · exact ordered.after (.sweepsStale now Watch.maxIdle)
    · exact ordered
  | _ => exact ordered

/-- Which connections are held once a request is handled, and with which activity. -/
lemma mem_handleFrame_held {hub : Hub} {frame : Inbound} (request : Frame.IsRequest frame.bytes)
    {now : Nat} {wall : Int} {connection : Connection}
    (held : connection ∈ (hub.handleFrame now wall frame).board.held) :
    connection ∈ (hub.board.touch frame.connection now).held := by
  rw [hub.handleFrame_of_isRequest now wall request, sendReply] at held
  dsimp only at held
  split at held
  · rwa [Switchboard.send_held] at held
  · rw [Switchboard.evict, List.mem_filter, Switchboard.send_held] at held
    exact held.1

/-- A connection that is held after an act is one that the act shows to be active, or it was held
before in the same way. -/
theorem mem_act_held {hub : Hub} (ordered : hub.board.Ordered) {act : Act}
    {connection : Connection} (held : connection ∈ (hub.act act).board.held) :
    hub.activity connection.number act = some connection.lastActivity ∨
      connection ∈ hub.board.held ∧ hub.activity connection.number act = none := by
  cases act with
  | connects socket peer now =>
    -- The new connection has a number that no other one was given.
    obtain old | new := List.mem_append.1 held
    · refine .inr ⟨old, if_neg ?_⟩
      have given := ordered.given _ (List.mem_map_of_mem old)
      exact Nat.ne_of_gt given
    · rw [List.mem_singleton.1 new]
      exact .inl (if_pos rfl)
  | polls => exact .inr ⟨((Switchboard.mem_poll_held ordered.nodup).1 held).1, rfl⟩
  | handles frame now wall =>
    by_cases request : Frame.IsRequest frame.bytes
    · obtain ⟨old, mem, touched⟩ := List.mem_map.1 (mem_handleFrame_held request held)
      split at touched
      · next same =>
        subst touched
        exact .inl (if_pos ⟨same.symm, request⟩)
      · next apart =>
        subst touched
        exact .inr ⟨mem, if_neg fun both => apart both.1.symm⟩
    · rw [act_handles, hub.handleFrame_of_other now wall request] at held
      exact .inr ⟨held, if_neg fun both => request both.2⟩
  | obeys =>
    rw [Hub.act, obeyNext_board] at held
    exact .inr ⟨held, rfl⟩
  | sweepsStale now =>
    rw [act_sweepsStale_board] at held
    split at held
    · exact .inr ⟨(List.mem_filter.1 held).1, rfl⟩
    · exact .inr ⟨held, rfl⟩
  | _ => exact .inr ⟨held, rfl⟩

/-- An act that makes a hub let go of a connection has one of three reasons. -/
theorem act_loses {hub : Hub} (ordered : hub.board.Ordered) {act : Act} {connection : Connection}
    (held : connection ∈ hub.board.held)
    (gone : connection.number ∉ (hub.act act).board.numbers) :
    hub.Loses connection.number connection.lastActivity act := by
  have here : connection.number ∈ hub.board.numbers := List.mem_map_of_mem held
  cases act with
  | connects socket peer now =>
    refine absurd ?_ gone
    exact List.mem_map_of_mem (List.mem_append_left _ held)
  | polls =>
    by_contra stays
    refine gone ((Switchboard.mem_poll_numbers ordered).2 ⟨here, ?_⟩)
    rintro ⟨ended⟩
    exact stays (.ended ended)
  | handles frame now wall =>
    by_cases request : Frame.IsRequest frame.bytes
    · -- A reply that fails evicts its own connection, and one that succeeds evicts none.
      obtain ⟨delivered, part, answered⟩ := hub.handleFrame_answered now wall request
      rw [act_handles, answered.numbers] at gone
      cases delivered with
      | true => exact absurd here gone
      | false =>
        have same : connection.number = frame.connection := by
          by_contra apart
          exact gone (List.mem_filter.2 ⟨here, bne_iff_ne.2 apart⟩)
        exact .unanswered request same.symm answered.replies
    · rw [act_handles, hub.handleFrame_of_other now wall request] at gone
      exact absurd here gone
  | obeys =>
    rw [Hub.act, obeyNext_board] at gone
    exact absurd here gone
  | sweepsStale now =>
    rw [act_sweepsStale_board] at gone
    split at gone
    · by_contra stays
      refine gone ((Switchboard.mem_sweepStale_numbers ordered).2 ⟨here, ?_⟩)
      rintro (_ | ⟨other, same, idle⟩)
      rw [ordered.eq_of_number other held same] at idle
      refine stays (.idle ?_)
      simp only [Watch.maxIdle, Duration.minutes, Duration.seconds] at idle ⊢
      omega
    · exact absurd here gone
  | _ => exact absurd here gone

/-! ## Activity -/

/-- The time at which an act shows a connection active is a time of this act. -/
lemma activity_activeAt {hub : Hub} {number : Nat} {act : Act} {seen : Nat}
    (active : hub.activity number act = some seen) : seen ∈ act.activeAt := by
  cases act with
  | connects socket peer now =>
    rw [activity] at active
    split at active
    · exact active
    · cases active
  | handles frame now wall =>
    rw [activity] at active
    split at active
    · exact active
    · cases active
  | _ => cases active

/-- The last act shows its activity last. -/
lemma activities_concat (hub : Hub) (number : Nat) (acts : List Act) (act : Act) :
    hub.activities number (acts ++ [act]) =
      hub.activities number acts ++ ((hub.perform acts).activity number act).toList := by
  induction acts generalizing hub with
  | nil => simp [activities, perform]
  | cons first rest ih => simp [activities, perform, ih]

/-- A connection was last active in the last act, or else before it. -/
lemma lastActivity_concat (hub : Hub) (number : Nat) (acts : List Act) (act : Act) :
    hub.lastActivity number (acts ++ [act]) =
      ((hub.perform acts).activity number act).or (hub.lastActivity number acts) := by
  rw [lastActivity, activities_concat]
  cases (hub.perform acts).activity number act <;> simp [lastActivity]

/-- Acts keep the connections in the order of their numbers. -/
lemma perform_ordered {hub : Hub} (ordered : hub.board.Ordered) (acts : List Act) :
    (hub.perform acts).board.Ordered := by
  induction acts generalizing hub with
  | nil => exact ordered
  | cons act acts ih => exact ih (act_ordered ordered act)

/-- The hub knows when each connection that it holds was last active. -/
theorem perform_active {hub : Hub} (empty : hub.board.held = []) (ordered : hub.board.Ordered)
    (acts : List Act) {connection : Connection}
    (held : connection ∈ (hub.perform acts).board.held) :
    hub.lastActivity connection.number acts = some connection.lastActivity := by
  induction acts using List.reverseRecOn generalizing connection with
  | nil => simp [perform, empty] at held
  | append_singleton acts act ih =>
    rw [perform_concat] at held
    rw [lastActivity_concat]
    obtain active | ⟨before, none⟩ := mem_act_held (perform_ordered ordered acts) held
    · rw [active, Option.some_or]
    · rw [none, Option.none_or, ih before]

/-! ## Sweeps -/

/-- The watch has last swept at this time, or it started then. Every connection that is held has
been active less than half an hour before, or after that. -/
structure Swept (hub : Hub) (swept : Nat) : Prop where
  timer : hub.watch.staleTimer = .every Watch.stalePeriod swept
  recent (connection : Connection) : connection ∈ hub.board.held →
    swept < connection.lastActivity + Watch.maxIdle

/-- Only a sweep asks the timer of the sweeps. -/
lemma act_staleTimer (hub : Hub) {act : Act} (other : act.sweptAt = none) :
    (hub.act act).watch.staleTimer = hub.watch.staleTimer := by
  cases act with
  | handles frame now wall =>
    exact congrArg Watch.staleTimer (hub.handleFrame_handles now wall frame).watch
  | obeys =>
    rw [Hub.act, obeyNext, Inbox.pop]
    cases hub.inbox.waiting <;> rfl
  | checksLink now =>
    simp only [Hub.act, Watch.linkDuty]
    split
    · rw [Watch.checkLink_of_link rfl]
    · rfl
  | checksModem now =>
    simp only [Hub.act, Watch.modemDuty]
    split <;> rfl
  | checksDaemon now =>
    simp only [Hub.act, Watch.daemonDuty]
    split <;> rfl
  | sweepsStale now => cases other
  | _ => rfl

/-- An act other than a sweep that does not come before the last sweep. -/
lemma Swept.act {hub : Hub} {swept : Nat} (known : hub.Swept swept) (ordered : hub.board.Ordered)
    {act : Act} (other : act.sweptAt = none) (later : ∀ now ∈ act.activeAt, swept ≤ now) :
    (hub.act act).Swept swept where
  timer := (hub.act_staleTimer other).trans known.timer
  recent connection held := by
    obtain active | ⟨before, -⟩ := mem_act_held ordered held
    · have seen := later _ (activity_activeAt active)
      have wait : 0 < Watch.maxIdle := by decide
      omega
    · exact known.recent connection before

/-- A connection is not stale as long as the longest idle time has not passed. -/
lemma not_isStale {now maxIdle : Nat} {connection : Connection} (some : 0 < maxIdle) :
    (!Switchboard.isStale now maxIdle connection) = true ↔
      now < connection.lastActivity + maxIdle := by
  rw [Switchboard.isStale, Bool.not_eq_true', decide_eq_false_iff_not]
  omega

/-- A sweep that is due. -/
lemma Swept.due {hub : Hub} {swept : Nat} (known : hub.Swept swept) {now : Nat}
    (due : swept + Watch.stalePeriod ≤ now) : (hub.act (.sweepsStale now)).Swept now where
  timer := by
    have asked : (hub.act (.sweepsStale now)).watch.staleTimer = hub.watch.staleTimer.ask now := rfl
    rw [asked, known.timer, Timer.ask_every_of_due due]
  recent connection held := by
    rw [act_sweepsStale_board, known.timer, if_pos (Timer.isDue_every.2 due)] at held
    exact (not_isStale (by decide)).1 (List.mem_filter.1 held).2

/-- A sweep that is not due does nothing. -/
lemma Swept.early {hub : Hub} {swept : Nat} (known : hub.Swept swept) {now : Nat}
    (early : ¬ swept + Watch.stalePeriod ≤ now) : (hub.act (.sweepsStale now)).Swept swept where
  timer := by
    have asked : (hub.act (.sweepsStale now)).watch.staleTimer = hub.watch.staleTimer.ask now := rfl
    rw [asked, known.timer, Timer.ask_every_of_early early]
  recent connection held := by
    rw [act_sweepsStale_board, known.timer, if_neg (mt Timer.isDue_every.1 early)] at held
    exact known.recent connection held

/-- When a sweep has been asked for, no connection has been idle for longer than the sweeps allow. -/
lemma Swept.bounds {hub : Hub} {swept : Nat} (known : hub.Swept swept) (now : Nat) :
    ∀ connection ∈ (hub.act (.sweepsStale now)).board.held,
      now < connection.lastActivity + Duration.minutes 31 := by
  have both : Duration.minutes 31 = Watch.maxIdle + Watch.stalePeriod := rfl
  intro connection held
  by_cases due : swept + Watch.stalePeriod ≤ now
  · have recent := (known.due due).recent connection held
    omega
  · have recent := (known.early due).recent connection held
    omega

end Hub

/-! ## Clocks -/

namespace Act

variable {started : Nat} {acts : List Act} {act : Act}

/-- The clock is steady over the earlier acts, too. -/
lemma Steady.of_concat (steady : Steady started (acts ++ [act])) : Steady started acts where
  start other mem := steady.start other (List.mem_append_left _ mem)
  sweeps := (List.pairwise_append.1 steady.sweeps).1

/-- An act shows nothing to be active before the start or a sweep. -/
lemma Steady.later (steady : Steady started (acts ++ [act])) {swept : Nat}
    (past : swept = started ∨ ∃ first ∈ acts, swept ∈ first.sweptAt) :
    ∀ now ∈ act.activeAt, swept ≤ now := by
  intro now active
  obtain rfl | ⟨first, mem, sweeps⟩ := past
  · exact steady.start act (by simp) now active
  · exact (List.pairwise_append.1 steady.sweeps).2.2 first mem act (by simp) swept sweeps now active

/-- The act that sweeps at a time is the sweep at this time. -/
lemma eq_sweepsStale {now : Nat} (sweeps : act.sweptAt = some now) : act = .sweepsStale now := by
  cases act <;> cases sweeps
  rfl

end Act

namespace Hub

/-- When the clock does not go back, it is known when the watch has last swept. -/
lemma perform_swept {hub : Hub} {started : Nat} (fresh : hub.Swept started)
    (ordered : hub.board.Ordered) {acts : List Act} (steady : Act.Steady started acts) :
    ∃ swept, (hub.perform acts).Swept swept ∧
      (swept = started ∨ ∃ first ∈ acts, swept ∈ first.sweptAt) := by
  induction acts using List.reverseRecOn with
  | nil => exact ⟨started, fresh, .inl rfl⟩
  | append_singleton acts act ih =>
    obtain ⟨swept, known, past⟩ := ih steady.of_concat
    have kept : swept = started ∨ ∃ first ∈ acts ++ [act], swept ∈ first.sweptAt :=
      past.imp_right fun ⟨first, mem, sweeps⟩ => ⟨first, List.mem_append_left _ mem, sweeps⟩
    rw [perform_concat]
    cases sweeps : act.sweptAt with
    | none =>
      exact ⟨swept, known.act (perform_ordered ordered acts) sweeps (steady.later past), kept⟩
    | some now =>
      obtain rfl := Act.eq_sweepsStale sweeps
      by_cases due : swept + Watch.stalePeriod ≤ now
      · exact ⟨now, known.due due, .inr ⟨.sweepsStale now, by simp, rfl⟩⟩
      · exact ⟨swept, known.early due, kept⟩

/-- After a sweep was asked for, no connection that is held was idle for 31 minutes by then. -/
lemma perform_bounds {hub : Hub} {started : Nat} (fresh : hub.Swept started)
    (ordered : hub.board.Ordered) {earlier later : List Act} {now : Nat}
    (steady : Act.Steady started (earlier ++ .sweepsStale now :: later)) :
    ∀ connection ∈ (hub.perform (earlier ++ .sweepsStale now :: later)).board.held,
      now < connection.lastActivity + Duration.minutes 31 := by
  induction later using List.reverseRecOn with
  | nil =>
    obtain ⟨swept, known, -⟩ := perform_swept fresh ordered steady.of_concat
    rw [perform_concat]
    exact known.bounds now
  | append_singleton later act ih =>
    rw [← List.cons_append, ← List.append_assoc] at steady ⊢
    have before := ih steady.of_concat
    intro connection held
    rw [perform_concat] at held
    obtain active | ⟨old, -⟩ := mem_act_held (perform_ordered ordered _) held
    · have seen : now ≤ connection.lastActivity :=
        steady.later (.inr ⟨.sweepsStale now, by simp, rfl⟩) _ (activity_activeAt active)
      have wait : 0 < Duration.minutes 31 := by decide
      omega
    · exact before connection old

/-! ## Runs -/

/-- The acts of a happening are made at the time that it tells. -/
lemma time_of_acts {hub : Hub} {happening : Happening} {act : Act} (mem : act ∈ hub.acts happening)
    {now : Nat} (timed : now ∈ act.activeAt ∨ now ∈ act.sweptAt) : happening.time = some now := by
  cases happening with
  | cycle time wall =>
    simp only [acts, duties, List.cons_append, List.mem_cons, List.mem_append, List.mem_map,
      List.mem_replicate, List.not_mem_nil, or_false] at mem
    rcases mem with rfl | (⟨frame, -, rfl⟩ | ⟨-, rfl⟩) | rfl | rfl | rfl | rfl | rfl | rfl <;>
      rcases timed with timed | timed <;> cases timed <;> rfl
  | _ =>
    rw [List.mem_singleton.1 mem] at timed
    rcases timed with timed | timed <;> cases timed <;> rfl

/-- The times of the acts of a run are times of its happenings. -/
lemma time_of_actsOf {hub : Hub} {happenings : List Happening} {act : Act}
    (mem : act ∈ hub.actsOf happenings) {now : Nat}
    (timed : now ∈ act.activeAt ∨ now ∈ act.sweptAt) : now ∈ happenings.filterMap (·.time) := by
  induction happenings generalizing hub with
  | nil => cases mem
  | cons happening rest ih =>
    rw [List.filterMap_cons]
    obtain first | later := List.mem_append.1 mem
    · rw [time_of_acts first timed]
      exact List.mem_cons_self
    · have known := ih later
      cases happening.time with
      | none => exact known
      | some time => exact List.mem_cons_of_mem _ known

/-- When the clock of a run does not go back, it does not go back within its cycles. -/
lemma steady_actsOf (hub : Hub) {started : Nat} {happenings : List Happening}
    (forward : (started :: happenings.filterMap (·.time)).Pairwise (· ≤ ·)) :
    Act.Steady started (hub.actsOf happenings) where
  start act mem now active :=
    (List.pairwise_cons.1 forward).1 now (time_of_actsOf mem (.inl active))
  sweeps := by
    have times := (List.pairwise_cons.1 forward).2
    clear forward
    induction happenings generalizing hub with
    | nil => exact .nil
    | cons happening rest ih =>
      have later : (rest.filterMap (·.time)).Pairwise (· ≤ ·) :=
        times.sublist ((List.sublist_cons_self happening rest).filterMap _)
      refine List.pairwise_append.2 ⟨?_, ih (hub.after happening) later, ?_⟩
      · refine List.pairwise_of_forall_mem_list fun first mem next mem' => ?_
        intro swept sweeps now active
        have same := (time_of_acts mem (.inr sweeps)).symm.trans (time_of_acts mem' (.inl active))
        exact (Option.some.inj same).le
      · intro first mem next mem' swept sweeps now active
        rw [List.filterMap_cons, time_of_acts mem (.inr sweeps)] at times
        exact (List.pairwise_cons.1 times).1 now (time_of_actsOf mem' (.inl active))

/-- The acts of the last happening come last. -/
lemma actsOf_concat (hub : Hub) (happenings : List Happening) (happening : Happening) :
    hub.actsOf (happenings ++ [happening]) =
      hub.actsOf happenings ++ (hub.run happenings).acts happening := by
  induction happenings generalizing hub with
  | nil => simp [actsOf]
  | cons first rest ih => simp [actsOf, ih]

/-- The sweep over the connections is the third last act of a cycle. -/
lemma acts_cycle (hub : Hub) (now : Nat) (wall : Int) :
    ∃ earlier, hub.acts (.cycle now wall) =
      earlier ++ .sweepsStale now :: [.sweepsLost now wall, .announces now] :=
  ⟨.polls :: hub.board.poll.1.map (.handles · now wall) ++
    List.replicate hub.inbox.size .obeys ++ [.checksLink now, .checksModem now, .checksDaemon now],
    by simp [acts, duties]⟩

/-! ## From the start -/

/-- A hub that starts holds no connection, and its sweeps begin with its start. -/
lemma start_swept (id : DeviceId) (pin : String) (surroundings : Station) (counter : UInt64)
    (started : Nat) : (start id pin surroundings counter started).Swept started where
  timer := rfl
  recent _ held := absurd held List.not_mem_nil

/-- A hub lets go of a connection for three reasons only: a poll finds the end of its stream or
fails to read from it, a reply on it fails, or a sweep finds that it was last active half an hour
ago or longer. It is active when it is accepted and when a request from it is handled, and other
frames do not count. If the clock does not go back, then whenever a sweep was asked for, it was due
or not, no connection is held from then on that had been idle for 31 minutes by that time; so none
is at the end of a cycle. -/
theorem held_while_active (id : DeviceId) (pin : String) (surroundings : Station)
    (counter : UInt64) (started : Nat) (acts : List Act) :
    let first := start id pin surroundings counter started
    let hub := first.perform acts
    (∀ act, ∀ number ∈ hub.board.numbers, number ∉ (hub.act act).board.numbers →
      ∃ seen, first.lastActivity number acts = some seen ∧ hub.Loses number seen act) ∧
    (Act.Steady started acts → ∀ earlier now later, acts = earlier ++ .sweepsStale now :: later →
      ∀ number ∈ hub.board.numbers,
      ∃ seen, first.lastActivity number acts = some seen ∧ now < seen + Duration.minutes 31) ∧
    ∀ happenings now wall,
      (started :: (happenings ++ [.cycle now wall]).filterMap (·.time)).Pairwise (· ≤ ·) →
      let last := first.run (happenings ++ [.cycle now wall])
      ∀ number ∈ last.board.numbers,
      ∃ seen, first.lastActivity number (first.actsOf (happenings ++ [.cycle now wall])) =
        some seen ∧ now < seen + Duration.minutes 31 := by
  intro first hub
  have ordered : first.board.Ordered := Switchboard.ordered_empty
  -- A run is a row of acts, so the bound for acts is the one for runs, too.
  have bounds (acts : List Act) (steady : Act.Steady started acts) (earlier : List Act) (now : Nat)
      (later : List Act) (split : acts = earlier ++ .sweepsStale now :: later) :
      ∀ number ∈ (first.perform acts).board.numbers,
      ∃ seen, first.lastActivity number acts = some seen ∧ now < seen + Duration.minutes 31 := by
    intro number mem
    obtain ⟨connection, held, rfl⟩ := Switchboard.mem_numbers.1 mem
    refine ⟨connection.lastActivity, perform_active rfl ordered acts held, ?_⟩
    subst split
    exact perform_bounds (start_swept ..) ordered steady connection held
  refine ⟨fun act number mem gone => ?_, bounds acts, fun happenings now wall forward => ?_⟩
  · obtain ⟨connection, held, rfl⟩ := Switchboard.mem_numbers.1 mem
    exact ⟨connection.lastActivity, perform_active rfl ordered acts held,
      act_loses (perform_ordered ordered acts) held gone⟩
  · intro last number mem
    have run : last = first.perform (first.actsOf (happenings ++ [.cycle now wall])) :=
      first.run_eq_perform _
    rw [run] at mem
    obtain ⟨earlier, split⟩ := (first.run happenings).acts_cycle now wall
    have whole : first.actsOf (happenings ++ [.cycle now wall]) =
        (first.actsOf happenings ++ earlier) ++
          .sweepsStale now :: [.sweepsLost now wall, .announces now] := by
      rw [actsOf_concat, split, List.append_assoc]
    exact bounds _ (first.steady_actsOf forward) _ now _ whole number mem

/-- Two devices connect, and only one of them asks, after twenty minutes. Ten minutes later the hub
lets go of the other one, and of no connection that it still holds was the last activity more than
half an hour ago. -/
theorem held_while_active_of_idle :
    let asks : Inbound :=
      { connection := 1, peer := none, bytes := Message.encodeRequest (.ofNat 7) 1 none }
    let at20 := Duration.minutes 20
    let at30 := Duration.minutes 30
    let first := start (.ofNat 1) "1234" (.fresh .missing) 0 0
    let before : List Happening :=
      [.connects {} none 0, .connects {} none 0, .device 1 (.sends asks.bytes), .cycle at20 0]
    let acts : List Act :=
      [.connects {} none 0, .connects {} none 0, .handles asks at20 0, .sweepsStale at20]
    let hub := first.perform acts
    (hub.act (.sweepsStale at30)).board.numbers = [1] ∧
      hub.Loses 0 0 (.sweepsStale at30) ∧
      (∃ seen, first.lastActivity 0 acts = some seen ∧ at20 < seen + Duration.minutes 31) ∧
      (first.run (before ++ [.cycle at30 0])).board.numbers = [1] ∧
      ∃ seen, first.lastActivity 1 (first.actsOf (before ++ [.cycle at30 0])) = some seen ∧
        at30 < seen + Duration.minutes 31 := by
  intro asks at20 at30 first before acts hub
  obtain ⟨loses, bounds, cycles⟩ :=
    held_while_active (.ofNat 1) "1234" (.fresh .missing) 0 0 acts
  have held : 0 ∈ hub.board.numbers := by decide +kernel
  have left : (hub.act (.sweepsStale at30)).board.numbers = [1] := by decide +kernel
  have kept : (first.run (before ++ [.cycle at30 0])).board.numbers = [1] := by decide +kernel
  have steady : Act.Steady 0 acts := ⟨by decide +kernel, by decide +kernel⟩
  refine ⟨left, ?_, bounds steady [.connects {} none 0, .connects {} none 0, .handles asks at20 0]
    at20 [] rfl 0 held, kept, ?_⟩
  · obtain ⟨seen, active, loses⟩ := loses (.sweepsStale at30) 0 held (by rw [left]; decide)
    have start : first.lastActivity 0 acts = some 0 := by decide +kernel
    cases start.symm.trans active
    exact loses
  · exact cycles before at30 0 (by decide +kernel) 1 (by rw [kept]; decide)

end Hub

end HeatingHub
