import HeatingHub.Proofs.Hub.Act
import HeatingHub.Proofs.Watch.Timer

/-!
# Messages that arrive within a cycle

Another thread puts the messages into the inbox, and it may do so at any moment: while the hub
handles frames, between two messages that it obeys, or when it has just taken one and not obeyed it
yet. So a cycle is taken apart into the beats of the hub's thread, between which anything else may
happen (`Reception`).

After every beat the messages that were obeyed, the one in hand and those that wait are the messages
that have arrived, in their order (`obeyed_append_pending`). A drain returns how many messages were
obeyed in its cycle (`returned_of_cycle`). As long as no frame is handled and no duty is due,
nothing but messages changes the hub (`Attentive.run`), so that it is all the same in which cycles
they are obeyed (`obeyed_once_in_order`). A cycle that nothing comes between is the cycle of the hub
(`run_cycle`).
-/

namespace HeatingHub

/-! ## What a cycle is made of -/

/-- The timers of the duties. -/
def Watch.timers (watch : Watch) : List Timer :=
  [watch.linkTimer, watch.modemTimer, watch.daemonTimer, watch.staleTimer, watch.lostTimer,
    watch.bootTimer]

/-- No duty is due at this time. -/
def Watch.isIdle (watch : Watch) (now : Nat) : Bool :=
  watch.timers.all fun timer => !timer.isDue now

/-- No duty puts anything into the inbox. -/
lemma Hub.duty_inbox {hub : Hub} {duty : Act} {now : Nat} {wall : Int}
    (mem : duty ∈ Hub.duties now wall) : (hub.act duty).inbox = hub.inbox := by
  simp only [Hub.duties, List.mem_cons, List.not_mem_nil, or_false] at mem
  rcases mem with rfl | rfl | rfl | rfl | rfl | rfl <;> rfl

/-- When no duty is due, none of them does anything. -/
lemma Hub.duty_of_isIdle {hub : Hub} {duty : Act} {now : Nat} {wall : Int}
    (idle : hub.watch.isIdle now) (mem : duty ∈ Hub.duties now wall) : hub.act duty = hub := by
  have early : ∀ timer ∈ hub.watch.timers, timer.isDue now = false := fun timer mem =>
    Bool.not_eq_true' _ ▸ List.all_eq_true.1 idle timer mem
  simp only [Watch.timers, List.forall_mem_cons] at early
  obtain ⟨link, modem, daemon, stale, lost, boot, -⟩ := early
  simp only [Hub.duties, List.mem_cons, List.not_mem_nil, or_false] at mem
  rcases mem with rfl | rfl | rfl | rfl | rfl | rfl
  · rw [Hub.act, Watch.linkDuty, link, Timer.ask_of_early link]
    rfl
  · rw [Hub.act, Watch.modemDuty, modem, Timer.ask_of_early modem]
    rfl
  · rw [Hub.act, Watch.daemonDuty, daemon, Timer.ask_of_early daemon]
    rfl
  · rw [Hub.act, Watch.staleDuty, stale, Timer.ask_of_early stale]
    rfl
  · rw [Hub.act, Watch.lostDuty, lost, Timer.ask_of_early lost]
    rfl
  · rw [Hub.act, Watch.bootDuty, boot, Timer.ask_of_early boot]
    rfl

/-- The last message is received last. -/
lemma Station.receiveAll_concat (station : Station) (secret : String) (messages : List Sms)
    (sms : Sms) :
    station.receiveAll secret (messages ++ [sms]) =
      (station.receiveAll secret messages).receive secret sms := by
  rw [receiveAll, List.foldl_append]
  rfl

/-! ## The hub and its thread -/

/-- The hub without its connections. -/
def Hub.unplugged (hub : Hub) : Hub :=
  { hub with board := {} }

/-- How far the hub's thread is in its cycle. -/
inductive Stage
  /-- It is between two cycles. -/
  | rests
  /-- It has these frames still to handle. -/
  | handles (frames : List Inbound) (now : Nat) (wall : Int)
  /-- It has obeyed `count` messages, and may hold one that it has taken and not obeyed yet. -/
  | drains (held : Option Sms) (count now : Nat) (wall : Int)
  /-- It has seen to `count` duties. -/
  | sees (count now : Nat) (wall : Int)

/-- A hub whose thread may be within a cycle. -/
structure Reception where
  hub : Hub
  stage : Stage := .rests
  /-- The numbers of messages that the drains returned which have ended, oldest first. -/
  returned : List Nat := []

/-- What comes next, from inside or outside. -/
inductive Beat
  | happens (happening : Happening)
  /-- The hub's thread goes on with its cycle. -/
  | proceeds

namespace Beat

/-- What happens in a beat. -/
def happening? : Beat → Option Happening
  | .happens happening => some happening
  | .proceeds => none

/-- The message that arrives in a beat. -/
def message? : Beat → Option Sms
  | .happens (.message sms) => some sms
  | _ => none

end Beat

/-- The message in hand. -/
def Stage.held : Stage → Option Sms
  | .drains held _ _ _ => held
  | _ => none

namespace Reception

/-- The thread goes on with its cycle. -/
def proceed (reception : Reception) : Reception :=
  let hub := reception.hub
  match reception.stage with
  | .rests => reception
  | .handles (frame :: frames) now wall =>
    { reception with hub := hub.handleFrame now wall frame, stage := .handles frames now wall }
  | .handles [] now wall => { reception with stage := .drains none 0 now wall }
  | .drains (some sms) count now wall =>
    { reception with
      hub := { hub with station := hub.station.receive hub.pin sms }
      stage := .drains none (count + 1) now wall }
  | .drains none count now wall =>
    match hub.inbox.pop with
    | (some sms, inbox) =>
      { reception with hub := { hub with inbox }, stage := .drains (some sms) count now wall }
    | (none, inbox) =>
      { hub := { hub with inbox }
        stage := .sees 0 now wall
        returned := reception.returned ++ [count] }
  | .sees count now wall =>
    match (Hub.duties now wall)[count]? with
    | some duty => { reception with hub := hub.act duty, stage := .sees (count + 1) now wall }
    | none => { reception with stage := .rests }

/-- The reception after a beat. When it is time for a cycle, the frames are read; a thread that is
still within the last cycle does not begin another one. -/
def after (reception : Reception) : Beat → Reception
  | .proceeds => reception.proceed
  | .happens (.cycle now wall) =>
    match reception.stage with
    | .rests =>
      let (frames, board) := reception.hub.board.poll
      { reception with hub := { reception.hub with board }, stage := .handles frames now wall }
    | _ => reception
  | .happens happening => { reception with hub := reception.hub.after happening }

/-- The reception after beats one after the other. -/
def run (reception : Reception) (beats : List Beat) : Reception :=
  beats.foldl after reception

/-- The message that is obeyed in a beat. -/
def obeys (reception : Reception) : Beat → Option Sms
  | .proceeds => reception.stage.held
  | .happens _ => none

/-- The messages that are obeyed in beats one after the other. -/
def obeyed (reception : Reception) : List Beat → List Sms
  | [] => []
  | beat :: rest => (reception.obeys beat).toList ++ (reception.after beat).obeyed rest

/-- The messages that have arrived and were not obeyed yet. -/
def pending (reception : Reception) : List Sms :=
  reception.stage.held.toList ++ reception.hub.inbox.waiting

/-- The messages that arrive in beats one after the other. -/
def arrivals (beats : List Beat) : List Sms :=
  beats.filterMap Beat.message?

/-- A cycle that begins in this beat has no frame to handle, and no duty is due in it. -/
def isCalm (reception : Reception) (beat : Beat) : Bool :=
  match reception.stage, beat with
  | .rests, .happens (.cycle now _) =>
    reception.hub.board.poll.1.isEmpty && reception.hub.watch.isIdle now
  | _, _ => true

/-- All beats are calm. -/
def staysCalm (reception : Reception) : List Beat → Bool
  | [] => true
  | beat :: rest => reception.isCalm beat && (reception.after beat).staysCalm rest

/-- Beats one after the other are run one after the other. -/
lemma run_append (reception : Reception) (first rest : List Beat) :
    reception.run (first ++ rest) = (reception.run first).run rest :=
  List.foldl_append

/-! ## What the thread does next -/

/-- How the hub's thread goes on from a stage, and what it leaves behind. -/
inductive Proceeds (hub : Hub) (returned : List Nat) : Stage → Reception → Prop
  | rests : Proceeds hub returned .rests { hub, returned }
  | handles (frame : Inbound) (frames : List Inbound) (now : Nat) (wall : Int) :
      Proceeds hub returned (.handles (frame :: frames) now wall)
        { hub := hub.handleFrame now wall frame, stage := .handles frames now wall, returned }
  | begins (now : Nat) (wall : Int) :
      Proceeds hub returned (.handles [] now wall)
        { hub, stage := .drains none 0 now wall, returned }
  | takes {sms : Sms} {waiting : List Sms} (oldest : hub.inbox.waiting = sms :: waiting)
      (count now : Nat) (wall : Int) :
      Proceeds hub returned (.drains none count now wall)
        { hub := { hub with inbox := { waiting } }, stage := .drains (some sms) count now wall
          returned }
  | obeys (sms : Sms) (count now : Nat) (wall : Int) :
      Proceeds hub returned (.drains (some sms) count now wall)
        { hub := { hub with station := hub.station.receive hub.pin sms }
          stage := .drains none (count + 1) now wall
          returned }
  | returns (empty : hub.inbox.waiting = []) (count now : Nat) (wall : Int) :
      Proceeds hub returned (.drains none count now wall)
        { hub, stage := .sees 0 now wall, returned := returned ++ [count] }
  | sees {duty : Act} {count now : Nat} {wall : Int}
      (due : (Hub.duties now wall)[count]? = some duty) :
      Proceeds hub returned (.sees count now wall)
        { hub := hub.act duty, stage := .sees (count + 1) now wall, returned }
  | ends {count now : Nat} {wall : Int} (done : (Hub.duties now wall)[count]? = none) :
      Proceeds hub returned (.sees count now wall) { hub, returned }

/-- The thread goes on as its stage says. -/
lemma proceed_proceeds (reception : Reception) :
    Proceeds reception.hub reception.returned reception.stage reception.proceed := by
  obtain ⟨hub, stage, returned⟩ := reception
  cases stage with
  | rests => exact .rests
  | handles frames now wall =>
    cases frames with
    | nil => exact .begins now wall
    | cons frame frames => exact .handles frame frames now wall
  | drains held count now wall =>
    cases held with
    | some sms => exact .obeys sms count now wall
    | none =>
      obtain ⟨id, pin, station, watch, board, ⟨waiting⟩, counter, replies⟩ := hub
      cases waiting with
      | nil => exact .returns rfl count now wall
      | cons sms waiting => exact .takes rfl count now wall
  | sees count now wall =>
    rw [proceed]
    dsimp only
    cases next : (Hub.duties now wall)[count]? with
    | none => exact .ends next
    | some duty => exact .sees next

variable {hub : Hub} {returned : List Nat} {stage : Stage} {next : Reception}

/-! ## No message is lost -/

/-- The thread loses no message, but it may obey the one in hand. -/
lemma Proceeds.pending (proceeds : Proceeds hub returned stage next) :
    stage.held.toList ++ next.pending = stage.held.toList ++ hub.inbox.waiting := by
  cases proceeds with
  | handles frame frames now wall =>
    exact congrArg Inbox.waiting (Hub.handleFrame_inbox now wall hub frame)
  | takes oldest => exact oldest.symm
  | sees due => exact congrArg Inbox.waiting (Hub.duty_inbox (List.mem_of_getElem? due))
  | _ => rfl

/-- A beat obeys the message in hand, if any, and a message may arrive behind the others. -/
lemma obeys_append_pending (reception : Reception) (beat : Beat) :
    (reception.obeys beat).toList ++ (reception.after beat).pending =
      reception.pending ++ beat.message?.toList := by
  cases beat with
  | proceeds => exact reception.proceed_proceeds.pending.trans (List.append_nil _).symm
  | happens happening =>
    cases happening with
    | message sms =>
      rw [pending, pending, List.append_assoc]
      rfl
    | cycle now wall =>
      obtain ⟨hub, stage, returned⟩ := reception
      cases stage <;> exact (List.append_nil _).symm
    | _ => exact (List.append_nil _).symm

/-- The messages that were obeyed and those that are pending are the ones that were pending and
those that have arrived, in this order. -/
theorem obeyed_append_pending (reception : Reception) (beats : List Beat) :
    reception.obeyed beats ++ (reception.run beats).pending =
      reception.pending ++ arrivals beats := by
  induction beats generalizing reception with
  | nil => exact (List.append_nil _).symm
  | cons beat rest ih =>
    calc reception.obeyed (beat :: rest) ++ (reception.run (beat :: rest)).pending
      _ = (reception.obeys beat).toList ++ ((reception.after beat).pending ++ arrivals rest) := by
        rw [obeyed, List.append_assoc, ← ih]
        rfl
      _ = reception.pending ++ (beat.message?.toList ++ arrivals rest) := by
        rw [← List.append_assoc, obeys_append_pending, List.append_assoc]
      _ = reception.pending ++ arrivals (beat :: rest) := by
        rw [arrivals, arrivals, List.filterMap_cons]
        cases beat.message? <;> rfl

/-! ## What a drain returns -/

/-- The reception is within a cycle, or behind it, that began when the drains had returned `before`,
and it has obeyed `count` messages since. -/
def Counts (before : List Nat) (count : Nat) (reception : Reception) : Prop :=
  match reception.stage with
  | .handles .. => reception.returned = before ∧ count = 0
  | .drains _ handled _ _ => reception.returned = before ∧ count = handled
  | .sees .. | .rests => reception.returned = before ++ [count]

variable {before : List Nat} {count : Nat} {reception : Reception}

/-- A step of the thread counts the message that it obeys. -/
lemma Proceeds.counts (proceeds : Proceeds hub returned stage next)
    (counts : Counts before count { hub, stage, returned }) :
    Counts before (count + stage.held.toList.length) next := by
  cases proceeds with
  | takes | obeys =>
    obtain ⟨same, rfl⟩ := counts
    exact ⟨same, rfl⟩
  | returns =>
    obtain ⟨same, rfl⟩ := counts
    exact congrArg (· ++ [count]) same
  | _ => exact counts

/-- A beat that begins no other cycle counts the message that it obeys. -/
lemma Counts.after (counts : Counts before count reception) {beat : Beat}
    (goes : ∀ now wall, beat ≠ .happens (.cycle now wall)) :
    Counts before (count + (reception.obeys beat).toList.length) (reception.after beat) := by
  cases beat with
  | proceeds => exact reception.proceed_proceeds.counts counts
  | happens happening =>
    cases happening with
    | cycle now wall => exact absurd rfl (goes now wall)
    | _ => exact counts

/-- As long as no other cycle begins, the messages that are obeyed are counted. -/
lemma Counts.run (counts : Counts before count reception) {beats : List Beat}
    (goes : ∀ now wall, .happens (.cycle now wall) ∉ beats) :
    Counts before (count + (reception.obeyed beats).length) (reception.run beats) := by
  induction beats generalizing count reception with
  | nil => exact counts
  | cons beat rest ih =>
    have next := counts.after fun now wall same => goes now wall (same ▸ List.mem_cons_self)
    rw [obeyed, List.length_append, ← Nat.add_assoc]
    exact ih next fun now wall mem => goes now wall (List.mem_cons_of_mem _ mem)

/-- A drain returns the number of messages that are obeyed in its cycle. -/
lemma returned_of_cycle (rests : reception.stage = .rests) (now : Nat) (wall : Int)
    {within : List Beat} (goes : ∀ now wall, .happens (.cycle now wall) ∉ within)
    (ended : ((reception.after (.happens (.cycle now wall))).run within).stage = .rests) :
    ((reception.after (.happens (.cycle now wall))).run within).returned =
      reception.returned ++
        [((reception.after (.happens (.cycle now wall))).obeyed within).length] := by
  obtain ⟨hub, stage, returned⟩ := reception
  cases rests
  have begins : Counts returned 0
      (Reception.after { hub, returned } (.happens (.cycle now wall))) := ⟨rfl, rfl⟩
  have counted := begins.run goes
  rw [Counts, ended, Nat.zero_add] at counted
  exact counted

/-! ## Calm cycles -/

/-- The cycle has no frame to handle any more, and no duty is due in it. -/
def CalmStage (watch : Watch) : Stage → Prop
  | .rests => True
  | .handles frames now _ => frames = [] ∧ watch.isIdle now
  | .drains _ _ now _ => watch.isIdle now
  | .sees _ now _ => watch.isIdle now

/-- Since it was `first`, the hub has obeyed these messages, and done nothing else. -/
inductive Attentive (first : Hub) (messages : List Sms) : Reception → Prop
  | intro (board : Switchboard) (inbox : Inbox) (returned : List Nat) (stage : Stage)
      (calm : CalmStage first.watch stage) :
      Attentive first messages
        { hub := { first with
            board, inbox, station := first.station.receiveAll first.pin messages }
          stage, returned }

variable {first : Hub} {messages : List Sms}

/-- In a calm cycle a step of the thread does nothing but obey the message in hand. -/
lemma Proceeds.attentive (proceeds : Proceeds hub returned stage next)
    (attentive : Attentive first messages { hub, stage, returned }) :
    Attentive first (messages ++ stage.held.toList) next := by
  obtain ⟨board, inbox, _, _, calm⟩ := attentive
  have nothing : messages ++ [] = messages := List.append_nil messages
  cases proceeds with
  | handles => cases calm.1
  | begins => exact nothing.symm ▸ .intro _ _ _ _ calm.2
  | ends => exact nothing.symm ▸ .intro _ _ _ _ trivial
  | rests | takes | returns => exact nothing.symm ▸ .intro _ _ _ _ calm
  | obeys sms count now wall =>
    have obeyed := Station.receiveAll_concat first.station first.pin messages sms
    exact obeyed ▸ .intro _ _ _ _ calm
  | sees due =>
    rw [Hub.duty_of_isIdle _ (List.mem_of_getElem? due)]
    · exact nothing.symm ▸ .intro _ _ _ _ calm
    · exact calm

/-- In a calm beat nothing changes the hub but the message that is obeyed. -/
lemma Attentive.after (attentive : Attentive first messages reception) {beat : Beat}
    (calm : reception.isCalm beat) :
    Attentive first (messages ++ (reception.obeys beat).toList) (reception.after beat) := by
  cases beat with
  | proceeds => exact reception.proceed_proceeds.attentive attentive
  | happens happening =>
    obtain ⟨board, inbox, returned, stage, still⟩ := attentive
    rw [obeys, Option.toList_none, List.append_nil]
    cases happening with
    | cycle now wall =>
      cases stage with
      | rests =>
        obtain ⟨none, idle⟩ := (Bool.and_eq_true _ _).mp calm
        exact .intro _ _ _ _ ⟨List.isEmpty_iff.1 none, idle⟩
      | _ => exact .intro _ _ _ _ still
    | _ => exact .intro _ _ _ _ still

/-- Over calm beats nothing changes the hub but the messages that are obeyed. -/
lemma Attentive.run (attentive : Attentive first messages reception) {beats : List Beat}
    (calm : reception.staysCalm beats) :
    Attentive first (messages ++ reception.obeyed beats) (reception.run beats) := by
  induction beats generalizing messages reception with
  | nil =>
    rw [obeyed, List.append_nil]
    exact attentive
  | cons beat rest ih =>
    obtain ⟨here, later⟩ := (Bool.and_eq_true _ _).mp calm
    rw [obeyed, ← List.append_assoc]
    exact ih (attentive.after here) later

/-- The hub is the first one but for its connections, its inbox and the messages it has received. -/
lemma Attentive.hub_eq (attentive : Attentive first messages reception) :
    reception.hub = { first with
      board := reception.hub.board
      inbox := reception.hub.inbox
      station := first.station.receiveAll first.pin messages } := by
  cases attentive
  rfl

/-- Hubs that have obeyed the same messages and have none left differ in their connections only. -/
lemma Attentive.agrees {other : Reception} (attentive : Attentive first messages reception)
    (alike : Attentive first messages other) (done : reception.pending = [])
    (finished : other.pending = []) :
    reception.hub.unplugged = other.hub.unplugged := by
  obtain ⟨_, ⟨_⟩, _, _, -⟩ := attentive
  obtain ⟨_, ⟨_⟩, _, _, -⟩ := alike
  obtain ⟨-, rfl⟩ := List.append_eq_nil_iff.1 done
  obtain ⟨-, rfl⟩ := List.append_eq_nil_iff.1 finished
  rfl

/-! ## Cycles that nothing comes between -/

/-- Without interruptions the thread handles all frames and begins to drain. -/
lemma run_handles (hub : Hub) (frames : List Inbound) (now : Nat) (wall : Int)
    (returned : List Nat) :
    run { hub, stage := .handles frames now wall, returned }
        (.replicate (frames.length + 1) .proceeds) =
      { hub := hub.handleFrames now wall frames, stage := .drains none 0 now wall, returned } := by
  induction frames generalizing hub with
  | nil => rfl
  | cons frame frames ih => exact ih (hub.handleFrame now wall frame)

/-- Each message is taken in one beat and obeyed in another, and the empty inbox is seen in the
last one. -/
lemma run_drains (hub : Hub) (count now : Nat) (wall : Int) (returned : List Nat) :
    run { hub, stage := .drains none count now wall, returned }
        (.replicate (2 * hub.inbox.size + 1) .proceeds) =
      { hub := hub.drain
        stage := .sees 0 now wall
        returned := returned ++ [count + hub.inbox.size] } := by
  obtain ⟨id, pin, station, watch, board, ⟨waiting⟩, counter, replies⟩ := hub
  induction waiting generalizing station count with
  | nil => rfl
  | cons sms waiting ih =>
    have next := ih (count + 1) (station.receive pin sms)
    rw [Nat.add_assoc, Nat.add_comm 1] at next
    exact next

/-- Without interruptions the thread sees to all duties of a tick. -/
lemma run_sees (hub : Hub) (now : Nat) (wall : Int) (returned : List Nat) :
    run { hub, stage := .sees 0 now wall, returned } (.replicate 7 .proceeds) =
      { hub := hub.tick now wall, returned } := by
  rw [← Hub.perform_duties]
  rfl

/-- A cycle that nothing comes between is the cycle of the hub. -/
lemma run_cycle (hub : Hub) (returned : List Nat) (now : Nat) (wall : Int) :
    ∃ count, run { hub, returned } (.happens (.cycle now wall) :: .replicate count .proceeds) =
      { hub := hub.cycle now wall, returned := returned ++ [hub.inbox.size] } := by
  let polled := { hub with board := hub.board.poll.2 }
  let served := polled.handleFrames now wall hub.board.poll.1
  have size : served.inbox.size = hub.inbox.size :=
    congrArg Inbox.size (Hub.handleFrames_inbox now wall polled _)
  refine ⟨hub.board.poll.1.length + 1 + (2 * served.inbox.size + 1) + 7, ?_⟩
  calc run { hub, returned } (.happens (.cycle now wall) :: .replicate _ .proceeds)
    _ = run { hub := polled, stage := .handles hub.board.poll.1 now wall, returned }
        (.replicate (hub.board.poll.1.length + 1 + (2 * served.inbox.size + 1) + 7) .proceeds) :=
      rfl
    _ = { hub := served.drain.tick now wall, returned := returned ++ [0 + served.inbox.size] } := by
      rw [← List.replicate_append_replicate, ← List.replicate_append_replicate, run_append,
        run_append, run_handles, run_drains, run_sees]
    _ = { hub := hub.cycle now wall, returned := returned ++ [hub.inbox.size] } := by
      rw [Nat.zero_add, size]
      rfl

/-- Every run of a hub is made in beats. -/
lemma run_happenings (hub : Hub) (returned : List Nat) (happenings : List Happening) :
    ∃ beats last, beats.filterMap Beat.happening? = happenings ∧
      run { hub, returned } beats = { hub := hub.run happenings, returned := last } := by
  induction happenings generalizing hub returned with
  | nil => exact ⟨[], returned, rfl, rfl⟩
  | cons happening rest ih =>
    -- A happening is made at once, but a cycle takes many beats.
    have made : ∃ count next, run { hub, returned }
        (.happens happening :: .replicate count .proceeds) =
          { hub := hub.after happening, returned := next } := by
      cases happening with
      | cycle now wall =>
        obtain ⟨count, ran⟩ := run_cycle hub returned now wall
        exact ⟨count, _, ran⟩
      | _ => exact ⟨0, returned, rfl⟩
    obtain ⟨count, next, made⟩ := made
    obtain ⟨beats, last, same, ran⟩ := ih (hub.after happening) next
    refine ⟨.happens happening :: .replicate count .proceeds ++ beats, last, ?_, ?_⟩
    · have silent : (List.replicate count Beat.proceeds).filterMap Beat.happening? = [] := by
        simp [Beat.happening?]
      rw [List.cons_append, List.filterMap_cons, List.filterMap_append, silent, same]
      rfl
    · rw [run_append, made, ran, Hub.run_cons]

/-! ## Any interleaving -/

/-- The hub works while messages arrive at any moment. What it has obeyed, with what it has in hand
and what waits, is what has arrived, each message once and in order; while it has no message in
hand, that is what it has obeyed and what waits. The drain of a cycle returns the number of messages
that are obeyed in the cycle. As long as no frame is handled and no duty is due, the station is the
one that has received these messages one after the other, and nothing else is changed but the
switchboard and the inbox; so once the same messages have been obeyed the hub is the same, in
whatever cycles that was. Every run of the hub can be made like this. -/
theorem obeyed_once_in_order (hub : Hub) (beats : List Beat) :
    let first : Reception := { hub }
    let last := first.run beats
    first.obeyed beats ++ last.pending = hub.inbox.waiting ++ arrivals beats ∧
    (last.stage.held = none →
      first.obeyed beats ++ last.hub.inbox.waiting = hub.inbox.waiting ++ arrivals beats) ∧
    (∀ now wall within,
      let begun := last.after (.happens (.cycle now wall))
      last.stage = .rests → (begun.run within).stage = .rests →
      (∀ now wall, .happens (.cycle now wall) ∉ within) →
      (begun.run within).returned = last.returned ++ [(begun.obeyed within).length]) ∧
    (first.staysCalm beats →
      last.hub = { hub with
        board := last.hub.board
        inbox := last.hub.inbox
        station := hub.station.receiveAll hub.pin (first.obeyed beats) }) ∧
    (∀ others, first.staysCalm beats → first.staysCalm others →
      arrivals beats = arrivals others → last.pending = [] → (first.run others).pending = [] →
      last.hub.unplugged = (first.run others).hub.unplugged) ∧
    ∀ happenings, ∃ beats returned, beats.filterMap Beat.happening? = happenings ∧
      first.run beats = { hub := hub.run happenings, returned } := by
  intro first last
  have kept : first.obeyed beats ++ last.pending = hub.inbox.waiting ++ arrivals beats :=
    first.obeyed_append_pending beats
  have attentive : Attentive hub [] first := .intro _ _ _ _ trivial
  refine ⟨kept, fun free => ?_, fun now wall within rests ended goes =>
    returned_of_cycle rests now wall goes ended, fun calm => (attentive.run calm).hub_eq,
    fun others calm alike same done finished => ?_, run_happenings hub []⟩
  · rw [pending, free] at kept
    exact kept
  · -- Both have obeyed all that has arrived.
    have others_kept : first.obeyed others ++ (first.run others).pending =
        hub.inbox.waiting ++ arrivals others := first.obeyed_append_pending others
    rw [done, List.append_nil] at kept
    rw [finished, List.append_nil] at others_kept
    have obeyed : first.obeyed others = first.obeyed beats := by
      rw [kept, others_kept, same]
    exact (attentive.run calm).agrees (obeyed ▸ attentive.run alike) done finished

/-- The second message arrives while the first one is in hand, and is obeyed in the same drain. Both
are answered, and the hub is the same as when it has a cycle for each of them. -/
theorem obeyed_once_in_order_within_drain :
    let off : Sms := { number := "3310203040506", text := "all off" }
    let eco : Sms := { number := "3310203040506", text := "heater boiler eco" }
    let arrives (sms : Sms) : Beat := .happens (.message sms)
    let cycles (now : Nat) : Beat := .happens (.cycle now 0)
    let hub := Hub.start (.ofNat 1) "1234" (Station.fresh .missing) 0 0
    let first : Reception := { hub }
    let together := [arrives off, cycles 100, .proceeds, .proceeds, arrives eco] ++
      .replicate 11 .proceeds
    let apart := [arrives off, cycles 100] ++ .replicate 11 .proceeds ++
      [arrives eco, cycles 200] ++ .replicate 11 .proceeds
    (first.run together).returned = [2] ∧ (first.run apart).returned = [1, 1] ∧
      first.obeyed together = [off, eco] ∧
      (first.run together).hub.station.fleet.modeOf "BOILER" = .eco ∧
      (first.run together).hub.station.post.log.map (·.sms) =
        [{ number := "3310203040506", text := "ALL OFF" },
          { number := "3310203040506", text := "HEATER BOILER ECO" }] ∧
      (first.run together).hub.unplugged = (first.run apart).hub.unplugged := by
  intro off eco arrives cycles hub first together apart
  have drained : (first.run together).pending = [] ∧ (first.run apart).pending = [] := by
    decide +kernel
  have calm : first.staysCalm together ∧ first.staysCalm apart := by
    decide +kernel
  have arrived : arrivals together = [off, eco] ∧ arrivals apart = [off, eco] := ⟨rfl, rfl⟩
  obtain ⟨kept, -, -, -, same, -⟩ := obeyed_once_in_order hub together
  refine ⟨by decide +kernel, by decide +kernel, ?_, by decide +kernel, by decide +kernel,
    same apart calm.1 calm.2 (arrived.1.trans arrived.2.symm) drained.1 drained.2⟩
  rw [drained.1, List.append_nil, arrived.1] at kept
  exact kept

end Reception

end HeatingHub
