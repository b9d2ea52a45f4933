import HeatingHub.Sms.Arrival
import Mathlib.Data.List.Nodup

/-!
# How often a file is picked up

What the system reports about the directory completes a file or not (`Completes`). Each time a file
is completed it is read, and if it holds a message then the message joins the inbox
(`waiting_noticeAll`). Nobody takes down which files were read before, so that a file is picked up
as often as it is completed (`picked_up_per_completion`). A file that is renamed within the
directory is completed twice: something is renamed to its new path, and the old path is renamed to
the new one.
-/

namespace HeatingHub

/-- The event says that the file at this path is complete. -/
inductive SpoolEvent.Completes : SpoolEvent → String → Prop
  | closed (path : String) (others : List String) : Completes ⟨.closed, path :: others⟩ path
  | renamedTo (path : String) (others : List String) : Completes ⟨.renamedTo, path :: others⟩ path
  | renamed (others : List String) (path : String) : Completes ⟨.renamed, others ++ [path]⟩ path

/-- The path that is read off an event is the one that it completes. -/
lemma SpoolEvent.completed?_eq_some_iff {event : SpoolEvent} {path : String} :
    event.completed? = some path ↔ event.Completes path := by
  constructor
  · intro completed
    obtain ⟨kind, paths⟩ := event
    cases kind with
    | closed =>
      obtain ⟨others, rfl⟩ := List.head?_eq_some_iff.1 completed
      exact .closed path others
    | renamedTo =>
      obtain ⟨others, rfl⟩ := List.head?_eq_some_iff.1 completed
      exact .renamedTo path others
    | renamed =>
      obtain ⟨others, rfl⟩ := List.getLast?_eq_some_iff.1 completed
      exact .renamed others path
    | other => cases completed
  · rintro (_ | _ | _)
    · rfl
    · rfl
    · exact List.getLast?_concat

/-- The message in the file at a path, if it can be read and holds one. -/
def messageAt (read : String → Option (List UInt8)) (path : String) : Option Sms :=
  (read path).bind Sms.ofBytes?

/-- The paths of the files that events complete, in order. -/
def completions (events : List SpoolEvent) : List String :=
  events.filterMap SpoolEvent.completed?

/-- The completed files that hold a message. -/
def picked (read : String → Option (List UInt8)) (events : List SpoolEvent) : List String :=
  (completions events).filter fun path => (messageAt read path).isSome

/-- Reacts to events one after the other. -/
def Inbox.noticeAll (inbox : Inbox) (read : String → Option (List UInt8))
    (events : List SpoolEvent) : Inbox :=
  events.foldl (fun inbox event => inbox.notice read event) inbox

namespace Inbox

variable {read : String → Option (List UInt8)}

/-- An event makes the message join that is in the file which it completes. -/
lemma waiting_notice (inbox : Inbox) (event : SpoolEvent) :
    (inbox.notice read event).waiting =
      inbox.waiting ++ (event.completed?.bind (messageAt read)).toList := by
  have message : (event.completed?.bind read).bind Sms.ofBytes? =
      event.completed?.bind (messageAt read) := Option.bind_assoc ..
  rw [notice, message]
  cases event.completed?.bind (messageAt read) with
  | none => exact (List.append_nil _).symm
  | some sms => rfl

/-- The messages of completed files join the inbox in the order in which the files are completed. -/
theorem waiting_noticeAll (inbox : Inbox) (events : List SpoolEvent) :
    (inbox.noticeAll read events).waiting =
      inbox.waiting ++ (completions events).filterMap (messageAt read) := by
  rw [completions, List.filterMap_filterMap]
  induction events generalizing inbox with
  | nil => exact (List.append_nil _).symm
  | cons event events ih =>
    rw [noticeAll, List.foldl_cons, ← noticeAll, ih, waiting_notice, List.append_assoc,
      List.filterMap_cons]
    cases event.completed?.bind (messageAt read) <;> rfl

/-- The messages of the picked files are those of the completed ones. -/
lemma filterMap_picked (events : List SpoolEvent) :
    (picked read events).filterMap (messageAt read) =
      (completions events).filterMap (messageAt read) := by
  rw [picked, List.filterMap_filter]
  refine List.filterMap_congr fun path _ => ?_
  cases messageAt read path <;> rfl

/-- A file with a message is picked as often as it is completed, and no other file is. -/
lemma count_picked (events : List SpoolEvent) (path : String) :
    (picked read events).count path =
      if (messageAt read path).isSome then (completions events).count path else 0 := by
  split
  · next message => exact List.count_filter message
  · next none => exact List.count_eq_zero.2 fun mem => none (List.mem_filter.1 mem).2

/-- No file is picked twice exactly if none with a message is completed twice. -/
lemma picked_nodup_iff (events : List SpoolEvent) :
    (picked read events).Nodup ↔
      ∀ path, (messageAt read path).isSome → (completions events).count path ≤ 1 := by
  rw [List.nodup_iff_count_le_one]
  refine forall_congr' fun path => ?_
  rw [count_picked]
  split
  · next message => simp [message]
  · next none => simp [none]

/-- A file that is renamed within the directory is completed under its new path twice. -/
lemma completions_of_move {path : String} {arrives moves : SpoolEvent}
    (renamedTo : arrives.Completes path) (renamed : moves.Completes path) :
    completions [arrives, moves] = [path, path] := by
  rw [completions, List.filterMap_cons_some (SpoolEvent.completed?_eq_some_iff.2 renamedTo),
    List.filterMap_cons_some (SpoolEvent.completed?_eq_some_iff.2 renamed), List.filterMap_nil]

/-- A file is completed when it is closed after writing or something is renamed to its path, and
every time it is completed the message that it holds joins the inbox, if it holds one; the messages
join in the order in which their files are completed. So each file is picked up at most once exactly
if no file that holds a message is completed twice. A file with a message that is renamed within the
directory, of which the system says first that something was renamed to its new path and then what
was renamed to it, is picked up twice. -/
theorem picked_up_per_completion (inbox : Inbox) (read : String → Option (List UInt8))
    (events : List SpoolEvent) :
    (∀ (event : SpoolEvent) path, event.completed? = some path ↔ event.Completes path) ∧
    (inbox.noticeAll read events).waiting =
      inbox.waiting ++ (picked read events).filterMap (messageAt read) ∧
    (∀ path, (picked read events).count path =
      if (messageAt read path).isSome then (completions events).count path else 0) ∧
    ((picked read events).Nodup ↔
      ∀ path, (messageAt read path).isSome → (completions events).count path ≤ 1) ∧
    ∀ old path others sms, messageAt read path = some sms →
      (inbox.noticeAll read
        (events ++ [⟨.renamedTo, path :: others⟩, ⟨.renamed, old ++ [path]⟩])).waiting =
      (inbox.noticeAll read events).waiting ++ [sms, sms] := by
  refine ⟨fun _ _ => SpoolEvent.completed?_eq_some_iff, ?_, count_picked events,
    picked_nodup_iff events, fun old path others sms message => ?_⟩
  · rw [waiting_noticeAll, filterMap_picked]
  · have twice := completions_of_move (.renamedTo path others) (.renamed old path)
    rw [noticeAll, List.foldl_append, ← noticeAll, ← noticeAll, waiting_noticeAll, twice]
    simp [message]

/-- A file that is renamed after it was closed is picked up three times in all. -/
theorem picked_up_per_completion_of_rename :
    let ping : Sms := { number := "3310203040506", text := "ping" }
    let read (_ : String) := some (Text.encode "From: 3310203040506\n\nping\n".toList)
    let closed : SpoolEvent := ⟨.closed, ["temporary"]⟩
    messageAt read "GSM1.abc" = some ping ∧
      (({} : Inbox).noticeAll read
        ([closed] ++ [⟨.renamedTo, ["GSM1.abc"]⟩, ⟨.renamed, ["temporary", "GSM1.abc"]⟩])).waiting =
        [ping, ping, ping] := by
  intro ping read closed
  have message : messageAt read "GSM1.abc" = some ping := by decide +kernel
  have first : (({} : Inbox).noticeAll read [closed]).waiting = [ping] := by decide +kernel
  obtain ⟨-, -, -, -, moved⟩ := picked_up_per_completion {} read [closed]
  refine ⟨message, ?_⟩
  exact (moved ["temporary"] "GSM1.abc" [] ping message).trans (congrArg (· ++ [ping, ping]) first)

/-- A file is closed after writing, then a file with the same content is moved in its place, and its
message is there twice. -/
theorem same_file_twice :
    let ping : Sms := { number := "3310203040506", text := "ping" }
    let read (_ : String) := some (Text.encode "From: 3310203040506\n\nping\n".toList)
    let events : List SpoolEvent := [⟨.closed, ["GSM1.abc"]⟩, ⟨.renamedTo, ["GSM1.abc"]⟩]
    (({} : Inbox).noticeAll read events).waiting = [ping, ping] ∧
      ¬ (picked read events).Nodup := by
  decide +kernel

end Inbox

end HeatingHub
