import HeatingHub.Sms.Basic
import HeatingHub.StateFile

/-!
# Outgoing messages

The post takes the hub's text messages. It may accept a message or refuse it, and the hub goes on
in the same way. Every attempt is logged together with what an observer could have seen at that
moment: the settings in memory and the state file.
-/

namespace HeatingHub

/-- Why a message is sent: to answer a message, or to alert the emergency phone. -/
inductive Occasion
  | reply
  | alert
  deriving DecidableEq, Repr

/-- An attempt to send a message. -/
structure Dispatch where
  sms : Sms
  occasion : Occasion
  accepted : Bool
  /-- The settings in memory at the attempt. -/
  settings : Settings
  /-- The state file at the attempt. -/
  file : StateFile

/-- The outgoing side of the text messages. -/
structure Post where
  /-- Whether the attempt of each number succeeds with the given message. -/
  accepts : Nat → Sms → Bool := fun _ _ => true
  /-- The attempts so far, oldest first. -/
  log : List Dispatch := []

namespace Post

/-- The next attempt succeeds with the given message. -/
def ready (post : Post) (sms : Sms) : Bool :=
  post.accepts post.log.length sms

/-- Tries to send a message. -/
def send (post : Post) (sms : Sms) (occasion : Occasion) (settings : Settings)
    (file : StateFile) : Post :=
  { post with
    log := post.log ++ [{ sms, occasion, accepted := post.ready sms, settings, file }] }

/-- The messages that were accepted, oldest first. -/
def sent (post : Post) : List Sms :=
  (post.log.filter (·.accepted)).map (·.sms)

end Post

end HeatingHub
