/-!
# Text messages

A text message, and the queue of received messages that wait to be obeyed, oldest first.
-/

namespace HeatingHub

/-- A text message and the number that it comes from or goes to. -/
structure Sms where
  number : String
  text : String
  deriving DecidableEq, Repr

/-- The received messages that wait to be obeyed, oldest first. -/
structure Inbox where
  waiting : List Sms := []
  deriving DecidableEq

namespace Inbox

/-- Adds a message behind all others. -/
def enqueue (inbox : Inbox) (sms : Sms) : Inbox :=
  { waiting := inbox.waiting ++ [sms] }

/-- Takes the oldest message. -/
def pop (inbox : Inbox) : Option Sms × Inbox :=
  (inbox.waiting.head?, { waiting := inbox.waiting.tail })

/-- Takes all messages. -/
def takeAll (inbox : Inbox) : List Sms × Inbox :=
  (inbox.waiting, {})

/-- The number of messages. -/
def size (inbox : Inbox) : Nat :=
  inbox.waiting.length

/-- No message waits. -/
def isEmpty (inbox : Inbox) : Bool :=
  inbox.waiting.isEmpty

end Inbox

end HeatingHub
