import HeatingHub.Text.Blank
import HeatingHub.Text.Line
import HeatingHub.Text.Letter
import HeatingHub.Text.Cut
import HeatingHub.Text.Number
import HeatingHub.Text.Utf8
import HeatingHub.Text.Decimal
import HeatingHub.Text.Pattern
import HeatingHub.Mode
import HeatingHub.DeviceId
import HeatingHub.Fault
import HeatingHub.Name
import HeatingHub.Frame.Message
import HeatingHub.Fleet
import HeatingHub.Settings.Printer
import HeatingHub.Settings.Reader
import HeatingHub.Station.Basic
import HeatingHub.Command.Grammar
import HeatingHub.Command.Form
import HeatingHub.Station.Obey
import HeatingHub.Watch.Timer
import HeatingHub.Watch.Streak
import HeatingHub.Connection.Switchboard
import HeatingHub.Hub.Run
import HeatingHub.Sms.Incoming
import HeatingHub.Config.Reader
import HeatingHub.Host.Machine
import HeatingHub.Sms.Spool
import HeatingHub.Sms.Arrival
import HeatingHub.CommandLine
import HeatingHub.Launch
import HeatingHub.Main
import HeatingHub.Proofs.Hub.Lock
import HeatingHub.Proofs.Hub.Stranger
import HeatingHub.Proofs.Hub.Mirror
import HeatingHub.Proofs.Hub.Confirmation
import HeatingHub.Proofs.Hub.Record
import HeatingHub.Proofs.Hub.View
import HeatingHub.Proofs.Hub.Traffic
import HeatingHub.Proofs.Frame.RoundTrip
import HeatingHub.Proofs.Command.Meaning
import HeatingHub.Proofs.Command.Form
import HeatingHub.Proofs.Hub.Saving
import HeatingHub.Proofs.Hub.Cost
import HeatingHub.Proofs.Hub.Reply
import HeatingHub.Proofs.Hub.Reboot
import HeatingHub.Proofs.Hub.Escalation
import HeatingHub.Proofs.Hub.Refusal
import HeatingHub.Proofs.Hub.Recipient
import HeatingHub.Proofs.Hub.Secret
import HeatingHub.Proofs.Hub.Loss
import HeatingHub.Proofs.Connection.Interleaving
import HeatingHub.Proofs.Connection.Framing
import HeatingHub.Proofs.Hub.Lifetime
import HeatingHub.Proofs.Watch.Cadence
import HeatingHub.Proofs.Watch.Round
import HeatingHub.Proofs.Settings.Meaning
import HeatingHub.Proofs.Station.Edit
import HeatingHub.Proofs.Hub.Outage
import HeatingHub.Proofs.Fleet.Casing
import HeatingHub.Proofs.Frame.Format
import HeatingHub.Proofs.Station.Log
import HeatingHub.Proofs.Sms.Arrival
import HeatingHub.Proofs.Hub.Reception
import HeatingHub.Proofs.Fleet.Commutation
import HeatingHub.Proofs.Hub.Torn
import HeatingHub.Proofs.Sms.Spool
import HeatingHub.Proofs.Hub.Header
import HeatingHub.Proofs.DeviceId
import HeatingHub.Proofs.Host.Process
import HeatingHub.Proofs.Sms.Incoming
