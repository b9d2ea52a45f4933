import HeatingHub.Connection.Switchboard
import HeatingHub.Duration
import HeatingHub.Station.Basic
import HeatingHub.Watch.Streak
import HeatingHub.Watch.Timer

/-!
# The watch

The watch looks after the network link, the modem and the message daemon, lets go of idle
connections, reports lost devices, and announces the start of the hub. Each of these duties has a
timer of its own. When the modem or the daemon has failed for long enough, nobody can reach the hub
any more, and all heaters are set to the safe mode.
-/

namespace HeatingHub

/-- The timers of the duties and the streaks of the checks. -/
structure Watch where
  linkTimer : Timer
  modemTimer : Timer
  daemonTimer : Timer
  staleTimer : Timer
  lostTimer : Timer
  bootTimer : Timer
  link : Streak
  modem : Streak
  daemon : Streak
  deriving DecidableEq

namespace Watch

/-- The time between two checks of the link. -/
def linkPeriod : Nat := Duration.minutes 1

/-- The number of link failures that is reported. -/
def linkThreshold : Nat := 15

/-- The time between two checks of the modem. -/
def modemPeriod : Nat := Duration.minutes 5

/-- The number of modem failures after which the heaters are set to the safe mode. -/
def modemThreshold : Nat := 6

/-- The time between two checks of the message daemon. -/
def daemonPeriod : Nat := Duration.minutes 5

/-- The number of daemon failures after which the heaters are set to the safe mode. -/
def daemonThreshold : Nat := 6

/-- The time between two sweeps over the connections. -/
def stalePeriod : Nat := Duration.minutes 1

/-- The time after which an idle connection is let go. -/
def maxIdle : Nat := Duration.minutes 30

/-- The time between two sweeps over the devices. -/
def lostPeriod : Nat := Duration.hours 1

/-- The time after which a silent device is lost. -/
def lostThreshold : Nat := Duration.hours 24

/-- The time from the start to its announcement. -/
def bootDelay : Nat := Duration.seconds 30

/-- The watch of a hub that starts at this time. -/
def start (now : Nat) : Watch where
  linkTimer := .every linkPeriod now
  modemTimer := .every modemPeriod now
  daemonTimer := .every daemonPeriod now
  staleTimer := .every stalePeriod now
  lostTimer := .every lostPeriod now
  bootTimer := .once bootDelay now
  link := { threshold := linkThreshold }
  modem := { threshold := modemThreshold }
  daemon := { threshold := daemonThreshold }

/-- The alert that the link has been down for too long. -/
def linkLostText : String :=
  "Error! Hub lost network connection for past " ++ Duration.text (linkPeriod * linkThreshold) ++
    ". Heaters cannot be controlled (they will switch to " ++ Mode.safe.label ++
    " mode automatically)."

/-- The alert that the link is up again. -/
def linkRestoredText : String :=
  "Hub restored network connection. System is now running ok."

/-- The alert that what had failed works again. -/
def recoveryText (subject : String) : String :=
  "INFO! All heaters were set to " ++ Mode.safe.label ++ " mode due to earlier " ++ subject ++
    " errors"

/-- The alert that names the lost devices. -/
def lostText (devices : List LostDevice) : String :=
  let names := ", ".intercalate (devices.map LostDevice.display)
  if devices.length = 1 then "WARNING! Lost connection with one device: " ++ names
  else "WARNING! Lost connection with " ++ toString devices.length ++ " devices: " ++ names

/-- The alert that the hub has started, with the modes in use. -/
def bootText (fleet : Fleet) : String :=
  fleet.overrides.toList.foldl
    (fun text (name, mode) => text ++ "Heater " ++ name ++ " state: " ++ mode.label ++ "\n")
    ("INFO! Hub software started\nDefault heater state: " ++ fleet.defaultMode.label ++ "\n")

/-- Checks the link. An outage is reported once, when its streak reaches the threshold, and its end
is always announced. A check without an answer counts neither way. -/
def checkLink (watch : Watch) (station : Station) : Watch × Station :=
  let (answer, station) := station.ask (·.link)
  match answer with
  | .error _ => (watch, station)
  | .ok true =>
    ({ watch with link := watch.link.reset },
      if 0 < watch.link.count then station.alert linkRestoredText else station)
  | .ok false =>
    let streak := watch.link.fail
    ({ watch with link := streak },
      if streak.isReached then station.alert linkLostText else station)

/-- Judges a part without which no message reaches the hub. All heaters are set to the safe mode
when its streak of failures reaches the threshold, and a recovery is announced if that happened. -/
def judge (streak : Streak) (healthy : Bool) (subject : String) (station : Station) :
    Streak × Station :=
  if healthy then
    (streak.reset,
      if streak.escalates streak.count then station.alert (recoveryText subject) else station)
  else
    let streak := streak.fail
    (streak, if streak.isReached then station.setAll .safe else station)

/-- Checks the modem. -/
def checkModem (watch : Watch) (station : Station) : Watch × Station :=
  let (status, station) := station.ask (·.modem)
  let (modem, station) := judge watch.modem status.isRegistered "modem" station
  ({ watch with modem }, station)

/-- Checks the message daemon. -/
def checkDaemon (watch : Watch) (station : Station) : Watch × Station :=
  let (running, station) := station.ask (·.daemon)
  let (daemon, station) := judge watch.daemon running "SMS daemon" station
  ({ watch with daemon }, station)

/-- Drops the devices that have been silent for too long, and reports them in one alert. -/
def sweepLost (station : Station) (wall : Int) : List LostDevice × Station :=
  let (lost, fleet) := station.fleet.sweepLost wall lostThreshold
  let station := { station with fleet }
  (lost, if lost.isEmpty then station else station.alert (lostText lost))

/-- Announces the start of the hub. -/
def announce (station : Station) : Station :=
  station.alert (bootText station.fleet)

/-- Checks the link if its timer is due. -/
def linkDuty (now : Nat) (watch : Watch) (station : Station) : Watch × Station :=
  let asked := { watch with linkTimer := watch.linkTimer.ask now }
  if watch.linkTimer.isDue now then asked.checkLink station else (asked, station)

/-- Checks the modem if its timer is due. -/
def modemDuty (now : Nat) (watch : Watch) (station : Station) : Watch × Station :=
  let asked := { watch with modemTimer := watch.modemTimer.ask now }
  if watch.modemTimer.isDue now then asked.checkModem station else (asked, station)

/-- Checks the message daemon if its timer is due. -/
def daemonDuty (now : Nat) (watch : Watch) (station : Station) : Watch × Station :=
  let asked := { watch with daemonTimer := watch.daemonTimer.ask now }
  if watch.daemonTimer.isDue now then asked.checkDaemon station else (asked, station)

/-- Lets go of the idle connections if the timer is due. -/
def staleDuty (now : Nat) (watch : Watch) (board : Switchboard) : Watch × Switchboard :=
  ({ watch with staleTimer := watch.staleTimer.ask now },
    if watch.staleTimer.isDue now then board.sweepStale now maxIdle else board)

/-- Reports the lost devices if the timer is due. -/
def lostDuty (now : Nat) (wall : Int) (watch : Watch) (station : Station) : Watch × Station :=
  ({ watch with lostTimer := watch.lostTimer.ask now },
    if watch.lostTimer.isDue now then (sweepLost station wall).2 else station)

/-- Announces the start if the timer is due. -/
def bootDuty (now : Nat) (watch : Watch) (station : Station) : Watch × Station :=
  ({ watch with bootTimer := watch.bootTimer.ask now },
    if watch.bootTimer.isDue now then announce station else station)

/-- Sees to all duties that are due. -/
def tick (now : Nat) (wall : Int) (watch : Watch) (station : Station) (board : Switchboard) :
    Watch × Station × Switchboard :=
  let (watch, station) := watch.linkDuty now station
  let (watch, station) := watch.modemDuty now station
  let (watch, station) := watch.daemonDuty now station
  let (watch, board) := watch.staleDuty now board
  let (watch, station) := watch.lostDuty now wall station
  let (watch, station) := watch.bootDuty now station
  (watch, station, board)

end Watch

end HeatingHub
