import HeatingHub.Config.Basic
import HeatingHub.DeviceId
import HeatingHub.Duration
import HeatingHub.Host.FileTree
import HeatingHub.Host.Modem
import HeatingHub.Text.Decimal

/-!
# The machine

The computer that the hub runs on, as far as the hub looks at it: the files in which its system
shows the network interfaces and the processes, the modem, the page with the public address, and
the programs that give diagnostics. From these the machine's answers to the hub's questions are
found.
-/

namespace HeatingHub

/-- The interface is administratively up. -/
def interfaceUp : Nat := 0x1

/-- The interface is running. -/
def interfaceRunning : Nat := 0x40

/-- The flags of a network interface, a hexadecimal number that may carry the mark `0x`. -/
def readInterfaceFlags? (text : List Char) : Option Nat :=
  let trimmed := Text.trim text
  Text.readNat? 16 Text.greatest32 ((Text.after? "0x".toList trimmed).getD trimmed)

/-- The name of a process from its status line: what stands between the first opening and the last
closing parenthesis. -/
def processName? (status : List Char) : Option (List Char) :=
  (Text.splitOnce '(' status).bind fun parts =>
    (Text.splitOnce ')' parts.2.reverse).map (·.2.reverse)

/-- What a web server returns. -/
structure WebPage where
  status : Nat
  body : List UInt8

/-- How a program of the host ends. -/
structure ToolRun where
  stdout : List UInt8 := []
  stderr : List UInt8 := []
  code : Int := 0

/-- A computer with the parts of its configuration that the questions are about. -/
structure Machine where
  interface : String
  daemonProcess : String
  logUnit : String
  /-- The directory with one directory for each network interface. -/
  interfacesDir : String := "/sys/class/net"
  /-- The directory with one directory for each process. -/
  processesDir : String := "/proc"
  files : FileTree := {}
  modem : Modem := {}
  /-- The answer of the page with the public address, if it can be reached. -/
  page : Option WebPage := none
  tools : List (String × ToolRun) := []

namespace Machine

/-- The path of a file about the network interface. -/
def interfaceFile (machine : Machine) (name : String) : String :=
  joinPath (joinPath machine.interfacesDir machine.interface) name

/-- The network interface is up and running. -/
def linkUp (machine : Machine) : Except Fault Bool :=
  let path := machine.interfaceFile "flags"
  (machine.files.readText path).bind fun text =>
    match readInterfaceFlags? text with
    | some flags => .ok (flags &&& interfaceUp != 0 && flags &&& interfaceRunning != 0)
    | none => .error (.flagsUnreadable path)

/-- The address of the network interface, or the zero id when it cannot be read. -/
def hubId (machine : Machine) : DeviceId :=
  ((machine.files.readText (machine.interfaceFile "address")).toOption.bind DeviceId.read?).getD
    .zero

/-- The process in this directory has the daemon's name. -/
def runsDaemon (machine : Machine) (entry : List Char) : Bool :=
  let path := joinPath (joinPath machine.processesDir (String.ofList entry)) "stat"
  match machine.files.readText path with
  | .ok status => processName? status = some machine.daemonProcess.toList
  | .error _ => false

/-- Some process has the daemon's name. Processes are the entries whose names are numbers. -/
def daemonRunning (machine : Machine) : Bool :=
  ((machine.files.children machine.processesDir).filter
    fun entry => (Text.readNat? 10 Text.greatest32 entry).isSome).any machine.runsDaemon

/-- How long the machine has been up. -/
def uptime (machine : Machine) : Except Fault String :=
  (machine.files.readText (joinPath machine.processesDir "uptime")).bind fun text =>
    match (Text.words text).head?.bind Text.readDecimal? with
    | some seconds => .ok (Duration.uptimeText seconds.wholeSeconds)
    | none => .error .uptimeUnreadable

/-- The bytes of a page without the byte order mark that may begin it. -/
def withoutMark : List UInt8 → List UInt8
  | 0xEF :: 0xBB :: 0xBF :: rest => rest
  | bytes => bytes

/-- The public address, as the page shows it. -/
def publicIp (machine : Machine) : Except Fault String :=
  match machine.page with
  | none => .error .webUnreachable
  | some page =>
    if 400 ≤ page.status then .error .webUnreachable
    else .ok (String.ofList (Text.trim (Text.decodeLenient (withoutMark page.body))))

/-- The greatest width of an argument of a program. -/
def argumentLimit : Nat := 131071

/-- Starts a program, given with its arguments, and waits for its end. -/
def start (machine : Machine) (tool : String × List String) : Except IoFault ToolRun :=
  if tool.2.any (·.toList.contains '\x00') then .error .zeroInArgument
  else match machine.tools.find? (·.1 == tool.1) with
    | none => .error .notFound
    | some (_, outcome) =>
      if tool.2.any (argumentLimit < Text.width ·.toList) then .error .argumentTooLong
      else .ok outcome

/-- What a program prints, given with its arguments. -/
def run (machine : Machine) (tool : String × List String) : Except Fault String :=
  match machine.start tool with
  | .error cause => .error (.toolRefused tool.1 cause)
  | .ok outcome =>
    if outcome.code = 0 then .ok (String.ofList (Text.decodeLenient outcome.stdout))
    else
      .error (.toolFailed tool.1
        (String.ofList (Text.trim (Text.decodeLenient outcome.stderr))))

/-- The program for the wifi report, with its arguments. -/
def wifiTool (machine : Machine) : String × List String :=
  ("iwconfig", [machine.interface])

/-- The program for the log, with its arguments. -/
def logTool (machine : Machine) : String × List String :=
  ("journalctl", ["--unit=" ++ machine.logUnit, "--no-pager"])

/-- The program that restarts the machine, with its arguments. -/
def rebootTool : String × List String :=
  ("systemctl", ["reboot"])

/-- The answers of the machine. -/
def vitals (machine : Machine) : Vitals where
  link := machine.linkUp
  modem := machine.modem.query.1
  daemon := machine.daemonRunning
  publicIp := machine.publicIp
  uptime := machine.uptime
  wifi := machine.run machine.wifiTool
  logs := machine.run machine.logTool
  reboot := (machine.run rebootTool).map fun _ => ()

end Machine

end HeatingHub
