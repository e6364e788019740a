import Marquee.Sign.Order
import Marquee.Sign.Timings
import Marquee.Text.Class
import Marquee.Toml.Document

/-!
# Settings

The settings of the program come from a TOML document with three sections, whose keys may all be
left out. A section is written as a table, or as an array with the values of its keys in their
fixed order. Keys that no section knows are refused, except among the display timings, where they
are passed over. Three variables of the environment take precedence over the bus settings.
-/

namespace Marquee

/-- How to reach the message bus. -/
structure BusSettings where
  /-- the host of the broker -/
  host : String
  /-- its port -/
  port : Nat
  /-- the name that this client goes by -/
  clientId : String
  /-- the user, if the broker wants one -/
  username : Option String
  /-- the user's password -/
  password : Option String
  /-- seconds of silence after which the connection is checked -/
  keepAliveS : Nat
deriving DecidableEq

/-- How to reach the panels. -/
structure PanelSettings where
  /-- candidate ports, in the order of trying -/
  ports : List String
  /-- speed of the line -/
  baud : Nat
  /-- time limit of a read, in milliseconds -/
  timeoutMs : Nat
  /-- emulated panels take the place of ports -/
  simulate : Bool
deriving DecidableEq

/-- All settings. -/
structure Settings where
  /-- the message bus -/
  bus : BusSettings
  /-- the panels -/
  panels : PanelSettings
  /-- the timings of the sign -/
  timings : Timings
deriving DecidableEq

namespace BusSettings

/-- A broker in the local network, without a user. -/
def default : BusSettings where
  host := "homeassistant.local"
  port := 1883
  clientId := "hexascroller"
  username := none
  password := none
  keepAliveS := 30

end BusSettings

/-- Speed and time limit of a panel's line. -/
structure LineSettings where
  /-- bits per second -/
  baud : Nat
  /-- time limit of a read, in milliseconds -/
  timeoutMs : Nat
deriving DecidableEq

/-- The speed is nominal, and half a second is enough for every answer. -/
def LineSettings.default : LineSettings := ⟨9600, 500⟩

namespace PanelSettings

/-- The first three ports for panels. -/
def default : PanelSettings where
  ports := ["/dev/ttyACM0", "/dev/ttyACM1", "/dev/ttyACM2"]
  baud := 9600
  timeoutMs := 500
  simulate := false

/-- The line of each port. -/
def line (p : PanelSettings) : LineSettings := ⟨p.baud, p.timeoutMs⟩

end PanelSettings

/-- What holds where nothing else is said. -/
def Settings.default : Settings := ⟨.default, .default, .default⟩

/-! ## Reading -/

namespace Toml

/-- A text. -/
def text : Toml → Option String
  | string t => some t
  | _ => none

/-- A whole number from zero up to a bound. -/
def natUpTo (most : Nat) : Toml → Option Nat
  | integer n => if 0 ≤ n ∧ n ≤ most then some n.toNat else none
  | _ => none

/-- A truth value. -/
def truth : Toml → Option Bool
  | boolean b => some b
  | _ => none

/-- A single precision value: from a number with a point by way of a double precision one, or from
a whole number of sixty-four bits. -/
def single : Toml → Option Single
  | float v => some (v.convert .single)
  | integer n =>
    if Int64.minValue.toInt ≤ n ∧ n < UInt64.size then
      some (.ofFraction .single (decide (n < 0)) n.natAbs 1)
    else none
  | _ => none

/-- A list of texts. -/
def texts : Toml → Option (List String)
  | array _ items => items.mapM text
  | _ => none

end Toml

/-- A section of the settings: its keys in their fixed order, and what each of them sets. -/
structure Section (σ : Type) where
  /-- the keys, with what they set if the value is of the right kind -/
  keys : List (String × (Toml → σ → Option σ))
  /-- unknown keys are passed over -/
  lenient : Bool

namespace Section

variable {σ : Type}

/-- Sets one key. -/
def set (sec : Section σ) (key : String) (value : Toml) (settings : σ) : Option σ :=
  match sec.keys.find? fun k => k.1 == key with
  | some (_, apply) => apply value settings
  | none => if sec.lenient then some settings else none

/-- Sets what a value says: a table by its keys, an array by the order of the keys. A date is a
value with inner parts of its own, none of which is a key. -/
def read (sec : Section σ) (value : Toml) (settings : σ) : Option σ :=
  match value with
  | .table _ entries => entries.foldlM (fun s entry => sec.set entry.1 entry.2 s) settings
  | .array _ items =>
    (sec.keys.zip items).foldlM (fun s entry => entry.1.2 entry.2 s) settings
  | .moment => if sec.lenient then some settings else none
  | _ => none

end Section

/-- The keys of the message bus. -/
def BusSettings.keys : Section BusSettings where
  lenient := false
  keys := [
    ("host", fun v s => v.text.map fun t => { s with host := t }),
    ("port", fun v s => (v.natUpTo (UInt16.size - 1)).map fun n => { s with port := n }),
    ("client_id", fun v s => v.text.map fun t => { s with clientId := t }),
    ("username", fun v s => v.text.map fun t => { s with username := some t }),
    ("password", fun v s => v.text.map fun t => { s with password := some t }),
    ("keep_alive_s", fun v s =>
      (v.natUpTo (UInt64.size - 1)).map fun n => { s with keepAliveS := n })]

/-- The keys of the panels. -/
def PanelSettings.keys : Section PanelSettings where
  lenient := false
  keys := [
    ("ports", fun v s => v.texts.map fun ts => { s with ports := ts }),
    ("baud", fun v s => (v.natUpTo (UInt32.size - 1)).map fun n => { s with baud := n }),
    ("timeout_ms", fun v s => (v.natUpTo (UInt32.size - 1)).map fun n => { s with timeoutMs := n }),
    ("simulate", fun v s => v.truth.map fun b => { s with simulate := b })]

/-- The keys of the timings. -/
def Timings.keys : Section Timings where
  lenient := true
  keys := [
    ("duration_s", fun v s => (v.natUpTo (UInt32.size - 1)).map fun n => { s with lifetimeS := n }),
    ("scroll_fraction", fun v s => v.single.map fun x => { s with passShare := x }),
    ("active_tick_ms", fun v s =>
      (v.natUpTo (UInt32.size - 1)).map fun n => { s with activePeriodMs := n }),
    ("idle_tick_ms", fun v s =>
      (v.natUpTo (UInt32.size - 1)).map fun n => { s with idlePeriodMs := n })]

namespace Settings

/-- The sections. -/
def sections : Section Settings where
  lenient := false
  keys := [
    ("mqtt", fun v s => (BusSettings.keys.read v s.bus).map fun b => { s with bus := b }),
    ("panels", fun v s => (PanelSettings.keys.read v s.panels).map fun p => { s with panels := p }),
    ("display", fun v s =>
      (Timings.keys.read v s.timings).map fun d => { s with timings := d })]

/-- The settings in a document, if it is one and says nothing wrong. -/
def ofToml? (text : String) : Option Settings :=
  (Toml.parse? text).bind fun entries => sections.read (.table .header entries) default

end Settings

/-! ## Files -/

/-- Why a file could not be read. -/
inductive FileError
  /-- there is none of this name -/
  | notFound
  /-- its bytes are no text -/
  | invalidText
deriving DecidableEq

/-- The wording of a file error. -/
def FileError.message : FileError → String
  | .notFound => "No such file or directory (os error 2)"
  | .invalidText => "stream did not contain valid UTF-8"

/-- What can be wrong with settings. -/
inductive SettingsError
  /-- the file could not be read -/
  | read (path : String) (reason : FileError)
  /-- the document breaks a rule of the format or of the sections -/
  | parse
  /-- the timings are not usable -/
  | timings (reason : TimingsError)
  /-- there are no ports and no emulated panels -/
  | noPorts
  /-- the broker has no host -/
  | noHost
  /-- the connection would be checked too often -/
  | keepAlive
deriving DecidableEq

/-- The shortest time between two checks of the connection, in seconds. -/
def leastKeepAliveS : Nat := 5

/-- The wording of a settings error. -/
def SettingsError.message : SettingsError → String
  | .read path reason => "could not read " ++ path ++ ": " ++ reason.message
  | .parse => "invalid TOML"
  | .timings reason => "[display] " ++ reason.message
  | .noPorts => "[panels] ports must list at least one port"
  | .noHost => "[mqtt] host must not be empty"
  | .keepAlive =>
    "[mqtt] keep_alive_s must be at least " ++ toString leastKeepAliveS ++ " seconds"

namespace Settings

/-- The settings in a text. -/
def ofText (text : String) : Except SettingsError Settings :=
  match ofToml? text with
  | some settings => .ok settings
  | none => .error .parse

/-- The settings in a file, from what reading it gave. -/
def ofFile (path : String) (content : Option (List UInt8)) : Except SettingsError Settings :=
  match content with
  | none => .error (.read path .notFound)
  | some bytes =>
    match Text.ofUtf8? bytes with
    | none => .error (.read path .invalidText)
    | some text => ofText text

/-- The settings that come with the program, as a document. -/
def builtInText : String :=
  "[mqtt]\n" ++
  "host = \"homeassistant.local\"\n" ++
  "port = 1883\n" ++
  "client_id = \"hexascroller\"\n" ++
  "keep_alive_s = 30\n" ++
  "\n" ++
  "[panels]\n" ++
  "ports = [\"/dev/ttyACM0\", \"/dev/ttyACM1\", \"/dev/ttyACM2\"]\n" ++
  "baud = 9600\n" ++
  "timeout_ms = 500\n" ++
  "simulate = false\n" ++
  "\n" ++
  "[display]\n" ++
  "duration_s = 30\n" ++
  "scroll_fraction = 0.9\n" ++
  "active_tick_ms = 60\n" ++
  "idle_tick_ms = 250\n"

/-- The settings that come with the program. -/
def builtIn : Except SettingsError Settings := ofText builtInText

/-! ## Environment -/

/-- The variable for the host of the broker. -/
def hostVariable : String := "MQTT_BROKER"

/-- The variable for the user. -/
def userVariable : String := "MQTT_USER"

/-- The variable for the password. -/
def passwordVariable : String := "MQTT_PASS"

/-- The variables that the settings are read from. -/
def environmentNames : List String := [hostVariable, userVariable, passwordVariable]

/-- Settings after the environment has had its say: host, user and password of the broker. -/
def withEnvironment (lookup : String → Option String) (s : Settings) : Settings :=
  { s with
    bus :=
      { s.bus with
        host := (lookup hostVariable).getD s.bus.host
        username := (lookup userVariable).or s.bus.username
        password := (lookup passwordVariable).or s.bus.password } }

/-- The settings with emulated panels or with ports. -/
def withSimulate (on : Bool) (s : Settings) : Settings :=
  { s with panels := { s.panels with simulate := on } }

/-! ## Checks -/

/-- Checks the settings in order: host, connection checks, ports, timings. -/
def check (s : Settings) : Except SettingsError Unit :=
  if Text.isAllBlank s.bus.host then .error .noHost
  else if s.bus.keepAliveS < leastKeepAliveS then .error .keepAlive
  else if s.panels.ports = [] ∧ s.panels.simulate = false then .error .noPorts
  else
    match s.timings.check with
    | .ok () => .ok ()
    | .error e => .error (.timings e)

end Settings

/-! ## Connection to the bus -/

/-- What the broker says in the client's name when it vanishes. -/
structure LastWill where
  /-- the topic -/
  topic : String
  /-- the payload -/
  payload : String
  /-- times of delivery: at least once -/
  quality : Nat
  /-- the broker keeps it for later subscribers -/
  retain : Bool
deriving DecidableEq

/-- How the client connects. -/
structure BusConnection where
  /-- host of the broker -/
  host : String
  /-- port of the broker -/
  port : Nat
  /-- the client's name -/
  clientId : String
  /-- seconds of silence after which the connection is checked -/
  keepAliveS : Nat
  /-- user and password -/
  credentials : Option (String × String)
  /-- what is said when the client vanishes -/
  will : LastWill
deriving DecidableEq

/-- The broker marks the program as gone when it vanishes, for everyone who asks later. -/
def lastWill : LastWill := ⟨Topic.available, offlinePayload, 1, true⟩

/-- How the client connects. A user without a password has the empty one, and without any checks
of the connection there is none. -/
def BusSettings.connection? (s : BusSettings) : Option BusConnection :=
  if s.keepAliveS = 0 then none
  else
    some
      { host := s.host
        port := s.port
        clientId := s.clientId
        keepAliveS := s.keepAliveS
        credentials := s.username.map fun user => (user, s.password.getD "")
        will := lastWill }

end Marquee
