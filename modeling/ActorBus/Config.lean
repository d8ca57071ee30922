import ActorBus.Codec.Frames
import ActorBus.Message.Envelope
import ActorBus.Toml.Document

/-!
# Configuration

A configuration is read from a TOML text in which every setting may be missing, then changed by
override variables, and valid if the inbound endpoint has a name of its own and departure notices
have an address. `Config.override` applies variables in order and stops at the first value that it
cannot read; what the variables amount to is judged only after the last of them.
-/

set_option autoImplicit false

namespace ActorBus

/-- The settings of a silo. -/
structure Config where
  name : String
  inbound : String
  outbound : String
  /-- Actors' lines are kept. -/
  monitor : Bool
  codec : Codec
  departureAddress : String
  deriving DecidableEq, Repr

namespace Config

/-- The settings where nothing is configured. -/
def standard : Config where
  name := "silo"
  inbound := "inproc://silo/inbound"
  outbound := "inproc://silo/outbound"
  monitor := false
  codec := .standard
  departureAddress := Message.departureAddress

/-- Accepts a configuration with which a silo can be made. -/
def validate (c : Config) : Except ConfigError Config :=
  if c.inbound = "" ∨ c.inbound = c.outbound then .error (.invalid "pipe.inbound" c.inbound)
  else if c.departureAddress = "" then .error (.invalid "departure_address" "")
  else .ok c

/-- A text setting; one that is missing has a standard. -/
def textSetting (standard : String) : Option Toml.Node → Option String
  | none => some standard
  | some (.text s) => some s
  | some _ => none

/-- A truth setting. -/
def booleanSetting (standard : Bool) : Option Toml.Node → Option Bool
  | none => some standard
  | some (.boolean b) => some b
  | some _ => none

/-- A node that holds nothing. -/
def isVoid : Toml.Node → Bool
  | .array items => items.isEmpty
  | .table _ entries => entries.isEmpty
  | _ => false

/-- A setting that names one of some choices: as a text, or as the only key of a table, over
nothing. -/
def choiceSetting {α : Type} (standard : α) (choice : String → Option α) :
    Option Toml.Node → Option α
  | none => some standard
  | some (.text s) => choice s
  | some (.table _ [(key, v)]) => if isVoid v then choice key else none
  | some _ => none

/-- The format of a name. -/
def formatOfName : String → Option Format
  | "json" => some .json
  | "bincode" => some .bincode
  | _ => none

/-- The text encoding of a name. -/
def encodingOfName : String → Option TextEncoding
  | "utf8" => some .utf8
  | "utf16-le" => some .utf16le
  | _ => none

/-- The names of the inbound and outbound endpoints: the entries of a table, or the first items of
an array. -/
def pipeSetting : Option Toml.Node → Option (String × String)
  | none => some (standard.inbound, standard.outbound)
  | some (.table _ entries) => do
    some (← textSetting standard.inbound (entries.lookup "inbound"),
      ← textSetting standard.outbound (entries.lookup "outbound"))
  | some (.array items) => do
    some (← textSetting standard.inbound items[0]?, ← textSetting standard.outbound items[1]?)
  | some _ => none

/-- The settings of a table; keys without a meaning are ignored. -/
def ofEntries? (entries : Toml.Entries) : Option Config := do
  let (inbound, outbound) ← pipeSetting (entries.lookup "pipe")
  some {
    name := ← textSetting standard.name (entries.lookup "name")
    inbound
    outbound
    monitor := ← booleanSetting standard.monitor (entries.lookup "monitor")
    codec :=
      ⟨← choiceSetting standard.codec.format formatOfName (entries.lookup "format"),
        ← choiceSetting standard.codec.encoding encodingOfName (entries.lookup "text_encoding")⟩
    departureAddress :=
      ← textSetting standard.departureAddress (entries.lookup "departure_address") }

/-- The configuration of a text. -/
def ofText (text : String) : Except ConfigError Config :=
  match (Toml.parse text).bind ofEntries? with
  | some c => c.validate
  | none => .error .unparsable

/-- The truth value of a flag's text, in upper or lower case. -/
def flag (value : String) : Option Bool :=
  let value := value.map Char.toLower
  if value ∈ ["1", "true", "yes", "on"] then some true
  else if value ∈ ["0", "false", "no", "off"] then some false
  else none

/-- Applies one variable; none if its value cannot be read. A variable without a meaning changes
nothing. -/
def set? (key value : String) (c : Config) : Option Config :=
  if key = "SILO_NAME" then some { c with name := value }
  else if key = "SILO_MONITOR" then (flag value).map fun monitor => { c with monitor }
  else if key = "SILO_FORMAT" then
    (formatOfName (value.map Char.toLower)).map fun format =>
      { c with codec := { c.codec with format } }
  else if key = "SILO_DEPARTURE_ADDRESS" then some { c with departureAddress := value }
  else some c

/-- Applies variables in order. -/
def setAll : List (String × String) → Config → Except ConfigError Config
  | [], c => .ok c
  | (key, value) :: rest, c =>
    match c.set? key value with
    | some c => setAll rest c
    | none => .error (.invalid key value)

/-- Applies variables and accepts the result if it is valid. -/
def override (overrides : List (String × String)) (c : Config) : Except ConfigError Config := do
  (← setAll overrides c).validate

/-- The configuration of a file's contents, with the variables of the environment applied; none
where there is no file. -/
def load (contents : Option Bytes) (environment : List (String × String)) :
    Except ConfigError Config :=
  match contents with
  | none => .error .unreadable
  | some data =>
    match TextEncoding.utf8.decode data with
    | .ok text => do (← ofText text).override environment
    | .error _ => .error .unreadable

end Config

end ActorBus
