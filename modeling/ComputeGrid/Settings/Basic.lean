import ComputeGrid.Address.Network
import ComputeGrid.Duration
import ComputeGrid.Text.Quoted

/-!
# Settings

The settings of a deployer, of its polling and of a mesh. Durations and the carrier range are kept as they were written,
so that settings are written back unchanged; each has a reader, and a duration that cannot be read falls back to the one
that its default text stands for. `Settings.validate` says which settings are refused.
-/

namespace ComputeGrid

/-! ### Durations -/

/-- The settings that are durations. -/
inductive DurationSetting where
  | submitTimeout
  | fetchTimeout
  | initialInterval
  | maxInterval
  | maxElapsed
  | stallTimeout
  deriving DecidableEq, Repr

namespace DurationSetting

/-- Every duration, in the order in which they are checked. -/
def all : List DurationSetting :=
  [submitTimeout, fetchTimeout, initialInterval, maxInterval, maxElapsed, stallTimeout]

/-- Where the setting stands in a document. -/
def path : DurationSetting → String
  | submitTimeout => "deployer.submit_timeout"
  | fetchTimeout => "deployer.fetch_timeout"
  | initialInterval => "deployer.poll.initial_interval"
  | maxInterval => "deployer.poll.max_interval"
  | maxElapsed => "deployer.poll.max_elapsed"
  | stallTimeout => "deployer.poll.stall_timeout"

/-- The text of a setting that is not given. -/
def defaultText : DurationSetting → String
  | submitTimeout => "4m"
  | fetchTimeout => "10s"
  | initialInterval => "3s"
  | maxInterval => "40s"
  | maxElapsed => "50m"
  | stallTimeout => "4m"

/-- The duration in place of one that cannot be read. -/
def fallback : DurationSetting → Duration
  | submitTimeout => .ofSeconds 240
  | fetchTimeout => .ofSeconds 10
  | initialInterval => .ofSeconds 3
  | maxInterval => .ofSeconds 40
  | maxElapsed => .ofSeconds 3000
  | stallTimeout => .ofSeconds 240

/-- The duration that a text stands for in this setting. -/
def read (s : DurationSetting) (text : String) : Duration := (Duration.ofText? text).getD s.fallback

/-- The default text stands for the fallback. -/
theorem ofText?_defaultText (s : DurationSetting) : Duration.ofText? s.defaultText = some s.fallback := by
  cases s <;> decide +kernel

end DurationSetting

/-! ### Records -/

/-- How convergence is polled for: intervals grow by `multiplier` up to `maxInterval`, and polling ends after
`maxElapsed`, or after `stallTimeout` without progress. -/
structure PollSettings where
  initialIntervalText : String
  multiplier : Float
  maxIntervalText : String
  maxElapsedText : String
  stallTimeoutText : String
  deriving DecidableEq

namespace PollSettings

def standard : PollSettings where
  initialIntervalText := DurationSetting.initialInterval.defaultText
  multiplier := 1.25
  maxIntervalText := DurationSetting.maxInterval.defaultText
  maxElapsedText := DurationSetting.maxElapsed.defaultText
  stallTimeoutText := DurationSetting.stallTimeout.defaultText

def initialInterval (s : PollSettings) : Duration := DurationSetting.initialInterval.read s.initialIntervalText

def maxInterval (s : PollSettings) : Duration := DurationSetting.maxInterval.read s.maxIntervalText

def maxElapsed (s : PollSettings) : Duration := DurationSetting.maxElapsed.read s.maxElapsedText

def stallTimeout (s : PollSettings) : Duration := DurationSetting.stallTimeout.read s.stallTimeoutText

end PollSettings

/-- What a deployer goes by: deadlines of calls, the least balance for making contracts, and whether a pass that fails
is reverted. -/
structure DeployerSettings where
  revertOnFailure : Bool
  submitTimeoutText : String
  fetchTimeoutText : String
  minBalance : UInt64
  poll : PollSettings
  deriving DecidableEq

namespace DeployerSettings

def standard : DeployerSettings where
  revertOnFailure := false
  submitTimeoutText := DurationSetting.submitTimeout.defaultText
  fetchTimeoutText := DurationSetting.fetchTimeout.defaultText
  minBalance := 20000
  poll := .standard

def submitTimeout (s : DeployerSettings) : Duration := DurationSetting.submitTimeout.read s.submitTimeoutText

def fetchTimeout (s : DeployerSettings) : Duration := DurationSetting.fetchTimeout.read s.fetchTimeoutText

/-- The text of a duration. -/
def durationText (s : DeployerSettings) : DurationSetting → String
  | .submitTimeout => s.submitTimeoutText
  | .fetchTimeout => s.fetchTimeoutText
  | .initialInterval => s.poll.initialIntervalText
  | .maxInterval => s.poll.maxIntervalText
  | .maxElapsed => s.poll.maxElapsedText
  | .stallTimeout => s.poll.stallTimeoutText

/-- The first duration that cannot be read. -/
def unreadable? (s : DeployerSettings) : Option DurationSetting :=
  DurationSetting.all.find? fun setting => (Duration.ofText? (s.durationText setting)).isNone

end DeployerSettings

/-- What a mesh goes by: the range of carrier addresses, the listen ports from `wgPortMin` up to below `wgPortMax`, and
seconds between keepalives. -/
structure NetworkSettings where
  carrierRangeText : String
  wgPortMin : UInt16
  wgPortMax : UInt16
  keepalive : UInt32
  deriving DecidableEq, Repr

/-- All settings. -/
structure Settings where
  deployer : DeployerSettings
  network : NetworkSettings
  deriving DecidableEq

/-! ### Validity -/

/-- Why settings cannot be used. -/
inductive SettingsError where
  /-- There is no file, or it is no text. -/
  | unreadable
  /-- The text is no document of settings. -/
  | malformed
  /-- A number is too large to be written. -/
  | unwritable
  | noDuration (setting : DurationSetting) (text : String)
  | multiplier
  | noNetwork (text : String)
  | portBounds
  deriving DecidableEq, Repr

namespace SettingsError

/-- What is said about a setting that is refused. -/
def refusal (path reason : String) : String := "invalid config value for " ++ path ++ ": " ++ reason

/-- What is said about an error; nothing where another reader has found it. -/
def message? : SettingsError → Option String
  | unreadable | malformed | unwritable => none
  | noDuration setting text => some (refusal setting.path (Text.quoted text ++ " is not a duration"))
  | multiplier => some (refusal "deployer.poll.multiplier" "must be a finite number of at least 1.0")
  | noNetwork text => some (refusal "network.carrier_range" (Text.quoted text ++ " is not an IPv4 network"))
  | portBounds => some (refusal "network.wg_port_min" "must be lower than wg_port_max")

end SettingsError

namespace NetworkSettings

def standard : NetworkSettings where
  carrierRangeText := "100.64.0.0/16"
  wgPortMin := 1024
  wgPortMax := 32767
  keepalive := 25

/-- The range of carrier addresses. -/
def carrierRange (s : NetworkSettings) : Except SettingsError Ipv4Network :=
  match Ipv4Network.ofText? s.carrierRangeText with
  | some n => .ok n
  | none => .error (.noNetwork s.carrierRangeText)

end NetworkSettings

namespace Settings

def standard : Settings := ⟨.standard, .standard⟩

/-- Refuses settings with a text that cannot be read, a multiplier that shrinks intervals or no ports. -/
def validate (s : Settings) : Except SettingsError Unit :=
  match s.deployer.unreadable? with
  | some setting => .error (.noDuration setting (s.deployer.durationText setting))
  | none =>
    if !s.deployer.poll.multiplier.isFinite || s.deployer.poll.multiplier < 1.0 then .error .multiplier
    else match s.network.carrierRange with
      | .error e => .error e
      | .ok _ => if s.network.wgPortMax ≤ s.network.wgPortMin then .error .portBounds else .ok ()

end Settings

end ComputeGrid
