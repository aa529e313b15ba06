import ComputeGrid.Json.Record
import ComputeGrid.Settings.Basic

/-!
# Settings as records

Every field may be absent, and then has its standard value. Readers take the function that finds the fields of a record,
because documents of different formats differ in whether a list of fields may go on after the last of them.
-/

namespace ComputeGrid

/-- Finds the fields of a record with a given number of them. -/
abbrev FieldFinder := (arity : Nat) → Json → Option Json.Fields

namespace PollSettings

def toJson (s : PollSettings) : Json :=
  .object [("initial_interval", .string s.initialIntervalText), ("multiplier", .number (.double s.multiplier)),
    ("max_interval", .string s.maxIntervalText), ("max_elapsed", .string s.maxElapsedText),
    ("stall_timeout", .string s.stallTimeoutText)]

def ofRecord? (find : FieldFinder) (j : Json) : Option PollSettings := do
  let f ← find 5 j
  let std := standard
  return {
    initialIntervalText := ← f.withDefault 0 "initial_interval" Json.toString? std.initialIntervalText
    multiplier := ← f.withDefault 1 "multiplier" Json.toFloat? std.multiplier
    maxIntervalText := ← f.withDefault 2 "max_interval" Json.toString? std.maxIntervalText
    maxElapsedText := ← f.withDefault 3 "max_elapsed" Json.toString? std.maxElapsedText
    stallTimeoutText := ← f.withDefault 4 "stall_timeout" Json.toString? std.stallTimeoutText }

def ofJson? (j : Json) : Option PollSettings := ofRecord? Json.toFields? j

end PollSettings

namespace DeployerSettings

def toJson (s : DeployerSettings) : Json :=
  .object [("revert_on_failure", .bool s.revertOnFailure), ("submit_timeout", .string s.submitTimeoutText),
    ("fetch_timeout", .string s.fetchTimeoutText), ("min_balance", .ofNat s.minBalance.toNat),
    ("poll", s.poll.toJson)]

def ofRecord? (find : FieldFinder) (j : Json) : Option DeployerSettings := do
  let f ← find 5 j
  let std := standard
  return {
    revertOnFailure := ← f.withDefault 0 "revert_on_failure" Json.toBool? std.revertOnFailure
    submitTimeoutText := ← f.withDefault 1 "submit_timeout" Json.toString? std.submitTimeoutText
    fetchTimeoutText := ← f.withDefault 2 "fetch_timeout" Json.toString? std.fetchTimeoutText
    minBalance := ← f.withDefault 3 "min_balance" Json.toUInt64? std.minBalance
    poll := ← f.withDefault 4 "poll" (PollSettings.ofRecord? find) std.poll }

def ofJson? (j : Json) : Option DeployerSettings := ofRecord? Json.toFields? j

end DeployerSettings

namespace NetworkSettings

def toJson (s : NetworkSettings) : Json :=
  .object [("carrier_range", .string s.carrierRangeText), ("wg_port_min", .ofNat s.wgPortMin.toNat),
    ("wg_port_max", .ofNat s.wgPortMax.toNat), ("keepalive", .ofNat s.keepalive.toNat)]

def ofRecord? (find : FieldFinder) (j : Json) : Option NetworkSettings := do
  let f ← find 4 j
  let std := standard
  return {
    carrierRangeText := ← f.withDefault 0 "carrier_range" Json.toString? std.carrierRangeText
    wgPortMin := ← f.withDefault 1 "wg_port_min" Json.toUInt16? std.wgPortMin
    wgPortMax := ← f.withDefault 2 "wg_port_max" Json.toUInt16? std.wgPortMax
    keepalive := ← f.withDefault 3 "keepalive" Json.toUInt32? std.keepalive }

def ofJson? (j : Json) : Option NetworkSettings := ofRecord? Json.toFields? j

end NetworkSettings

namespace Settings

def toJson (s : Settings) : Json :=
  .object [("deployer", s.deployer.toJson), ("network", s.network.toJson)]

def ofRecord? (find : FieldFinder) (j : Json) : Option Settings := do
  let f ← find 2 j
  return {
    deployer := ← f.withDefault 0 "deployer" (DeployerSettings.ofRecord? find) .standard
    network := ← f.withDefault 1 "network" (NetworkSettings.ofRecord? find) .standard }

def ofJson? (j : Json) : Option Settings := ofRecord? Json.toFields? j

end Settings

end ComputeGrid
