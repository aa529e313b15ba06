import ComputeGrid.Settings.Codec
import ComputeGrid.Toml.Reader
import ComputeGrid.Toml.Writer

/-!
# Settings as documents

`Settings.ofDocument` reads settings from a document and checks them; `Settings.toDocument` writes them, section after
section.
-/

namespace ComputeGrid.Settings

/-- The settings that a document gives. -/
def ofDocument (text : String) : Except SettingsError Settings := do
  match (Toml.parse? text).bind fun doc => ofRecord? (fun _ j => j.toOpenFields?) doc.toJson with
  | some s =>
    s.validate
    return s
  | none => throw .malformed

/-- The settings that a file gives, if there is one. -/
def ofFile (content : Option ByteArray) : Except SettingsError Settings :=
  match content.bind String.fromUTF8? with
  | some text => ofDocument text
  | none => .error .unreadable

/-- The sections of a document. -/
def sections (s : Settings) : List Toml.Section :=
  let d := s.deployer
  let p := d.poll
  let n := s.network
  [⟨"deployer",
      [("revert_on_failure", .boolean d.revertOnFailure), ("submit_timeout", .string d.submitTimeoutText),
        ("fetch_timeout", .string d.fetchTimeoutText), ("min_balance", .integer d.minBalance.toNat)]⟩,
    ⟨"deployer.poll",
      [("initial_interval", .string p.initialIntervalText), ("multiplier", .float p.multiplier),
        ("max_interval", .string p.maxIntervalText), ("max_elapsed", .string p.maxElapsedText),
        ("stall_timeout", .string p.stallTimeoutText)]⟩,
    ⟨"network",
      [("carrier_range", .string n.carrierRangeText), ("wg_port_min", .integer n.wgPortMin.toNat),
        ("wg_port_max", .integer n.wgPortMax.toNat), ("keepalive", .integer n.keepalive.toNat)]⟩]

/-- The document that gives these settings. -/
def toDocument (s : Settings) : Except SettingsError String :=
  match Toml.render? s.sections with
  | some text => .ok text
  | none => .error .unwritable

end ComputeGrid.Settings
