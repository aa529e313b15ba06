import ComputeGrid.Proofs.Duration.Reading
import ComputeGrid.Settings.Basic

/-!
# What duration texts stand for

A text that can be read stands for a whole number of milliseconds (`Duration.exists_ofText?`), whose seconds fit in 64 bits
(`Duration.lt_limit_of_ofText?`).  So do the texts of settings, read or not (`DurationSetting.exists_read`,
`DurationSetting.read_lt_limit`).
-/

namespace ComputeGrid

namespace Duration

variable {text : String} {d : Duration} {n : Nat}

theorem nanos_ofMillis (n : Nat) : (ofMillis n).nanos = n * 1000000 := rfl

theorem ceilMillis_eq (d : Duration) : d.ceilMillis = (d.nanos + 999999) / 1000000 := rfl

theorem ceilMillis_ofMillis (n : Nat) : (ofMillis n).ceilMillis = n := by
  rw [ceilMillis_eq, nanos_ofMillis]
  omega

theorem exists_ofText? (h : ofText? text = some d) : ∃ n, d = .ofMillis n := by
  obtain ⟨u, n, _, _, _, _, rfl⟩ := exists_of_ofText? h
  have hmillis (k : Nat) (hk : u.nanos = k * 1000000) : u.duration n = ofMillis (n * k) := by
    rw [TimeUnit.duration, ofMillis, perMilli, hk, Nat.mul_assoc]
  cases u with
  | millisecond => exact ⟨n, rfl⟩
  | second | unmarked => exact ⟨n * 1000, hmillis 1000 rfl⟩
  | minute => exact ⟨n * 60000, hmillis 60000 rfl⟩

/-- The seconds of a duration that is read fit in 64 bits. -/
theorem lt_limit_of_ofText? (h : ofText? text = some d) : d.nanos < limit := by
  obtain ⟨u, n, _, _, _, hfits, rfl⟩ := exists_of_ofText? h
  have hsize : limit = UInt64.size * 1000000000 := rfl
  have hcount := hfits.1
  show n * u.nanos < limit
  cases u with
  | millisecond | second | unmarked =>
    dsimp only [TimeUnit.nanos]
    omega
  | minute =>
    have hsixty := hfits.2 rfl
    dsimp only [TimeUnit.nanos]
    omega

end Duration

/-! ### Settings -/

namespace DurationSetting

/-- What a text stands for is a whole number of milliseconds. -/
theorem exists_read (s : DurationSetting) (text : String) : ∃ n, s.read text = .ofMillis n := by
  rw [read]
  rcases h : Duration.ofText? text with _ | d
  · exact Duration.exists_ofText? s.ofText?_defaultText
  · exact Duration.exists_ofText? h

theorem ofMillis_read (s : DurationSetting) (text : String) :
    Duration.ofMillis (s.read text).ceilMillis = s.read text := by
  obtain ⟨n, hn⟩ := s.exists_read text
  rw [hn, Duration.ceilMillis_ofMillis]

theorem read_lt_limit (s : DurationSetting) (text : String) : (s.read text).nanos < Duration.limit := by
  rw [read]
  rcases h : Duration.ofText? text with _ | d
  · exact Duration.lt_limit_of_ofText? s.ofText?_defaultText
  · exact Duration.lt_limit_of_ofText? h

end DurationSetting

end ComputeGrid
