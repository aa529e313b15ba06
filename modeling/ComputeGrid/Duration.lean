import ComputeGrid.Text.Blank
import ComputeGrid.Text.Digits

/-!
# Durations

A duration is a whole number of nanoseconds. Its seconds are a 64-bit count, so `limit` bounds it, and adding two
durations is partial (`add?`).

* `Duration.ofText?` reads `"500ms"`, `"3s"`, `"2m"` and a bare number of seconds.
* `Duration.text` writes a duration in the largest unit that has a non-zero whole part.
-/

namespace ComputeGrid

/-- A length of time in nanoseconds. -/
structure Duration where
  nanos : Nat
  deriving DecidableEq, Repr, Inhabited

namespace Duration

/-- Nanoseconds in a second. -/
def perSecond : Nat := 1000000000

/-- Nanoseconds in a millisecond. -/
def perMilli : Nat := 1000000

/-- The first length that the 64-bit count of seconds cannot hold. -/
def limit : Nat := UInt64.size * perSecond

def zero : Duration := ⟨0⟩

def ofSeconds (n : Nat) : Duration := ⟨n * perSecond⟩

def ofMillis (n : Nat) : Duration := ⟨n * perMilli⟩

/-- The whole seconds. -/
def seconds (d : Duration) : Nat := d.nanos / perSecond

/-- The nanoseconds beyond the whole seconds. -/
def subsecond (d : Duration) : Nat := d.nanos % perSecond

/-- The length in milliseconds, rounded up: a clock that stands on whole milliseconds advances by this much. -/
def ceilMillis (d : Duration) : Nat := (d.nanos + (perMilli - 1)) / perMilli

instance : LE Duration := ⟨fun a b => a.nanos ≤ b.nanos⟩

instance : LT Duration := ⟨fun a b => a.nanos < b.nanos⟩

instance (a b : Duration) : Decidable (a ≤ b) := inferInstanceAs (Decidable (a.nanos ≤ b.nanos))

instance (a b : Duration) : Decidable (a < b) := inferInstanceAs (Decidable (a.nanos < b.nanos))

instance : Min Duration := ⟨fun a b => if a ≤ b then a else b⟩

/-- The sum, unless its seconds do not fit. -/
def add? (a b : Duration) : Option Duration :=
  if a.nanos + b.nanos < limit then some ⟨a.nanos + b.nanos⟩ else none

/-- Reads a number with a unit of `ms`, `s` or `m`, or none for seconds; blanks may stand around the text and before
the unit, and a plus sign before the number. -/
def ofText? (text : String) : Option Duration :=
  let cs := Text.trim text.toList
  match cs.reverse with
  | 's' :: 'm' :: rest => (Text.readCount (Text.trim rest.reverse)).map ofMillis
  | 's' :: rest => (Text.readCount (Text.trim rest.reverse)).map ofSeconds
  | 'm' :: rest =>
    ((Text.readCount (Text.trim rest.reverse)).filter (· * 60 < UInt64.size)).map fun n => ofSeconds (n * 60)
  | _ => (Text.readCount cs).map ofSeconds

/-- A whole part and a fraction of `width` digits, whose zeros at the end are left out. -/
def decimal (whole fraction width : Nat) : List Char :=
  let digits := ((Text.padded width fraction).reverse.dropWhile (· == '0')).reverse
  if digits.isEmpty then Text.numeral whole else Text.numeral whole ++ '.' :: digits

/-- The duration in the largest of the units `s`, `ms`, `µs` and `ns` whose whole part is not zero. -/
def text (d : Duration) : String :=
  let n := d.nanos
  String.ofList <|
    if perSecond ≤ n then decimal (n / perSecond) (n % perSecond) 9 ++ ['s']
    else if perMilli ≤ n then decimal (n / perMilli) (n % perMilli) 6 ++ ['m', 's']
    else if 1000 ≤ n then decimal (n / 1000) (n % 1000) 3 ++ ['µ', 's']
    else Text.numeral n ++ ['n', 's']

example : (ofSeconds 240).text = "240s" := by decide +kernel
example : (ofMillis 1500).text = "1.5s" := by decide +kernel
example : zero.text = "0ns" := by decide +kernel
example : ofText? " 8 s " = some (ofSeconds 8) := by decide +kernel

end Duration

end ComputeGrid
