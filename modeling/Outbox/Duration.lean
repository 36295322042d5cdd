/-! # Durations

A length of time in seconds and nanoseconds, and its text: the largest of the units s, ms, µs and
ns that leaves a whole part of at least one, with the fraction's trailing zeros dropped.
-/

set_option autoImplicit false

namespace Outbox

/-- A length of time. -/
structure Duration where
  secs : Nat
  nanos : Nat
  deriving DecidableEq, Repr, Inhabited

namespace Duration

def ofSecs (n : Nat) : Duration := ⟨n, 0⟩

def ofMillis (n : Nat) : Duration := ⟨n / 1000, n % 1000 * 1000000⟩

/-- Whole milliseconds. -/
def toMillis (d : Duration) : Nat := d.secs * 1000 + d.nanos / 1000000

def zero : Duration := ⟨0, 0⟩

/-- The decimal digits of `n`, at least `width` of them. -/
def padded (width n : Nat) : List Char :=
  let ds := Nat.toDigits 10 n
  List.replicate (width - ds.length) '0' ++ ds

/-- The digits behind the decimal point, without trailing zeros. -/
def fraction (width n : Nat) : List Char :=
  let ds := ((padded width n).reverse.dropWhile (· == '0')).reverse
  if ds.isEmpty then [] else '.' :: ds

/-- `whole` and `width` digits of `frac` behind the point, in a unit. -/
def inUnit (whole width frac : Nat) (unit : String) : String :=
  toString whole ++ String.ofList (fraction width frac) ++ unit

/-- A duration in its largest fitting unit. -/
def render (d : Duration) : String :=
  if 0 < d.secs then inUnit d.secs 9 d.nanos "s"
  else if 1000000 ≤ d.nanos then inUnit (d.nanos / 1000000) 6 (d.nanos % 1000000) "ms"
  else if 1000 ≤ d.nanos then inUnit (d.nanos / 1000) 3 (d.nanos % 1000) "µs"
  else inUnit d.nanos 0 0 "ns"

end Duration

end Outbox
