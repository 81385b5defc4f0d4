/-
Module: Parley.Calendar.Duration
Layer: Foundations
Purpose: Spans of time.  They are counted in nanoseconds, and so are moments.
Main exports: Duration, Duration.ofSeconds, Duration.wholeSeconds, Duration.between
-/

namespace Parley

/-- A span of time in nanoseconds. -/
structure Duration where
  nanoseconds : Nat
deriving DecidableEq, Repr, Inhabited

namespace Duration

/-- A number of seconds. -/
def ofSeconds (seconds : Nat) : Duration := ⟨1000000000 * seconds⟩

/-- A number of milliseconds. -/
def ofMilliseconds (milliseconds : Nat) : Duration := ⟨1000000 * milliseconds⟩

/-- The seconds of a span, what is left of the last one dropped. -/
def wholeSeconds (span : Duration) : Nat := span.nanoseconds / 1000000000

/-- The span from one moment to another; none if the other is the earlier one. -/
def between (early late : Int) : Duration := ⟨(late - early).toNat⟩

instance : LE Duration := ⟨fun one two => one.nanoseconds ≤ two.nanoseconds⟩

instance : LT Duration := ⟨fun one two => one.nanoseconds < two.nanoseconds⟩

instance (one two : Duration) : Decidable (one ≤ two) :=
  inferInstanceAs (Decidable (one.nanoseconds ≤ two.nanoseconds))

instance (one two : Duration) : Decidable (one < two) :=
  inferInstanceAs (Decidable (one.nanoseconds < two.nanoseconds))

theorem le_trans {one two three : Duration} (first : one ≤ two) (second : two ≤ three) :
    one ≤ three :=
  Nat.le_trans first second

theorem not_le_of_lt {one two : Duration} (less : one < two) : ¬two ≤ one :=
  Nat.not_le_of_lt less

/-- The later the other moment, the longer the span. -/
theorem between_mono (early : Int) {late later : Int} (forward : late ≤ later) :
    between early late ≤ between early later :=
  Int.toNat_le_toNat (Int.sub_le_sub_right forward early)

end Duration

end Parley
