import Mathlib.Algebra.Order.Ring.Int

/-!
Timezone-naive source timestamps, and the five-minute bins they fall into.

A timezone-naive `datetime` is its count of microseconds from
1970-01-01T00:00:00, an `Int`, and a `timedelta` is a difference of two. The
timezone-aware wall clock has a type of its own, `Instant`, so the schema checks
that tell the two apart (`source_timestamp must be timezone-naive`) hold by
construction. The ends of the supported range (years 1 and 9999) are left out.
-/

namespace IndustrialReliability

/-- A timezone-aware UTC timestamp. -/
structure Instant where
  micros : Int
deriving DecidableEq, Repr

namespace Datetime

def microsPerSecond : Int := 1000000

def microsPerMinute : Int := 60 * microsPerSecond

def minute (ts : Int) : Int := ts / microsPerMinute % 60

def second (ts : Int) : Int := ts / microsPerSecond % 60

def microsecond (ts : Int) : Int := ts % microsPerSecond

/-- `ts.replace(second=0, microsecond=0)`. -/
def truncateToMinute (ts : Int) : Int :=
  ts - second ts * microsPerSecond - microsecond ts

/-- `timedelta(seconds=n)`. -/
def seconds (n : Int) : Int := n * microsPerSecond

/-- `timedelta(minutes=n)`. -/
def minutes (n : Int) : Int := n * microsPerMinute

/-! ### Rendering -/

/-- The proleptic Gregorian date of a day number counted from 1970-01-01. -/
def civilFromDays (days : Int) : Int × Int × Int :=
  let shifted := days + 719468
  let era := shifted / 146097
  let dayOfEra := shifted % 146097
  let yearOfEra := (dayOfEra - dayOfEra / 1460 + dayOfEra / 36524 - dayOfEra / 146096) / 365
  let dayOfYear := dayOfEra - (365 * yearOfEra + yearOfEra / 4 - yearOfEra / 100)
  let monthIndex := (5 * dayOfYear + 2) / 153
  let day := dayOfYear - (153 * monthIndex + 2) / 5 + 1
  let month := if monthIndex < 10 then monthIndex + 3 else monthIndex - 9
  let year := yearOfEra + era * 400 + (if month ≤ 2 then 1 else 0)
  (year, month, day)

/-- Zero-padded decimal digits. -/
def padded (width : Nat) (n : Int) : String :=
  let digits := toString n.toNat
  String.ofList (List.replicate (width - digits.length) '0') ++ digits

/-- `ts.isoformat(sep, timespec="seconds")`. -/
def isoformatSeconds (sep : String) (ts : Int) : String :=
  let (year, month, day) := civilFromDays (ts / (24 * 60 * microsPerMinute))
  padded 4 year ++ "-" ++ padded 2 month ++ "-" ++ padded 2 day ++ sep ++
    padded 2 (ts / (60 * microsPerMinute) % 24) ++ ":" ++ padded 2 (minute ts) ++ ":" ++
    padded 2 (second ts)

/-- `ts.isoformat(sep)`: the microseconds are shown only when there are any. -/
def isoformatWith (sep : String) (ts : Int) : String :=
  if microsecond ts = 0 then isoformatSeconds sep ts
  else isoformatSeconds sep ts ++ "." ++ padded 6 (microsecond ts)

/-- `ts.isoformat()`. -/
def isoformat (ts : Int) : String := isoformatWith "T" ts

/-- `str(ts)`. -/
def str (ts : Int) : String := isoformatWith " " ts

end Datetime

/-- The right end of the five-minute bin a timestamp belongs to. Bins are
right-closed: a timestamp on a bin edge is the end of its own bin. -/
def computeBinEnd (ts : Int) : Int :=
  let minuteRem := Datetime.minute ts % 5
  if minuteRem = 0 ∧ Datetime.second ts = 0 ∧ Datetime.microsecond ts = 0 then ts
  else
    let minutesToAdd := 5 - minuteRem
    Datetime.truncateToMinute ts + Datetime.minutes minutesToAdd

example : computeBinEnd (Datetime.seconds 300) = Datetime.seconds 300 := by decide

example : computeBinEnd (Datetime.seconds 300 + 1) = Datetime.seconds 600 := by decide

/-! ### Bins in closed form -/

/-- The length of a bin, in microseconds. -/
def binMicros : Int := 300000000

theorem binMicros_eq_seconds : binMicros = Datetime.seconds 300 := rfl

/-- A bin end is the timestamp rounded up to a multiple of five minutes. -/
theorem computeBinEnd_eq (ts : Int) :
    computeBinEnd ts = -(-ts / binMicros) * binMicros := by
  unfold computeBinEnd
  dsimp only
  split
  all_goals
    simp only [Datetime.truncateToMinute, Datetime.minutes, Datetime.minute, Datetime.second,
      Datetime.microsecond, Datetime.microsPerMinute, Datetime.microsPerSecond, binMicros] at *
    omega

theorem computeBinEnd_dvd (ts : Int) : binMicros ∣ computeBinEnd ts := by
  rw [computeBinEnd_eq]
  exact Dvd.intro_left _ rfl

theorem le_computeBinEnd (ts : Int) : ts ≤ computeBinEnd ts := by
  rw [computeBinEnd_eq]
  simp only [binMicros] at *
  omega

theorem computeBinEnd_sub_lt (ts : Int) : computeBinEnd ts - binMicros < ts := by
  rw [computeBinEnd_eq]
  simp only [binMicros] at *
  omega

theorem computeBinEnd_mono {ts ts' : Int} (le : ts ≤ ts') :
    computeBinEnd ts ≤ computeBinEnd ts' := by
  rw [computeBinEnd_eq, computeBinEnd_eq]
  simp only [binMicros] at *
  omega

/-- Two bin ends less than a bin apart are the same. -/
theorem binEnd_eq_of_lt {a b : Int} (ha : binMicros ∣ a) (hb : binMicros ∣ b)
    (le : a ≤ b) (near : b < a + binMicros) : a = b := by
  simp only [binMicros] at *
  omega

/-- A bin edge is the end of its own bin. -/
theorem computeBinEnd_of_dvd {ts : Int} (edge : binMicros ∣ ts) : computeBinEnd ts = ts := by
  have near := computeBinEnd_sub_lt ts
  exact (binEnd_eq_of_lt edge (computeBinEnd_dvd ts) (le_computeBinEnd ts) (by omega)).symm

/-- A timestamp not after a bin edge is in a bin not after it. -/
theorem computeBinEnd_le_iff {ts e : Int} (edge : binMicros ∣ e) :
    computeBinEnd ts ≤ e ↔ ts ≤ e := by
  constructor
  · exact (le_computeBinEnd ts).trans
  · intro le
    rw [← computeBinEnd_of_dvd edge]
    exact computeBinEnd_mono le

end IndustrialReliability
