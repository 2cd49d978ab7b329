import PyJwt.Foundations.Calendar

/-! `datetime.datetime`, its UTC time tuple, and `calendar.timegm`. -/

namespace PyJwt.Python

open Foundations.Calendar

/-- Microseconds in a day. -/
def dayMicros : Int := 86400000000

/-- A `datetime`. `utcoffset` is what `utcoffset()` returns, in microseconds: `none` for a
naive value.
-/
structure DateTime where
  year : Nat
  month : Nat
  day : Nat
  hour : Nat
  minute : Nat
  second : Nat
  microsecond : Nat
  utcoffset : Option Int
  yearRange : 1 ≤ year ∧ year ≤ 9999
  monthRange : 1 ≤ month ∧ month ≤ 12
  dayRange : 1 ≤ day ∧ day ≤ daysInMonth (isLeap year) month
  timeRange : hour < 24 ∧ minute < 60 ∧ second < 60 ∧ microsecond < 1000000
  offsetRange : ∀ offset ∈ utcoffset, -dayMicros < offset ∧ offset < dayMicros

/-- The first six fields of a `time.struct_time`. -/
structure TimeTuple where
  year : Nat
  month : Nat
  day : Nat
  hour : Nat
  minute : Nat
  second : Nat
  deriving DecidableEq

/-- `date.max.toordinal()`. -/
def maxOrdinal : Int := 3652059

/-- `date(1970, 1, 1).toordinal()`. -/
def epochOrdinal : Int := 719163

/-- Seconds of the day. -/
def daySeconds (hour minute second : Nat) : Nat :=
  (hour * 60 + minute) * 60 + second

namespace DateTime

/-- The wall-clock reading in microseconds, counted from day zero. -/
def wallMicros (value : DateTime) : Int :=
  (toOrdinal value.year value.month value.day : Int) * dayMicros
    + daySeconds value.hour value.minute value.second * 1000000 + value.microsecond

/-- The UTC reading in microseconds, counted from day zero; naive values are read as UTC. -/
def utcMicros (value : DateTime) : Int :=
  value.wallMicros - value.utcoffset.getD 0

/-- `utctimetuple()`; `none` is the `OverflowError` for a UTC date outside years 1 to 9999. -/
def utctimetuple (value : DateTime) : Option TimeTuple :=
  match value.utcoffset with
  | none =>
      some {
        year := value.year, month := value.month, day := value.day,
        hour := value.hour, minute := value.minute, second := value.second
      }
  | some offset =>
      let shifted := value.wallMicros - offset
      let days := shifted / dayMicros
      let seconds := (shifted % dayMicros / 1000000).toNat
      if 0 < days ∧ days ≤ maxOrdinal then
        let date := ofOrdinal days.toNat
        some {
          year := date.1, month := date.2.1, day := date.2.2,
          hour := seconds / 3600, minute := seconds % 3600 / 60, second := seconds % 60
        }
      else none

/-- The UTC date lies in the years `datetime` can represent. -/
def UtcInRange (value : DateTime) : Prop :=
  dayMicros ≤ value.utcMicros ∧ value.utcMicros < (maxOrdinal + 1) * dayMicros

instance (value : DateTime) : Decidable value.UtcInRange :=
  inferInstanceAs (Decidable (_ ∧ _))

/-- POSIX time in microseconds. -/
def posixMicros (value : DateTime) : Int :=
  value.utcMicros - epochOrdinal * dayMicros

/-- The floor of the POSIX time in seconds. -/
def posixFloor (value : DateTime) : Int :=
  value.posixMicros / 1000000

end DateTime

/-- `calendar.timegm(tuple)`. -/
def timegm (tuple : TimeTuple) : Int :=
  let days := (toOrdinal tuple.year tuple.month 1 : Int) - epochOrdinal + tuple.day - 1
  let hours := days * 24 + tuple.hour
  let minutes := hours * 60 + tuple.minute
  minutes * 60 + tuple.second

/-- `timegm` counts days and seconds of the day from the epoch. -/
theorem timegm_eq (tuple : TimeTuple)
    : timegm tuple
      = ((toOrdinal tuple.year tuple.month tuple.day : Int) - epochOrdinal) * 86400
        + daySeconds tuple.hour tuple.minute tuple.second := by
  simp only [timegm, toOrdinal, daySeconds]
  push_cast
  omega

/-- The whole seconds of a day split into hours, minutes and seconds. -/
theorem daySeconds_split (seconds : Nat)
    : daySeconds (seconds / 3600) (seconds % 3600 / 60) (seconds % 60) = seconds := by
  unfold daySeconds
  omega

/-- The conversion the library applies is the floor of the POSIX time: dropping the
microseconds of the UTC reading rounds down, before the epoch as after it.
-/
theorem DateTime.timegm_utctimetuple {value : DateTime} {tuple : TimeTuple}
    (h : value.utctimetuple = some tuple)
    : timegm tuple = value.posixFloor := by
  rw [timegm_eq]
  unfold utctimetuple at h
  split at h
  · rename_i naive
    have small := value.timeRange.2.2.2
    obtain rfl := Option.some.inj h
    simp only [posixFloor, posixMicros, utcMicros, naive, Option.getD_none, wallMicros,
      dayMicros]
    omega
  · rename_i offset aware
    simp only at h
    split at h
    · rename_i range
      obtain rfl := Option.some.inj h
      have positive : 1 ≤ ((value.wallMicros - offset) / dayMicros).toNat := by omega
      simp only [toOrdinal_ofOrdinal positive, daySeconds_split]
      simp only [posixFloor, posixMicros, utcMicros, aware, Option.getD_some, dayMicros] at *
      omega
    · cases h

/-- The UTC time tuple exists exactly for naive values and for instants in range. -/
theorem DateTime.utctimetuple_isSome_iff {value : DateTime}
    : value.utctimetuple.isSome = true ↔ value.utcoffset = none ∨ value.UtcInRange := by
  unfold utctimetuple
  split
  · rename_i naive
    simp [naive]
  · rename_i offset aware
    simp only [aware, reduceCtorEq, false_or, UtcInRange, utcMicros, Option.getD_some]
    have same : (0 < (value.wallMicros - offset) / dayMicros
          ∧ (value.wallMicros - offset) / dayMicros ≤ maxOrdinal)
        ↔ dayMicros ≤ value.wallMicros - offset
          ∧ value.wallMicros - offset < (maxOrdinal + 1) * dayMicros := by
      simp only [dayMicros, maxOrdinal]
      omega
    split
    · rename_i range
      simpa using same.mp range
    · rename_i range
      simpa using mt same.mpr range

end PyJwt.Python
