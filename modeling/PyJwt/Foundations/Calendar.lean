import Mathlib.Data.Nat.Basic
import Mathlib.Tactic.Set

/-! The proleptic Gregorian calendar: dates and their day numbers, counted from one for the
first of January of year one.
-/

namespace Foundations.Calendar

def isLeap (year : Nat) : Bool :=
  year % 4 = 0 && (year % 100 ≠ 0 || year % 400 = 0)

/-- Days in the years before `year`. -/
def daysBeforeYear (year : Nat) : Nat :=
  let y := year - 1
  y * 365 + y / 4 - y / 100 + y / 400

/-- Days before each month of a common year, indexed from one. -/
def daysBeforeMonthTable : List Nat :=
  [0, 0, 31, 59, 90, 120, 151, 181, 212, 243, 273, 304, 334]

/-- Days in each month of a common year, indexed from one. -/
def daysInMonthTable : List Nat :=
  [0, 31, 28, 31, 30, 31, 30, 31, 31, 30, 31, 30, 31]

/-- Days in the year before the month. -/
def daysBeforeMonth (leap : Bool) (month : Nat) : Nat :=
  daysBeforeMonthTable.getD month 0 + (if month > 2 ∧ leap then 1 else 0)

def daysInMonth (leap : Bool) (month : Nat) : Nat :=
  daysInMonthTable.getD month 0 + (if month = 2 ∧ leap then 1 else 0)

/-- The day number of a date. -/
def toOrdinal (year month day : Nat) : Nat :=
  daysBeforeYear year + daysBeforeMonth (isLeap year) month + day

/-- Month and day of the day `n`, counted from zero, of a year. The first guess at the month
is never too early and at most one too late.
-/
def monthAndDay (leap : Bool) (n : Nat) : Nat × Nat :=
  let month := (n + 50) / 32
  let preceding := daysBeforeMonth leap month
  if preceding > n then
    (month - 1, n - (preceding - daysInMonth leap (month - 1)) + 1)
  else (month, n - preceding + 1)

/-- Year, month and day of a day number. -/
def ofOrdinal (ordinal : Nat) : Nat × Nat × Nat :=
  let n := ordinal - 1
  let n400 := n / 146097
  let n := n % 146097
  let n100 := n / 36524
  let n := n % 36524
  let n4 := n / 1461
  let n := n % 1461
  let n1 := n / 365
  let n := n % 365
  let year := n400 * 400 + 1 + n100 * 100 + n4 * 4 + n1
  if n1 = 4 ∨ n100 = 4 then (year - 1, 12, 31)
  else
    let leap := n1 = 3 && (n4 ≠ 24 || n100 = 3)
    (year, (monthAndDay leap n).1, (monthAndDay leap n).2)

/-- The month and day found lie in the year at the day they were computed from. -/
theorem monthAndDay_correct
    : ∀ leap : Bool, ∀ n < 365,
        daysBeforeMonth leap (monthAndDay leap n).1 + (monthAndDay leap n).2 = n + 1
        ∧ 1 ≤ (monthAndDay leap n).1
        ∧ (monthAndDay leap n).1 ≤ 12
        ∧ 1 ≤ (monthAndDay leap n).2
        ∧ (monthAndDay leap n).2 ≤ daysInMonth leap (monthAndDay leap n).1 := by
  decide +kernel

/-- Days before a year, from the cycles of 400, 100, 4 and 1 years it lies in. -/
theorem daysBeforeYear_cycles {a b c d : Nat} (hb : b ≤ 3) (hc : c ≤ 24) (hd : d ≤ 3)
    : daysBeforeYear (a * 400 + 1 + b * 100 + c * 4 + d)
      = a * 146097 + b * 36524 + c * 1461 + d * 365 := by
  have fours : (a * 400 + b * 100 + c * 4 + d) / 4 = a * 100 + b * 25 + c := by omega
  have hundreds : (a * 400 + b * 100 + c * 4 + d) / 100 = a * 4 + b := by omega
  have cycles : (a * 400 + b * 100 + c * 4 + d) / 400 = a := by omega
  have shift : a * 400 + 1 + b * 100 + c * 4 + d - 1 = a * 400 + b * 100 + c * 4 + d := by
    omega
  simp only [daysBeforeYear, shift, fours, hundreds, cycles]
  omega

/-- A year is a leap year exactly when it ends a four-year cycle other than the last of a
hundred years, unless that ends a cycle of four hundred.
-/
theorem isLeap_cycles {a b c d : Nat} (hb : b ≤ 3) (hc : c ≤ 24) (hd : d ≤ 3)
    : isLeap (a * 400 + 1 + b * 100 + c * 4 + d)
      = (decide (d = 3) && (decide (c ≠ 24) || decide (b = 3))) := by
  have four : (a * 400 + 1 + b * 100 + c * 4 + d) % 4 = 0 ↔ d = 3 := by omega
  have hundred : (a * 400 + 1 + b * 100 + c * 4 + d) % 100 = 0 ↔ c = 24 ∧ d = 3 := by omega
  have whole : (a * 400 + 1 + b * 100 + c * 4 + d) % 400 = 0 ↔ b = 3 ∧ c = 24 ∧ d = 3 := by
    omega
  simp only [isLeap, four, ne_eq, hundred, whole]
  by_cases hd3 : d = 3 <;> by_cases hc24 : c = 24 <;> by_cases hb3 : b = 3 <;>
    simp [hd3, hc24, hb3]

/-- A day number is read back from its date. The last day of a four-year or a
four-hundred-year cycle is the one the day counts overshoot.
-/
theorem toOrdinal_ofOrdinal {ordinal : Nat} (h : 1 ≤ ordinal)
    : toOrdinal (ofOrdinal ordinal).1 (ofOrdinal ordinal).2.1 (ofOrdinal ordinal).2.2
      = ordinal := by
  obtain ⟨n, rfl⟩ : ∃ n, ordinal = n + 1 := ⟨ordinal - 1, by omega⟩
  simp only [ofOrdinal, Nat.add_sub_cancel]
  set a := n / 146097
  set b := n % 146097 / 36524
  set c := n % 146097 % 36524 / 1461
  set d := n % 146097 % 36524 % 1461 / 365
  set r := n % 146097 % 36524 % 1461 % 365
  have parts : n = a * 146097 + b * 36524 + c * 1461 + d * 365 + r := by omega
  have bounds : b ≤ 4 ∧ c ≤ 24 ∧ d ≤ 4 ∧ r < 365 := by omega
  by_cases last : d = 4 ∨ b = 4
  · rw [if_pos last]
    have before (leap : Bool) : daysBeforeMonth leap 12 = 334 + if leap then 1 else 0 := by
      cases leap <;> rfl
    rcases last with hd | hb
    · have hb : b ≤ 3 := by omega
      have hc : c ≤ 23 := by omega
      have year : a * 400 + 1 + b * 100 + c * 4 + d - 1
          = a * 400 + 1 + b * 100 + c * 4 + 3 := by omega
      have leap : isLeap (a * 400 + 1 + b * 100 + c * 4 + 3) = true := by
        rw [isLeap_cycles hb (by omega) (by omega)]
        simp only [decide_true, ne_eq, Bool.true_and, Bool.or_eq_true, decide_eq_true_eq]
        exact Or.inl (by omega)
      simp only [toOrdinal, year, leap, before,
        daysBeforeYear_cycles hb (by omega : c ≤ 24) (by omega : 3 ≤ 3), if_true]
      omega
    · have year : a * 400 + 1 + b * 100 + c * 4 + d - 1
          = a * 400 + 1 + 3 * 100 + 24 * 4 + 3 := by omega
      have leap : isLeap (a * 400 + 1 + 3 * 100 + 24 * 4 + 3) = true := by
        rw [isLeap_cycles (by omega) (by omega) (by omega)]
        rfl
      simp only [toOrdinal, year, leap, before,
        daysBeforeYear_cycles (by omega : 3 ≤ 3) (by omega : 24 ≤ 24) (by omega : 3 ≤ 3),
        if_true]
      omega
  · rw [if_neg last]
    have hb : b ≤ 3 := by omega
    have hd : d ≤ 3 := by omega
    have leap := isLeap_cycles (a := a) hb bounds.2.1 hd
    have inYear := (monthAndDay_correct
      (decide (d = 3) && (decide (c ≠ 24) || decide (b = 3))) r bounds.2.2.2).1
    simp only [toOrdinal, leap, daysBeforeYear_cycles hb bounds.2.1 hd]
    omega

end Foundations.Calendar
