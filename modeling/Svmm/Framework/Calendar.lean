import Mathlib.Data.Nat.Find
import Mathlib.Order.Monotone.Basic
import Mathlib.Tactic.Common

/-!
# Dates and day numbers

Numbers laid out in segments of given lengths, one after the other: a number is a place in a
segment, and back.  The years of a calendar are such segments of its days, and so are the months of
a year, so that a day number is a date of the Gregorian calendar and a date is a day number.
-/

namespace Segments

variable (len : ℕ → ℕ)

/-- The first number of a segment. -/
def start : ℕ → ℕ
  | 0 => 0
  | n + 1 => start n + len n

/-- The segment of a number, of those up to `bound`. -/
def find (bound x : ℕ) : ℕ := Nat.findGreatest (fun n => start len n ≤ x) bound

variable {len} {bound n r x : ℕ}

lemma start_mono : Monotone (start len) := monotone_nat_of_le_succ fun _ => Nat.le_add_right _ _

/-- A place of a segment is found in it. -/
lemma find_start_add (hn : n ≤ bound) (hr : r < len n) : find len bound (start len n + r) = n := by
  refine Nat.findGreatest_eq_iff.mpr ⟨hn, fun _ => Nat.le_add_right _ _, fun m hm _ => ?_⟩
  have hnext : start len n + len n ≤ start len m := start_mono (show n + 1 ≤ m from hm)
  omega

lemma start_find_le : start len (find len bound x) ≤ x := by
  unfold find
  exact Nat.findGreatest_spec (P := fun n => start len n ≤ x) (Nat.zero_le bound) (Nat.zero_le x)

lemma find_le : find len bound x ≤ bound := Nat.findGreatest_le bound

/-- A number that is found before the last segment is a place of the segment. -/
lemma lt_start_find_add_of_lt (h : find len bound x < bound) :
    x < start len (find len bound x) + len (find len bound x) :=
  not_le.mp <|
    Nat.findGreatest_is_greatest (P := fun n => start len n ≤ x) (Nat.lt_succ_self _) h

/-- A number of the first segments is a place of the segment that it is found in. -/
lemma lt_start_find_add (h : x < start len (bound + 1)) :
    x < start len (find len bound x) + len (find len bound x) := by
  by_cases hlast : find len bound x = bound
  · rw [hlast]
    exact h
  · exact lt_start_find_add_of_lt (lt_of_le_of_ne find_le hlast)

/-- Segments that are not longer than `c`. -/
lemma start_le_mul {c : ℕ} (h : ∀ n, len n ≤ c) (n : ℕ) : start len n ≤ n * c := by
  induction n with
  | zero => exact Nat.zero_le _
  | succ n ih =>
      calc start len n + len n ≤ n * c + c := Nat.add_le_add ih (h n)
        _ = (n + 1) * c := (Nat.succ_mul n c).symm

end Segments

namespace Gregorian

open Segments

/-- A year of 366 days. -/
def IsLeap (year : ℕ) : Prop := year % 4 = 0 ∧ (year % 100 ≠ 0 ∨ year % 400 = 0)

instance (year : ℕ) : Decidable (IsLeap year) := inferInstanceAs (Decidable (_ ∧ _))

/-- The days of a month, which is counted from 0. -/
def monthDays (year month : ℕ) : ℕ :=
  if month = 1 then (if IsLeap year then 29 else 28)
  else if month = 3 ∨ month = 5 ∨ month = 8 ∨ month = 10 then 30
  else 31

lemma monthDays_le (year month : ℕ) : monthDays year month ≤ 31 := by
  unfold monthDays
  split_ifs <;> decide

def yearDays (year : ℕ) : ℕ := if IsLeap year then 366 else 365

lemma yearDays_le (year : ℕ) : yearDays year ≤ 366 := by
  unfold yearDays
  split <;> decide

lemma start_monthDays_twelve (year : ℕ) : start (monthDays year) 12 = yearDays year := by
  by_cases h : IsLeap year
  · simp [start, monthDays, yearDays, h]
  · simp [start, monthDays, yearDays, h]

/-- A second: the year counted from a first one, the month and the day of the month from 0. -/
@[ext] structure Moment where
  year : ℕ
  month : ℕ
  day : ℕ
  hour : ℕ
  minute : ℕ
  second : ℕ

/-- The moment exists, with the years counted from `epoch`. -/
structure Moment.Valid (epoch : ℕ) (m : Moment) : Prop where
  month : m.month < 12
  day : m.day < monthDays (epoch + m.year) m.month
  hour : m.hour < 24
  minute : m.minute < 60
  second : m.second < 60

/-- The days from the first day of the year `epoch`. -/
def dayNumber (epoch year month day : ℕ) : ℕ :=
  start (fun year => yearDays (epoch + year)) year +
    (start (monthDays (epoch + year)) month + day)

/-- The seconds from the beginning of the year `epoch`. -/
def seconds (epoch : ℕ) (m : Moment) : ℕ :=
  ((dayNumber epoch m.year m.month m.day * 24 + m.hour) * 60 + m.minute) * 60 + m.second

/-- The year of a day, of those up to `bound`, and the month of a day of the year. -/
def yearOf (epoch bound days : ℕ) : ℕ := find (fun year => yearDays (epoch + year)) bound days

def monthOf (year days : ℕ) : ℕ := find (monthDays year) 11 days

/-- The moment of a second. -/
def momentOf (epoch bound seconds : ℕ) : Moment :=
  let days := seconds / 86400
  let year := yearOf epoch bound days
  let rest := days - start (fun year => yearDays (epoch + year)) year
  let month := monthOf (epoch + year) rest
  { year := year
    month := month
    day := rest - start (monthDays (epoch + year)) month
    hour := seconds / 3600 % 24
    minute := seconds / 60 % 60
    second := seconds % 60 }

variable {epoch bound x : ℕ} {m : Moment}

/-- A day of a month is in the year. -/
lemma start_add_lt_yearDays {year month day : ℕ} (hmonth : month < 12)
    (hday : day < monthDays year month) : start (monthDays year) month + day < yearDays year := by
  calc start (monthDays year) month + day
      < start (monthDays year) (month + 1) := Nat.add_lt_add_left hday _
    _ ≤ start (monthDays year) 12 := start_mono hmonth
    _ = yearDays year := start_monthDays_twelve year

/-- The seconds of a moment are those of fewer years of 366 days. -/
lemma seconds_lt (hm : m.Valid epoch) : seconds epoch m < (m.year + 1) * 366 * 86400 := by
  have hyears : start (fun year => yearDays (epoch + year)) m.year ≤ m.year * 366 :=
    start_le_mul (fun _ => yearDays_le _) _
  have hdays := start_add_lt_yearDays hm.month hm.day
  have hyear := yearDays_le (epoch + m.year)
  have hhour := hm.hour
  have hminute := hm.minute
  have hsecond := hm.second
  unfold seconds dayNumber
  omega

/-- A moment that exists is the one of its seconds. -/
lemma momentOf_seconds (hm : m.Valid epoch) (hyear : m.year ≤ bound) :
    momentOf epoch bound (seconds epoch m) = m := by
  obtain ⟨hmonth, hday, hhour, hminute, hsecond⟩ := hm
  have hdays : seconds epoch m / 86400 = dayNumber epoch m.year m.month m.day := by
    unfold seconds
    omega
  have hyearOf : yearOf epoch bound (dayNumber epoch m.year m.month m.day) = m.year :=
    find_start_add hyear (start_add_lt_yearDays hmonth hday)
  have hrest : dayNumber epoch m.year m.month m.day -
      start (fun year => yearDays (epoch + year)) m.year =
        start (monthDays (epoch + m.year)) m.month + m.day := by
    unfold dayNumber
    omega
  have hmonthOf : monthOf (epoch + m.year) (start (monthDays (epoch + m.year)) m.month + m.day) =
      m.month :=
    find_start_add (Nat.le_of_lt_succ hmonth) hday
  unfold momentOf
  dsimp only
  rw [hdays, hyearOf, hrest, hmonthOf]
  ext
  · rfl
  · rfl
  · dsimp only
    omega
  all_goals
    dsimp only
    unfold seconds
    omega

/-- A moment is at its seconds. -/
lemma seconds_momentOf : seconds epoch (momentOf epoch bound x) = x := by
  have hyear : start (fun year => yearDays (epoch + year)) (yearOf epoch bound (x / 86400)) ≤
      x / 86400 := start_find_le
  have hmonth : ∀ year days, start (monthDays year) (monthOf year days) ≤ days :=
    fun _ _ => start_find_le
  have hdays : dayNumber epoch (momentOf epoch bound x).year (momentOf epoch bound x).month
      (momentOf epoch bound x).day = x / 86400 := by
    unfold dayNumber momentOf
    dsimp only
    have hrest := hmonth (epoch + yearOf epoch bound (x / 86400)) (x / 86400 -
      start (fun year => yearDays (epoch + year)) (yearOf epoch bound (x / 86400)))
    omega
  unfold seconds
  rw [hdays]
  unfold momentOf
  dsimp only
  omega

lemma momentOf_year_le : (momentOf epoch bound x).year ≤ bound := find_le

/-- The moment of a second exists, up to the last of the years. -/
lemma momentOf_valid (h : (momentOf epoch bound x).year < bound) :
    (momentOf epoch bound x).Valid epoch := by
  have hyear : x / 86400 < start (fun year => yearDays (epoch + year))
      (yearOf epoch bound (x / 86400)) + yearDays (epoch + yearOf epoch bound (x / 86400)) :=
    lt_start_find_add_of_lt h
  have hrest : x / 86400 - start (fun year => yearDays (epoch + year))
      (yearOf epoch bound (x / 86400)) <
        start (monthDays (epoch + yearOf epoch bound (x / 86400))) (11 + 1) := by
    rw [start_monthDays_twelve]
    have hpos : 0 < yearDays (epoch + yearOf epoch bound (x / 86400)) := by
      unfold yearDays
      split <;> decide
    omega
  have hmonth : ∀ year days, start (monthDays year) (monthOf year days) ≤ days :=
    fun _ _ => start_find_le
  refine ⟨Nat.lt_succ_of_le find_le, ?_, Nat.mod_lt _ (by decide), Nat.mod_lt _ (by decide),
    Nat.mod_lt _ (by decide)⟩
  unfold momentOf
  exact Nat.sub_lt_left_of_lt_add (hmonth _ _) (lt_start_find_add hrest)

end Gregorian
