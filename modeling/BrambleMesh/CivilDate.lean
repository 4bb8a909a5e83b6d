/-
Civil dates and day numbers, components/timezone/bramble_tz.c. Both formulas count a year from its
first of March, so that the leap day is the last of it.
-/
import Mathlib

namespace BrambleMesh.CivilDate

structure Date where
  y : ℤ
  m : ℕ
  d : ℕ
deriving DecidableEq

def days_from_civil (y : ℤ) (m d : ℕ) : ℤ :=
  let y := y - if m ≤ 2 then 1 else 0
  let era := (if y ≥ 0 then y else y - 399).tdiv 400
  let yoe := (y - era * 400).toNat
  let doy := (153 * ((m + if m > 2 then 2 ^ 32 - 3 else 9) % 2 ^ 32) + 2) / 5 + d - 1
  let doe := yoe * 365 + yoe / 4 - yoe / 100 + doy
  era * 146097 + doe - 719468

def civil_from_days (z : ℤ) : Date :=
  let z := z + 719468
  let era := (if z ≥ 0 then z else z - 146096).tdiv 146097
  let doe := (z - era * 146097).toNat
  let yoe := (doe - doe / 1460 + doe / 36524 - doe / 146096) / 365
  let yy := yoe + era * 400
  let doy := doe - (365 * yoe + yoe / 4 - yoe / 100)
  let mp := (5 * doy + 2) / 153
  let dd := doy - (153 * mp + 2) / 5 + 1
  let mm := (mp + if mp < 10 then 3 else 2 ^ 32 - 9) % 2 ^ 32
  -- the year is cast to `int32_t`
  ⟨(yy + if mm ≤ 2 then 1 else 0).bmod (2 ^ 32), mm, dd⟩

def is_leap (y : ℤ) : Bool := (y.tmod 4 = 0 && y.tmod 100 ≠ 0) || y.tmod 400 = 0

def days_in_month (y : ℤ) (m : ℕ) : ℕ :=
  if m < 1 ∨ m > 12 then 0
  else if m = 2 ∧ is_leap y then 29
  else [31, 28, 31, 30, 31, 30, 31, 31, 30, 31, 30, 31].getD (m - 1) 0

/-! ## The calendar -/

structure Date.Valid (t : Date) : Prop where
  month : 1 ≤ t.m ∧ t.m ≤ 12
  day : 1 ≤ t.d ∧ t.d ≤ days_in_month t.y t.m

def Date.next (t : Date) : Date :=
  if t.d < days_in_month t.y t.m then { t with d := t.d + 1 }
  else if t.m < 12 then ⟨t.y, t.m + 1, 1⟩
  else ⟨t.y + 1, 1, 1⟩

def Date.number (t : Date) : ℤ := days_from_civil t.y t.m t.d

/-! ## Years from March -/

variable {y : ℤ} {m d : ℕ} {t : Date}

def march_year (y : ℤ) (m : ℕ) : ℤ := y - if m ≤ 2 then 1 else 0

def march_day (m d : ℕ) : ℕ := (153 * ((m + 9) % 12) + 2) / 5 + d - 1

def elapsed (y : ℤ) : ℤ := 365 * y + y / 4 - y / 100 + y / 400

lemma is_leap_iff (y : ℤ) : is_leap y ↔ y % 4 = 0 ∧ y % 100 ≠ 0 ∨ y % 400 = 0 := by
  simp only [is_leap, Bool.or_eq_true, Bool.and_eq_true, decide_eq_true_eq,
    ← Int.dvd_iff_tmod_eq_zero, ne_eq]
  omega

lemma elapsed_eq (y : ℤ) :
    elapsed y = elapsed (y - 1) + 365 + if is_leap y then 1 else 0 := by
  have h4 : y / 4 = (y - 1) / 4 + if y % 4 = 0 then 1 else 0 := by split_ifs <;> omega
  have h100 : y / 100 = (y - 1) / 100 + if y % 100 = 0 then 1 else 0 := by split_ifs <;> omega
  have h400 : y / 400 = (y - 1) / 400 + if y % 400 = 0 then 1 else 0 := by split_ifs <;> omega
  simp only [elapsed, is_leap_iff]
  split_ifs at * <;> omega

/-- The C idiom for a division that rounds down. -/
lemma tdiv_era (a : ℤ) : (if a ≥ 0 then a else a - 399).tdiv 400 = a / 400 ∧
    (if a ≥ 0 then a else a - 146096).tdiv 146097 = a / 146097 := by
  have hsign : Int.sign 400 = 1 ∧ Int.sign 146097 = 1 := by decide
  simp only [Int.tdiv_eq_ediv, hsign]
  constructor <;> split_ifs <;> omega

lemma days_from_civil_eq (y : ℤ) (hm : 1 ≤ m ∧ m ≤ 12) (hd : 1 ≤ d) :
    days_from_civil y m d = elapsed (march_year y m) + march_day m d - 719468 := by
  have hmp : (m + if m > 2 then 2 ^ 32 - 3 else 9) % 2 ^ 32 = (m + 9) % 12 := by
    split_ifs <;> omega
  simp only [days_from_civil, hmp, elapsed, march_day, march_year]
  rw [(tdiv_era _).1]
  omega

/-! ## Consecutive dates -/

lemma month_end (hpos : 1 ≤ m) (hlt : m < 12) (y : ℤ) :
    elapsed (march_year y (m + 1)) + march_day (m + 1) 1 =
      elapsed (march_year y m) + march_day m (days_in_month y m) + 1 := by
  have hyear := elapsed_eq y
  unfold march_year march_day days_in_month
  by_cases hleap : is_leap y <;> simp only [hleap] at hyear ⊢ <;>
    interval_cases m <;> simp at hyear ⊢ <;> omega

lemma days_in_month_pos (hpos : 1 ≤ m) (hle : m ≤ 12) (y : ℤ) : 1 ≤ days_in_month y m := by
  unfold days_in_month
  by_cases hleap : is_leap y <;> simp only [hleap] <;> interval_cases m <;> decide

lemma Date.Valid.next (h : t.Valid) : t.next.Valid ∧ t.next.number = t.number + 1 := by
  obtain ⟨y, m, d⟩ := t
  obtain ⟨hm, hd⟩ := h
  unfold Date.next Date.number
  dsimp only at hm hd ⊢
  split_ifs with hday hmonth
  · refine ⟨⟨hm, d.succ_pos, hday⟩, ?_⟩
    rw [days_from_civil_eq y hm hd.1, days_from_civil_eq y hm d.succ_pos, march_day, march_day]
    omega
  · obtain rfl : d = days_in_month y m := by omega
    have hm' : 1 ≤ m + 1 ∧ m + 1 ≤ 12 := ⟨m.succ_pos, hmonth⟩
    refine ⟨⟨hm', le_rfl, days_in_month_pos hm'.1 hm'.2 y⟩, ?_⟩
    have hend := month_end hm.1 hmonth y
    rw [days_from_civil_eq y hm hd.1, days_from_civil_eq y hm' le_rfl]
    omega
  · obtain rfl : m = 12 := by omega
    have hone : 1 ≤ 1 ∧ 1 ≤ 12 := by decide
    have hdec : days_in_month y 12 = 31 := rfl
    refine ⟨⟨hone, le_rfl, days_in_month_pos le_rfl hone.2 _⟩, ?_⟩
    rw [days_from_civil_eq y hm hd.1, days_from_civil_eq (y + 1) hone le_rfl]
    norm_num [march_year, march_day]
    omega

lemma exists_number (z : ℤ) : ∃ t : Date, t.Valid ∧ t.number = z := by
  -- from the start of a cycle of 400 years far enough back, day by day
  have hfrom : ∀ n : ℕ, ∃ t : Date, t.Valid ∧ t.number = n - 146097 * z.natAbs := by
    intro n
    induction n with
    | zero =>
      have hone : 1 ≤ 1 ∧ 1 ≤ 12 := by decide
      refine ⟨⟨1970 - 400 * z.natAbs, 1, 1⟩, ⟨hone, le_rfl, days_in_month_pos le_rfl hone.2 _⟩, ?_⟩
      rw [Date.number, days_from_civil_eq _ hone le_rfl]
      norm_num [march_year, march_day, elapsed]
      omega
    | succ n ih =>
      obtain ⟨t, ht, hn⟩ := ih
      refine ⟨t.next, ht.next.1, ?_⟩
      rw [ht.next.2, hn]
      push_cast
      ring
  obtain ⟨t, ht, hn⟩ := hfrom (z + 146097 * z.natAbs).toNat
  refine ⟨t, ht, ?_⟩
  omega

/-! ## The date of a day number -/

lemma year_of_era {yoe doy doe : ℕ} (h : yoe < 400) (hdoy : doy ≤ 365)
    (hleap : doy = 365 → yoe % 4 = 3 ∧ (yoe % 100 ≠ 99 ∨ yoe = 399))
    (hdoe : doe = 365 * yoe + yoe / 4 - yoe / 100 + doy) :
    (doe - doe / 1460 + doe / 36524 - doe / 146096) / 365 = yoe := by
  have hlast : doe / 146096 = 0 ∨ doe / 146096 = 1 := by omega
  have hcentury : doe / 36524 = yoe / 100 + doe / 146096 := by
    rcases hlast with hlast | hlast <;> omega
  have hquad : doe / 1460 = yoe / 4 ∧ doy ≤ 364 ∨ doe / 1460 = yoe / 4 + 1 ∧ 1 ≤ doy := by
    omega
  omega

lemma march_day_spec (hm : 1 ≤ m ∧ m ≤ 12) (hd : 1 ≤ d ∧ d ≤ days_in_month y m) :
    (5 * march_day m d + 2) / 153 = (m + 9) % 12 ∧ march_day m d ≤ 365 ∧
      (march_day m d = 365 → march_year y m % 4 = 3 ∧
        (march_year y m % 100 ≠ 99 ∨ march_year y m % 400 = 399)) := by
  have hyear := is_leap_iff y
  obtain ⟨hpos, hle⟩ := hm
  unfold days_in_month at hd
  unfold march_day march_year
  by_cases hleap : is_leap y <;> simp only [hleap] at hyear hd <;>
    interval_cases m <;> simp at hyear hd ⊢ <;> omega

lemma civil_from_days_number (h : t.Valid) (hlow : -2 ^ 31 ≤ t.y) (hhigh : t.y < 2 ^ 31) :
    civil_from_days t.number = t := by
  obtain ⟨y, m, d⟩ := t
  obtain ⟨hm, hd⟩ := h
  dsimp only at hm hd hlow hhigh
  obtain ⟨hmp, hdoy, hlast⟩ := march_day_spec hm hd
  have hmm : ((m + 9) % 12 + if (m + 9) % 12 < 10 then 3 else 2 ^ 32 - 9) % 2 ^ 32 = m := by
    obtain ⟨hpos, hle⟩ := hm
    interval_cases m <;> rfl
  have hdd : march_day m d - (153 * ((m + 9) % 12) + 2) / 5 + 1 = d := by
    have hpos := hd.1
    unfold march_day
    omega
  have hyear : (march_year y m + if m ≤ 2 then 1 else 0) = y := sub_add_cancel ..
  rw [Date.number, days_from_civil_eq y hm hd.1]
  generalize march_year y m = y' at hlast hyear ⊢
  generalize march_day m d = doy at hmp hdoy hlast hdd ⊢
  obtain ⟨yoe, hyoe⟩ := Int.eq_ofNat_of_zero_le (Int.emod_nonneg y' (by decide : (400 : ℤ) ≠ 0))
  have hsum : elapsed y' + doy =
      y' / 400 * 146097 + (365 * yoe + yoe / 4 - yoe / 100 + doy : ℕ) := by
    unfold elapsed
    omega
  have hera : (elapsed y' + doy) / 146097 = y' / 400 := by omega
  have hdoe : (elapsed y' + doy - y' / 400 * 146097).toNat =
      365 * yoe + yoe / 4 - yoe / 100 + doy := by omega
  have hy' : (yoe : ℤ) + y' / 400 * 400 = y' := by omega
  unfold civil_from_days
  dsimp only
  rw [sub_add_cancel, (tdiv_era _).2, hera,
    year_of_era (by omega) hdoy (by omega) hdoe, hdoe, Nat.add_sub_cancel_left, hmp, hmm, hdd, hy',
    hyear, Int.bmod_eq_of_le (by omega) (by omega)]

lemma Date.Valid.civil_from_days (h : t.Valid) (hlow : -700000000 ≤ t.number)
    (hhigh : t.number ≤ 700000000) : civil_from_days t.number = t := by
  have hday := (march_day_spec h.month h.day).2.1
  have hnum := days_from_civil_eq t.y h.month h.day.1
  rw [← Date.number, elapsed, march_year] at hnum
  refine civil_from_days_number h ?_ ?_ <;> split_ifs at hnum <;> omega

/-- **Civil dates and day numbers are inverse**, and the next day number is the next date. -/
theorem civil_dates_inverse :
    (∀ z, -700000000 ≤ z → z ≤ 700000000 →
      (civil_from_days z).Valid ∧ (civil_from_days z).number = z) ∧
    (∀ t : Date, t.Valid → (civil_from_days (-700000000)).y ≤ t.y →
      t.y ≤ (civil_from_days 700000000).y → civil_from_days t.number = t) ∧
    ∀ z, -700000000 ≤ z → z < 700000000 → civil_from_days (z + 1) = (civil_from_days z).next := by
  refine ⟨fun z hlow hhigh => ?_, fun t ht hlow hhigh => ?_, fun z hlow hhigh => ?_⟩
  · obtain ⟨t, ht, rfl⟩ := exists_number z
    rw [ht.civil_from_days hlow hhigh]
    exact ⟨ht, rfl⟩
  · have hfirst : (civil_from_days (-700000000)).y = -1914565 := by decide +kernel
    have hlast : (civil_from_days 700000000).y = 1918504 := by decide +kernel
    exact civil_from_days_number ht (by omega) (by omega)
  · obtain ⟨t, ht, rfl⟩ := exists_number z
    obtain ⟨hnext, hnum⟩ := ht.next
    rw [ht.civil_from_days hlow hhigh.le, ← hnum, hnext.civil_from_days] <;> omega

end BrambleMesh.CivilDate
