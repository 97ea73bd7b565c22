import Mathlib.Tactic.IntervalCases
import Mathlib.Tactic.SplitIfs
import PacketReplay.Time.Instant

set_option autoImplicit false

namespace PacketReplay.Day

/-- A day of an era as centuries, fours of years, years and days before it. -/
structure InEra (day century four year rest : Int) : Prop where
  day_eq : day = 36524 * century + 1461 * four + 365 * year + rest
  century_le : 0 ≤ century ∧ century ≤ 3
  four_le : 0 ≤ four ∧ four ≤ 24
  year_le : 0 ≤ year ∧ year ≤ 3
  rest_le : 0 ≤ rest ∧ rest ≤ 365
  leap : rest = 365 → year = 3 ∧ (four = 24 → century = 3)

theorem exists_inEra (day : Int) (h : 0 ≤ day ∧ day < 146097) :
    ∃ century four year rest, InEra day century four year rest := by
  have hcentury : ∃ c r, 0 ≤ c ∧ c ≤ 3 ∧ 0 ≤ r ∧ r ≤ 36524 ∧ (r = 36524 → c = 3) ∧
      day = 36524 * c + r := by
    by_cases hlast : day = 146096
    · exact ⟨3, 36524, by omega⟩
    · exact ⟨day / 36524, day % 36524, by omega⟩
  obtain ⟨c, r, hc⟩ := hcentury
  have hyear : ∃ y s, 0 ≤ y ∧ y ≤ 3 ∧ 0 ≤ s ∧ s ≤ 365 ∧ (s = 365 → y = 3) ∧
      r % 1461 = 365 * y + s := by
    by_cases hlast : r % 1461 = 1460
    · exact ⟨3, 365, by omega⟩
    · exact ⟨r % 1461 / 365, r % 1461 % 365, by omega⟩
  obtain ⟨y, s, hy⟩ := hyear
  exact ⟨c, r / 1461, y, s, by omega, by omega, by omega, by omega, by omega, by omega⟩

variable {day c k y r : Int}

theorem InEra.year_eq (h : InEra day c k y r) :
    (day - day / 1460 + day / 36524 - day / 146096) / 365 = 100 * c + 4 * k + y := by
  obtain ⟨hd, hc, hk, hy, hr, hl⟩ := h
  have hcentury : day / 36524 - day / 146096 = c := by
    by_cases hlast : day = 146096
    · omega
    · have hin : 1461 * k + 365 * y + r < 36524 := by omega
      have hera : day / 146096 = 0 := by omega
      omega
  have hfour : day / 1460 = 25 * c + k + (24 * c + k + 365 * y + r) / 1460 := by omega
  omega

theorem InEra.day_of_year (h : InEra day c k y r) :
    365 * (100 * c + 4 * k + y) + (100 * c + 4 * k + y) / 4 - (100 * c + 4 * k + y) / 100 + r =
      day := by
  obtain ⟨hd, hc, hk, hy, hr, hl⟩ := h
  omega

theorem InEra.isLeapYear (h : InEra day c k y r) (hr : r = 365) :
    isLeapYear (100 * c + 4 * k + y + 1) := by
  obtain ⟨rfl, hfour⟩ := h.leap hr
  have hc := h.century_le
  have hk := h.four_le
  have h4 : (100 * c + 4 * k + 3 + 1) % 4 = 0 := by omega
  by_cases hk24 : k = 24
  · have h400 : (100 * c + 4 * k + 3 + 1) % 400 = 0 := by omega
    simp [Day.isLeapYear, h4, h400]
  · have h100 : (100 * c + 4 * k + 3 + 1) % 100 ≠ 0 := by omega
    simp [Day.isLeapYear, h4, h100]

/-- The day with `r` days before it in the year from March. -/
def ofMarch (year r : Int) : Day :=
  let monthFromMarch := (5 * r + 2) / 153
  let day := r - (153 * monthFromMarch + 2) / 5 + 1
  let month := if monthFromMarch < 10 then monthFromMarch + 3 else monthFromMarch - 9
  ⟨if month ≤ 2 then year + 1 else year, month.toNat, day.toNat⟩

/-- Every day is a day of a year of an era, and the year from March with an odd day is leap. -/
theorem ofCount_eq (count : Int) : ∃ era year r : Int,
    (0 ≤ year ∧ year ≤ 399) ∧ (0 ≤ r ∧ r ≤ 365) ∧ (r = 365 → isLeapYear (year + 1)) ∧
    count = era * 146097 + (year * 365 + year / 4 - year / 100 + r) - 719468 ∧
    ofCount count = ofMarch (year + era * 400) r := by
  generalize hera : (count + 719468) / 146097 = era
  generalize hday : (count + 719468) - era * 146097 = day
  obtain ⟨c, k, y, r, h⟩ := exists_inEra day (by omega)
  have hyear := h.year_eq
  have hrest := h.day_of_year
  have hleap := h.isLeapYear
  have hbound : 0 ≤ 100 * c + 4 * k + y ∧ 100 * c + 4 * k + y ≤ 399 := by
    have hc := h.century_le
    have hk := h.four_le
    have hy := h.year_le
    omega
  generalize 100 * c + 4 * k + y = year at hyear hrest hleap hbound
  refine ⟨era, year, r, hbound, h.rest_le, hleap, ?_, ?_⟩
  · omega
  · have hr : day - (365 * year + year / 4 - year / 100) = r := by omega
    unfold ofCount ofMarch
    simp only [hera, hday, hyear, hr]

theorem toCount_ofMarch (era year r : Int) (hy : 0 ≤ year ∧ year ≤ 399) (hr : 0 ≤ r ∧ r ≤ 365) :
    (ofMarch (year + era * 400) r).toCount =
      era * 146097 + (year * 365 + year / 4 - year / 100 + r) - 719468 := by
  have hm : 0 ≤ (5 * r + 2) / 153 ∧ (5 * r + 2) / 153 ≤ 11 := by omega
  unfold ofMarch
  generalize hmonth : (5 * r + 2) / 153 = m at hm
  obtain ⟨hlow, hhigh⟩ := hm
  -- month by month: in each the months before it have a known number of days
  interval_cases m <;> simp [toCount] <;> omega

theorem exists?_ofMarch (year r : Int) (hr : 0 ≤ r ∧ r ≤ 365)
    (hl : r = 365 → isLeapYear (year + 1)) : (ofMarch year r).exists? := by
  have hfebruary : r - 337 + 1 ≤ if isLeapYear (year + 1) then 29 else 28 := by
    split
    · omega
    · rename_i hleap
      have hr365 : r ≠ 365 := fun h => hleap (hl h)
      omega
  have hm : 0 ≤ (5 * r + 2) / 153 ∧ (5 * r + 2) / 153 ≤ 11 := by omega
  unfold ofMarch
  generalize hmonth : (5 * r + 2) / 153 = m at hm
  obtain ⟨hlow, hhigh⟩ := hm
  interval_cases m <;> simp [exists?, monthLength, hfebruary] <;> omega

theorem toCount_ofCount (count : Int) : (ofCount count).toCount = count := by
  obtain ⟨era, year, r, hyear, hr, -, hcount, heq⟩ := ofCount_eq count
  rw [heq, toCount_ofMarch era year r hyear hr, hcount]

theorem exists?_ofCount (count : Int) : (ofCount count).exists? := by
  obtain ⟨era, year, r, hyear, hr, hleap, -, heq⟩ := ofCount_eq count
  rw [heq]
  refine exists?_ofMarch (year + era * 400) r hr fun hlast => ?_
  have hera : isLeapYear (year + era * 400 + 1) = isLeapYear (year + 1) := by
    have h4 : (year + era * 400 + 1) % 4 = (year + 1) % 4 := by omega
    have h100 : (year + era * 400 + 1) % 100 = (year + 1) % 100 := by omega
    have h400 : (year + era * 400 + 1) % 400 = (year + 1) % 400 := by omega
    rw [isLeapYear, h4, h100, h400, isLeapYear]
  rw [hera]
  exact hleap hlast

theorem month_bounds (d : Day) (h : d.exists?) : 1 ≤ d.month ∧ d.month ≤ 12 := by
  simp only [exists?, Bool.and_eq_true, decide_eq_true_eq] at h
  exact h.1.1

theorem day_bounds (d : Day) (h : d.exists?) : 1 ≤ d.day ∧ d.day ≤ 31 := by
  simp only [exists?, Bool.and_eq_true, decide_eq_true_eq] at h
  have hl : monthLength d.year d.month ≤ 31 := by
    unfold monthLength
    split_ifs <;> omega
  exact ⟨h.1.2, h.2.trans hl⟩

end PacketReplay.Day
