import Mathlib.Data.String.Basic
import NetworkIntent.Proofs.Numeral
import NetworkIntent.Publication.Publisher

/-!
# Minutes of the calendar and names of branches

A branch is named by the minute in which its publication starts. Two publications must not have the
same name unless they start in the same minute, and a list of names in their order should be a list
of publications in theirs.

Days are numbered, and the date of a day is found by guessing its year from the average length of
years and going through its months. The numbers of dates are described here from the dates: by the
days before the year, the days of the months before the month, and the day. Dates and minutes are
ordered by their parts, which is the order of their numbers.

## Main definitions

* `Calendar.Date.IsValid`, `Calendar.Date.number`, `Calendar.Date.Precedes`: the dates that there
  are, their numbers and their order; likewise for `Calendar.Minute`.
* `Calendar.InFourDigitYear`: the instants of the years from 0 to 9999.

## Main results

* `Calendar.daysBeforeYear_yearOf`, `Calendar.ofDay_spec`, `Calendar.minuteOf_spec`: the year, the
  date and the minute that are found are the right ones.
* `Calendar.Date.number_lt_iff`, `Calendar.Minute.number_lt_iff`: numbers are ordered as dates and
  minutes are.
* `Calendar.Minute.stamp_inj`, `Calendar.Minute.stamp_lt_iff`: minutes are told apart by their
  stamps, which are ordered as the minutes are in years of four digits.
* `Publication.branchName_chronological`: names of branches tell minutes apart and in order.
-/

set_option autoImplicit false

namespace NetworkIntent.Calendar

/-! ## Years -/

/-- Years that come later start later. -/
theorem daysBeforeYear_mono {year year' : Int} (h : year ≤ year') :
    daysBeforeYear year ≤ daysBeforeYear year' := by
  unfold daysBeforeYear
  dsimp only
  omega

/-- The average length of years gives the year of a day or one next to it. -/
theorem daysBeforeYear_guess (day : Int) :
    daysBeforeYear (day * 400 / 146097 - 1) ≤ day ∧
      day < daysBeforeYear (day * 400 / 146097 + 2) := by
  unfold daysBeforeYear
  dsimp only
  omega

/-- The year of a day holds it. -/
theorem daysBeforeYear_yearOf (day : Int) :
    daysBeforeYear (yearOf day) ≤ day ∧ day < daysBeforeYear (yearOf day + 1) := by
  obtain ⟨hlow, hhigh⟩ := daysBeforeYear_guess day
  unfold yearOf
  dsimp only
  generalize day * 400 / 146097 = guess at hlow hhigh ⊢
  split
  · next hbefore => exact ⟨hlow, by rwa [Int.sub_add_cancel]⟩
  · next hnot =>
    split
    · next hafter => exact ⟨hafter, by rwa [Int.add_assoc]⟩
    · next hwithin => exact ⟨Int.not_lt.mp hnot, Int.not_le.mp hwithin⟩

/-! ## Months -/

/-- The number of days of some months of a year, from a month on. -/
def daysOfMonths (year : Int) : (month count : Nat) → Nat
  | _, 0 => 0
  | month, count + 1 => daysInMonth year month + daysOfMonths year (month + 1) count

/-- A year is over after its twelve months. -/
theorem daysBeforeYear_succ (year : Int) :
    daysBeforeYear (year + 1) = daysBeforeYear year + daysOfMonths year 1 12 := by
  have hmonths : daysOfMonths year 1 12 = if isLeap year then 366 else 365 := by
    simp only [daysOfMonths, daysInMonth]
    cases isLeap year <;> rfl
  rw [hmonths]
  unfold daysBeforeYear isLeap
  simp only [Bool.and_eq_true, Bool.or_eq_true, decide_eq_true_eq]
  split <;> omega

/-- The last of some months comes after the other ones. -/
theorem daysOfMonths_succ (year : Int) (month count : Nat) :
    daysOfMonths year month (count + 1) =
      daysOfMonths year month count + daysInMonth year (month + count) := by
  induction count generalizing month with
  | zero => simp [daysOfMonths]
  | succ count ih =>
    have hmonth : month + 1 + count = month + (count + 1) := by omega
    rw [daysOfMonths, ih, hmonth, daysOfMonths]
    omega

/-- No month has more than 31 days. -/
theorem daysInMonth_le (year : Int) (month : Nat) : daysInMonth year month ≤ 31 := by
  unfold daysInMonth
  split
  · split <;> decide
  · split <;> decide

/-- A day of some months is so many days after the start of one of them, which it belongs to. -/
theorem splitYearDay_spec (year : Int) {month months day : Nat}
    (h : day < daysOfMonths year month (months + 1)) :
    ∃ passed rest, splitYearDay year month months day = (month + passed, rest + 1) ∧
      passed ≤ months ∧ day = daysOfMonths year month passed + rest ∧
      rest < daysInMonth year (month + passed) := by
  induction months generalizing month day with
  | zero =>
    refine ⟨0, day, rfl, Nat.le_refl 0, (Nat.zero_add day).symm, ?_⟩
    simpa [daysOfMonths] using h
  | succ months ih =>
    rw [splitYearDay]
    split
    · next hday => exact ⟨0, day, rfl, Nat.zero_le _, (Nat.zero_add day).symm, hday⟩
    · next hday =>
      rw [daysOfMonths] at h
      have hlater : day - daysInMonth year month < daysOfMonths year (month + 1) (months + 1) := by
        omega
      obtain ⟨passed, rest, heq, hpassed, hrest, hlt⟩ := ih hlater
      have hmonth : month + 1 + passed = month + (passed + 1) := by omega
      refine ⟨passed + 1, rest, ?_, by omega, ?_, ?_⟩
      · rw [heq, hmonth]
      · rw [daysOfMonths]
        omega
      · rwa [← hmonth]

/-- More months have more days. -/
theorem daysOfMonths_mono (year : Int) (month : Nat) {count count' : Nat} (h : count ≤ count') :
    daysOfMonths year month count ≤ daysOfMonths year month count' := by
  induction h with
  | refl => exact Nat.le_refl _
  | step _ ih =>
    rw [daysOfMonths_succ]
    omega

/-! ## Dates -/

/-- Numbers are ordered as the things are that have them, if earlier ones have smaller numbers and
one of two different things comes first. -/
theorem lt_iff_of_trichotomy {α : Type} {number : α → Int} {Precedes : α → α → Prop} {a b : α}
    (htrichotomy : Precedes a b ∨ a = b ∨ Precedes b a) (hab : Precedes a b → number a < number b)
    (hba : Precedes b a → number b < number a) : number a < number b ↔ Precedes a b := by
  refine ⟨fun h => ?_, hab⟩
  rcases htrichotomy with hbefore | rfl | hafter
  · exact hbefore
  · omega
  · have := hba hafter
    omega

namespace Date

/-- A date that there is. -/
structure IsValid (date : Date) : Prop where
  month_pos : 1 ≤ date.month
  month_le : date.month ≤ 12
  day_pos : 1 ≤ date.day
  day_le : date.day ≤ daysInMonth date.year date.month

/-- The number of days from the start of the year to a date. -/
def yearDay (date : Date) : Nat :=
  daysOfMonths date.year 1 (date.month - 1) + (date.day - 1)

/-- The number of a date, counted from the first day of 1970. -/
def number (date : Date) : Int :=
  daysBeforeYear date.year + date.yearDay - epochDay

/-- A date comes before another one: its year does, or in the same year its month does, or in the
same month its day does. -/
def Precedes (date other : Date) : Prop :=
  date.year < other.year ∨ date.year = other.year ∧
    (date.month < other.month ∨ date.month = other.month ∧ date.day < other.day)

/-- A date is before the end of its month, so many months after the start of the year. -/
theorem IsValid.yearDay_lt {date : Date} (h : date.IsValid) :
    date.yearDay < daysOfMonths date.year 1 date.month := by
  obtain ⟨hmonth, -, hday, hle⟩ := h
  obtain ⟨passed, hpassed⟩ : ∃ passed, date.month = passed + 1 := ⟨date.month - 1, by omega⟩
  rw [yearDay, hpassed, daysOfMonths_succ, Nat.add_sub_cancel, Nat.add_comm 1, ← hpassed]
  omega

/-- A date is before the start of the next year. -/
theorem IsValid.number_lt {date : Date} (h : date.IsValid) :
    date.number < daysBeforeYear (date.year + 1) - epochDay := by
  have hday := h.yearDay_lt
  have hyear : daysOfMonths date.year 1 date.month ≤ daysOfMonths date.year 1 12 :=
    daysOfMonths_mono date.year 1 h.month_le
  rw [number, daysBeforeYear_succ]
  omega

/-- Earlier dates have smaller numbers. -/
theorem Precedes.number_lt {date other : Date} (h : date.Precedes other) (hdate : date.IsValid) :
    date.number < other.number := by
  rcases h with hyear | ⟨hyear, hmonth | ⟨hmonth, hday⟩⟩
  · calc
      date.number < daysBeforeYear (date.year + 1) - epochDay := hdate.number_lt
      _ ≤ daysBeforeYear other.year - epochDay := by
        have hnext : date.year + 1 ≤ other.year := hyear
        have := daysBeforeYear_mono hnext
        omega
      _ ≤ other.number := by
        unfold number
        omega
  · have hdays := hdate.yearDay_lt
    have hnext : date.month ≤ other.month - 1 := by omega
    have hmonths := daysOfMonths_mono date.year 1 hnext
    have hyearDay : daysOfMonths date.year 1 (other.month - 1) ≤ other.yearDay := by
      rw [yearDay, hyear]
      omega
    unfold number
    rw [hyear]
    omega
  · have hpos := hdate.day_pos
    unfold number yearDay
    rw [hyear, hmonth]
    omega

/-- Of two dates that are not the same one comes before the other. -/
theorem precedes_trichotomy (date other : Date) :
    date.Precedes other ∨ date = other ∨ other.Precedes date := by
  obtain ⟨year, month, day⟩ := date
  obtain ⟨year', month', day'⟩ := other
  simp only [Precedes, Date.mk.injEq]
  omega

/-- **The numbers of dates are ordered as the dates are.** -/
theorem number_lt_iff {date other : Date} (hdate : date.IsValid) (hother : other.IsValid) :
    date.number < other.number ↔ date.Precedes other := by
  exact lt_iff_of_trichotomy (precedes_trichotomy date other) (fun h => h.number_lt hdate)
    fun h => h.number_lt hother

end Date

/-- **The date of a day is one that there is, and has the number of the day.** -/
theorem ofDay_spec (day : Int) : (ofDay day).IsValid ∧ (ofDay day).number = day := by
  obtain ⟨hlow, hhigh⟩ := daysBeforeYear_yearOf (day + epochDay)
  unfold ofDay
  dsimp only
  generalize yearOf (day + epochDay) = year at hlow hhigh ⊢
  have hday : (day + epochDay - daysBeforeYear year).toNat < daysOfMonths year 1 12 := by
    rw [daysBeforeYear_succ] at hhigh
    omega
  obtain ⟨passed, rest, heq, hpassed, hrest, hlt⟩ := splitYearDay_spec year hday
  rw [heq]
  refine ⟨⟨?_, ?_, ?_, ?_⟩, ?_⟩
  · show 1 ≤ 1 + passed
    omega
  · show 1 + passed ≤ 12
    omega
  · show 1 ≤ rest + 1
    omega
  · exact hlt
  · show daysBeforeYear year + (daysOfMonths year 1 (1 + passed - 1) + (rest + 1 - 1) : Nat) -
      epochDay = day
    rw [Nat.add_sub_cancel_left, Nat.add_sub_cancel, ← hrest]
    omega

/-! ## Minutes -/

namespace Minute

/-- A minute that there is. -/
structure IsValid (m : Minute) : Prop where
  date : m.date.IsValid
  hour_lt : m.hour < 24
  minute_lt : m.minute < 60

/-- The number of a minute, counted from the first one of 1970. -/
def number (m : Minute) : Int :=
  1440 * m.date.number + (60 * m.hour + m.minute)

/-- A minute comes before another one: its date does, or on the same day its hour does, or in the
same hour the minute itself. -/
def Precedes (m other : Minute) : Prop :=
  m.date.Precedes other.date ∨ m.date = other.date ∧
    (m.hour < other.hour ∨ m.hour = other.hour ∧ m.minute < other.minute)

/-- Earlier minutes have smaller numbers. -/
theorem Precedes.number_lt {m other : Minute} (h : m.Precedes other) (hm : m.IsValid) :
    m.number < other.number := by
  obtain ⟨hdate, hhour, hminute⟩ := hm
  unfold number
  rcases h with hbefore | ⟨hsame, htime⟩
  · have hnumber := hbefore.number_lt hdate
    omega
  · rw [hsame]
    omega

/-- Of two minutes that are not the same one comes before the other. -/
theorem precedes_trichotomy (m other : Minute) :
    m.Precedes other ∨ m = other ∨ other.Precedes m := by
  obtain ⟨date, hour, minute⟩ := m
  obtain ⟨date', hour', minute'⟩ := other
  rcases Date.precedes_trichotomy date date' with hbefore | rfl | hafter
  · exact .inl (.inl hbefore)
  · have htime : (hour < hour' ∨ hour = hour' ∧ minute < minute') ∨
        (hour = hour' ∧ minute = minute') ∨ (hour' < hour ∨ hour' = hour ∧ minute' < minute) := by
      omega
    rcases htime with hbefore | ⟨rfl, rfl⟩ | hafter
    · exact .inl (.inr ⟨rfl, hbefore⟩)
    · exact .inr (.inl rfl)
    · exact .inr (.inr (.inr ⟨rfl, hafter⟩))
  · exact .inr (.inr (.inl hafter))

/-- **The numbers of minutes are ordered as the minutes are.** -/
theorem number_lt_iff {m other : Minute} (hm : m.IsValid) (hother : other.IsValid) :
    m.number < other.number ↔ m.Precedes other := by
  exact lt_iff_of_trichotomy (precedes_trichotomy m other) (fun h => h.number_lt hm)
    fun h => h.number_lt hother

end Minute

/-! ## Stamps -/

/-- Numbers of two digits are told apart by them. -/
theorem twoDigits_inj {n m : Nat} : twoDigits n = twoDigits m ↔ n = m :=
  padZeros_inj

/-- Numbers below one hundred have two digits. -/
theorem length_twoDigits {n : Nat} (h : n < 100) : (twoDigits n).length = 2 :=
  length_padZeros (by decide) h

/-- Two digits are ordered as their numbers are. -/
theorem twoDigits_lt_iff {n m : Nat} (hn : n < 100) (hm : m < 100) :
    twoDigits n < twoDigits m ↔ n < m :=
  padZeros_lt_iff (by decide) hn hm

/-- A year of four digits is written with them alone. -/
theorem writeYear_of_fourDigits {year : Int} (hlow : 0 ≤ year) (hhigh : year ≤ 9999) :
    writeYear year = padZeros 4 (Nat.toDigits 10 year.natAbs) := by
  rw [writeYear, if_neg (by omega), if_neg (by omega)]

/-- The year that is written with an optional sign and digits. -/
def readYear : List Char → Int
  | '-' :: digits => -(Nat.ofDigitChars 10 digits 0 : Int)
  | '+' :: digits => Nat.ofDigitChars 10 digits 0
  | digits => Nat.ofDigitChars 10 digits 0

/-- **A written year is read back**, whether it has a sign or not. -/
theorem readYear_writeYear (year : Int) : readYear (writeYear year) = year := by
  unfold writeYear
  split
  · rw [readYear, ofDigitChars_padZeros]
    omega
  · split
    · rw [readYear, Nat.ofDigitChars_ten_toDigits]
      omega
    · have hvalue := ofDigitChars_padZeros 4 year.natAbs
      have hdigit : ∀ c ∈ padZeros 4 (Nat.toDigits 10 year.natAbs), c.isDigit = true :=
        fun c => isDigit_of_mem_padZeros
      unfold readYear
      split
      · next hsign => exact absurd (hdigit '-' (hsign ▸ List.mem_cons_self)) (by decide)
      · next hsign => exact absurd (hdigit '+' (hsign ▸ List.mem_cons_self)) (by decide)
      · rw [hvalue]
        omega

namespace Minute

variable {m other : Minute}

/-- The parts of a date and of a time have two digits. -/
theorem IsValid.lt_hundred (h : m.IsValid) :
    m.date.month < 100 ∧ m.date.day < 100 ∧ m.hour < 100 ∧ m.minute < 100 := by
  obtain ⟨⟨-, hmonth, -, hday⟩, hhour, hminute⟩ := h
  have hdays := daysInMonth_le m.date.year m.date.month
  omega

/-- **Minutes are told apart by their stamps**, in years of any number of digits.

**Proof sketch.** All parts after the year have two digits, so the stamps are split at the same
places from their ends. -/
theorem stamp_inj (hm : m.IsValid) (hother : other.IsValid) :
    m.stamp = other.stamp ↔ m = other := by
  refine ⟨fun h => ?_, fun h => by rw [h]⟩
  obtain ⟨hmonth, hday, hhour, hminute⟩ := hm.lt_hundred
  obtain ⟨hmonth', hday', hhour', hminute'⟩ := hother.lt_hundred
  have hsame : ∀ {n n' : Nat}, n < 100 → n' < 100 → (twoDigits n).length = (twoDigits n').length :=
    fun hn hn' => (length_twoDigits hn).trans (length_twoDigits hn').symm
  unfold stamp at h
  obtain ⟨h, hminutes⟩ := List.append_inj' h (hsame hminute hminute')
  obtain ⟨h, hhours⟩ := List.append_inj' h (hsame hhour hhour')
  obtain ⟨h, hdays⟩ := List.append_inj' h (hsame hday hday')
  obtain ⟨hyears, hmonths⟩ := List.append_inj' h (hsame hmonth hmonth')
  have hyear : m.date.year = other.date.year := by
    rw [← readYear_writeYear m.date.year, hyears, readYear_writeYear]
  obtain ⟨⟨year, month, day⟩, hour, minute⟩ := m
  obtain ⟨⟨year', month', day'⟩, hour', minute'⟩ := other
  rw [twoDigits_inj] at hminutes hhours hdays hmonths
  dsimp only at hyear hminutes hhours hdays hmonths
  rw [hyear, hmonths, hdays, hhours, hminutes]

/-- **Stamps are ordered as their minutes are**, in years of four digits. -/
theorem stamp_lt_iff (hm : m.IsValid) (hother : other.IsValid)
    (hyear : 0 ≤ m.date.year ∧ m.date.year ≤ 9999)
    (hyear' : 0 ≤ other.date.year ∧ other.date.year ≤ 9999) :
    m.stamp < other.stamp ↔ m.Precedes other := by
  obtain ⟨hmonth, hday, hhour, hminute⟩ := hm.lt_hundred
  obtain ⟨hmonth', hday', hhour', hminute'⟩ := hother.lt_hundred
  obtain ⟨⟨year, month, day⟩, hour, minute⟩ := m
  obtain ⟨⟨year', month', day'⟩, hour', minute'⟩ := other
  dsimp only at *
  have hbound : year.natAbs < 10 ^ 4 ∧ year'.natAbs < 10 ^ 4 := by omega
  have hsplit : ∀ {n n' : Nat}, n < 100 → n' < 100 → ∀ cs ds : List Char,
      (twoDigits n ++ cs < twoDigits n' ++ ds ↔ n < n' ∨ n = n' ∧ cs < ds) := by
    intro n n' hn hn' cs ds
    rw [append_lt_append_iff ((length_twoDigits hn).trans (length_twoDigits hn').symm),
      twoDigits_lt_iff hn hn', twoDigits_inj]
  have hyears : (padZeros 4 (Nat.toDigits 10 year.natAbs)).length =
      (padZeros 4 (Nat.toDigits 10 year'.natAbs)).length := by
    rw [length_padZeros (by decide) hbound.1, length_padZeros (by decide) hbound.2]
  unfold stamp
  dsimp only
  rw [writeYear_of_fourDigits hyear.1 hyear.2, writeYear_of_fourDigits hyear'.1 hyear'.2]
  simp only [List.append_assoc]
  rw [append_lt_append_iff hyears, hsplit hmonth hmonth', hsplit hday hday', hsplit hhour hhour',
    twoDigits_lt_iff hminute hminute', padZeros_lt_iff (by decide) hbound.1 hbound.2, padZeros_inj]
  simp only [Precedes, Date.Precedes, Date.mk.injEq]
  omega

end Minute

/-- **The minute of an instant is one that there is**, and has the number of the minutes since the
first one of 1970. -/
theorem minuteOf_spec (seconds : Int) :
    (minuteOf seconds).IsValid ∧ (minuteOf seconds).number = seconds / 60 := by
  obtain ⟨hvalid, hnumber⟩ := ofDay_spec (seconds / 60 / 1440)
  unfold minuteOf
  refine ⟨⟨hvalid, ?_, ?_⟩, ?_⟩
  · dsimp only
    omega
  · dsimp only
    omega
  · unfold Minute.number
    dsimp only
    rw [hnumber]
    omega

/-- An instant from the start of year zero to the end of year 9999. -/
def InFourDigitYear (seconds : Int) : Prop :=
  -62167219200 ≤ seconds ∧ seconds < 253402300800

/-- These are the instants whose years have four digits and no sign. -/
theorem inFourDigitYear_iff {seconds : Int} : InFourDigitYear seconds ↔
    0 ≤ (minuteOf seconds).date.year ∧ (minuteOf seconds).date.year ≤ 9999 := by
  have hyear : (minuteOf seconds).date.year = yearOf (seconds / 60 / 1440 + epochDay) := rfl
  obtain ⟨hlow, hhigh⟩ := daysBeforeYear_yearOf (seconds / 60 / 1440 + epochDay)
  have hfirst : daysBeforeYear 0 = 0 := rfl
  have hlast : daysBeforeYear 10000 = 3652425 := rfl
  have hepoch : epochDay = 719528 := rfl
  rw [hyear]
  generalize yearOf (seconds / 60 / 1440 + epochDay) = year at hlow hhigh ⊢
  unfold InFourDigitYear
  constructor
  · rintro ⟨hmin, hmax⟩
    constructor
    · by_contra hneg
      have hbefore : year + 1 ≤ 0 := by omega
      have := daysBeforeYear_mono hbefore
      omega
    · by_contra hbig
      have hafter : 10000 ≤ year := by omega
      have := daysBeforeYear_mono hafter
      omega
  · rintro ⟨hpos, hle⟩
    have hstart := daysBeforeYear_mono hpos
    have hnext : year + 1 ≤ 10000 := by omega
    have hend := daysBeforeYear_mono hnext
    omega

end NetworkIntent.Calendar

/-! ## Names of branches -/

namespace NetworkIntent.Publication

open Calendar

/-- **The name of a branch tells the minute of its publication.** Two publications have the same
name exactly if they start in the same minute of universal time, in any year before or after the
year zero. In years of four digits, the earlier minute has the smaller name.

**Proof sketch.** The minute of an instant is one that there is, and its number is the number of
minutes since 1970; the numbers of minutes are ordered as the minutes are. So the same name means
the same minute, and in years of four digits all parts of a stamp have a fixed width and are
compared one after the other. -/
theorem branchName_chronological (start : String) (earlier later : Int) :
    (branchName start earlier = branchName start later ↔ earlier / 60 = later / 60) ∧
    (InFourDigitYear earlier → InFourDigitYear later →
      (branchName start earlier < branchName start later ↔ earlier / 60 < later / 60)) := by
  obtain ⟨hvalid, hnumber⟩ := minuteOf_spec earlier
  obtain ⟨hvalid', hnumber'⟩ := minuteOf_spec later
  constructor
  · constructor
    · intro hname
      have hstamp : (minuteOf earlier).stamp = (minuteOf later).stamp := by
        have hchars := congrArg String.toList hname
        rw [branchName, branchName, String.toList_append, String.toList_append,
          String.toList_ofList, String.toList_ofList] at hchars
        exact List.append_cancel_left hchars
      rw [← hnumber, ← hnumber', (Minute.stamp_inj hvalid hvalid').mp hstamp]
    · intro hminutes
      unfold branchName minuteOf
      rw [hminutes]
  · intro hyear hyear'
    rw [inFourDigitYear_iff] at hyear hyear'
    rw [String.lt_iff_toList_lt, branchName, branchName, String.toList_append,
      String.toList_append, append_lt_append_iff rfl, String.toList_ofList, String.toList_ofList,
      Minute.stamp_lt_iff hvalid hvalid' hyear hyear', ← Minute.number_lt_iff hvalid hvalid',
      hnumber, hnumber']
    simp

/-- The last minute of a year comes before the first minute of the next one. -/
theorem branchName_chronological_newYear :
    branchName "services_" 1735689599 = "services_202412312359" ∧
      branchName "services_" 1735689600 = "services_202501010000" ∧
      branchName "services_" 1735689599 < branchName "services_" 1735689600 := by
  have hyear : InFourDigitYear 1735689599 ∧ InFourDigitYear 1735689600 := by
    unfold InFourDigitYear
    omega
  have horder := (branchName_chronological "services_" 1735689599 1735689600).2 hyear.1 hyear.2
  exact ⟨by decide +kernel, by decide +kernel, horder.mpr (by decide)⟩

end NetworkIntent.Publication
