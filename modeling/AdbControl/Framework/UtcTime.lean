import AdbControl.Framework.Decimal

namespace AdbControl.Framework

def isLeapYear (year : Nat) : Bool :=
  year % 4 == 0 && (year % 100 != 0 || year % 400 == 0)

def daysInMonth (year : Nat) : Nat → Nat
  | 1 | 3 | 5 | 7 | 8 | 10 | 12 => 31
  | 4 | 6 | 9 | 11 => 30
  | 2 => if isLeapYear year then 29 else 28
  | _ => 0

/-- The days of a year before a month -/
def daysBeforeMonth (year : Nat) : Nat → Nat
  | 0 => 0
  | month + 1 => daysBeforeMonth year month + daysInMonth year month

/-- The days before a year, from the year zero on -/
def daysBeforeYear : Nat → Nat
  | 0 => 0
  | year + 1 => daysBeforeYear year + daysBeforeMonth year 13

/-- A time of the calendar, in UTC and without leap seconds. -/
@[ext] structure UtcTime where
  year : Nat
  month : Nat
  day : Nat
  hour : Nat
  minute : Nat
  second : Nat
  nanosecond : Nat
  /-- as a year has four digits -/
  year_le : year ≤ 9999
  month_le : 1 ≤ month ∧ month ≤ 12
  day_le : 1 ≤ day ∧ day ≤ daysInMonth year month
  hour_lt : hour < 24
  minute_lt : minute < 60
  second_lt : second < 60
  nanosecond_lt : nanosecond < 10^9
  deriving DecidableEq

namespace UtcTime

/-- The beginning of a year -/
def newYear (year : Nat) (h : year ≤ 9999) : UtcTime where
  year := year
  month := 1
  day := 1
  hour := 0
  minute := 0
  second := 0
  nanosecond := 0
  year_le := h
  month_le := by omega
  day_le := ⟨Nat.le_refl 1, by simp [daysInMonth]⟩
  hour_lt := by omega
  minute_lt := by omega
  second_lt := by omega
  nanosecond_lt := by omega

/-- The days before the day of the time -/
def days (t : UtcTime) : Nat :=
  daysBeforeYear t.year + (daysBeforeMonth t.year t.month + (t.day - 1))

/-- The seconds from the beginning of the year zero on -/
def seconds (t : UtcTime) : Nat := ((t.days * 24 + t.hour) * 60 + t.minute) * 60 + t.second

/-- The nanoseconds from the beginning of the year zero on -/
def instant (t : UtcTime) : Nat := t.seconds * 10^9 + t.nanosecond

/-- The digits of a fraction of a second, behind their point -/
def fraction (t : UtcTime) : List Char :=
  if trimZeros (decimal 9 t.nanosecond) = [] then []
  else '.' :: trimZeros (decimal 9 t.nanosecond)

/-- The text of the layout `2006-01-02T15:04:05.999999999Z07:00`: the zeros at the end of the
fraction are left out, and so is the point when there is nothing else. -/
def rfc3339Nano (t : UtcTime) : List Char :=
  decimal 4 t.year ++ '-' :: (decimal 2 t.month ++ '-' :: (decimal 2 t.day ++
    'T' :: (decimal 2 t.hour ++ ':' :: (decimal 2 t.minute ++ ':' :: (decimal 2 t.second ++
      (t.fraction ++ ['Z']))))))

/-- The one time is the other cut off after some place of its second. -/
def CutOff (a b : UtcTime) : Prop :=
  a.instant ≠ b.instant ∧ ∃ k ≤ 9, a.instant = b.instant / 10^k * 10^k

instance (a b : UtcTime) : Decidable (a.CutOff b) :=
  inferInstanceAs (Decidable (_ ∧ _))

end UtcTime

section Order

/-- Numbers above the steps of a stair are in the order of the steps, and on one step in their own. -/
theorem stair_lt_iff {f : Nat → Nat} (hf : Monotone f) {x y u v : Nat} (hx : f x + u < f (x + 1))
    (hy : f y + v < f (y + 1)) : f x + u < f y + v ↔ x < y ∨ x = y ∧ u < v := by
  rcases Nat.lt_trichotomy x y with hlt | heq | hgt
  · have next : f (x + 1) ≤ f y := hf hlt
    omega
  · subst heq
    omega
  · have next : f (y + 1) ≤ f x := hf hgt
    omega

theorem digits_lt_iff {x y u v m : Nat} (hu : u < m) (hv : v < m) :
    x * m + u < y * m + v ↔ x < y ∨ x = y ∧ u < v := by
  have steps : Monotone fun x : Nat => x * m := fun _ _ h => Nat.mul_le_mul_right m h
  apply stair_lt_iff steps
  · rw [Nat.succ_mul]
    omega
  · rw [Nat.succ_mul]
    omega

theorem monotone_daysBeforeMonth (year : Nat) : Monotone (daysBeforeMonth year) :=
  monotone_nat_of_le_succ fun month => Nat.le_add_right _ (daysInMonth year month)

theorem monotone_daysBeforeYear : Monotone daysBeforeYear :=
  monotone_nat_of_le_succ fun year => Nat.le_add_right _ (daysBeforeMonth year 13)

namespace UtcTime

variable {a b : UtcTime}

theorem dayOfYear_lt (t : UtcTime) :
    daysBeforeYear t.year + (daysBeforeMonth t.year t.month + (t.day - 1)) <
      daysBeforeYear (t.year + 1) := by
  obtain ⟨hday, hlast⟩ := t.day_le
  have hmonth : t.month + 1 ≤ 13 := by
    have := t.month_le
    omega
  have whole := monotone_daysBeforeMonth t.year hmonth
  rw [daysBeforeMonth] at whole
  rw [daysBeforeYear]
  omega

theorem dayOfMonth_lt (t : UtcTime) :
    daysBeforeMonth t.year t.month + (t.day - 1) < daysBeforeMonth t.year (t.month + 1) := by
  obtain ⟨hday, hlast⟩ := t.day_le
  rw [daysBeforeMonth]
  omega

/-- Days are in the order of their dates. -/
theorem days_lt_iff : a.days < b.days ↔
    a.year < b.year ∨ a.year = b.year ∧
      (a.month < b.month ∨ a.month = b.month ∧ a.day < b.day) := by
  rw [days, days, stair_lt_iff monotone_daysBeforeYear a.dayOfYear_lt b.dayOfYear_lt]
  refine or_congr_right (and_congr_right fun hyear => ?_)
  have first := a.dayOfMonth_lt
  have second := b.dayOfMonth_lt
  rw [← hyear] at second ⊢
  rw [stair_lt_iff (monotone_daysBeforeMonth a.year) first second]
  have hday := a.day_le.1
  have hday' := b.day_le.1
  omega

/-- Seconds are in the order of their fields. -/
theorem seconds_lt_iff : a.seconds < b.seconds ↔
    a.year < b.year ∨ a.year = b.year ∧ (a.month < b.month ∨ a.month = b.month ∧
      (a.day < b.day ∨ a.day = b.day ∧ (a.hour < b.hour ∨ a.hour = b.hour ∧
        (a.minute < b.minute ∨ a.minute = b.minute ∧ a.second < b.second)))) := by
  have hdays := @days_lt_iff a b
  have hdays' := @days_lt_iff b a
  rw [seconds, seconds, digits_lt_iff a.second_lt b.second_lt,
    digits_lt_iff a.minute_lt b.minute_lt]
  have hminute := a.minute_lt
  have hminute' := b.minute_lt
  have hhour := a.hour_lt
  have hhour' := b.hour_lt
  omega

theorem seconds_eq_iff : a.seconds = b.seconds ↔
    a.year = b.year ∧ a.month = b.month ∧ a.day = b.day ∧ a.hour = b.hour ∧
      a.minute = b.minute ∧ a.second = b.second := by
  have hbefore := @seconds_lt_iff a b
  have hafter := @seconds_lt_iff b a
  omega

theorem instant_lt_iff : a.instant < b.instant ↔
    a.seconds < b.seconds ∨ a.seconds = b.seconds ∧ a.nanosecond < b.nanosecond :=
  digits_lt_iff a.nanosecond_lt b.nanosecond_lt

/-- Texts are in the order of the seconds, and within a second in that of what follows it. -/
theorem rfc3339Nano_lt_seconds : a.rfc3339Nano < b.rfc3339Nano ↔
    a.seconds < b.seconds ∨
      a.seconds = b.seconds ∧ a.fraction ++ ['Z'] < b.fraction ++ ['Z'] := by
  have field {w m n : Nat} (hm : m < 10^w) (hn : n < 10^w) (c : Char) (xs ys : List Char) :
      decimal w m ++ c :: xs < decimal w n ++ c :: ys ↔ m < n ∨ m = n ∧ xs < ys := by
    rw [decimal_append_lt_iff hm hn, List.cons_lt_cons_iff]
    simp
  obtain ⟨hyear, hyear'⟩ := And.intro a.year_le b.year_le
  obtain ⟨hmonth, hmonth'⟩ := And.intro a.month_le b.month_le
  have hday (t : UtcTime) : t.day < 10^2 := by
    have bound : daysInMonth t.year t.month ≤ 31 := by
      unfold daysInMonth
      split <;> (try split_ifs) <;> omega
    have := t.day_le
    omega
  have hhour (t : UtcTime) : t.hour < 10^2 := by
    have := t.hour_lt
    omega
  have hminute (t : UtcTime) : t.minute < 10^2 := by
    have := t.minute_lt
    omega
  have hsecond (t : UtcTime) : t.second < 10^2 := by
    have := t.second_lt
    omega
  rw [rfc3339Nano, rfc3339Nano, field (by omega) (by omega), field (by omega) (by omega),
    field (hday a) (hday b), field (hhour a) (hhour b), field (hminute a) (hminute b),
    decimal_append_lt_iff (hsecond a) (hsecond b), seconds_lt_iff, seconds_eq_iff]
  tauto

/-- A cut does not reach the seconds. -/
theorem cutOff_iff : a.CutOff b ↔
    a.seconds = b.seconds ∧ a.nanosecond ≠ b.nanosecond ∧
      ∃ k ≤ 9, a.nanosecond = b.nanosecond / 10^k * 10^k := by
  have cut (k : Nat) (hk : k ≤ 9) :
      b.instant / 10^k * 10^k = b.seconds * 10^9 + b.nanosecond / 10^k * 10^k := by
    have split : (10 : Nat)^9 = 10^(9 - k) * 10^k := by
      rw [← pow_add]
      congr 1
      omega
    have hpos : 0 < 10^k := Nat.pow_pos (by omega)
    rw [instant, split, ← Nat.mul_assoc, Nat.add_comm, Nat.add_mul_div_right _ _ hpos, Nat.add_mul,
      Nat.add_comm]
  have hnano := a.nanosecond_lt
  have hnano' := b.nanosecond_lt
  constructor
  · intro h
    obtain ⟨hne, k, hk, he⟩ := h
    rw [cut k hk] at he
    have := Nat.div_mul_le_self b.nanosecond (10^k)
    rw [instant] at he
    rw [instant, instant] at hne
    refine ⟨by omega, by omega, k, hk, by omega⟩
  · intro h
    obtain ⟨hsame, hne, k, hk, he⟩ := h
    refine ⟨by rw [instant, instant]; omega, k, hk, ?_⟩
    rw [cut k hk, instant, hsame, ← he]

theorem trimZeros_ne_nil {n : Nat} (hn : n < 10^9) (hpos : 0 < n) :
    trimZeros (decimal 9 n) ≠ [] := by
  intro hnil
  obtain ⟨k, hk⟩ := trimZeros_zeros (decimal 9 n)
  rw [hnil, List.nil_append] at hk
  have hlength := congrArg List.length hk
  rw [decimal_length, List.length_replicate] at hlength
  rw [← hlength, ← decimal_zero, decimal_inj hn (by omega)] at hk
  omega

/-- The point does not change the order of two fractions. -/
theorem fraction_lt_iff (h : a.nanosecond < b.nanosecond) :
    a.fraction ++ ['Z'] < b.fraction ++ ['Z'] ↔
      trimZeros (decimal 9 a.nanosecond) ++ ['Z'] < trimZeros (decimal 9 b.nanosecond) ++ ['Z'] := by
  have later := trimZeros_ne_nil b.nanosecond_lt (by omega)
  rw [fraction, fraction, if_neg later]
  split_ifs with hnil
  · -- a whole second stands behind its fractions either way
    have digits : ∀ c ∈ trimZeros (decimal 9 b.nanosecond), ∃ d, d < 10 ∧ c = d.digitChar :=
      fun c hc => isDigit_decimal ((List.rdropWhile_prefix _ _).mem hc)
    generalize trimZeros (decimal 9 b.nanosecond) = y at later digits
    cases y with
    | nil => exact (later rfl).elim
    | cons c y =>
      obtain ⟨d, hd, rfl⟩ := digits c (by simp)
      have above : ∀ d < 10, ¬( 'Z' < Nat.digitChar d) ∧ 'Z' ≠ Nat.digitChar d := by decide
      obtain ⟨hlt, hne⟩ := above d hd
      simp [hnil, List.cons_lt_cons_iff, hlt, hne]
  · simp

/-- Of two times the earlier has the lesser text, unless it is the later one cut off. -/
theorem rfc3339Nano_lt_iff (h : a.instant < b.instant) :
    a.rfc3339Nano < b.rfc3339Nano ↔ ¬a.CutOff b := by
  rw [rfc3339Nano_lt_seconds, cutOff_iff]
  rcases instant_lt_iff.mp h with hlt | ⟨hsame, hnano⟩
  · exact iff_of_true (Or.inl hlt) (fun hcut => hlt.ne hcut.1)
  · have below : ∀ d < 10, Nat.digitChar d < 'Z' := by decide
    rw [fraction_lt_iff hnano, trimZeros_lt_iff a.nanosecond_lt b.nanosecond_lt hnano below]
    simp [hsame, hnano.ne]

theorem fraction_inj (h : a.fraction = b.fraction) : a.nanosecond = b.nanosecond := by
  have trimmed : trimZeros (decimal 9 a.nanosecond) = trimZeros (decimal 9 b.nanosecond) := by
    unfold fraction at h
    split_ifs at h with ha hb hb
    · rw [ha, hb]
    · exact (List.cons.inj h).2
  obtain ⟨k, -, hk⟩ :=
    (trimZeros_prefix_iff a.nanosecond_lt b.nanosecond_lt).mp (by rw [trimmed])
  obtain ⟨l, -, hl⟩ :=
    (trimZeros_prefix_iff b.nanosecond_lt a.nanosecond_lt).mp (by rw [trimmed])
  have := Nat.div_mul_le_self b.nanosecond (10^k)
  have := Nat.div_mul_le_self a.nanosecond (10^l)
  omega

theorem rfc3339Nano_inj (h : a.rfc3339Nano = b.rfc3339Nano) : a.instant = b.instant := by
  have before := (not_congr (@rfc3339Nano_lt_seconds a b)).mp (by rw [h]; exact lt_irrefl _)
  have after := (not_congr (@rfc3339Nano_lt_seconds b a)).mp (by rw [h]; exact lt_irrefl _)
  have hsame : a.seconds = b.seconds := by omega
  simp only [hsame, lt_irrefl, true_and, false_or, not_lt] at before after
  have hnano := fraction_inj (List.append_cancel_right (le_antisymm after before))
  rw [instant, instant, hsame, hnano]

/-- The texts are in the order of the times exactly where none of the two is the other cut off. -/
theorem rfc3339Nano_le_iff :
    (a.rfc3339Nano ≤ b.rfc3339Nano → a.instant ≤ b.instant) ↔ ¬b.CutOff a := by
  constructor
  · intro horder hcut
    have hle : b.instant ≤ a.instant := by
      obtain ⟨-, k, -, he⟩ := hcut
      rw [he]
      exact Nat.div_mul_le_self _ _
    have hlt : b.instant < a.instant := lt_of_le_of_ne hle hcut.1
    have htext := not_lt.mp (mt (rfc3339Nano_lt_iff hlt).mp (not_not.mpr hcut))
    exact absurd (horder htext) (not_le.mpr hlt)
  · intro hcut htext
    by_contra hlt
    rw [not_le] at hlt
    exact absurd ((rfc3339Nano_lt_iff hlt).mpr hcut) (not_lt.mpr htext)

end UtcTime

end Order

end AdbControl.Framework
