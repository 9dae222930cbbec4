import BranchChoice.Context
import BranchChoice.Proofs.CalendarDays
import BranchChoice.Proofs.DocumentValues
import BranchChoice.Proofs.NumberForms
import BranchChoice.Proofs.StrictEquality
import Mathlib.Data.String.Basic
import Mathlib.Tactic.SplitIfs

/-!
# Timestamps

The context of a request says when it was made: in universal time, whatever the offset of the clock,
and down to whole milliseconds (`Request.context_timestamp`).

The text has a fixed form, and its numbers are the parts of the instant from years to milliseconds.
The parts come in the order of the instants (`partsOf_lt_iff`), because dates do and times of day
do, and a fixed form keeps the order of its numbers.  Within the calendar each number fits its place
(`fits_partsOf`), and so the text is read back as the instant that was written
(`ofTimestamp?_writeInstant`).
-/

namespace BranchChoice

/-! ## The parts of an instant -/

namespace Calendar

theorem microsPerDay_eq : microsPerDay = 86400000000 := rfl

/-- The parts of a time of day in milliseconds, from hours to milliseconds. -/
def timeParts (time : Nat) : List Nat :=
  [time / 1000 / 3600, time / 1000 / 60 % 60, time / 1000 % 60, time % 1000]

/-- The parts of an instant, from years to milliseconds. -/
def partsOf (micros : Nat) : List Nat :=
  let (year, month, day) := dateOf (micros / microsPerDay)
  [year, month, day] ++ timeParts (micros % microsPerDay / 1000)

/-- The form of a timestamp: `YYYY-MM-DDTHH:MM:SS.mmmZ`. -/
def timestampForm : NumberForm :=
  [(4, '-'), (2, '-'), (2, 'T'), (2, ':'), (2, ':'), (2, '.'), (3, 'Z')]

theorem toList_writeInstant (micros : Nat) :
    (writeInstant micros).toList = timestampForm.write (partsOf micros) := by
  rw [writeInstant, String.toList_ofList]
  simp only [List.append_assoc, List.cons_append]
  rfl

theorem partsOf_eq {micros year month day : Nat}
    (h : dateOf (micros / microsPerDay) = (year, month, day)) :
    partsOf micros = [year, month, day] ++ timeParts (micros % microsPerDay / 1000) := by
  rw [partsOf, h]

/-- The date of an instant of the calendar. -/
theorem exists_date {micros : Nat} (h : micros < dayCount * microsPerDay) :
    ∃ year month day, dateOf (micros / microsPerDay) = (year, month, day) ∧
      IsDate year month day ∧ dayNumber year month day = micros / microsPerDay ∧
      year ≤ lastYear := by
  obtain ⟨year, month, day, hdate, hvalid, hnumber⟩ := exists_dateOf (micros / microsPerDay)
  refine ⟨year, month, day, hdate, hvalid, hnumber, ?_⟩
  rw [← hvalid.dayNumber_lt_dayCount, hnumber]
  exact Nat.div_lt_of_lt_mul (Nat.mul_comm .. ▸ h)

theorem timeParts_lt_iff {t u : Nat} : timeParts t < timeParts u ↔ t < u := by
  -- hours are counted from minutes, so that each part is a quotient or remainder of the one before
  have hhours (s : Nat) : s / 3600 = s / 60 / 60 := (Nat.div_div_eq_div_mul s 60 60).symm
  have hnil : ¬([] : List Nat) < [] := lt_irrefl _
  simp only [timeParts, hhours, List.cons_lt_cons_iff, hnil, and_false, or_false]
  constructor
  · rintro (h | ⟨hhour, h | ⟨hminute, h | ⟨hsecond, h⟩⟩⟩) <;> omega
  · intro h
    omega

/-- **The parts of instants come in the order of their milliseconds.** -/
theorem partsOf_lt_iff (a b : Nat) : partsOf a < partsOf b ↔ a / 1000 < b / 1000 := by
  obtain ⟨year, month, day, hdate, h, hnumber⟩ := exists_dateOf (a / microsPerDay)
  obtain ⟨year', month', day', hdate', h', hnumber'⟩ := exists_dateOf (b / microsPerDay)
  have heq : [year, month, day] = [year', month', day'] ↔ a / microsPerDay = b / microsPerDay := by
    rw [← hnumber, ← hnumber']
    refine ⟨fun hparts => ?_, h.eq_of_dayNumber h'⟩
    obtain ⟨rfl, rfl, rfl⟩ : year = year' ∧ month = month' ∧ day = day' := by simpa using hparts
    rfl
  have hlength : [year, month, day].length = [year', month', day'].length := rfl
  rw [partsOf_eq hdate, partsOf_eq hdate', append_lt_append_iff hlength, h.lt_iff h', heq, hnumber,
    hnumber', timeParts_lt_iff, microsPerDay_eq]
  omega

/-- Within the calendar, the parts of an instant fit their places. -/
theorem fits_partsOf {micros : Nat} (h : micros < dayCount * microsPerDay) :
    timestampForm.Fits (partsOf micros) := by
  obtain ⟨year, month, day, hdate, hvalid, -, hyear⟩ := exists_date h
  rw [lastYear] at hyear
  have hmonth := hvalid.month_le
  have hday := hvalid.day_le.trans (daysInMonth_le year month)
  have htime : micros % microsPerDay / 1000 < 86400000 := by
    rw [microsPerDay_eq]
    omega
  rw [partsOf_eq hdate, NumberForm.Fits, timestampForm, timeParts]
  simp only [List.cons_append, List.nil_append, List.forall₂_cons, List.Forall₂.nil, and_true]
  omega

end Calendar

@[simp] theorem UtcOffset.micros_zero : (0 : UtcOffset).micros = 0 := rfl

namespace ClockReading

open Calendar

/-! ## Valid readings -/

/-- A reading that shows a date and time of the calendar, less than a day off universal time. -/
structure IsValid (r : ClockReading) : Prop where
  offset : -(microsPerDay : Int) < r.offset.micros ∧ r.offset.micros < microsPerDay
  year : 1 ≤ r.year ∧ r.year ≤ lastYear
  month : 1 ≤ r.month ∧ r.month ≤ 12
  day : 1 ≤ r.day ∧ r.day ≤ daysInMonth r.year.toNat r.month.toNat
  hour : 0 ≤ r.hour ∧ r.hour ≤ 23
  minute : 0 ≤ r.minute ∧ r.minute ≤ 59
  second : 0 ≤ r.second ∧ r.second ≤ 59
  microsecond : 0 ≤ r.microsecond ∧ r.microsecond ≤ 999999

theorem invalid?_eq_none_iff {r : ClockReading} : r.invalid? = none ↔ r.IsValid := by
  unfold invalid?
  simp only [Bool.or_eq_true, decide_eq_true_eq]
  constructor
  · intro h
    split_ifs at h with hoffset hyear hmonth hday hhour hminute hsecond hmicro
    exact ⟨by omega, by omega, by omega, by omega, by omega, by omega, by omega, by omega⟩
  · rintro ⟨hoffset, hyear, hmonth, hday, hhour, hminute, hsecond, hmicro⟩
    rw [if_neg (by omega), if_neg (by omega), if_neg (by omega), if_neg (by omega),
      if_neg (by omega), if_neg (by omega), if_neg (by omega), if_neg (by omega)]

theorem IsValid.isDate {r : ClockReading} (h : r.IsValid) :
    IsDate r.year.toNat r.month.toNat r.day.toNat := by
  obtain ⟨-, hyear, hmonth, hday, -, -, -, -⟩ := h
  exact ⟨by omega, by omega, by omega, by omega, by omega⟩

/-! ## Universal time -/

/-- A valid reading in universal time shows an instant of the calendar. -/
theorem micros_of_universal {u : ClockReading} (h : u.IsValid) (hoffset : u.offset = 0) :
    0 ≤ u.micros ∧ u.micros < (dayCount * microsPerDay : Nat) := by
  have hday : dayNumber u.year.toNat u.month.toNat u.day.toNat < dayCount := by
    have hyear := h.year
    rw [h.isDate.dayNumber_lt_dayCount]
    omega
  obtain ⟨-, -, -, -, hhour, hminute, hsecond, hmicro⟩ := h
  rw [micros, hoffset, UtcOffset.micros_zero, microsPerDay_eq, microsPerSecond]
  omega

theorem ofInstant_eq {micros year month day : Nat}
    (h : dateOf (micros / microsPerDay) = (year, month, day)) :
    ofInstant micros =
      ⟨year, month, day, (micros % microsPerDay / microsPerSecond / 3600 : Nat),
        (micros % microsPerDay / microsPerSecond / 60 % 60 : Nat),
        (micros % microsPerDay / microsPerSecond % 60 : Nat),
        (micros % microsPerDay % microsPerSecond : Nat), 0⟩ := by
  rw [ofInstant, h]

/-- **Each instant of the calendar is shown in universal time.** -/
theorem ofInstant_spec {micros : Nat} (h : micros < dayCount * microsPerDay) :
    (ofInstant micros).IsValid ∧ (ofInstant micros).offset = 0 ∧
      (ofInstant micros).micros = micros := by
  obtain ⟨year, month, day, hdate, hvalid, hnumber, hyear⟩ := exists_date h
  obtain ⟨hyear', hmonth, hmonth', hday, hday'⟩ := hvalid
  rw [ofInstant_eq hdate]
  refine ⟨⟨?offset, ?year, ?month, ?day, ?hour, ?minute, ?second, ?microsecond⟩, rfl, ?micros⟩
  case offset =>
    rw [UtcOffset.micros_zero]
    decide
  case day =>
    dsimp only
    rw [Int.toNat_natCast, Int.toNat_natCast]
    omega
  case micros =>
    rw [ClockReading.micros, UtcOffset.micros_zero, Int.toNat_natCast, Int.toNat_natCast,
      Int.toNat_natCast, hnumber, microsPerDay_eq, microsPerSecond]
    dsimp only
    omega
  all_goals
    dsimp only [microsPerDay_eq, microsPerSecond]
    omega

/-- Some valid reading in universal time shows the same instant. -/
def InCalendar (r : ClockReading) : Prop :=
  ∃ u : ClockReading, u.invalid? = none ∧ u.offset = 0 ∧ u.micros = r.micros

theorem inCalendar_iff {r : ClockReading} :
    r.InCalendar ↔ 0 ≤ r.micros ∧ r.micros < (dayCount * microsPerDay : Nat) := by
  constructor
  · rintro ⟨u, hvalid, hoffset, hmicros⟩
    rw [← hmicros]
    exact micros_of_universal (invalid?_eq_none_iff.1 hvalid) hoffset
  · rintro ⟨hnonneg, hlt⟩
    obtain ⟨n, hn⟩ := Int.eq_ofNat_of_zero_le hnonneg
    rw [hn] at hlt
    obtain ⟨hvalid, hoffset, hmicros⟩ := ofInstant_spec (Int.ofNat_lt.1 hlt)
    exact ⟨ofInstant n, invalid?_eq_none_iff.2 hvalid, hoffset, hmicros.trans hn.symm⟩

/-- **When there is an instant.** -/
theorem instant_of_valid {r : ClockReading} (h : r.invalid? = none) :
    r.instant = .error .outOfRange ∧ ¬r.InCalendar ∨
      ∃ n : Nat, r.instant = .ok n ∧ r.micros = n ∧ n < dayCount * microsPerDay := by
  rw [instant, h, inCalendar_iff]
  dsimp only
  split
  · next hout =>
    rw [Bool.or_eq_true, decide_eq_true_eq, decide_eq_true_eq] at hout
    exact .inl ⟨rfl, by omega⟩
  · next hin =>
    rw [Bool.or_eq_true, decide_eq_true_eq, decide_eq_true_eq] at hin
    exact .inr ⟨r.micros.toNat, rfl, by omega, by omega⟩

/-! ## Reading a timestamp -/

/-- The reading in universal time that a timestamp spells. -/
def ofTimestamp? (text : String) : Option ClockReading :=
  match timestampForm.read? text.toList with
  | some [year, month, day, hour, minute, second, milli] =>
    some ⟨year, month, day, hour, minute, second, (milli * 1000 : Nat), 0⟩
  | _ => none

/-- **A timestamp is read back as its instant, without what is below milliseconds.** -/
theorem ofTimestamp?_writeInstant {micros : Nat} (h : micros < dayCount * microsPerDay) :
    ofTimestamp? (writeInstant micros) = some (ofInstant (micros / 1000 * 1000)) := by
  obtain ⟨year, month, day, hdate, -, -, -⟩ := exists_date h
  have hday : micros / 1000 * 1000 / microsPerDay = micros / microsPerDay := by
    rw [microsPerDay_eq]
    omega
  have htime : micros / 1000 * 1000 % microsPerDay = micros % microsPerDay / 1000 * 1000 := by
    rw [microsPerDay_eq]
    omega
  have hseconds (time : Nat) : time * 1000 / microsPerSecond = time / 1000 :=
    Nat.mul_div_mul_right time 1000 (by decide)
  have hmillis (time : Nat) : time * 1000 % microsPerSecond = time % 1000 * 1000 :=
    Nat.mul_mod_mul_right 1000 time 1000
  rw [ofTimestamp?, toList_writeInstant, NumberForm.read?_write (fits_partsOf h), partsOf_eq hdate,
    ofInstant_eq (hday.symm ▸ hdate), htime, hseconds, hmillis]
  rfl

end ClockReading

/-! ## The timestamp of a context -/

/-- A text is the timestamp of an instant: it has the form of one, and is read as a valid time in
universal time, which is the instant without what is below milliseconds. -/
structure IsTimestamp (text : String) (micros : Int) : Prop where
  length : text.length = 24
  reads : ∃ u, ClockReading.ofTimestamp? text = some u ∧ u.invalid? = none ∧ u.offset = 0 ∧
    u.micros = micros - micros % 1000

namespace Calendar

theorem isTimestamp_writeInstant {micros : Nat} (h : micros < dayCount * microsPerDay) :
    IsTimestamp (writeInstant micros) micros := by
  refine ⟨?_, _, ClockReading.ofTimestamp?_writeInstant h, ?_⟩
  · rw [← String.length_toList, toList_writeInstant, NumberForm.length_write (fits_partsOf h)]
    rfl
  · obtain ⟨hvalid, hoffset, hmicros⟩ := ClockReading.ofInstant_spec
      ((Nat.div_mul_le_self micros 1000).trans_lt h)
    refine ⟨ClockReading.invalid?_eq_none_iff.2 hvalid, hoffset, ?_⟩
    rw [hmicros]
    omega

/-- **Timestamps come in the order of their milliseconds.** -/
theorem writeInstant_lt_iff {a b : Nat} (ha : a < dayCount * microsPerDay)
    (hb : b < dayCount * microsPerDay) :
    writeInstant a < writeInstant b ↔ a / 1000 < b / 1000 := by
  rw [String.lt_iff_toList_lt, toList_writeInstant, toList_writeInstant,
    NumberForm.write_lt_iff (fits_partsOf ha) (fits_partsOf hb), partsOf_lt_iff]

end Calendar

namespace Request

open Calendar

/-- The time is found in a context, as no section has its name. -/
theorem lookup_contextAt (request : Request) (instant : Nat) :
    (request.contextAt instant).lookup "current_date" = some (.text (writeInstant instant)) :=
  Fields.lookup_of_mem (nodup_names_contextAt request instant)
    (List.mem_append_right _ (List.mem_singleton_self _))

/-- A context that is made at a valid reading has the timestamp of its instant. -/
theorem context_of_valid (request : Request) {r : ClockReading} (h : r.invalid? = none) :
    request.context r = .error .outOfRange ∧ ¬r.InCalendar ∨
      ∃ n : Nat, request.context r = .ok (request.contextAt n) ∧ r.micros = n ∧
        n < dayCount * microsPerDay := by
  rcases r.instant_of_valid h with ⟨herror, hout⟩ | ⟨n, hok, hmicros, hlt⟩
  · refine .inl ⟨?_, hout⟩
    rw [context, herror]
    rfl
  · refine .inr ⟨n, ?_, hmicros, hlt⟩
    rw [context, hok]
    rfl

/-- **The timestamp of a context.**  At a valid reading there is no context exactly if no valid
reading in universal time shows the same instant, which is then out of range.  Otherwise the context
has the timestamp of the instant; at another reading of the same instant it has the same one; and at
another instant it has an earlier text exactly if that instant is in an earlier millisecond. -/
theorem context_timestamp (request other : Request) (r r' : ClockReading)
    (hvalid : r.invalid? = none) (hvalid' : r'.invalid? = none) :
    (request.context r = .error .outOfRange ↔ ¬r.InCalendar) ∧
    (r.InCalendar → ∃ context text, request.context r = .ok context ∧
      context.lookup "current_date" = some (.text text) ∧ IsTimestamp text r.micros ∧
      ∀ context' text', other.context r' = .ok context' →
        context'.lookup "current_date" = some (.text text') →
        (r'.micros = r.micros → text' = text) ∧
        (text' < text ↔ r'.micros / 1000 < r.micros / 1000)) := by
  rcases request.context_of_valid hvalid with ⟨herror, hout⟩ | ⟨n, hok, hmicros, hlt⟩
  · exact ⟨iff_of_true herror hout, fun hin => absurd hin hout⟩
  · have hin : r.InCalendar := by
      rw [ClockReading.inCalendar_iff, hmicros]
      omega
    refine ⟨iff_of_false (by simp [hok]) (not_not_intro hin), fun _ => ?_⟩
    refine ⟨_, _, hok, lookup_contextAt request n, hmicros ▸ isTimestamp_writeInstant hlt, ?_⟩
    intro context' text' hok' htext'
    rcases other.context_of_valid hvalid' with ⟨herror, -⟩ | ⟨n', hcontext, hmicros', hlt'⟩
    · rw [herror] at hok'
      cases hok'
    · obtain rfl := Except.ok.inj (hcontext.symm.trans hok')
      obtain rfl := Json.text.inj (Option.some.inj ((lookup_contextAt other n').symm.trans htext'))
      rw [hmicros, hmicros']
      refine ⟨fun heq => congrArg writeInstant (Int.ofNat.inj heq), ?_⟩
      rw [writeInstant_lt_iff hlt' hlt]
      omega

/-- Two clocks at one instant, at the end of a leap day: one is behind universal time by a second and
a half, and shows the day before, and the other is ahead by all of a day but a microsecond. -/
theorem context_timestamp_leap_day :
    let request : Request := ⟨"w", "c", none, none, none⟩
    let behind : ClockReading := ⟨2024, 2, 29, 23, 59, 59, 999999, ⟨-1500000⟩⟩
    let ahead : ClockReading := ⟨2024, 3, 2, 0, 0, 1, 499998, ⟨86399999999⟩⟩
    behind.invalid? = none ∧ ahead.invalid? = none ∧ ahead.micros = behind.micros ∧
    request.context behind = .ok [("current_date", .text "2024-03-01T00:00:01.499Z")] ∧
    (request.context behind = .error .outOfRange ↔ ¬behind.InCalendar) ∧
    (behind.InCalendar → ∃ context text, request.context behind = .ok context ∧
      context.lookup "current_date" = some (.text text) ∧ IsTimestamp text behind.micros ∧
      ∀ context' text', request.context ahead = .ok context' →
        context'.lookup "current_date" = some (.text text') →
        (ahead.micros = behind.micros → text' = text) ∧
        (text' < text ↔ ahead.micros / 1000 < behind.micros / 1000)) := by
  intro request behind ahead
  have hbehind : behind.invalid? = none := by decide
  have hahead : ahead.invalid? = none := by decide
  have hmicros : ahead.micros = behind.micros := by decide
  have htext : writeInstant 63844848001499999 = "2024-03-01T00:00:01.499Z" := by decide +kernel
  have hinstant : behind.instant = .ok 63844848001499999 := by
    simp only [behind]
    rfl
  refine ⟨hbehind, hahead, hmicros, ?_,
    context_timestamp request request behind ahead hbehind hahead⟩
  rw [context, hinstant, ← htext]
  rfl

end Request

end BranchChoice
