import QueryBind.Proofs.Calendar.Spelling
import QueryBind.Value.Literal

/-!
# Date literals

A date literal shows its date, and the date reads back as the literal. A literal
of a day that the calendar does not reach shows its number, and no text reads as
it. The calendar's years are so few that the numbers of its days, whether counted
from 1970 or from the year 1, all have room in 32 bits.
-/

namespace QueryBind

open Calendar

/-! ## Days in 32 bits -/

/-- The number is one of 32 bits. -/
def FitsInt32 (n : Int) : Prop := Int32.minValue.toInt ≤ n ∧ n ≤ Int32.maxValue.toInt

theorem fitsInt32_of_le {n : Int} (hlow : -100000000 ≤ n) (hhigh : n ≤ 100000000) :
    FitsInt32 n := by
  have hmin : Int32.minValue.toInt = -2147483648 := rfl
  have hmax : Int32.maxValue.toInt = 2147483647 := rfl
  rw [FitsInt32]
  omega

theorem toInt_ofInt_of_fitsInt32 {n : Int} (h : FitsInt32 n) :
    (Int32.ofInt n).toInt = n := by
  have hmax : Int32.maxValue.toInt = 2147483647 := rfl
  exact Int32.toInt_ofInt_of_le h.1 (by have := h.2; omega)

namespace Calendar.Date

/-- The days of the calendar are fewer than a hundred million on either side of 1970,
with room left for those from the year 1 to 1970. -/
theorem dayNumber_bounds {d : Date} (h : d.IsValid) :
    -99000000 ≤ d.dayNumber ∧ d.dayNumber ≤ 99000000 := by
  obtain ⟨⟨hfirst, hlast⟩, hexists⟩ := isValid_iff.mp h
  have hmonth := hexists.month_bounds
  have hday := hexists.1
  have hlength := hexists.2.trans (daysInMonth_le d.year d.month)
  unfold firstYear at hfirst
  unfold lastYear at hlast
  simp only [dayNumber, daysBeforeMonth, epochShift]
  split <;> omega

/-- Counted from 1970 or from the year 1, a day of the calendar has room. -/
theorem fitsInt32_days {d : Date} (h : d.IsValid) :
    FitsInt32 d.dayNumber ∧ FitsInt32 d.commonEraDay := by
  obtain ⟨hlow, hhigh⟩ := dayNumber_bounds h
  have hcount := commonEraDay_eq (isValid_iff.mp h).2
  have hepoch : epochDay = 719163 := rfl
  exact ⟨fitsInt32_of_le (by omega) (by omega), fitsInt32_of_le (by omega) (by omega)⟩

end Calendar.Date

/-! ## Reading and showing -/

namespace Literal

/-- A text reads as the literal of a day exactly if it reads as the date of that
day. -/
theorem ofDateText?_eq_some_iff {text : String} {n : Int32} :
    ofDateText? text = some (.date n) ↔
      ∃ d, Date.ofText? text = some d ∧ d.dayNumber = n.toInt := by
  rw [ofDateText?, Option.map_eq_some_iff]
  constructor
  · rintro ⟨d, hread, heq⟩
    obtain rfl : Int32.ofInt d.dayNumber = n := by simpa using heq
    have hfits := (Date.fitsInt32_days (Date.isValid_of_ofText? hread)).1
    exact ⟨d, hread, (toInt_ofInt_of_fitsInt32 hfits).symm⟩
  · rintro ⟨d, hread, hnumber⟩
    refine ⟨d, hread, ?_⟩
    rw [hnumber, Int32.ofInt_toInt]

/-- The text of a date is decided by whether the calendar reaches the day. -/
theorem text_date (n : Int32) :
    (date n).text =
      match Date.ofDayNumber? n.toInt with
      | some d => "DATE '" ++ d.text ++ "'"
      | none => "DATE(" ++ toString n.toInt ++ ")" := by
  exact rfl

theorem text_date_of_dayNumber {n : Int32} {d : Date} (h : d.IsValid)
    (hnumber : d.dayNumber = n.toInt) : (date n).text = "DATE '" ++ d.text ++ "'" := by
  have hdate : Date.ofDayNumber? n.toInt = some d :=
    Date.ofDayNumber?_eq_some_iff.mpr ⟨h, hnumber⟩
  rw [text_date, hdate]

theorem text_date_of_read {text : String} {n : Int32} {d : Date}
    (hread : Date.ofText? text = some d) (hnumber : d.dayNumber = n.toInt) :
    (date n).text = "DATE '" ++ d.text ++ "'" :=
  text_date_of_dayNumber (Date.isValid_of_ofText? hread) hnumber

/-- A day beyond the calendar is shown by its number, and nothing reads as it. -/
theorem text_date_of_none {n : Int32} (h : Date.ofDayNumber? n.toInt = none) :
    (date n).text = "DATE(" ++ toString n.toInt ++ ")" ∧
      ∀ text, ofDateText? text ≠ some (date n) := by
  constructor
  · rw [text_date, h]
  · intro text hread
    obtain ⟨d, hdate, hnumber⟩ := ofDateText?_eq_some_iff.mp hread
    have hsome : Date.ofDayNumber? n.toInt = some d :=
      Date.ofDayNumber?_eq_some_iff.mpr ⟨Date.isValid_of_ofText? hdate, hnumber⟩
    rw [h] at hsome
    cases hsome

/-- The writing of a day's date reads as the literal of the day. -/
theorem ofDateText?_text {d : Date} (h : d.IsValid) {n : Int32}
    (hnumber : d.dayNumber = n.toInt) : ofDateText? d.text = some (date n) :=
  ofDateText?_eq_some_iff.mpr ⟨d, Date.ofText?_text h, hnumber⟩

/-- What stands between the quotes tells two date literals apart. -/
theorem text_quoted_inj {s t : String}
    (h : "DATE '" ++ s ++ "'" = "DATE '" ++ t ++ "'") : s = t := by
  simpa [← String.toList_inj] using h

/-- Two texts that read as date literals read as literals of one text exactly if they
write one date. -/
theorem text_date_inj {text text' : String} {n n' : Int32}
    (h : ofDateText? text = some (date n)) (h' : ofDateText? text' = some (date n')) :
    (date n).text = (date n').text ↔ Date.ofText? text = Date.ofText? text' := by
  obtain ⟨d, hread, hnumber⟩ := ofDateText?_eq_some_iff.mp h
  obtain ⟨d', hread', hnumber'⟩ := ofDateText?_eq_some_iff.mp h'
  rw [text_date_of_read hread hnumber, text_date_of_read hread' hnumber', hread, hread']
  constructor
  · intro heq
    rw [← Date.ofText?_text (Date.isValid_of_ofText? hread),
      ← Date.ofText?_text (Date.isValid_of_ofText? hread'), text_quoted_inj heq]
  · intro heq
    cases heq
    rfl

/-- A text that writes a date reads as the literal of its day. The day is counted from the
year 1 and then from 1970, and from the year 1 again when it is shown; no count leaves
32 bits. -/
theorem exists_ofDateText? {text : String} {d : Date} (hread : Date.ofText? text = some d) :
    ∃ n : Int32, ofDateText? text = some (date n) ∧
      n.toInt = d.commonEraDay - Date.epochDay ∧
      FitsInt32 d.commonEraDay ∧ FitsInt32 (d.commonEraDay - Date.epochDay) ∧
      FitsInt32 (n.toInt + Date.epochDay) := by
  have hvalid := Date.isValid_of_ofText? hread
  obtain ⟨hnumber, hday⟩ := Date.fitsInt32_days hvalid
  have hcount := Date.commonEraDay_eq (Date.isValid_iff.mp hvalid).2
  have hsub : d.commonEraDay - Date.epochDay = d.dayNumber := by omega
  have hn : (Int32.ofInt d.dayNumber).toInt = d.dayNumber := toInt_ofInt_of_fitsInt32 hnumber
  refine ⟨Int32.ofInt d.dayNumber, ofDateText?_eq_some_iff.mpr ⟨d, hread, hn.symm⟩, ?_⟩
  rw [hsub, hn, ← hcount]
  exact ⟨rfl, hday, hnumber, hday⟩

/-- **Date literals are read back.** The literal of a day shows a date that reads as the
literal, or else its number, and then no text reads as it. A literal that was read
shows such a date, and two that were read show one text exactly if their texts write
one date. Whatever writes a date reads as a literal, and neither counting its day
from 1970 nor counting it from the year 1 again leaves 32 bits. -/
theorem date_round_trip :
    (∀ n : Int32,
      (∃ c, (date n).text = "DATE '" ++ c ++ "'" ∧ ofDateText? c = some (date n)) ∨
      ((date n).text = "DATE(" ++ toString n.toInt ++ ")" ∧
        ∀ text, ofDateText? text ≠ some (date n))) ∧
    (∀ text n, ofDateText? text = some (date n) →
      ∃ c, (date n).text = "DATE '" ++ c ++ "'" ∧ ofDateText? c = some (date n)) ∧
    (∀ text text' n n', ofDateText? text = some (date n) →
      ofDateText? text' = some (date n') →
      ((date n).text = (date n').text ↔ Date.ofText? text = Date.ofText? text')) ∧
    (∀ text d, Date.ofText? text = some d →
      ∃ n : Int32, ofDateText? text = some (date n) ∧
        n.toInt = d.commonEraDay - Date.epochDay ∧
        FitsInt32 d.commonEraDay ∧ FitsInt32 (d.commonEraDay - Date.epochDay) ∧
        FitsInt32 (n.toInt + Date.epochDay)) := by
  refine ⟨?_, ?_, ?_, ?_⟩
  · intro n
    cases hdate : Date.ofDayNumber? n.toInt with
    | none => exact .inr (text_date_of_none hdate)
    | some d =>
        obtain ⟨hvalid, hnumber⟩ := Date.ofDayNumber?_eq_some_iff.mp hdate
        exact .inl ⟨d.text, text_date_of_dayNumber hvalid hnumber,
          ofDateText?_text hvalid hnumber⟩
  · intro text n hread
    obtain ⟨d, hdate, hnumber⟩ := ofDateText?_eq_some_iff.mp hread
    exact ⟨d.text, text_date_of_read hdate hnumber,
      ofDateText?_text (Date.isValid_of_ofText? hdate) hnumber⟩
  · intro text text' n n' h h'
    exact text_date_inj h h'
  · intro text d hread
    exact exists_ofDateText? hread

/-- A leap day, written with a sign and blanks, is shown without them. -/
theorem date_round_trip_leap_day :
    ofDateText? " +2024- 2-29 " = some (date 19782) ∧
      (∃ c, (date 19782).text = "DATE '" ++ c ++ "'" ∧
        ofDateText? c = some (date 19782)) ∧
      ((date 19782).text = (date 19782).text ↔
        Date.ofText? " +2024- 2-29 " = Date.ofText? "2024-02-29") := by
  have hspaced : ofDateText? " +2024- 2-29 " = some (date 19782) := by rfl
  have hplain : ofDateText? "2024-02-29" = some (date 19782) := by rfl
  exact ⟨hspaced, date_round_trip.2.1 _ _ hspaced,
    date_round_trip.2.2.1 _ _ _ _ hspaced hplain⟩

end Literal

end QueryBind
