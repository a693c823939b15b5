import QueryBind.Calendar.Written
import QueryBind.Proofs.Calendar.Days
import QueryBind.Proofs.Sql.Writing

/-!
# Dates read back

A date that is written reads as itself. A number of a written date ends where it
should: the year before the separator, and the month and the day after their two
digits. A year of more than four digits is read whole because it is written with
a sign, and nothing in a written date is blank.
-/

namespace QueryBind.Calendar

open QueryBind.Text QueryBind.Number
open QueryBind.Sql (Stops takeWhile_append_of_stops isDigit_of_isBlankChar)

/-! ## Numbers -/

/-- Digits up to what is no digit are read as their number. -/
theorem digits?_append {most : Nat} {ds rest : List Char}
    (hds : ∀ d ∈ ds, d.isDigit = true) (hne : ds ≠ []) (hlength : ds.length ≤ most)
    (hrest : Stops Char.isDigit rest) :
    digits? most (ds ++ rest) = some (digitsValue ds, rest) := by
  have hstops : Stops Char.isDigit (rest.take (most - ds.length)) := by
    cases rest with
    | nil => simp
    | cons c rest =>
        cases most - ds.length with
        | zero => simp
        | succ n => simpa using hrest
  have htaken : ((ds ++ rest).take most).takeWhile Char.isDigit = ds := by
    rw [List.take_append, List.take_of_length_le hlength]
    exact takeWhile_append_of_stops hds hstops
  simp [digits?, htaken, hne]

theorem isDigit_of_mem_padded {width n : Nat} {c : Char} (h : c ∈ padded width n) :
    c.isDigit = true := by
  rcases List.mem_append.mp h with h | h
  · rw [List.eq_of_mem_replicate h]
    decide
  · exact Nat.isDigit_of_mem_toDigits (by decide) (by decide) h

theorem padded_ne_nil (width n : Nat) : padded width n ≠ [] := by
  simp [padded, Nat.toDigits_ne_nil]

theorem exists_padded (width n : Nat) :
    ∃ c cs, padded width n = c :: cs ∧ c.isDigit = true := by
  obtain ⟨c, cs, heq⟩ := List.exists_cons_of_ne_nil (padded_ne_nil width n)
  have hc : c ∈ padded width n := heq ▸ List.mem_cons_self
  exact ⟨c, cs, heq, isDigit_of_mem_padded hc⟩

/-- Zeros in front of a number do not count. -/
theorem digitsValue_padded (width n : Nat) : digitsValue (padded width n) = n := by
  show Nat.ofDigitChars 10 (List.replicate _ '0' ++ Nat.toDigits 10 n) 0 = n
  rw [Nat.ofDigitChars_append, Nat.ofDigitChars_replicate_zero, Nat.mul_zero,
    Nat.ofDigitChars_toDigits (by decide) (by decide)]

/-- A number that is not too large has the digits that it is given. -/
theorem length_padded {width n : Nat} (hwidth : 0 < width) (hn : n < 10 ^ width) :
    (padded width n).length = width := by
  have hdigits : (Nat.toDigits 10 n).length ≤ width :=
    (Nat.length_toDigits_le_iff (by decide) hwidth).mpr hn
  rw [padded, List.length_append, List.length_replicate]
  omega

theorem digits?_padded {most width n : Nat} {rest : List Char}
    (hlength : (padded width n).length ≤ most) (hrest : Stops Char.isDigit rest) :
    digits? most (padded width n ++ rest) = some (n, rest) := by
  rw [digits?_append (fun _ => isDigit_of_mem_padded) (padded_ne_nil width n) hlength hrest,
    digitsValue_padded]

/-! ## Parts of a date -/

/-- Characters of written dates: digits and signs. -/
def IsDateChar (c : Char) : Prop := c.isDigit = true ∨ c = '-' ∨ c = '+'

theorem IsDateChar.not_blank {c : Char} (h : IsDateChar c) : isBlankChar c = false := by
  rw [← Bool.not_eq_true]
  intro hblank
  rcases h with hdigit | rfl | rfl
  · rw [isDigit_of_isBlankChar hblank] at hdigit
    cases hdigit
  · exact absurd hblank (by decide)
  · exact absurd hblank (by decide)

theorem skipBlank_cons {c : Char} (h : IsDateChar c) (cs : List Char) :
    skipBlank (c :: cs) = c :: cs := by
  simp [skipBlank, h.not_blank]

theorem skipBlank_of_forall {cs : List Char} (h : ∀ c ∈ cs, IsDateChar c) :
    skipBlank cs = cs := by
  cases cs with
  | nil => rfl
  | cons c cs => exact skipBlank_cons (h c List.mem_cons_self) cs

theorem trimChars_of_forall {cs : List Char} (h : ∀ c ∈ cs, IsDateChar c) :
    trimChars cs = cs := by
  have hreverse : ∀ c ∈ cs.reverse, IsDateChar c := by simpa using h
  rw [trimChars, skipBlank_of_forall h, skipBlank_of_forall hreverse, List.reverse_reverse]

theorem isDateChar_of_mem_yearChars {year : Int} {c : Char} (h : c ∈ yearChars year) :
    IsDateChar c := by
  unfold yearChars at h
  split at h
  · rcases List.mem_cons.mp h with rfl | h
    · exact .inr (.inl rfl)
    · exact .inl (isDigit_of_mem_padded h)
  split at h
  · rcases List.mem_cons.mp h with rfl | h
    · exact .inr (.inr rfl)
    · exact .inl (isDigit_of_mem_padded h)
  · exact .inl (isDigit_of_mem_padded h)

theorem isDateChar_of_mem_chars {d : Date} {c : Char} (h : c ∈ d.chars) :
    IsDateChar c := by
  simp only [Date.chars, List.mem_append, List.mem_cons] at h
  rcases h with (h | rfl | h) | rfl | h
  · exact isDateChar_of_mem_yearChars h
  · exact .inr (.inl rfl)
  · exact .inl (isDigit_of_mem_padded h)
  · exact .inr (.inl rfl)
  · exact .inl (isDigit_of_mem_padded h)

/-- A year is read up to the separator. -/
theorem year?_yearChars (year : Int) {rest : List Char} (hrest : Stops Char.isDigit rest) :
    year? (yearChars year ++ rest) = some (year, rest) := by
  have hsigned : digits? (padded 4 year.natAbs ++ rest).length (padded 4 year.natAbs ++ rest) =
      some (year.natAbs, rest) :=
    digits?_padded (by simp) hrest
  unfold yearChars
  split
  · rw [List.cons_append]
    simp only [year?, hsigned, Option.map_some]
    congr 2
    omega
  split
  · rw [List.cons_append]
    simp only [year?, hsigned, Option.map_some]
    congr 2
    omega
  · have hlength : (padded 4 year.natAbs).length = 4 :=
      length_padded (by decide) (by omega)
    have hplain : digits? 4 (padded 4 year.natAbs ++ rest) = some (year.natAbs, rest) :=
      digits?_padded (by omega) hrest
    obtain ⟨c, cs, heq, hc⟩ := exists_padded 4 year.natAbs
    rw [heq, List.cons_append] at hplain ⊢
    -- The year begins with a digit, so it is read without a sign.
    unfold year?
    split
    · next hsign =>
        cases hsign
        exact absurd hc (by decide)
    · next hsign =>
        cases hsign
        exact absurd hc (by decide)
    · simp only [hplain, Option.map_some]
      congr 2
      omega

/-- A month or a day is read behind the separator. -/
theorem nextPart?_padded {n : Nat} (hn : n < 100) {rest : List Char}
    (hrest : Stops Char.isDigit rest) :
    nextPart? ('-' :: (padded 2 n ++ rest)) = some (n, rest) := by
  have hlength : (padded 2 n).length = 2 := length_padded (by decide) hn
  obtain ⟨c, cs, heq, hc⟩ := exists_padded 2 n
  have hskip : skipBlank (padded 2 n ++ rest) = padded 2 n ++ rest := by
    rw [heq, List.cons_append]
    exact skipBlank_cons (.inl hc) _
  simp only [nextPart?, hskip]
  exact digits?_padded hlength.le hrest

/-! ## Dates -/

namespace Date

/-- A date of the calendar reads as itself. -/
theorem ofText?_text {d : Date} (h : d.IsValid) : ofText? d.text = some d := by
  have hexists := (isValid_iff.mp h).2
  have hmonth := hexists.month_bounds.2
  have hday := hexists.2.trans (daysInMonth_le d.year d.month)
  have hchars : ofText? d.text = ofChars? d.chars := by
    rw [ofText?, text, String.toList_ofList,
      trimChars_of_forall fun _ => isDateChar_of_mem_chars]
  have hskip : skipBlank d.chars = d.chars :=
    skipBlank_of_forall fun _ => isDateChar_of_mem_chars
  have hwritten : d.chars = yearChars d.year ++ '-' :: (padded 2 d.month ++
      '-' :: (padded 2 d.day ++ [])) := by
    simp [chars]
  have hyear : year? (yearChars d.year ++ '-' :: (padded 2 d.month ++
      '-' :: (padded 2 d.day ++ []))) =
        some (d.year, '-' :: (padded 2 d.month ++ '-' :: (padded 2 d.day ++ []))) :=
    year?_yearChars d.year (by simp)
  have hmonthPart : nextPart? ('-' :: (padded 2 d.month ++ '-' :: (padded 2 d.day ++ []))) =
      some (d.month, '-' :: (padded 2 d.day ++ [])) :=
    nextPart?_padded (by omega) (by simp)
  have hdayPart : nextPart? ('-' :: (padded 2 d.day ++ [])) = some (d.day, []) :=
    nextPart?_padded (by omega) (by simp)
  rw [hchars, ofChars?, hskip, hwritten, hyear]
  simp only [Option.bind_eq_bind, Option.bind_some, hmonthPart, hdayPart]
  exact if_pos ⟨trivial, h⟩

/-- What a text reads as is a date of the calendar. -/
theorem isValid_of_ofText? {text : String} {d : Date} (h : ofText? text = some d) :
    d.IsValid := by
  unfold ofText? ofChars? at h
  obtain ⟨_, -, h⟩ := Option.bind_eq_some_iff.mp h
  obtain ⟨_, -, h⟩ := Option.bind_eq_some_iff.mp h
  obtain ⟨_, -, h⟩ := Option.bind_eq_some_iff.mp h
  dsimp only at h
  split at h
  · next hvalid =>
      cases h
      exact hvalid.2
  · cases h

end Date

end QueryBind.Calendar
