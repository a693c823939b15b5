import QueryBind.Proofs.Sql.Derivation
import QueryBind.Proofs.Value.Dates
import QueryBind.Proofs.Value.Numbers

/-!
# Numerals keep their value

What the scanner takes for a numeral is a number to all three readers that a
numeral may come to, with a minus before it or without. Digits alone are read as
a whole number first, with their sign, so that the least number of a width has
that width although its digits alone do not. Only what has no room in 64 bits
falls to the doubles, and with it every numeral with a point, which is no whole
number to anybody, not even if nothing follows the point.
-/

namespace QueryBind

open Sql

namespace Number

/-! ## Whole numbers -/

/-- The number that digits denote, behind a minus or not. -/
def signedValue (negative : Bool) (digits : List Char) : Int :=
  if negative then -(Nat.ofDigitChars 10 digits 0 : Int) else Nat.ofDigitChars 10 digits 0

theorem natural?_digits {ds : List Char} (hne : ds ≠ [])
    (hds : ∀ d ∈ ds, d.isDigit = true) :
    natural? ds = some (Nat.ofDigitChars 10 ds 0) := by
  rw [natural?, if_pos ⟨hne, List.all_eq_true.mpr hds⟩]
  rfl

theorem natural?_point {ds : List Char} (h : '.' ∈ ds) : natural? ds = none := by
  rw [natural?, if_neg]
  rintro ⟨-, hall⟩
  have hpoint := List.all_eq_true.mp hall '.' h
  cases hpoint

/-- A minus is taken for the sign of what begins with a digit, and nothing else is. -/
theorem splitSign_signText {c : Char} {cs : List Char} {digits : String}
    (negative : Bool) (hdigits : digits.toList = c :: cs) (hc : c.isDigit = true) :
    splitSign (signText negative ++ digits).toList = (negative, c :: cs) := by
  rw [String.toList_append, hdigits]
  cases negative with
  | true => rfl
  | false => exact splitSign_of_isDigit cs hc

theorem integer?_signText {c : Char} {cs : List Char} {digits : String}
    (negative : Bool) (hdigits : digits.toList = c :: cs) (hc : c.isDigit = true) :
    integer? (signText negative ++ digits).toList =
      (natural? (c :: cs)).map fun n => if negative then -(n : Int) else n := by
  rw [integer?, splitSign_signText negative hdigits hc]

/-! ## Doubles -/

theorem decimal?_digits {ds : List Char} (hne : ds ≠ [])
    (hds : ∀ d ∈ ds, d.isDigit = true) :
    decimal? ds = some (Nat.ofDigitChars 10 ds 0, 0) := by
  have htake : ds.takeWhile Char.isDigit = ds := by
    simpa using takeWhile_append_of_stops hds (stops_nil _)
  have hdrop : ds.dropWhile Char.isDigit = [] := by
    simpa using dropWhile_append_of_stops hds (stops_nil _)
  simp [decimal?, htake, hdrop, hne]
  rfl

/-- Digits with a point among them, or behind them. -/
theorem decimal?_pointed {ds es : List Char} (hne : ds ≠ [])
    (hds : ∀ d ∈ ds, d.isDigit = true) (hes : ∀ e ∈ es, e.isDigit = true) :
    decimal? (ds ++ '.' :: es) =
      some (Nat.ofDigitChars 10 (ds ++ es) 0, -(es.length : Int)) := by
  have hpoint : Stops Char.isDigit ('.' :: es) := stops_cons.mpr rfl
  have htake := takeWhile_append_of_stops hds hpoint
  have hdrop := dropWhile_append_of_stops hds hpoint
  have htake' : es.takeWhile Char.isDigit = es := by
    simpa using takeWhile_append_of_stops hes (stops_nil _)
  have hdrop' : es.dropWhile Char.isDigit = [] := by
    simpa using dropWhile_append_of_stops hes (stops_nil _)
  simp [decimal?, htake, hdrop, htake', hdrop', hne]
  rfl

/-- What begins with a digit is no word, so it is read as a decimal number. -/
theorem double?_signText {c : Char} {cs : List Char} {digits : String}
    (negative : Bool) (hdigits : digits.toList = c :: cs) (hc : c.isDigit = true) :
    double? (signText negative ++ digits) =
      (decimal? (c :: cs)).map fun r => .ofDecimal negative r.1 r.2 := by
  have hword : ∀ w : String, (∀ d ∈ w.toList.head?, d.isDigit = false) →
      String.ofList ((c :: cs).map Char.toLower) ≠ w := fun w => ne_word_of_isDigit cs hc
  rw [double?, splitSign_signText negative hdigits hc]
  dsimp only
  rw [if_neg, if_neg (hword "nan" (by simp))]
  rintro (h | h)
  · exact hword "inf" (by simp) h
  · exact hword "infinity" (by simp) h

end Number

/-! ## Literals -/

open Number

/-- The number is one of 64 bits. -/
def FitsInt64 (n : Int) : Prop := Int64.minValue.toInt ≤ n ∧ n ≤ Int64.maxValue.toInt

instance : DecidablePred FitsInt32 := fun n =>
  inferInstanceAs (Decidable (Int32.minValue.toInt ≤ n ∧ n ≤ Int32.maxValue.toInt))

instance : DecidablePred FitsInt64 := fun n =>
  inferInstanceAs (Decidable (Int64.minValue.toInt ≤ n ∧ n ≤ Int64.maxValue.toInt))

/-- The narrowest literal for a numeral, behind a minus or not. A whole number is
kept as it is, in 32 bits if it has room there, else in 64; where it has none, and
wherever there is a point, the literal is the nearest double. -/
inductive NarrowestOf (negative : Bool) : List Char → Literal → Prop where
  | integer {digits n} : '.' ∉ digits → FitsInt32 (signedValue negative digits) →
      n.toInt = signedValue negative digits → NarrowestOf negative digits (.integer n)
  | bigint {digits n} : '.' ∉ digits → ¬ FitsInt32 (signedValue negative digits) →
      FitsInt64 (signedValue negative digits) →
      n.toInt = signedValue negative digits → NarrowestOf negative digits (.bigint n)
  | large {digits} : '.' ∉ digits → ¬ FitsInt64 (signedValue negative digits) →
      NarrowestOf negative digits
        (.double (.ofDecimal negative (Nat.ofDigitChars 10 digits 0) 0))
  | pointed {ds es} : NarrowestOf negative (ds ++ '.' :: es)
      (.double (.ofDecimal negative (Nat.ofDigitChars 10 (ds ++ es) 0) (-es.length)))

theorem NarrowestOf.ne_nan {negative : Bool} {digits : List Char} {v : Literal}
    (h : NarrowestOf negative digits v) : v ≠ .double .nan := by
  rcases h with _ | _ | _ | _
  · simp
  · simp
  · simpa using Double.ofDecimal_ne_nan _ _ _
  · simpa using Double.ofDecimal_ne_nan _ _ _

theorem int32?_of_integer? {text : String} {n : Int} (h : integer? text.toList = some n) :
    int32? text = if FitsInt32 n then some (Int32.ofInt n) else none := by
  rw [int32?, h]
  rfl

theorem int64?_of_integer? {text : String} {n : Int} (h : integer? text.toList = some n) :
    int64? text = if FitsInt64 n then some (Int64.ofInt n) else none := by
  rw [int64?, h]
  rfl

theorem toInt_ofInt_of_fitsInt64 {n : Int} (h : FitsInt64 n) :
    (Int64.ofInt n).toInt = n := by
  have hmax : Int64.maxValue.toInt = 9223372036854775807 := rfl
  exact Int64.toInt_ofInt_of_le h.1 (by have := h.2; omega)

namespace Literal

/-- A numeral without a point comes to its number. -/
theorem ofNumeral?_digits {ds : List Char} {digits : String} (negative : Bool)
    (hdigits : digits.toList = ds) (hne : ds ≠ []) (hds : ∀ d ∈ ds, d.isDigit = true) :
    ∃ v, ofNumeral? (signText negative ++ digits) = some v ∧
      NarrowestOf negative ds v := by
  obtain ⟨c, cs, hcons⟩ := List.exists_cons_of_ne_nil hne
  have hc : c.isDigit = true := hds c (hcons ▸ List.mem_cons_self)
  have hpoint : '.' ∉ ds := by
    intro hmem
    have hdigit := hds '.' hmem
    cases hdigit
  have hread : integer? (signText negative ++ digits).toList =
      some (signedValue negative ds) := by
    rw [integer?_signText negative (hdigits.trans hcons) hc, ← hcons,
      natural?_digits hne hds]
    rfl
  rw [ofNumeral?, int32?_of_integer? hread, int64?_of_integer? hread]
  by_cases h32 : FitsInt32 (signedValue negative ds)
  · rw [if_pos h32]
    exact ⟨_, rfl, .integer hpoint h32 (toInt_ofInt_of_fitsInt32 h32)⟩
  rw [if_neg h32]
  by_cases h64 : FitsInt64 (signedValue negative ds)
  · rw [if_pos h64]
    exact ⟨_, rfl, .bigint hpoint h32 h64 (toInt_ofInt_of_fitsInt64 h64)⟩
  · rw [if_neg h64, double?_signText negative (hdigits.trans hcons) hc, ← hcons,
      decimal?_digits hne hds]
    exact ⟨_, rfl, .large hpoint h64⟩

/-- A numeral with a point is no whole number, whatever stands behind the point. -/
theorem ofNumeral?_pointed {ds es : List Char} {digits : String} (negative : Bool)
    (hdigits : digits.toList = ds ++ '.' :: es) (hne : ds ≠ [])
    (hds : ∀ d ∈ ds, d.isDigit = true) (hes : ∀ e ∈ es, e.isDigit = true) :
    ∃ v, ofNumeral? (signText negative ++ digits) = some v ∧
      NarrowestOf negative (ds ++ '.' :: es) v := by
  obtain ⟨c, cs, hcons⟩ := List.exists_cons_of_ne_nil hne
  have hc : c.isDigit = true := hds c (hcons ▸ List.mem_cons_self)
  have hlist : digits.toList = c :: (cs ++ '.' :: es) := by
    rw [hdigits, hcons, List.cons_append]
  have hread : integer? (signText negative ++ digits).toList = none := by
    rw [integer?_signText negative hlist hc, ← hlist, hdigits, natural?_point (by simp)]
    rfl
  have h32 : int32? (signText negative ++ digits) = none := by rw [int32?, hread]; rfl
  have h64 : int64? (signText negative ++ digits) = none := by rw [int64?, hread]; rfl
  rw [ofNumeral?, h32, h64, double?_signText negative hlist hc, ← hlist, hdigits,
    decimal?_pointed hne hds hes]
  exact ⟨_, rfl, .pointed⟩

/-- Whatever is formed as a numeral has a literal. -/
theorem ofNumeral?_isNumeral {digits : String} (negative : Bool)
    (h : IsNumeral digits.toList) :
    ∃ v, ofNumeral? (signText negative ++ digits) = some v ∧
      NarrowestOf negative digits.toList v := by
  generalize hdigits : digits.toList = cs at h
  rcases h with ⟨hc, hds⟩ | ⟨hc, hds, hes⟩
  · exact ofNumeral?_digits negative hdigits (by simp)
      (List.forall_mem_cons.mpr ⟨hc, hds⟩)
  · exact ofNumeral?_pointed negative hdigits (by simp)
      (List.forall_mem_cons.mpr ⟨hc, hds⟩) hes

end Literal

/-! ## Operands -/

namespace Sql

/-- The numerals of a text that scans are formed as numerals. -/
theorem isNumeral_of_tokenize {text digits : String} {tokens : List Token} {t : Token}
    (h : tokenize text = .ok tokens) (ht : t ∈ tokens) (hkind : t.kind = .numeral digits) :
    IsNumeral digits.toList := by
  obtain ⟨ls, body, q, hdivides, halike, rfl⟩ := divides_of_scan h
  rcases List.mem_append.mp ht with ht | ht
  · -- The token of the text is the same, up to its place, as that of a lexeme.
    have hmem : t.content ∈ (tokensOf ls).map Token.content :=
      halike ▸ List.mem_map_of_mem ht
    obtain ⟨u, hu, hsame⟩ := List.mem_map.mp hmem
    have hkind' : u.kind = .numeral digits := (congrArg Prod.fst hsame).trans hkind
    exact hdivides.numeralsFormed u hu digits hkind'
  · rw [List.mem_singleton.mp ht] at hkind
    cases hkind

/-- A minus or nothing. -/
inductive SignOf : List Token → Bool → Prop where
  | none : SignOf [] false
  | minus {t} : t.kind = .mark .minus → SignOf [t] true

/-- **Numerals keep their value.** Take any numeral of any text, with a minus before
it or without. Whatever follows it, it is read as an operand by itself, and the
operand is the narrowest literal that holds what the numeral denotes with its sign:
the number itself if it is whole and has room in 64 bits, else a double, which is
the nearest and never the one that is no number. -/
theorem readOperand_keeps_value {text digits : String} {tokens sign : List Token}
    {t : Token} {negative : Bool} (htext : tokenize text = .ok tokens) (ht : t ∈ tokens)
    (hkind : t.kind = .numeral digits) (hsign : SignOf sign negative)
    (stop : Token) (rest : List Token) :
    ∃ v, Takes (readOperand stop) (sign ++ t :: rest) (.literal v) rest ∧
      NarrowestOf negative digits.toList v ∧ v ≠ .double .nan := by
  have hnumeral := isNumeral_of_tokenize htext ht hkind
  obtain ⟨v, hv, hnarrowest⟩ := Literal.ofNumeral?_isNumeral negative hnumeral
  refine ⟨v, ?_, hnarrowest, hnarrowest.ne_nan⟩
  rcases hsign with _ | hminus
  · have hread : numeralLiteral digits = .ok v := by
      apply numeralLiteral_eq_ok_iff.mpr
      rw [← hv]
      simp [signText]
    exact ⟨Nat.lt_succ_self _, by simp [readOperand, hkind, hread]⟩
  · have hread : numeralLiteral ("-" ++ digits) = .ok v :=
      numeralLiteral_eq_ok_iff.mpr hv
    obtain ⟨_, hdigits⟩ := takes_numeral stop rest hkind
    exact ⟨by simp, by simp [readOperand, hminus, hdigits, hread]⟩

/-- The least number of 64 bits, with a zero in front. Without its sign it would be
too large. -/
theorem readOperand_keeps_value_least :
    let minus : Token := ⟨.mark .minus, "-", ⟨1, 1⟩⟩
    let t : Token := ⟨.numeral "09223372036854775808", "09223372036854775808", ⟨1, 2⟩⟩
    let stop : Token := ⟨.finish, "", ⟨1, 22⟩⟩
    tokenize "-09223372036854775808" = .ok [minus, t, stop] ∧
      Takes (readOperand stop) [minus, t] (.literal (.bigint Int64.minValue)) [] ∧
      NarrowestOf true "09223372036854775808".toList (.bigint Int64.minValue) := by
  intro minus t stop
  have htext : tokenize "-09223372036854775808" = .ok [minus, t, stop] := by cbv
  obtain ⟨v, ⟨hlt, hv⟩, hnarrowest, -⟩ := readOperand_keeps_value htext
    (by simp : t ∈ [minus, t, stop]) rfl (.minus (t := minus) rfl) stop []
  have hread : readOperand stop [minus, t] =
      .ok ⟨.literal (.bigint Int64.minValue), [], by decide⟩ := by cbv
  obtain rfl : v = .bigint Int64.minValue := by
    have hsame := hv.symm.trans hread
    cases hsame
    rfl
  exact ⟨htext, ⟨hlt, hv⟩, hnarrowest⟩

end Sql

end QueryBind
