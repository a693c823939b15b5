import QueryBind.Proofs.Sql.Breaks

/-!
# The longest lexeme

Which lexeme a text begins with can be told without reading the text character by
character: it is the longest of the pieces of its kind that the text begins with,
compared with all of them. What is quoted ends at the first quote that does not
begin a pair. The lexeme that the scanner takes off the front is the one described
so, and if there is none the scanner takes nothing.
-/

namespace QueryBind.Sql

open QueryBind.Text

/-! ## The longest piece of a kind -/

/-- A text begins with a piece of a kind and with no longer one. -/
structure Longest (p : List Char → Prop) (text piece : List Char) : Prop where
  kind : p piece
  isPrefix : piece <+: text
  greatest : ∀ other, p other → other <+: text → other.length ≤ piece.length

/-- A prefix that is longer than a piece takes in the character behind it. -/
theorem append_prefix_of_length_lt {piece other rest : List Char}
    (h : other <+: piece ++ rest) (hlt : piece.length < other.length) :
    ∃ d ∈ rest.head?, piece ++ [d] <+: other := by
  obtain ⟨more, rfl⟩ : piece <+: other :=
    List.prefix_of_prefix_length_le (List.prefix_append piece rest) h hlt.le
  rcases more with _ | ⟨d, more⟩
  · simp at hlt
  · obtain ⟨tail, rfl⟩ := (List.prefix_append_right_inj piece).mp h
    exact ⟨d, rfl, more, by simp⟩

namespace Longest

variable {p : List Char → Prop} {text piece piece' rest : List Char}

theorem of_forall (hpiece : p piece)
    (h : ∀ d ∈ rest.head?, ∀ other, p other → ¬ piece ++ [d] <+: other) :
    Longest p (piece ++ rest) piece where
  kind := hpiece
  isPrefix := List.prefix_append piece rest
  greatest := by
    intro other hother hprefix
    by_contra hlonger
    obtain ⟨d, hd, htaken⟩ := append_prefix_of_length_lt hprefix (not_le.mp hlonger)
    exact h d hd other hother htaken

/-- A text that is itself of a kind begins with no longer piece. -/
theorem self (h : p piece) : Longest p piece piece where
  kind := h
  isPrefix := List.prefix_rfl
  greatest := fun _ _ hprefix => hprefix.length_le

theorem unique (h : Longest p text piece) (h' : Longest p text piece') :
    piece = piece' := by
  have hle := h'.greatest piece h.kind h.isPrefix
  have hge := h.greatest piece' h'.kind h'.isPrefix
  apply (List.prefix_of_prefix_length_le h.isPrefix h'.isPrefix hle).eq_of_length
  exact le_antisymm hle hge

/-- What a longest piece of a text takes in with the next character is no piece
of its kind. -/
theorem not_append (h : Longest p (piece ++ rest) piece) {d : Char}
    (hd : d ∈ rest.head?) : ¬ p (piece ++ [d]) := by
  intro hlonger
  obtain ⟨tail, rfl⟩ := List.head?_eq_some_iff.mp hd
  have hprefix : piece ++ [d] <+: piece ++ d :: tail := by simp
  have := h.greatest _ hlonger hprefix
  simp at this

end Longest

/-! ## Words and numerals -/

theorem IsWord.forall_isWordChar {letters : List Char} (h : IsWord letters) :
    ∀ d ∈ letters, isWordChar d = true := by
  rcases h with ⟨hstart, hcs⟩
  exact List.forall_mem_cons.mpr ⟨isWordChar_of_isWordStart hstart, hcs⟩

theorem IsWord.append {letters : List Char} {d : Char} (h : IsWord letters)
    (hd : isWordChar d = true) : IsWord (letters ++ [d]) := by
  rcases h with ⟨hstart, hcs⟩
  refine .of hstart ?_
  intro e he
  rcases List.mem_append.mp he with he | he
  · exact hcs e he
  · rw [List.mem_singleton.mp he]
    exact hd

/-- A longest word ends before a character that is none of a word. -/
theorem longest_isWord_iff {letters rest : List Char} :
    Longest IsWord (letters ++ rest) letters ↔
      IsWord letters ∧ Stops isWordChar rest := by
  constructor
  · intro h
    refine ⟨h.kind, fun d hd => ?_⟩
    rw [Bool.eq_false_iff]
    intro hword
    exact h.not_append hd (h.kind.append hword)
  · rintro ⟨hword, hrest⟩
    refine .of_forall hword fun d hd other hother htaken => ?_
    have hmem : d ∈ other := htaken.subset (by simp)
    have hstop := hrest d hd
    rw [hother.forall_isWordChar d hmem] at hstop
    cases hstop

theorem IsNumeral.digit_or_point {digits : List Char} (h : IsNumeral digits) :
    ∀ d ∈ digits, d.isDigit = true ∨ d = '.' := by
  rcases h with ⟨hc, hds⟩ | ⟨hc, hds, hes⟩
  · exact List.forall_mem_cons.mpr ⟨.inl hc, fun d hd => .inl (hds d hd)⟩
  · refine List.forall_mem_cons.mpr ⟨.inl hc, fun d hd => ?_⟩
    rcases List.mem_append.mp hd with hd | hd
    · exact .inl (hds d hd)
    rcases List.mem_cons.mp hd with hd | hd
    · exact .inr hd
    · exact .inl (hes d hd)

theorem count_point_of_digits {ds : List Char} (h : ∀ d ∈ ds, d.isDigit = true) :
    ds.count '.' = 0 := by
  rw [List.count_eq_zero]
  intro hmem
  have hpoint := h '.' hmem
  cases hpoint

theorem IsNumeral.count_point_le {digits : List Char} (h : IsNumeral digits) :
    digits.count '.' ≤ 1 := by
  rcases h with ⟨hc, hds⟩ | ⟨hc, hds, hes⟩
  · have hall := count_point_of_digits (List.forall_mem_cons.mpr ⟨hc, hds⟩)
    omega
  · have hwhole := count_point_of_digits (List.forall_mem_cons.mpr ⟨hc, hds⟩)
    have hfraction := count_point_of_digits hes
    rw [← List.cons_append, List.count_append, List.count_cons_self]
    omega

theorem stops_dropWhile (p : Char → Bool) (cs : List Char) :
    Stops p (cs.dropWhile p) := by
  induction cs with
  | nil => exact stops_nil p
  | cons c cs ih =>
      rw [List.dropWhile_cons]
      by_cases hc : p c = true
      · rw [if_pos hc]
        exact ih
      · rw [if_neg hc, stops_cons]
        simpa using hc

/-- Behind the digits split off there is no digit more, and no point unless one
was taken. -/
theorem splitNumeral_stops (cs : List Char) :
    ∀ d ∈ (splitNumeral cs).2.head?,
      d.isDigit = false ∧ (d = '.' → '.' ∈ (splitNumeral cs).1) := by
  intro d
  unfold splitNumeral
  split
  · next rest _ =>
      intro hd
      exact ⟨stops_dropWhile Char.isDigit rest d hd, fun _ => by simp⟩
  · next hpoint =>
      intro hd
      refine ⟨stops_dropWhile Char.isDigit cs d hd, ?_⟩
      rintro rfl
      obtain ⟨tail, htail⟩ := List.head?_eq_some_iff.mp hd
      exact absurd htail (hpoint tail)

/-- The digits split off are the longest numeral. -/
theorem longest_splitNumeral {c : Char} (cs : List Char) (hc : c.isDigit = true) :
    Longest IsNumeral (c :: cs) (c :: (splitNumeral cs).1) := by
  have htext : c :: (splitNumeral cs).1 ++ (splitNumeral cs).2 = c :: cs := by
    rw [List.cons_append, Lexeme.splitNumeral_append]
  rw [← htext]
  refine .of_forall (isNumeral_splitNumeral cs hc) fun d hd other hother htaken => ?_
  obtain ⟨hdigit, hpoint⟩ := splitNumeral_stops cs d hd
  have hmem : d ∈ other := htaken.subset (by simp)
  rcases hother.digit_or_point d hmem with hd | rfl
  · rw [hdigit] at hd
    cases hd
  · -- A second point would have been taken.
    have hcount := htaken.sublist.count_le '.'
    have honce := hother.count_point_le
    have hfirst := List.count_pos_iff.mpr (List.mem_cons_of_mem c (hpoint rfl))
    rw [List.count_append, List.count_singleton_self] at hcount
    omega

/-! ## Marks -/

/-- All spellings, each with its mark. -/
def spellings : List (List Char × Mark) :=
  [(['!', '='], .notEquals), (['<', '>'], .notEquals), (['<', '='], .lessThanOrEqual),
   (['>', '='], .greaterThanOrEqual), (['<'], .lessThan), (['>'], .greaterThan),
   (['('], .leftParen), ([')'], .rightParen), ([','], .comma), (['.'], .dot),
   ([';'], .semicolon), (['*'], .star), (['-'], .minus), (['='], .equals)]

/-- A piece that spells some mark. -/
def IsSpelling (piece : List Char) : Prop := piece ∈ spellings.map (·.1)

instance : DecidablePred IsSpelling := fun piece =>
  inferInstanceAs (Decidable (piece ∈ spellings.map (·.1)))

theorem IsSpelling.length_le {piece : List Char} (h : IsSpelling piece) :
    piece.length ≤ 2 := by
  have hall : ∀ piece ∈ spellings.map (·.1), piece.length ≤ 2 := by decide
  exact hall piece h

theorem isSpelling_pair_iff {c d : Char} :
    IsSpelling [c, d] ↔ c = '!' ∧ d = '=' ∨ c = '<' ∧ d = '>' ∨ c = '<' ∧ d = '=' ∨
      c = '>' ∧ d = '=' := by
  simp [IsSpelling, spellings]

/-! ## The lexeme at the front -/

/-- What stands between quotes, and its content: a quote is written twice, every
other character as it is. -/
inductive Between (quote : Char) : List Char → List Char → Prop where
  | nil : Between quote [] []
  | pair {inner content} : Between quote inner content →
      Between quote (quote :: quote :: inner) (quote :: content)
  | other {c inner content} : c ≠ quote → Between quote inner content →
      Between quote (c :: inner) (c :: content)

theorem between_iff {quote : Char} {inner content : List Char} :
    Between quote inner content ↔ inner = doubleQuotes quote content := by
  constructor
  · intro h
    induction h with
    | nil => rfl
    | pair _ ih => rw [ih, doubleQuotes_cons_self]
    | other hc _ ih => rw [ih, doubleQuotes_cons_of_ne _ hc]
  · rintro rfl
    induction content with
    | nil => exact .nil
    | cons c content ih =>
        by_cases hc : c = quote
        · rw [hc, doubleQuotes_cons_self]
          exact ih.pair
        · rw [doubleQuotes_cons_of_ne content hc]
          exact ih.other hc

/-- The lexeme that a text begins with, and what follows it: the longest word,
numeral or mark, or what stands between two quotes of one kind, the second of
which is not followed by a third that would make a pair with it. -/
inductive Foremost (text : List Char) : Lexeme → List Char → Prop where
  | word {letters rest} : text = letters ++ rest → Longest IsWord text letters →
      Foremost text (.word letters) rest
  | numeral {digits rest} : text = digits ++ rest → Longest IsNumeral text digits →
      Foremost text (.numeral digits) rest
  | string {inner content rest} : text = '\x27' :: (inner ++ '\x27' :: rest) →
      Between '\x27' inner content → Stops (· == '\x27') rest →
      Foremost text (.string content) rest
  | name {inner content rest} : text = '"' :: (inner ++ '"' :: rest) →
      Between '"' inner content → Stops (· == '"') rest →
      Foremost text (.name content) rest
  | mark {spelling m rest} : text = spelling ++ rest → (spelling, m) ∈ spellings →
      Longest IsSpelling text spelling → Foremost text (.mark m spelling) rest

/-! ### What the scanner takes -/

theorem stops_of_quotedBody {quote : Char} {cs content rest : List Char}
    (h : quotedBody quote cs = some (content, rest)) : Stops (· == quote) rest := by
  fun_induction quotedBody quote cs generalizing content rest with
  | case1 => cases h
  | case2 =>
      cases h
      exact stops_nil _
  | case3 => cases h
  | case4 tail ih =>
      obtain ⟨⟨content', rest'⟩, hbody, hsame⟩ := Option.map_eq_some_iff.mp h
      cases hsame
      exact ih hbody
  | case5 c d hd =>
      cases h
      exact stops_cons.mpr (beq_eq_false_iff_ne.mpr hd)
  | case6 c d tail hc ih =>
      obtain ⟨⟨content', rest'⟩, hbody, hsame⟩ := Option.map_eq_some_iff.mp h
      cases hsame
      exact ih hbody

theorem quotedBody_eq_some_iff {quote : Char} {cs content rest : List Char} :
    quotedBody quote cs = some (content, rest) ↔ ∃ inner,
      cs = inner ++ quote :: rest ∧ Between quote inner content ∧
      Stops (· == quote) rest := by
  simp only [between_iff]
  constructor
  · intro h
    refine ⟨_, ?_, rfl, stops_of_quotedBody h⟩
    rw [eq_writeBody_of_quotedBody h, writeBody, List.append_assoc,
      List.singleton_append]
  · rintro ⟨_, rfl, rfl, hstops⟩
    have hhead : rest.head? ≠ some quote := by
      intro hquote
      have := hstops quote hquote
      simp at this
    rw [← quotedBody_writeBody content hhead, writeBody, List.append_assoc,
      List.singleton_append]

/-- A spelling of two characters is as long as can be. -/
theorem foremost_pair {c d : Char} {m : Mark} {rest : List Char}
    (h : ([c, d], m) ∈ spellings) : Foremost (c :: d :: rest) (.mark m [c, d]) rest := by
  refine .mark rfl h ?_
  show Longest IsSpelling ([c, d] ++ rest) [c, d]
  refine .of_forall (List.mem_map_of_mem h) fun e _ other hother htaken => ?_
  have hlonger : 3 ≤ other.length := htaken.length_le
  have hshort := hother.length_le
  omega

/-- A spelling of one character is, where the next makes no spelling with it. -/
theorem foremost_single {c : Char} {m : Mark} {rest : List Char}
    (h : ([c], m) ∈ spellings) (hrest : ∀ d tail, rest = d :: tail → ¬ IsSpelling [c, d]) :
    Foremost (c :: rest) (.mark m [c]) rest := by
  refine .mark rfl h ?_
  show Longest IsSpelling ([c] ++ rest) [c]
  refine .of_forall (List.mem_map_of_mem h) fun d hd other hother htaken => ?_
  have hother' : [c, d] = other := htaken.eq_of_length_le hother.length_le
  obtain ⟨tail, htail⟩ := List.head?_eq_some_iff.mp hd
  apply hrest d tail htail
  rw [hother']
  exact hother

theorem foremost_of_singleMark? {c : Char} {m : Mark} (cs : List Char)
    (h : singleMark? c = some m) : Foremost (c :: cs) (.mark m [c]) cs := by
  have hspelled : ([c], m) ∈ spellings := by
    unfold singleMark? at h
    split at h <;> cases h <;> decide
  apply foremost_single hspelled
  intro d tail _ hpair
  rcases isSpelling_pair_iff.mp hpair with ⟨rfl, -⟩ | ⟨rfl, -⟩ | ⟨rfl, -⟩ | ⟨rfl, -⟩ <;>
    cases h

theorem foremost_lessThan {rest : List Char} (hequals : ∀ tail, rest ≠ '=' :: tail)
    (hgreater : ∀ tail, rest ≠ '>' :: tail) :
    Foremost ('<' :: rest) (.mark .lessThan ['<']) rest := by
  apply foremost_single (by decide)
  intro d tail htail hpair
  rcases isSpelling_pair_iff.mp hpair with ⟨⟨⟩, -⟩ | ⟨-, rfl⟩ | ⟨-, rfl⟩ | ⟨⟨⟩, -⟩
  · exact hgreater tail htail
  · exact hequals tail htail

theorem foremost_greaterThan {rest : List Char} (hequals : ∀ tail, rest ≠ '=' :: tail) :
    Foremost ('>' :: rest) (.mark .greaterThan ['>']) rest := by
  apply foremost_single (by decide)
  intro d tail htail hpair
  rcases isSpelling_pair_iff.mp hpair with ⟨⟨⟩, -⟩ | ⟨⟨⟩, -⟩ | ⟨⟨⟩, -⟩ | ⟨-, rfl⟩
  exact hequals tail htail

theorem foremost_of_first {c : Char} {cs rest : List Char} {l : Lexeme}
    (h : Lexeme.first c cs = .ok (l, rest)) : Foremost (c :: cs) l rest := by
  unfold Lexeme.first at h
  split at h
  · next m hm =>
      cases h
      exact foremost_of_singleMark? cs hm
  split at h
  · next hc =>
      subst hc
      split at h
      · next hbody =>
          cases h
          obtain ⟨inner, rfl, hbetween, hstops⟩ := quotedBody_eq_some_iff.mp hbody
          exact .string rfl hbetween hstops
      · cases h
  split at h
  · next hc =>
      subst hc
      split at h
      · next hbody =>
          cases h
          obtain ⟨inner, rfl, hbetween, hstops⟩ := quotedBody_eq_some_iff.mp hbody
          exact .name rfl hbetween hstops
      · cases h
  split at h
  · next hdigit =>
      cases h
      refine .numeral ?_ (longest_splitNumeral cs hdigit)
      rw [List.cons_append, Lexeme.splitNumeral_append]
  split at h
  · next hc =>
      subst hc
      split at h
      · cases h
        exact foremost_pair (by decide)
      · cases h
  split at h
  · next hc =>
      subst hc
      split at h
      · cases h
        exact foremost_pair (by decide)
      · cases h
        exact foremost_pair (by decide)
      · next hequals hgreater =>
          cases h
          exact foremost_lessThan hequals hgreater
  split at h
  · next hc =>
      subst hc
      split at h
      · cases h
        exact foremost_pair (by decide)
      · next hequals =>
          cases h
          exact foremost_greaterThan hequals
  split at h
  · next hstart =>
      cases h
      have htext : c :: cs.takeWhile isWordChar ++ cs.dropWhile isWordChar = c :: cs := by
        rw [List.cons_append, List.takeWhile_append_dropWhile]
      refine .word htext.symm ?_
      rw [← htext]
      exact longest_isWord_iff.mpr
        ⟨.of hstart fun _ => List.mem_takeWhile_imp, stops_dropWhile isWordChar cs⟩
  · cases h

/-! ### What is foremost the scanner takes -/

theorem Lexeme.first_lessThan {rest : List Char}
    (h : ∀ d ∈ rest.head?, ¬ IsSpelling ['<', d]) :
    first '<' rest = .ok (mark .lessThan ['<'], rest) := by
  rcases rest with _ | ⟨d, tail⟩
  · rfl
  · have hd := h d rfl
    rw [isSpelling_pair_iff] at hd
    have hequals : d ≠ '=' := by
      rintro rfl
      simp at hd
    have hgreater : d ≠ '>' := by
      rintro rfl
      simp at hd
    simp [first, singleMark?, hequals, hgreater]

theorem Lexeme.first_greaterThan {rest : List Char}
    (h : ∀ d ∈ rest.head?, ¬ IsSpelling ['>', d]) :
    first '>' rest = .ok (mark .greaterThan ['>'], rest) := by
  rcases rest with _ | ⟨d, tail⟩
  · rfl
  · have hd := h d rfl
    rw [isSpelling_pair_iff] at hd
    have hequals : d ≠ '=' := by
      rintro rfl
      simp at hd
    simp [first, singleMark?, hequals]

theorem Lexeme.first_of_spelling {spelling rest : List Char} {m : Mark}
    (h : (spelling, m) ∈ spellings)
    (hlongest : Longest IsSpelling (spelling ++ rest) spelling) :
    ∃ c cs, spelling ++ rest = c :: cs ∧ first c cs = .ok (mark m spelling, rest) := by
  have hrest := fun d hd => hlongest.not_append (d := d) hd
  simp only [spellings, List.mem_cons, List.not_mem_nil, or_false, Prod.mk.injEq] at h
  rcases h with ⟨rfl, rfl⟩ | ⟨rfl, rfl⟩ | ⟨rfl, rfl⟩ | ⟨rfl, rfl⟩ | ⟨rfl, rfl⟩ |
    ⟨rfl, rfl⟩ | h
  -- Two characters are taken whatever follows them, one only if no other does.
  iterate 4
    · exact ⟨_, _, rfl, rfl⟩
  · exact ⟨_, _, rfl, first_lessThan hrest⟩
  · exact ⟨_, _, rfl, first_greaterThan hrest⟩
  · rcases h with ⟨rfl, rfl⟩ | ⟨rfl, rfl⟩ | ⟨rfl, rfl⟩ | ⟨rfl, rfl⟩ | ⟨rfl, rfl⟩ |
      ⟨rfl, rfl⟩ | ⟨rfl, rfl⟩ | ⟨rfl, rfl⟩ <;>
    exact ⟨_, _, rfl, rfl⟩

theorem first_of_foremost {text rest : List Char} {l : Lexeme}
    (h : Foremost text l rest) :
    ∃ c cs, text = c :: cs ∧ Lexeme.first c cs = .ok (l, rest) := by
  rcases h with ⟨rfl, hlongest⟩ | ⟨rfl, hlongest⟩ | ⟨rfl, hbetween, hstops⟩ |
    ⟨rfl, hbetween, hstops⟩ | ⟨rfl, hspelled, hlongest⟩
  · obtain ⟨⟨hstart, hcs⟩, hstops⟩ := longest_isWord_iff.mp hlongest
    exact ⟨_, _, rfl, Lexeme.first_word hstart hcs hstops⟩
  · obtain ⟨c, ds, rfl, hc⟩ := hlongest.kind.exists_digit
    refine ⟨c, ds ++ rest, rfl, ?_⟩
    -- The digits split off are the longest too, so they are these.
    have hsame := hlongest.unique (longest_splitNumeral (ds ++ rest) hc)
    have hdigits : ds = (splitNumeral (ds ++ rest)).1 := (List.cons.inj hsame).2
    have hsplit := Lexeme.splitNumeral_append (ds ++ rest)
    rw [← hdigits] at hsplit
    rw [Lexeme.first_numeral _ hc, ← hsame, List.append_cancel_left hsplit]
  · have hbody := quotedBody_eq_some_iff.mpr ⟨_, rfl, hbetween, hstops⟩
    exact ⟨_, _, rfl, by simp [Lexeme.first, singleMark?, hbody]⟩
  · have hbody := quotedBody_eq_some_iff.mpr ⟨_, rfl, hbetween, hstops⟩
    exact ⟨_, _, rfl, by simp [Lexeme.first, singleMark?, hbody]⟩
  · exact Lexeme.first_of_spelling hspelled hlongest

/-- The scanner takes the lexeme that a text begins with, if there is one. -/
theorem first_eq_ok_iff {c : Char} {cs rest : List Char} {l : Lexeme} :
    Lexeme.first c cs = .ok (l, rest) ↔ Foremost (c :: cs) l rest := by
  refine ⟨foremost_of_first, fun h => ?_⟩
  obtain ⟨_, _, hcons, hfirst⟩ := first_of_foremost h
  cases hcons
  exact hfirst

end QueryBind.Sql
