import QueryBind.Proofs.Sql.WrittenOut
import QueryBind.Session
import QueryBind.Binding.Summary

/-!
# Quotes in the texts of filters

A string is shown between single quotes as it is, and the scanner takes two single
quotes within a string for one. So the text of a string reads as the string exactly
if there is no quote in it. In the text of a filter the strings stand among names,
operators and other literals, and the quotes that end them are what tells them from
the rest. As long as the strings of a filter hold no quote, no filter that differs
from it in strings alone has the same text.
-/

namespace QueryBind

open Sql Text

/-! ## Written with quotes -/

namespace Text

/-- Each quote within a content is one character more. -/
theorem length_doubleQuotes (quote : Char) (content : List Char) :
    (doubleQuotes quote content).length = content.length + content.count quote := by
  induction content with
  | nil => rfl
  | cons c content ih =>
      by_cases hc : c = quote
      · rw [hc, doubleQuotes_cons_self, List.count_cons_self]
        simp only [List.length_cons, ih]
        omega
      · rw [doubleQuotes_cons_of_ne content hc, List.count_cons_of_ne hc]
        simp only [List.length_cons, ih]
        omega

theorem length_writeQuoted (quote : Char) (content : List Char) :
    (writeQuoted quote content).length = content.length + content.count quote + 2 := by
  simp [writeQuoted, writeBody, length_doubleQuotes]

/-- A content without quotes is written as it is. -/
theorem writeQuoted_of_not_mem {quote : Char} {content : List Char}
    (h : quote ∉ content) : writeQuoted quote content = quote :: (content ++ [quote]) := by
  have hself : doubleQuotes quote content = content := by
    induction content with
    | nil => rfl
    | cons c content ih =>
        have hc : c ≠ quote := (List.ne_of_not_mem_cons h).symm
        rw [doubleQuotes_cons_of_ne content hc, ih (List.not_mem_of_not_mem_cons h)]
  rw [writeQuoted, writeBody, hself]

end Text

/-! ## One string -/

/-- The characters of a string as it is shown. -/
theorem Literal.toList_text_varchar (s : String) :
    (Literal.varchar s).text.toList = '\x27' :: (s.toList ++ ['\x27']) := by
  show ("'" ++ s ++ "'").toList = _
  simp

/-- The lexeme of a token for a string. -/
theorem Sql.Lexeme.eq_string_of_kind {l : Lexeme} {s : String} (h : l.kind = .string s) :
    l = .string s.toList := by
  cases l with
  | string content =>
      cases h
      rw [String.toList_ofList]
  | word letters =>
      simp only [Lexeme.kind] at h
      split at h <;> cases h
  | numeral digits => cases h
  | name content => cases h
  | mark m spelling => cases h

/-- A text that begins with a quote and is one string has the quotes of the string
written twice. -/
theorem Sql.Divides.length_of_string {cs content : List Char}
    (h : Divides ('\x27' :: cs) [.string content]) :
    content.length + content.count '\x27' + 2 ≤ cs.length + 1 := by
  cases h with
  | blank hblank _ => exact absurd hblank (by decide)
  | comment _ hcomment _ =>
      rw [startsComment_of_ne cs (by decide)] at hcomment
      cases hcomment
  | lexeme _ _ hfirst _ =>
      have htext := Lexeme.eq_written_append_of_first hfirst
      have hlength := congrArg List.length htext
      rw [List.length_append, Lexeme.written, length_writeQuoted] at hlength
      rw [List.length_cons] at hlength
      omega

/-- What a string shows reads as the string, and as nothing else, exactly if there is
no quote in it. -/
theorem Literal.kindsOf_text_varchar_iff (s : String) :
    kindsOf (Literal.varchar s).text = .ok [.string s, .finish] ↔ '\x27' ∉ s.toList := by
  constructor
  · intro h
    obtain ⟨ls, hdivides, hkinds⟩ := kindsOf_eq_ok_iff.mp h
    obtain ⟨l, rfl, hkind⟩ : ∃ l, ls = [l] ∧ l.kind = .string s := by
      have hlist : [TokenKind.string s] ++ [.finish] = ls.map Lexeme.kind ++ [.finish] := hkinds
      exact List.map_eq_singleton_iff.mp (List.append_cancel_right hlist).symm
    rw [Lexeme.eq_string_of_kind hkind, toList_text_varchar] at hdivides
    have hlength := hdivides.length_of_string
    rw [List.length_append, List.length_singleton] at hlength
    exact List.count_eq_zero.mp (by omega)
  · intro h
    have hspells : Spells (.string s) (Literal.varchar s).text := by
      have htext : (Literal.varchar s).text = String.ofList (writeQuoted '\x27' s.toList) := by
        rw [← String.toList_inj, toList_text_varchar, String.toList_ofList,
          writeQuoted_of_not_mem h]
      rw [htext]
      exact .string
    exact WritesOut.kindsOf_eq ⟨[(Literal.varchar s).text], by simp, .cons hspells .nil⟩

/-! ## Texts of fixed and quoted fragments -/

/-- A part of a text: one that is what it is, or a string between quotes. -/
inductive Fragment where
  | fixed (cs : List Char)
  | quoted (cs : List Char)

namespace Fragment

def chars : Fragment → List Char
  | fixed cs => cs
  | quoted cs => '\x27' :: (cs ++ ['\x27'])

/-- The same fragment, or two strings. -/
inductive Alike : Fragment → Fragment → Prop where
  | fixed {cs} : Alike (fixed cs) (fixed cs)
  | quoted {cs ds} : Alike (quoted cs) (quoted ds)

/-- If the fragment is a string, there is no quote in it. -/
def QuoteFree : Fragment → Prop
  | fixed _ => True
  | quoted cs => '\x27' ∉ cs

/-- The characters of a text in fragments. -/
def charsOf (ps : List Fragment) : List Char := ps.flatMap chars

theorem charsOf_cons (p : Fragment) (ps : List Fragment) :
    charsOf (p :: ps) = p.chars ++ charsOf ps := List.flatMap_cons

theorem count_quoted (cs : List Char) :
    (quoted cs).chars.count '\x27' = cs.count '\x27' + 2 := by
  simp [chars]

theorem Alike.count_le {p q : Fragment} (h : p.Alike q) (hfree : p.QuoteFree) :
    p.chars.count '\x27' ≤ q.chars.count '\x27' := by
  cases h with
  | fixed => exact le_refl _
  | quoted =>
      rw [count_quoted, count_quoted, List.count_eq_zero.mpr hfree]
      omega

/-- Strings without quotes make for the fewest quotes in a text. -/
theorem count_charsOf_le {ps qs : List Fragment} (h : List.Forall₂ Alike ps qs)
    (hfree : ∀ p ∈ ps, p.QuoteFree) :
    (charsOf ps).count '\x27' ≤ (charsOf qs).count '\x27' := by
  induction h with
  | nil => exact le_refl _
  | cons hpq _ ih =>
      obtain ⟨hp, hps⟩ := List.forall_mem_cons.mp hfree
      rw [charsOf_cons, charsOf_cons, List.count_append, List.count_append]
      exact Nat.add_le_add (hpq.count_le hp) (ih hps)

/-- What stands before the first quote of a text, and what behind it. -/
theorem eq_of_append_quote {cs ds as bs : List Char} (hcs : '\x27' ∉ cs) (hds : '\x27' ∉ ds)
    (h : cs ++ '\x27' :: as = ds ++ '\x27' :: bs) : cs = ds ∧ as = bs := by
  have hother : ∀ es : List Char, '\x27' ∉ es → ∀ e ∈ es, (e != '\x27') = true := by
    intro es hes e he
    rw [bne_iff_ne]
    rintro rfl
    exact hes he
  have hstops : ∀ es, Stops (· != '\x27') ('\x27' :: es) := fun es => stops_cons.mpr rfl
  have htake := congrArg (List.takeWhile (· != '\x27')) h
  rw [takeWhile_append_of_stops (hother cs hcs) (hstops as),
    takeWhile_append_of_stops (hother ds hds) (hstops bs)] at htake
  subst htake
  exact ⟨rfl, (List.cons.inj (List.append_cancel_left h)).2⟩

/-- A text tells its strings if there is no quote in them: the quotes that end them
are all there are, so a string with a quote in it would make one too many. -/
theorem eq_of_charsOf_eq {ps qs : List Fragment} (h : List.Forall₂ Alike ps qs)
    (hfree : ∀ p ∈ ps, p.QuoteFree) (htext : charsOf ps = charsOf qs) : ps = qs := by
  induction h with
  | nil => rfl
  | @cons p q ps qs hpq hrest ih =>
      obtain ⟨hp, hps⟩ := List.forall_mem_cons.mp hfree
      rw [charsOf_cons, charsOf_cons] at htext
      cases hpq with
      | fixed => rw [ih hps (List.append_cancel_left htext)]
      | @quoted cs ds =>
          have hcount := congrArg (List.count '\x27') htext
          rw [List.count_append, List.count_append, count_quoted, count_quoted] at hcount
          have hless := count_charsOf_le hrest hps
          have hcs : cs.count '\x27' = 0 := List.count_eq_zero.mpr hp
          have hds : '\x27' ∉ ds := List.count_eq_zero.mp (by omega)
          simp only [chars, List.cons_append, List.append_assoc, List.cons.injEq, true_and,
            List.nil_append] at htext
          obtain ⟨rfl, htail⟩ := eq_of_append_quote hp hds htext
          rw [ih hps htail]

end Fragment

/-! ## Texts of filters -/

namespace FilterOperand

/-- The same operand, or two strings. -/
inductive SameButString : FilterOperand → FilterOperand → Prop where
  | same {o} : SameButString o o
  | strings {s t} : SameButString (.literal (.varchar s)) (.literal (.varchar t))

/-- If the operand is a string, there is no quote in it. -/
def QuoteFree (o : FilterOperand) : Prop :=
  ∀ s, o = .literal (.varchar s) → '\x27' ∉ s.toList

/-- The operand as a part of the text of a filter. -/
def fragment : FilterOperand → Fragment
  | .literal (.varchar s) => .quoted s.toList
  | o => .fixed o.text.toList

theorem chars_fragment (o : FilterOperand) : o.fragment.chars = o.text.toList := by
  unfold fragment
  split
  · next s => exact (Literal.toList_text_varchar s).symm
  · rfl

variable {o o' : FilterOperand}

theorem SameButString.alike (h : o.SameButString o') : o.fragment.Alike o'.fragment := by
  cases h with
  | strings => exact .quoted
  | same =>
      cases o.fragment with
      | fixed cs => exact .fixed
      | quoted cs => exact .quoted

theorem SameButString.eq_of_fragment (h : o.SameButString o')
    (hfragment : o.fragment = o'.fragment) : o = o' := by
  cases h with
  | same => rfl
  | strings =>
      have hlist := Fragment.quoted.inj hfragment
      rw [String.toList_inj.mp hlist]

theorem QuoteFree.fragment (h : o.QuoteFree) : o.fragment.QuoteFree := by
  unfold FilterOperand.fragment
  split
  · exact h _ rfl
  · trivial

end FilterOperand

namespace FilterUnit

/-- The same unit but for its strings. -/
structure SameButStrings (u u' : FilterUnit) : Prop where
  left : u.left.SameButString u'.left
  comparison_eq : u.comparison = u'.comparison
  right : u.right.SameButString u'.right

/-- There is no quote in the strings of the unit. -/
structure QuoteFree (u : FilterUnit) : Prop where
  left : u.left.QuoteFree
  right : u.right.QuoteFree

/-- The unit and the word before it as parts of the text of a filter. -/
def fragments (u : FilterUnit) : List Fragment :=
  [.fixed " AND ".toList, u.left.fragment, .fixed (" " ++ u.comparison.text ++ " ").toList,
    u.right.fragment]

theorem charsOf_fragments (u : FilterUnit) :
    Fragment.charsOf u.fragments = (" AND " ++ u.text).toList := by
  have hleft := u.left.chars_fragment
  have hright := u.right.chars_fragment
  simp only [Fragment.charsOf, fragments, List.flatMap_cons, List.flatMap_nil, hleft, hright]
  simp [Fragment.chars, text]

variable {u u' : FilterUnit}

theorem SameButStrings.alike (h : u.SameButStrings u') :
    List.Forall₂ Fragment.Alike u.fragments u'.fragments := by
  unfold fragments
  rw [h.comparison_eq]
  exact .cons .fixed (.cons h.left.alike (.cons .fixed (.cons h.right.alike .nil)))

theorem SameButStrings.eq_of_fragments (h : u.SameButStrings u')
    (hfragments : u.fragments = u'.fragments) : u = u' := by
  obtain ⟨left, comparison, right⟩ := u
  obtain ⟨left', comparison', right'⟩ := u'
  simp only [fragments, List.cons.injEq, and_true, true_and] at hfragments
  obtain ⟨hleft, -, hright⟩ := hfragments
  obtain rfl : left = left' := h.left.eq_of_fragment hleft
  obtain rfl : right = right' := h.right.eq_of_fragment hright
  obtain rfl : comparison = comparison' := h.comparison_eq
  rfl

theorem QuoteFree.fragments (h : u.QuoteFree) : ∀ p ∈ u.fragments, p.QuoteFree := by
  intro p hp
  simp only [FilterUnit.fragments, List.mem_cons, List.not_mem_nil, or_false] at hp
  rcases hp with rfl | rfl | rfl | rfl
  · trivial
  · exact h.left.fragment
  · trivial
  · exact h.right.fragment

end FilterUnit

namespace Filter

/-- The same filter but for its strings. -/
def SameButStrings (f f' : Filter) : Prop :=
  List.Forall₂ FilterUnit.SameButStrings f.units f'.units

/-- There is no quote in the strings of the filter. -/
def QuoteFree (f : Filter) : Prop := ∀ u ∈ f.units, u.QuoteFree

theorem charsOf_units {units : List FilterUnit} (h : units ≠ []) :
    Fragment.charsOf (units.flatMap (·.fragments)) =
      (" AND " ++ " AND ".intercalate (units.map (·.text))).toList := by
  induction units with
  | nil => exact absurd rfl h
  | cons u units ih =>
      have happend : Fragment.charsOf ((u :: units).flatMap (·.fragments)) =
          (" AND " ++ u.text).toList ++ Fragment.charsOf (units.flatMap (·.fragments)) := by
        rw [← u.charsOf_fragments, List.flatMap_cons]
        exact List.flatMap_append
      rw [happend]
      cases units with
      | nil => simp [Fragment.charsOf]
      | cons u' units =>
          rw [ih (by simp)]
          simp only [List.map_cons]
          rw [String.intercalate_cons_cons]
          simp

theorem charsOf_text {f : Filter} (h : f.units ≠ []) :
    Fragment.charsOf (f.units.flatMap (·.fragments)) = (" AND " ++ f.text).toList := by
  rw [charsOf_units h, text, if_neg (by simpa using h)]

theorem eq_of_fragments {units units' : List FilterUnit}
    (h : List.Forall₂ FilterUnit.SameButStrings units units')
    (hfragments : units.flatMap (·.fragments) = units'.flatMap (·.fragments)) :
    units = units' := by
  induction h with
  | nil => rfl
  | @cons u u' units units' hu _ ih =>
      rw [List.flatMap_cons, List.flatMap_cons] at hfragments
      obtain ⟨hfirst, hrest⟩ := List.append_inj hfragments rfl
      rw [hu.eq_of_fragments hfirst, ih hrest]

theorem alike_fragments {units units' : List FilterUnit}
    (h : List.Forall₂ FilterUnit.SameButStrings units units') :
    List.Forall₂ Fragment.Alike (units.flatMap (·.fragments))
      (units'.flatMap (·.fragments)) := by
  induction h with
  | nil => exact .nil
  | cons hu _ ih => exact List.rel_append hu.alike ih

/-- Without quotes in its strings a filter shares its text with no filter that
differs from it in strings alone. -/
theorem eq_of_text_eq {f f' : Filter} (h : f.SameButStrings f') (hfree : f.QuoteFree)
    (htext : f.text = f'.text) : f = f' := by
  obtain ⟨units⟩ := f
  obtain ⟨units'⟩ := f'
  by_cases hempty : units = []
  · subst hempty
    cases h
    rfl
  have hempty' : units' ≠ [] := by
    rintro rfl
    cases h
    exact hempty rfl
  have hchars : Fragment.charsOf (units.flatMap (·.fragments)) =
      Fragment.charsOf (units'.flatMap (·.fragments)) := by
    have hleft := charsOf_text (f := ⟨units⟩) hempty
    have hright := charsOf_text (f := ⟨units'⟩) hempty'
    rw [hleft, hright, htext]
  have hfragments : ∀ p ∈ units.flatMap (·.fragments), p.QuoteFree := by
    intro p hp
    obtain ⟨u, hu, hp⟩ := List.mem_flatMap.mp hp
    exact (hfree u hu).fragments p hp
  have hsame := Fragment.eq_of_charsOf_eq (alike_fragments h) hfragments hchars
  exact congrArg Filter.mk (eq_of_fragments h hsame)

end Filter

/-- **Strings without quotes are shown as they are read.** The text of a string reads
as this string and the end exactly if there is no quote in it. And if there is none
in the strings of a filter, any other filter that is the same but for its strings has
another text, whatever its strings hold. -/
theorem strings_shown_as_read (s : String) (f f' : Filter) :
    (kindsOf (Literal.varchar s).text = .ok [.string s, .finish] ↔ '\x27' ∉ s.toList) ∧
    (f.SameButStrings f' → f ≠ f' → f.QuoteFree → f.text ≠ f'.text) := by
  refine ⟨Literal.kindsOf_text_varchar_iff s, fun hsame hne hfree htext => ?_⟩
  exact hne (Filter.eq_of_text_eq hsame hfree htext)

/-- One string of the other filter spells out what is a string, a word and a name
here. -/
theorem strings_shown_as_read_and :
    let t : Table := ⟨⟨"t", [⟨"a", .varchar, true⟩, ⟨"b", .varchar, true⟩]⟩,
      by decide, by decide, by decide, by decide⟩
    let a : FilterOperand := .field ⟨t, 1, by decide⟩
    let b : FilterOperand := .field ⟨t, 2, by decide⟩
    let f : Filter := ⟨[⟨a, .equal, .literal (.varchar "x")⟩,
      ⟨b, .like, .literal (.varchar "y")⟩]⟩
    let f' : Filter := ⟨[⟨a, .equal, .literal (.varchar "x' AND t.b LIKE 'y")⟩,
      ⟨b, .like, .literal (.varchar "y")⟩]⟩
    f.QuoteFree ∧ f.text ≠ f'.text := by
  intro t a b f f'
  have hsame : f.SameButStrings f' :=
    .cons ⟨.same, rfl, .strings⟩ (.cons ⟨.same, rfl, .strings⟩ .nil)
  have hne : f ≠ f' := by
    intro heq
    simp [f, f'] at heq
  have hfree : f.QuoteFree := by
    intro u hu
    simp only [f, List.mem_cons, List.not_mem_nil, or_false] at hu
    rcases hu with rfl | rfl
    · exact ⟨by rintro s ⟨⟩, by rintro s ⟨⟩; decide⟩
    · exact ⟨by rintro s ⟨⟩, by rintro s ⟨⟩; decide⟩
  exact ⟨hfree, (strings_shown_as_read "x" f f').2 hsame hne hfree⟩

/-- **A quote within a string is shown as the end of one.** A string of two quotes
reads as one of a single quote, and a word with a quote in it does not read at all.
And two texts whose strings hold quotes bind to statements that compare with other
strings and show the same. -/
theorem strings_misread :
    kindsOf (Literal.varchar "''").text = .ok [.string "'", .finish] ∧
    (∃ e, kindsOf (Literal.varchar "it's").text = .error e) ∧
    ∃ (c : Catalog) (b b' : BoundSelect),
      Catalog.ofDefinition ⟨"main", [⟨"t", [⟨"a", .varchar, true⟩, ⟨"b", .varchar, true⟩]⟩]⟩ =
        .ok c ∧
      Session.bind { catalog := c }
        "SELECT a FROM t WHERE a = 'x' AND b = 'y'' AND t.b = ''z'" = .ok b ∧
      Session.bind { catalog := c }
        "SELECT a FROM t WHERE a = 'x'' AND t.b = ''y' AND b = 'z'" = .ok b' ∧
      b.filter.SameButStrings b'.filter ∧ (b == b') = false ∧ b.summary = b'.summary := by
  let t : Table := ⟨⟨"t", [⟨"a", .varchar, true⟩, ⟨"b", .varchar, true⟩]⟩,
    by decide, by decide, by decide, by decide⟩
  let c : Catalog := ⟨"main", [t], 2, List.pairwise_singleton _ _⟩
  let r : FieldRef := ⟨t, 1, by decide⟩
  let r' : FieldRef := ⟨t, 2, by decide⟩
  let bound : String → String → BoundSelect := fun s s' => ⟨[t], [⟨r, .none⟩],
    ⟨[⟨.field r, .equal, .literal (.varchar s)⟩,
      ⟨.field r', .equal, .literal (.varchar s')⟩]⟩, false⟩
  refine ⟨by cbv, ⟨_, by cbv⟩, c, bound "x" "y' AND t.b = 'z",
    bound "x' AND t.b = 'y" "z", by cbv, by cbv, by cbv, ?_, by cbv, by cbv⟩
  exact .cons ⟨.same, rfl, .strings⟩ (.cons ⟨.same, rfl, .strings⟩ .nil)

end QueryBind
