import QueryBind.Proofs.Sql.Derivation
import QueryBind.Proofs.Sql.Layout

/-!
# Places have no meaning

A phrase is made of what its tokens are and not of where they stand, so a list
of tokens that differs from a phrase in places only is the same phrase and
derives the same tree.
-/

namespace QueryBind.Sql

/-! ## Lists of tokens that differ in places only -/

theorem Alike.nil {us : List Token} (h : Alike [] us) : us = [] := by
  simpa [Alike] using h.symm

theorem Alike.cons {t : Token} {ts us : List Token} (h : Alike (t :: ts) us) :
    ∃ u vs, us = u :: vs ∧ u.kind = t.kind ∧ u.text = t.text ∧ Alike ts vs := by
  obtain ⟨u, vs, rfl, hu, hvs⟩ := List.map_eq_cons_iff.mp h.symm
  exact ⟨u, vs, rfl, congrArg Prod.fst hu, congrArg Prod.snd hu, hvs.symm⟩

theorem Alike.single {t : Token} {us : List Token} (h : Alike [t] us) :
    ∃ u, us = [u] ∧ u.kind = t.kind ∧ u.text = t.text := by
  obtain ⟨u, vs, rfl, hkind, htext, hvs⟩ := h.cons
  exact ⟨u, by rw [hvs.nil], hkind, htext⟩

theorem Alike.pair {t t' : Token} {us : List Token} (h : Alike [t, t'] us) :
    ∃ u u', us = [u, u'] ∧ u.kind = t.kind ∧ u'.kind = t'.kind := by
  obtain ⟨u, vs, rfl, hu, -, hvs⟩ := h.cons
  obtain ⟨u', rfl, hu', -⟩ := hvs.single
  exact ⟨u, u', rfl, hu, hu'⟩

theorem Alike.append {ts ts' us : List Token} (h : Alike (ts ++ ts') us) :
    ∃ vs vs', us = vs ++ vs' ∧ Alike ts vs ∧ Alike ts' vs' := by
  have hmap : us.map Token.content =
      ts.map Token.content ++ ts'.map Token.content := by
    rw [← List.map_append]
    exact h.symm
  obtain ⟨vs, vs', rfl, hvs, hvs'⟩ := List.map_eq_append_iff.mp hmap
  exact ⟨vs, vs', rfl, hvs.symm, hvs'.symm⟩

/-! ## Phrases -/

theorem One.alike {kind : TokenKind} {ts us : List Token} (h : One kind ts)
    (halike : Alike ts us) : One kind us := by
  obtain ⟨t, rfl, ht⟩ := h
  obtain ⟨u, rfl, hu, -⟩ := halike.single
  exact ⟨u, rfl, hu.trans ht⟩

theorem Separated.alike {α : Type} {separator : List Token → Prop}
    {one : List Token → α → Prop} {ts us : List Token} {as : List α}
    (hseparator : ∀ {vs ws}, separator vs → Alike vs ws → separator ws)
    (hone : ∀ {vs ws a}, vs.length ≤ ts.length → one vs a → Alike vs ws → one ws a)
    (h : Separated separator one ts as) (halike : Alike ts us) :
    Separated separator one us as := by
  induction h generalizing us with
  | single ha => exact .single (hone (Nat.le_refl _) ha halike)
  | more ha hsep _ ih =>
      obtain ⟨vs, vs', rfl, hvs, hvs'⟩ := halike.append
      obtain ⟨ws, ws', rfl, hws, hws'⟩ := hvs'.append
      refine .more (hone (by simp) ha hvs) (hseparator hsep hws) ?_
      exact ih (fun hle => hone (by simp; omega)) hws'

theorem NameOf.alike {ts us : List Token} {name : String}
    (h : NameOf ts name) (halike : Alike ts us) : NameOf us name := by
  cases h with
  | identifier hk =>
      obtain ⟨u, rfl, hu, -⟩ := halike.single
      exact .identifier (hu.trans hk)
  | keyword hk hr =>
      obtain ⟨u, rfl, hu, htext⟩ := halike.single
      rw [← htext]
      exact .keyword (hu.trans hk) hr

theorem PartOf.alike {ts us : List Token} {name : String}
    (h : PartOf ts name) (halike : Alike ts us) : PartOf us name := by
  cases h with
  | star hk =>
      obtain ⟨u, rfl, hu, -⟩ := halike.single
      exact .star (hu.trans hk)
  | name hname => exact .name (hname.alike halike)

theorem ReferenceOf.alike {ts us : List Token}
    {reference : Option String × String} (h : ReferenceOf ts reference)
    (halike : Alike ts us) : ReferenceOf us reference := by
  cases h with
  | alone hpart => exact .alone (hpart.alike halike)
  | qualified hpart hdot hpart' =>
      obtain ⟨vs, vs', rfl, hvs, hvs'⟩ := halike.append
      obtain ⟨u, ws, rfl, hu, -, hws⟩ := hvs'.cons
      exact .qualified (hpart.alike hvs) (hu.trans hdot) (hpart'.alike hws)

theorem HeadOf.alike {ts us : List Token} {f : AggregateFunction}
    (h : HeadOf ts f) (halike : Alike ts us) : HeadOf us f := by
  cases h with
  | of ht hf hu =>
      obtain ⟨v, v', rfl, hv, hv'⟩ := halike.pair
      exact .of (hv.trans ht) hf (hv'.trans hu)

theorem ItemOf.alike {ts us : List Token} {item : Item} (h : ItemOf ts item)
    (halike : Alike ts us) : ItemOf us item := by
  induction ts using (measure List.length).wf.induction generalizing us item with
  | h ts ih =>
      cases h with
      | column href => exact .column (href.alike halike)
      | emptyCall hhead hclose =>
          obtain ⟨vs, vs', rfl, hvs, hvs'⟩ := halike.append
          obtain ⟨u, rfl, hu, -⟩ := hvs'.single
          exact .emptyCall (hhead.alike hvs) (hu.trans hclose)
      | @call head inside close f arguments hhead harguments hclose =>
          have hshorter : inside.length < (head ++ (inside ++ [close])).length := by
            simp
            omega
          obtain ⟨vs, vs', rfl, hvs, hvs'⟩ := halike.append
          obtain ⟨ws, ws', rfl, hws, hws'⟩ := hvs'.append
          obtain ⟨u, rfl, hu, -⟩ := hws'.single
          refine .call (hhead.alike hvs) ?_ (hu.trans hclose)
          exact harguments.alike One.alike
            (fun hle => ih _ (Nat.lt_of_le_of_lt hle hshorter)) hws

theorem EntryOf.alike {ts us : List Token} {a : Attribute} (h : EntryOf ts a)
    (halike : Alike ts us) : EntryOf us a := by
  cases h with
  | of hitem hleads hshaped => exact .of (hitem.alike halike) hleads hshaped

theorem OperandOf.alike {ts us : List Token} {operand : Operand}
    (h : OperandOf ts operand) (halike : Alike ts us) :
    OperandOf us operand := by
  cases h with
  | string ht =>
      obtain ⟨u, rfl, hu, -⟩ := halike.single
      exact .string (hu.trans ht)
  | numeral ht hv =>
      obtain ⟨u, rfl, hu, -⟩ := halike.single
      exact .numeral (hu.trans ht) hv
  | negative hminus ht hv =>
      obtain ⟨u, u', rfl, hu, hu'⟩ := halike.pair
      exact .negative (hu.trans hminus) (hu'.trans ht) hv
  | true ht =>
      obtain ⟨u, rfl, hu, -⟩ := halike.single
      exact .true (hu.trans ht)
  | false ht =>
      obtain ⟨u, rfl, hu, -⟩ := halike.single
      exact .false (hu.trans ht)
  | null ht =>
      obtain ⟨u, rfl, hu, -⟩ := halike.single
      exact .null (hu.trans ht)
  | column href => exact .column (href.alike halike)

theorem ComparisonOf.alike {ts us : List Token} {comparison : Comparison}
    (h : ComparisonOf ts comparison) (halike : Alike ts us) :
    ComparisonOf us comparison := by
  cases h with
  | mark ht hm =>
      obtain ⟨u, rfl, hu, -⟩ := halike.single
      exact .mark (hu.trans ht) hm
  | like ht =>
      obtain ⟨u, rfl, hu, -⟩ := halike.single
      exact .like (hu.trans ht)
  | notLike ht hu =>
      obtain ⟨v, v', rfl, hv, hv'⟩ := halike.pair
      exact .notLike (hv.trans ht) (hv'.trans hu)

theorem ConditionOf.alike {ts us : List Token} {condition : Condition}
    (h : ConditionOf ts condition) (halike : Alike ts us) :
    ConditionOf us condition := by
  cases h with
  | of hl ho hr =>
      obtain ⟨vs, vs', rfl, hvs, hvs'⟩ := halike.append
      obtain ⟨ws, ws', rfl, hws, hws'⟩ := hvs'.append
      exact .of (hl.alike hvs) (ho.alike hws) (hr.alike hws')

theorem LengthOf.alike {ts us : List Token} {n : Nat} (h : LengthOf ts n)
    (halike : Alike ts us) : LengthOf us n := by
  cases h with
  | of hopen ht hn hpos hclose =>
      obtain ⟨u, vs, rfl, hu, -, hvs⟩ := halike.cons
      obtain ⟨v, v', rfl, hv, hv'⟩ := hvs.pair
      exact .of (hu.trans hopen) (hv.trans ht) hn hpos (hv'.trans hclose)

theorem TypeOf.alike {ts us : List Token} {type : ColumnType}
    (h : TypeOf ts type) (halike : Alike ts us) : TypeOf us type := by
  obtain ⟨t, ts', rfl⟩ : ∃ t ts', ts = t :: ts' := by
    cases h <;> exact ⟨_, _, rfl⟩
  obtain ⟨u, vs, rfl, hu, -, hvs⟩ := halike.cons
  cases h with
  | word ht hword =>
      rw [hvs.nil]
      exact .word (hu.trans ht) hword
  | char ht =>
      rw [hvs.nil]
      exact .char (hu.trans ht)
  | charOf ht hlength => exact .charOf (hu.trans ht) (hlength.alike hvs)
  | varchar ht =>
      rw [hvs.nil]
      exact .varchar (hu.trans ht)
  | varcharOf ht hlength => exact .varcharOf (hu.trans ht) (hlength.alike hvs)

theorem NullabilityOf.alike {ts us : List Token} {nullable : Bool}
    (h : NullabilityOf ts nullable) (halike : Alike ts us) :
    NullabilityOf us nullable := by
  cases h with
  | unsaid =>
      rw [halike.nil]
      exact .unsaid
  | null ht =>
      obtain ⟨u, rfl, hu, -⟩ := halike.single
      exact .null (hu.trans ht)
  | notNull ht hu =>
      obtain ⟨v, v', rfl, hv, hv'⟩ := halike.pair
      exact .notNull (hv.trans ht) (hv'.trans hu)

theorem ColumnOf.alike {ts us : List Token} {column : ColumnDefinition}
    (h : ColumnOf ts column) (halike : Alike ts us) : ColumnOf us column := by
  cases h with
  | of hname htype hnull =>
      obtain ⟨vs, vs', rfl, hvs, hvs'⟩ := halike.append
      obtain ⟨ws, ws', rfl, hws, hws'⟩ := hvs'.append
      exact .of (hname.alike hvs) (htype.alike hws) (hnull.alike hws')

/-! ## Statements -/

theorem WhereOf.alike {ts us : List Token} {conditions : List Condition}
    (h : WhereOf ts conditions) (halike : Alike ts us) :
    WhereOf us conditions := by
  cases h with
  | none =>
      rw [halike.nil]
      exact .none
  | some ht hconditions =>
      obtain ⟨u, vs, rfl, hu, -, hvs⟩ := halike.cons
      exact .some (hu.trans ht)
        (hconditions.alike One.alike (fun _ => ConditionOf.alike) hvs)

theorem SelectOf.alike {ts us : List Token} {s : Select} (h : SelectOf ts s)
    (halike : Alike ts us) : SelectOf us s := by
  cases h with
  | of hs hi hf hn hw =>
      obtain ⟨u, vs, rfl, hu, -, hvs⟩ := halike.cons
      obtain ⟨is, vs, rfl, his, hvs⟩ := hvs.append
      obtain ⟨u', vs, rfl, hu', -, hvs⟩ := hvs.cons
      obtain ⟨ns, ws, rfl, hns, hws⟩ := hvs.append
      exact .of (hu.trans hs) (hi.alike One.alike (fun _ => EntryOf.alike) his)
        (hu'.trans hf) (hn.alike One.alike (fun _ => NameOf.alike) hns)
        (hw.alike hws)

theorem CreateTableOf.alike {ts us : List Token} {d : TableDefinition}
    (h : CreateTableOf ts d) (halike : Alike ts us) : CreateTableOf us d := by
  cases h with
  | of hc ht hn ho hcs hcl =>
      obtain ⟨u₁, vs, rfl, hu₁, -, hvs⟩ := halike.cons
      obtain ⟨u₂, vs, rfl, hu₂, -, hvs⟩ := hvs.cons
      obtain ⟨ns, vs, rfl, hns, hvs⟩ := hvs.append
      obtain ⟨u₃, vs, rfl, hu₃, -, hvs⟩ := hvs.cons
      obtain ⟨cs, vs, rfl, hcs', hvs⟩ := hvs.append
      obtain ⟨u₄, rfl, hu₄, -⟩ := hvs.single
      exact .of (hu₁.trans hc) (hu₂.trans ht) (hn.alike hns) (hu₃.trans ho)
        (hcs.alike One.alike (fun _ => ColumnOf.alike) hcs') (hu₄.trans hcl)

theorem DropTableOf.alike {ts us : List Token} {name : String}
    (h : DropTableOf ts name) (halike : Alike ts us) : DropTableOf us name := by
  cases h with
  | of hd ht hn =>
      obtain ⟨u₁, vs, rfl, hu₁, -, hvs⟩ := halike.cons
      obtain ⟨u₂, vs, rfl, hu₂, -, hvs⟩ := hvs.cons
      exact .of (hu₁.trans hd) (hu₂.trans ht) (hn.alike hvs)

theorem StatementOf.alike {ts us : List Token} {st : Statement}
    (h : StatementOf ts st) (halike : Alike ts us) : StatementOf us st := by
  cases h with
  | select h => exact .select (h.alike halike)
  | createTable h => exact .createTable (h.alike halike)
  | dropTable h => exact .dropTable (h.alike halike)

theorem Semicolons.alike {ts us : List Token} (h : Semicolons ts)
    (halike : Alike ts us) : Semicolons us := by
  intro u hu
  have hmem : u.content ∈ ts.map Token.content :=
    halike ▸ List.mem_map_of_mem hu
  obtain ⟨t, ht, heq⟩ := List.mem_map.mp hmem
  exact (congrArg Prod.fst heq).symm.trans (h t ht)

/-! ## Scripts -/

theorem Gap.alike {ts us : List Token} (h : Gap ts) (halike : Alike ts us) :
    Gap us := by
  refine ⟨?_, h.2.alike halike⟩
  rintro rfl
  exact h.1 (List.map_eq_nil_iff.mp halike)

theorem ScriptOf.alike {ts us : List Token} {sts : List Statement}
    (h : ScriptOf ts sts) (halike : Alike ts us) : ScriptOf us sts := by
  cases h with
  | empty hs => exact .empty (hs.alike halike)
  | statements hbefore hsts hafter =>
      obtain ⟨vs, vs', rfl, hvs, hvs'⟩ := halike.append
      obtain ⟨ws, ws', rfl, hws, hws'⟩ := hvs'.append
      exact .statements (hbefore.alike hvs)
        (hsts.alike Gap.alike (fun _ => StatementOf.alike) hws)
        (hafter.alike hws')

end QueryBind.Sql
