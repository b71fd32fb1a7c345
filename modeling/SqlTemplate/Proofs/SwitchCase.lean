import SqlTemplate.Proofs.Phrase
import SqlTemplate.Proofs.Shape

/-!
Cases of switches.  The condition of a case is the text of the case behind the switch argument and
an equality sign.  It compares the argument with the operand that the text starts with, and goes on
with whatever connectives stand behind that; a case that is a single operand is one comparison.
-/
namespace SqlTemplate

namespace Condition

open Name (IsName)

/-! A text splits into lexemes in one way only. -/

section

variable {l l' rest rest' : Text} {t t' : Token} {ts : List Token}

theorem Lexeme.unique (h : Lexeme l t rest) (h' : Lexeme l' t' rest')
    (heq : l ++ rest = l' ++ rest') : l = l' ∧ t = t' ∧ rest = rest' := by
  obtain ⟨c, cs, rfl, -⟩ := h.head
  obtain ⟨c', cs', rfl, -⟩ := h'.head
  obtain ⟨rfl, htail⟩ := List.cons.inj heq
  have htoken : token 0 c (cs ++ rest) = .ok (t, rest) := token_of_lexeme h
  have htoken' : token 0 c (cs' ++ rest') = .ok (t', rest') := token_of_lexeme h'
  have htail : cs ++ rest = cs' ++ rest' := htail
  rw [htail, htoken'] at htoken
  obtain ⟨rfl, rfl⟩ := Prod.mk.inj (Except.ok.inj htoken)
  exact ⟨List.append_cancel_right heq, rfl, rfl⟩

theorem splits_lexeme_iff (h : Lexeme l t rest) :
    Splits (l ++ rest) ts ↔ ∃ us, ts = t :: us ∧ Splits rest us := by
  constructor
  · intro hsplits
    obtain ⟨c, cs, rfl, hc⟩ := h.head
    generalize hcs : c :: cs ++ rest = text at hsplits
    cases hsplits with
    | nil => cases hcs
    | blank hblank =>
      obtain ⟨rfl, -⟩ := List.cons.inj hcs
      rw [hc] at hblank
      cases hblank
    | lexeme first more =>
      obtain ⟨-, rfl, rfl⟩ := h.unique first hcs
      exact ⟨_, rfl, more⟩
  · rintro ⟨us, rfl, hus⟩
    exact .lexeme h hus

theorem splits_blank_iff {c : Char} {cs : Text} (hc : Unicode.isBlank c) :
    Splits (c :: cs) ts ↔ Splits cs ts := by
  constructor
  · intro h
    generalize hcs : c :: cs = text at h
    cases h with
    | nil => cases hcs
    | blank _ h =>
      obtain ⟨-, rfl⟩ := List.cons.inj hcs
      exact h
    | lexeme first =>
      obtain ⟨d, ds, rfl, hd⟩ := first.head
      obtain ⟨rfl, -⟩ := List.cons.inj hcs
      rw [hd] at hc
      cases hc
  · exact .blank hc

/-- What a colon starts is an argument. -/
theorem Lexeme.argument_of_colon (h : Lexeme (':' :: l) t rest) :
    t = .argument l ∧ IsName l ∧ Name.Stops rest := by
  cases h with
  | argument hname stops => exact ⟨rfl, hname, stops⟩
  | string hmark => rcases hmark with h | h <;> cases h
  | number hnumeral =>
    obtain ⟨c, cs, heq, hc | ⟨hc, -⟩, -⟩ := hnumeral
    · obtain ⟨rfl, -⟩ := List.cons.inj heq
      cases hc
    · obtain ⟨rfl, -⟩ := List.cons.inj heq
      cases hc
  | mark hmark => exact absurd (mem_of_mem_marks hmark) (by decide)
  | word hname =>
    obtain ⟨c, cs, heq, hc⟩ := hname.head
    obtain ⟨rfl, -⟩ := List.cons.inj heq
    cases hc

end

end Condition

namespace Directive

open Condition (Splits Lexeme)

theorem isSwitchPart_of_isBlank {c : Char} (h : Unicode.isBlank c) : isSwitchPart c = false :=
  Unicode.eq_false_of_isBlank (by decide +kernel) h

theorem isPart_of_isDigit {c : Char} (h : c.isDigit) : Name.isPart c := by
  simp [Name.isPart, Char.isAlphanum, h]

/-- Of the characters of switch names, only name characters start lexemes. -/
theorem isPart_of_lexeme {c : Char} {cs rest : Text} {t : Token}
    (h : Lexeme (c :: cs) t rest) (hc : isSwitchPart c) : Name.isPart c := by
  have hother : ∀ {d}, isSwitchPart d = false → c ≠ d := by
    rintro d hd rfl
    rw [hd] at hc
    cases hc
  cases h with
  | argument | reference => exact absurd rfl (hother (by decide))
  | string hmark => rcases hmark with rfl | rfl <;> exact absurd rfl (hother (by decide))
  | number hnumeral =>
    obtain ⟨d, ds, heq, hd | ⟨rfl, -⟩, -⟩ := hnumeral
    · obtain ⟨rfl, -⟩ := List.cons.inj heq
      exact isPart_of_isDigit hd
    · obtain ⟨rfl, -⟩ := List.cons.inj heq
      exact absurd rfl (hother (by decide))
  | mark hmark =>
    have hclass : ∀ e ∈ "&|()=!<>~".toList, isSwitchPart e = false :=
      Text.forall_mem_of_all (by decide)
    exact absurd rfl (hother (hclass c (Condition.mem_of_mem_marks hmark)))
  | word hname =>
    obtain ⟨d, ds, heq, hd⟩ := hname.head
    obtain ⟨rfl, -⟩ := List.cons.inj heq
    exact Name.isPart_of_isStart hd

theorem isPart_of_splits {c : Char} {cs : Text} {ts : List Token}
    (h : Splits (c :: cs) ts) (hc : isSwitchPart c) : Name.isPart c := by
  generalize htext : c :: cs = text at h
  cases h with
  | nil => cases htext
  | blank hblank =>
    obtain ⟨rfl, -⟩ := List.cons.inj htext
    rw [isSwitchPart_of_isBlank hblank] at hc
    cases hc
  | lexeme next =>
    obtain ⟨d, ds, rfl, -⟩ := next.head
    obtain ⟨rfl, -⟩ := List.cons.inj htext
    exact isPart_of_lexeme next hc

/-- A switch name is read as an argument only if it is a name, for none of its characters could
stand behind the argument. -/
theorem splits_switchName_iff {name rest : Text} {ts : List Token}
    (hname : name.all isSwitchPart) :
    Splits (':' :: (name ++ ' ' :: rest)) ts ↔
      Name.IsName name ∧ ∃ us, ts = .argument name :: us ∧ Splits rest us := by
  constructor
  · intro h
    generalize hcs : ':' :: (name ++ ' ' :: rest) = text at h
    cases h with
    | nil => cases hcs
    | blank hc =>
      obtain ⟨rfl, -⟩ := List.cons.inj hcs
      cases hc
    | @lexeme l rest' t us first more =>
      obtain ⟨c, found, rfl, -⟩ := first.head
      obtain ⟨rfl, htail⟩ := List.cons.inj hcs
      have htail : name ++ ' ' :: rest = found ++ rest' := htail
      obtain ⟨rfl, hfound, hstops⟩ := first.argument_of_colon
      have hspace : ' ' ∉ found := fun hc => (hfound.mem hc).elim (by decide) (by decide)
      rcases List.append_eq_append_iff.1 htail with ⟨u, rfl, hrest⟩ | ⟨u, rfl, rfl⟩
      · cases u with
        | nil =>
          obtain rfl : ' ' :: rest = rest' := hrest
          rw [List.append_nil] at hfound ⊢
          exact ⟨hfound, us, rfl, (Condition.splits_blank_iff (by decide)).1 more⟩
        | cons d u =>
          obtain ⟨rfl, -⟩ := List.cons.inj hrest
          exact absurd (by simp) hspace
      · cases u with
        | nil =>
          rw [List.append_nil]
          exact ⟨hfound, us, rfl, (Condition.splits_blank_iff (by decide)).1 more⟩
        | cons d u =>
          have hd : isSwitchPart d := List.all_eq_true.1 hname d (by simp)
          have hpart : Name.isPart d = false := hstops.1
          rw [List.cons_append] at more
          rw [isPart_of_splits more hd] at hpart
          cases hpart
  · rintro ⟨hname, us, rfl, hus⟩
    have hstops : Name.Stops (' ' :: rest) := ⟨rfl, fun h => by cases h⟩
    exact .lexeme (.argument hname hstops) (.blank (by decide) hus)

theorem splits_caseSource_iff {name rest : Text} {ts : List Token}
    (hname : name.all isSwitchPart) :
    Splits (caseSource name rest) ts ↔
      Name.IsName name ∧ ∃ us, ts = .argument name :: .comparison .eq :: us ∧ Splits rest us := by
  have hsource : caseSource name rest = ':' :: (name ++ ' ' :: (['='] ++ ' ' :: rest)) := by
    simp [caseSource]
  have hmark : Lexeme ['='] (.comparison .eq) (' ' :: rest) :=
    .mark (show (_, _, ['=']) ∈ Condition.marks by decide) (by simp)
  have hspace : Unicode.isBlank ' ' := by decide
  rw [hsource, splits_switchName_iff hname]
  simp only [Condition.splits_lexeme_iff hmark, Condition.splits_blank_iff hspace]
  refine and_congr_right fun _ => ?_
  constructor
  · rintro ⟨_, rfl, us, rfl, hus⟩
    exact ⟨us, rfl, hus⟩
  · rintro ⟨us, rfl, hus⟩
    exact ⟨_, rfl, us, rfl, hus⟩

end Directive

namespace Condition

/-- The comparison of a switch argument with the operand of a case. -/
def caseTest (name : Text) (o : Operand) : Formula := .compare (.argument name []) .eq o

/-- What the text of a case may be: an operand, with conjuncts and then alternatives behind it. -/
def IsCase (rest : Text) (o : Operand) (more others : List Formula) : Prop :=
  ∃ ts us vs, Splits rest (ts ++ (us ++ vs)) ∧ Derives (.operand o) ts ∧
    Derives (.conjuncts more) us ∧ Derives (.alternatives others) vs

theorem derives_case_iff {name : Text} {ws : List Token} {f : Formula} :
    Derives (.expression f) (.argument name :: .comparison .eq :: ws) ↔
      ∃ o more others ts us vs, ws = ts ++ (us ++ vs) ∧ Derives (.operand o) ts ∧
        Derives (.conjuncts more) us ∧ Derives (.alternatives others) vs ∧
        f = chain .any (chain .all (caseTest name o) more) others := by
  constructor
  · intro h
    have hread : (Phrase.expression f).Reads (_ ++ []) [] := h.reads fun t ht => by cases ht
    rw [List.append_nil] at hread
    obtain ⟨first, others, mid, rfl, hfirst, hothers⟩ := reads_expression_iff.1 hread
    obtain ⟨u, more, mid', rfl, hu, hmore⟩ := reads_conjunction_iff.1 hfirst
    obtain ⟨_, _, hbang, -⟩ | ⟨_, hparen, -⟩ | ⟨-, -, hcomparison⟩ := reads_unary_iff.1 hu
    · cases hbang
    · cases hparen
    obtain ⟨left, mid'', hleft, htail⟩ := reads_comparison_iff.1 hcomparison
    obtain ⟨_, _, names, heq, rfl, hpipes⟩ | ⟨t, heq, hatom⟩ := reads_operand_iff.1 hleft
    · cases heq
      obtain ⟨rfl, rfl, -⟩ | ⟨_, _, _, hpipe, -⟩ := reads_pipes_iff.1 hpipes
      · cases htail with
        | @compare op o us rest ho =>
          obtain ⟨ts, hts, hoperand⟩ := derives_of_reads _ _ _ ho
          obtain ⟨us, hus, hconjuncts⟩ := derives_of_reads _ _ _ hmore
          obtain ⟨vs, hvs, halternatives⟩ := derives_of_reads _ _ _ hothers
          refine ⟨o, more, others, ts, us, vs, ?_, hoperand, hconjuncts, halternatives, rfl⟩
          rw [hts, hus, hvs, List.append_nil]
        | test hno => exact absurd rfl (hno .eq)
      · cases hpipe
    · cases heq
      cases hatom
  · rintro ⟨o, more, others, ts, us, vs, rfl, ho, hmore, hothers, rfl⟩
    have htest : Derives (.unary (caseTest name o)) ([.argument name] ++ .comparison .eq :: ts) :=
      .comparison (.compare (.argument .pipesNil) ho)
    have h := (htest.conjunction hmore).expression hothers
    simpa using h

/-- A text that is a single operand. -/
def IsOperand (rest : Text) (o : Operand) : Prop := ∃ ts, Splits rest ts ∧ Derives (.operand o) ts

theorem IsOperand.isCase {rest : Text} {o : Operand} (h : IsOperand rest o) :
    IsCase rest o [] [] := by
  obtain ⟨ts, hsplits, ho⟩ := h
  refine ⟨ts, [], [], ?_, ho, .conjunctsNil, .alternativesNil⟩
  rwa [List.append_nil, List.append_nil]

/-! What chains of formulas answer. -/

section

variable (ctx : Context) (args : Args)

theorem eval_chain_all (first : Formula) (more : List Formula) :
    eval ctx args (chain .all first more) = eval ctx args (.all (first :: more)) := by
  cases more with
  | nil =>
    rw [chain, eval, evalAll, evalAll]
    cases eval ctx args first with
    | error e => rfl
    | ok b => cases b <;> rfl
  | cons next more => rfl

theorem eval_chain_any (first : Formula) (more : List Formula) :
    eval ctx args (chain .any first more) = eval ctx args (.any (first :: more)) := by
  cases more with
  | nil =>
    rw [chain, eval, evalAny, evalAny]
    cases eval ctx args first with
    | error e => rfl
    | ok b => cases b <;> rfl
  | cons next more => rfl

end

/-! What an operand needs of the arguments does not depend on the scalars in them. -/

theorem isOk_applyPipes (ctx : Context) (names : List Text) (v w : Value) :
    (applyPipes ctx names v).isOk = (applyPipes ctx names w).isOk := by
  induction names generalizing v w with
  | nil => rfl
  | cons name names ih =>
    rw [applyPipes, applyPipes]
    cases ctx.pipes.get? name with
    | none => rfl
    | some pipe => exact ih _ _

theorem isOk_meaning_of_shape {ctx : Context} {args args' : Args} (h : args.shape = args'.shape)
    (o : Operand) : (meaning ctx args o).isOk = (meaning ctx args' o).isOk := by
  cases o with
  | blank => rfl
  | literal v => rfl
  | argument name pipes =>
    rw [meaning, meaning]
    rcases eq_none_or_eq_some_of_map (Args.shape_lookup? h name) with
      ⟨hv, hw⟩ | ⟨v, w, hv, hw, -⟩
    · rw [hv, hw]
    · have hpipes := isOk_applyPipes ctx pipes v w
      rw [hv, hw]
      cases happly : applyPipes ctx pipes v <;> cases happly' : applyPipes ctx pipes w <;>
        simp_all [Except.map, Except.isOk, Except.toBool]

/-- Whether a value equals what an operand stands for. -/
def Meaning.equals (v : Value) : Meaning → Bool
  | .value w => v.equals w
  | .blank => v.isBlank

theorem eval_caseTest {ctx : Context} {args : Args} {name : Text} {o : Operand} {v : Value}
    {w : Meaning} (hv : meaning ctx args (.argument name []) = .ok (.value v))
    (hw : meaning ctx args o = .ok w) : eval ctx args (caseTest name o) = .ok (w.equals v) := by
  rw [caseTest, eval, hv, hw]
  cases w <;> rfl

/-- Arguments of one shape are not told apart by whether a comparison fails. -/
theorem isOk_eval_caseTest {ctx : Context} {args args' : Args} {name : Text} {o : Operand}
    {v : Value} (hshape : args.shape = args'.shape)
    (hv : meaning ctx args' (.argument name []) = .ok (.value v))
    (h : (eval ctx args (caseTest name o)).isOk) : (eval ctx args' (caseTest name o)).isOk := by
  obtain ⟨b, heval⟩ := exists_of_isOk h
  rw [caseTest, eval] at heval
  obtain ⟨_, -, heval⟩ := exists_of_bind_eq_ok heval
  obtain ⟨w, hw, -⟩ := exists_of_bind_eq_ok heval
  have hoperand : (meaning ctx args' o).isOk := by
    rw [← isOk_meaning_of_shape hshape, hw]
    rfl
  obtain ⟨w', hw'⟩ := exists_of_isOk hoperand
  rw [eval_caseTest hv hw']
  rfl

end Condition

namespace Directive

open Condition (IsCase IsOperand caseTest chain eval evalAll evalAny)

theorem caseSource_not_blank (name rest : Text) : (caseSource name rest).isBlank = false := by
  have hcolon : Unicode.isBlank ':' = false := by decide
  rw [Text.isBlank, caseSource, List.cons_append, List.cons_append, List.all_cons, hcolon]
  rfl

theorem condition_caseSource_iff {name rest : Text} (hname : name.all isSwitchPart) {n : Nat}
    {c : Condition} :
    condition (caseSource name rest) n = .ok c ↔
      Name.IsName name ∧ ∃ o more others, IsCase rest o more others ∧
        c = ⟨(caseSource name rest).trim,
          chain .any (chain .all (caseTest name o) more) others⟩ := by
  have hcondition : condition (caseSource name rest) n = .ok c ↔
      Condition.ofText (caseSource name rest) = .ok c := by
    rw [condition, caseSource_not_blank]
    cases Condition.ofText (caseSource name rest) <;> simp
  rw [hcondition, Condition.ofText_eq_ok_iff]
  simp only [splits_caseSource_iff hname]
  constructor
  · rintro ⟨_, f, ⟨hname, us, rfl, hus⟩, hf, rfl⟩
    obtain ⟨o, more, others, ts, us, vs, rfl, ho, hmore, hothers, rfl⟩ :=
      Condition.derives_case_iff.1 hf
    exact ⟨hname, o, more, others, ⟨ts, us, vs, hus, ho, hmore, hothers⟩, rfl⟩
  · rintro ⟨hname, o, more, others, ⟨ts, us, vs, hsplits, ho, hmore, hothers⟩, rfl⟩
    exact ⟨_, _, ⟨hname, _, rfl, hsplits⟩,
      Condition.derives_case_iff.2 ⟨o, more, others, ts, us, vs, rfl, ho, hmore, hothers, rfl⟩, rfl⟩

end Directive

namespace Template

open Condition (Context IsCase IsOperand Meaning caseTest eval evalAll evalAny meaning)
open Directive (caseSource condition switchName)

/-- The conditions of cases whose text is an operand that stands for `w`. -/
def IsCaseOf (ctx : Context) (scope : Args) (name : Text) (w : Meaning) (c : Condition) : Prop :=
  ∃ rest n o, condition (caseSource name rest) n = .ok c ∧ IsOperand rest o ∧
    meaning ctx scope o = .ok w

section

variable {ctx : Context} {sigil : Char} {scope : Args} {otherwise : Render (List Text)}
  {branches after : List (Condition × List Block)}

theorem renderBranches_append_of_false (h : ∀ b ∈ branches, b.1.holds ctx scope = .ok false) :
    renderBranches ctx sigil scope otherwise (branches ++ after) =
      renderBranches ctx sigil scope otherwise after := by
  induction branches with
  | nil => rfl
  | cons b branches ih =>
    rw [List.cons_append, renderBranches, h b List.mem_cons_self,
      ← ih fun b hb => h b (by simp [hb])]
    rfl

theorem renderBranches_cons_of_true {c : Condition} {body : List Block}
    (h : c.holds ctx scope = .ok true) :
    renderBranches ctx sigil scope otherwise ((c, body) :: after) =
      renderBlocks ctx sigil scope body := by
  rw [renderBranches, h]
  rfl

end

theorem formula_eq_caseTest_iff {name rest : Text} (hname : name.all Directive.isSwitchPart)
    {n : Nat} {c : Condition} (hc : condition (caseSource name rest) n = .ok c) (o : Operand) :
    c.formula = caseTest name o ↔ IsOperand rest o := by
  obtain ⟨hisName, o', more, others, hcase, rfl⟩ := (Directive.condition_caseSource_iff hname).1 hc
  constructor
  · intro h
    cases others with
    | cons => cases h
    | nil =>
      cases more with
      | cons => cases h
      | nil =>
        obtain ⟨ts, us, vs, hsplits, ho, hmore, hothers⟩ := hcase
        cases h
        cases hmore
        cases hothers
        exact ⟨ts, by simpa using hsplits, ho⟩
  · intro h
    have hplain := (Directive.condition_caseSource_iff hname (n := n)).2
      ⟨hisName, o, [], [], h.isCase, rfl⟩
    rw [hc] at hplain
    exact congrArg Condition.formula (Except.ok.inj hplain)

theorem holds_of_isCaseOf {ctx : Context} {scope : Args} {name : Text} {v : Value} {w : Meaning}
    {c : Condition} (hname : name.all Directive.isSwitchPart)
    (hv : meaning ctx scope (.argument name []) = .ok (.value v))
    (hc : IsCaseOf ctx scope name w c) : c.holds ctx scope = .ok (w.equals v) := by
  obtain ⟨rest, n, o, hc, ho, hw⟩ := hc
  rw [Condition.holds, (formula_eq_caseTest_iff hname hc o).2 ho, Condition.eval_caseTest hv hw]

theorem all_isSwitchPart_of_switchName {line name : Text} {n : Nat}
    (h : switchName line n = .ok name) : name.all Directive.isSwitchPart := by
  unfold switchName at h
  split at h
  · split at h
    · rename_i hname
      rw [Bool.and_eq_true] at hname
      obtain rfl := Except.ok.inj h
      exact hname.2
    · cases h
  · cases h

/-- What the cases of a switch are.  A case is read if the name of the switch is a name in
conditions too and its text is an operand, with conjuncts and then alternatives behind it.  It holds
if the argument equals the operand and the conjuncts hold, or else if an alternative does; it is the
comparison with an operand exactly if its text is that operand.  Where the texts of the cases are
operands, the first one that stands for the value of the argument is taken. -/
theorem case_of_switchName {line name : Text} {m : Nat} (hname : switchName line m = .ok name) :
    (∀ rest n, (∃ c, condition (caseSource name rest) n = .ok c) ↔
      Name.IsName name ∧ ∃ o more others, IsCase rest o more others) ∧
    (∀ rest n c, condition (caseSource name rest) n = .ok c →
      (∃ o more others, IsCase rest o more others ∧ ∀ ctx args,
        eval ctx args c.formula = eval ctx args (.any (.all (caseTest name o :: more) :: others))) ∧
      ∀ o, c.formula = caseTest name o ↔ IsOperand rest o) ∧
    ∀ ctx sigil scope v otherwise (before : List (Condition × List Block)),
      meaning ctx scope (.argument name []) = .ok (.value v) →
      (∀ b ∈ before, ∃ w, IsCaseOf ctx scope name w b.1 ∧ w.equals v = false) →
      renderBranches ctx sigil scope otherwise before = otherwise ∧
      ∀ c body after w, IsCaseOf ctx scope name w c → w.equals v = true →
        renderBranches ctx sigil scope otherwise (before ++ (c, body) :: after) =
          renderBlocks ctx sigil scope body := by
  have hname := all_isSwitchPart_of_switchName hname
  refine ⟨fun rest n => ?_, fun rest n c hc => ⟨?_, formula_eq_caseTest_iff hname hc⟩, ?_⟩
  · constructor
    · rintro ⟨c, hc⟩
      obtain ⟨hisName, o, more, others, hcase, -⟩ := (Directive.condition_caseSource_iff hname).1 hc
      exact ⟨hisName, o, more, others, hcase⟩
    · rintro ⟨hisName, o, more, others, hcase⟩
      exact ⟨_, (Directive.condition_caseSource_iff hname).2
        ⟨hisName, o, more, others, hcase, rfl⟩⟩
  · obtain ⟨-, o, more, others, hcase, rfl⟩ := (Directive.condition_caseSource_iff hname).1 hc
    refine ⟨o, more, others, hcase, fun ctx args => ?_⟩
    rw [Condition.eval_chain_any, eval, eval, evalAny, evalAny, Condition.eval_chain_all]
  · intro ctx sigil scope v otherwise before hv hbefore
    have hskip : ∀ b ∈ before, b.1.holds ctx scope = .ok false := by
      intro b hb
      obtain ⟨w, hcase, hw⟩ := hbefore b hb
      rw [holds_of_isCaseOf hname hv hcase, hw]
    constructor
    · have h : renderBranches ctx sigil scope otherwise (before ++ []) = _ :=
        renderBranches_append_of_false hskip
      rwa [List.append_nil, renderBranches] at h
    · intro c body after w hcase hw
      rw [renderBranches_append_of_false hskip]
      exact renderBranches_cons_of_true (by rw [holds_of_isCaseOf hname hv hcase, hw])

/-- The switch on `a`, and a case of it. -/
theorem case_of_switchName_one :
    switchName ":a".toList 1 = .ok "a".toList ∧
    ∃ c, condition (caseSource "a".toList "1".toList) 2 = .ok c ∧
      c.formula = caseTest "a".toList (.literal (.ofNat 1)) := by
  have hname : switchName ":a".toList 1 = .ok "a".toList := by rfl
  have hcondition : condition (caseSource "a".toList "1".toList) 2 =
      .ok ⟨":a = 1".toList, caseTest "a".toList (.literal (.ofNat 1))⟩ := by cbv
  obtain ⟨-, hcases, -⟩ := case_of_switchName hname
  obtain ⟨-, hoperand⟩ := hcases _ _ _ hcondition
  have := (hoperand _).1 rfl
  exact ⟨hname, _, hcondition, (hoperand _).2 this⟩

/-- A switch on `a` with one case. -/
def oneCase (rest : Text) : Text :=
  "--#switch :a\n--#case ".toList ++ rest ++ "\nx\n--#end".toList

/-- An alternative behind the value of a case: it is asked where the value differs. -/
theorem not_forall_case_eq_caseTest :
    ¬∀ (rest : Text) (c : Condition) (body : List Block), '\n' ∉ rest →
      ofText (oneCase rest) = .ok [.choose [(c, body)] none] →
      ∃ o, ∀ ctx args, eval ctx args c.formula = eval ctx args (caseTest "a".toList o) := by
  intro h
  have htext : oneCase "1 || :b".toList =
      "--#switch :a\n--#case 1 || :b\nx\n--#end".toList := by decide
  have hread : ofText (oneCase "1 || :b".toList) =
      .ok [.choose [(⟨":a = 1 || :b".toList,
        .any [caseTest "a".toList (.literal (.ofNat 1)), .test (.argument "b".toList [])]⟩,
        [.text "x".toList])] none] := by
    rw [htext]
    cbv
  obtain ⟨o, ho⟩ := h "1 || :b".toList _ _ (by decide) hread
  -- where the argument differs from one, the alternative is asked, and `b` is missing
  let one : Args := .ofList [("a".toList, .ofNat 1)]
  let two : Args := .ofList [("a".toList, .ofNat 2)]
  have hargument : meaning ⟨true, ∅⟩ two (.argument "a".toList []) = .ok (.value (.ofNat 2)) := by
    cbv
  have hone : (eval ⟨true, ∅⟩ one (caseTest "a".toList o)).isOk := by
    rw [← ho]
    decide +kernel
  have hshape : one.shape = two.shape := rfl
  have htwo := Condition.isOk_eval_caseTest hshape hargument hone
  rw [← ho] at htwo
  exact absurd htwo (by decide +kernel)

end Template

end SqlTemplate
