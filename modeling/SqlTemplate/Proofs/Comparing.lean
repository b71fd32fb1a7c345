import SqlTemplate.Proofs.Dict
import SqlTemplate.Proofs.Spelling
import SqlTemplate.Template.Render

/-!
Comparing two values.  All six comparisons of non-null values are read off one ordering, which
exists unless one of two numeric values is not a number; where it exists, exactly one of less,
equal and greater holds, and swapping the sides swaps it.
-/
namespace SqlTemplate

namespace Double

theorem compare?_swap (x y : Double) : y.compare? x = (x.compare? y).map Ordering.swap := by
  unfold compare?
  cases x.scaled? with
  | none => cases y.scaled? <;> rfl
  | some a =>
    cases y.scaled? with
    | none => rfl
    | some b => exact congrArg some Std.OrientedOrd.eq_swap

theorem scaled?_eq_none_iff {x : Double} : x.scaled? = none ↔ x = .nan := by
  cases x with
  | nan => exact ⟨fun _ => rfl, fun _ => rfl⟩
  | _ => exact ⟨nofun, nofun⟩

theorem compare?_eq_none_iff {x y : Double} : x.compare? y = none ↔ x = .nan ∨ y = .nan := by
  rw [← scaled?_eq_none_iff, ← scaled?_eq_none_iff]
  unfold compare?
  cases x.scaled? <;> cases y.scaled? <;> simp

/-! Only the word for it is read as what is not a number. -/

theorem ofRatio_ne_nan (negative : Bool) (num den : Nat) : ofRatio negative num den ≠ .nan := by
  unfold ofRatio zero
  dsimp only
  repeat' split
  all_goals simp

theorem ofDecimal_ne_nan (negative : Bool) (digits : Nat) (e : Int) :
    ofDecimal negative digits e ≠ .nan := by
  unfold ofDecimal zero
  repeat' split
  all_goals first | exact ofRatio_ne_nan _ _ _ | simp

theorem ofUnsigned?_ne_nan (negative : Bool) (cs : Text) : ofUnsigned? negative cs ≠ some .nan := by
  have hmap : ∀ (e? : Option Int) (f : Int → Double), (∀ e, f e ≠ .nan) → e?.map f ≠ some .nan := by
    rintro (_ | e) f hf h
    · simp at h
    · exact hf e (Option.some.inj h)
  unfold ofUnsigned?
  dsimp only
  split
  all_goals
    split
    · simp
    · exact hmap _ _ fun e => ofDecimal_ne_nan _ _ _

theorem ofText?_eq_nan_iff {cs : Text} :
    ofText? cs = some .nan ↔ Text.asciiLower (takeSign cs).2 = "nan".toList := by
  unfold ofText?
  dsimp only
  split
  case isTrue h =>
    refine ⟨fun h => by simp at h, fun hnan => ?_⟩
    rw [hnan] at h
    exact absurd h (by decide)
  case isFalse =>
    split
    case isTrue hnan => exact ⟨fun _ => hnan, fun _ => rfl⟩
    case isFalse hnan =>
      exact ⟨fun h => absurd h (ofUnsigned?_ne_nan _ _), fun h => absurd h hnan⟩

end Double

namespace Value

/-- The value that no number compares with: the word `nan`, in any case and with any sign. -/
def IsNan : Value → Prop
  | string s => Text.asciiLower (takeSign s.trim).2 = "nan".toList
  | number n => n = .double .nan
  | _ => False

/-- Whether two values both have numeric values, one of which is not a number. -/
def Unordered (l r : Value) : Prop := l.IsNan ∧ r.toDouble?.isSome ∨ l.toDouble?.isSome ∧ r.IsNan

instance (v : Value) : Decidable v.IsNan :=
  match v with
  | string s => inferInstanceAs (Decidable (Text.asciiLower (takeSign s.trim).2 = "nan".toList))
  | number n => inferInstanceAs (Decidable (n = .double .nan))
  | null | bool _ | array _ | object _ => inferInstanceAs (Decidable False)

instance (l r : Value) : Decidable (l.Unordered r) :=
  inferInstanceAs (Decidable (_ ∧ _ ∨ _ ∧ _))

theorem toDouble?_eq_nan_iff {v : Value} : v.toDouble? = some .nan ↔ v.IsNan := by
  cases v with
  | string s => exact Double.ofText?_eq_nan_iff
  | number n =>
    cases n with
    | integer n =>
      have hne : Double.ofInt n ≠ .nan := Double.ofRatio_ne_nan _ _ _
      simpa [toDouble?, IsNan, Number.toDouble] using hne
    | double x => simp [toDouble?, IsNan, Number.toDouble]
  | _ => simp [toDouble?, IsNan]

theorem unordered_iff {l r : Value} : l.Unordered r ↔
    ∃ x y, l.toDouble? = some x ∧ r.toDouble? = some y ∧ (x = .nan ∨ y = .nan) := by
  simp only [Unordered, ← toDouble?_eq_nan_iff, Option.isSome_iff_exists]
  constructor
  · rintro (⟨hl, y, hr⟩ | ⟨⟨x, hl⟩, hr⟩)
    · exact ⟨_, y, hl, hr, Or.inl rfl⟩
    · exact ⟨x, _, hl, hr, Or.inr rfl⟩
  · rintro ⟨x, y, hl, hr, rfl | rfl⟩
    · exact Or.inl ⟨hl, y, hr⟩
    · exact Or.inr ⟨⟨x, hl⟩, hr⟩

theorem compareText_swap (a b : Text) : compareText b a = (compareText a b).swap := by
  unfold compareText
  by_cases hlt : a < b
  · have hne : b ≠ a := fun heq => List.lt_irrefl a (heq ▸ hlt)
    simp [hlt, List.lt_asymm hlt, hne]
  · by_cases heq : a = b
    · simp [heq]
    · have hgt : b < a := Decidable.byContradiction fun hgt =>
        heq (Std.le_antisymm (Std.not_lt.1 hgt) (Std.not_lt.1 hlt))
      simp [hlt, heq, hgt]

theorem compareText_eq_iff {a b : Text} : compareText a b = .eq ↔ a = b := by
  unfold compareText
  by_cases hlt : a < b
  · have hne : a ≠ b := fun heq => List.lt_irrefl a (heq ▸ hlt)
    simp [hlt, hne]
  · by_cases heq : a = b <;> simp [hlt, heq]

section

variable {l r : Value}

theorem number_ne_null (x : Number) : number x ≠ null := by simp

theorem order?_eq (hl : l ≠ .null) (hr : r ≠ .null) :
    l.order? r = match l.toDouble?, r.toDouble? with
      | some x, some y => x.compare? y
      | _, _ => some (compareText l.display r.display) := by
  unfold order?
  split
  · exact absurd rfl hl
  · exact absurd rfl hr
  · rfl

/-- Swapping the sides swaps their order. -/
theorem order?_swap (hl : l ≠ .null) (hr : r ≠ .null) :
    r.order? l = (l.order? r).map Ordering.swap := by
  have htext := congrArg some (compareText_swap l.display r.display)
  rw [order?_eq hl hr, order?_eq hr hl]
  cases l.toDouble? with
  | none => cases r.toDouble? <;> exact htext
  | some x =>
    cases r.toDouble? with
    | none => exact htext
    | some y => exact Double.compare?_swap x y

/-- Only where one of two numeric values is not a number there is no order. -/
theorem order?_eq_none_iff (hl : l ≠ .null) (hr : r ≠ .null) :
    l.order? r = none ↔ l.Unordered r := by
  rw [order?_eq hl hr, unordered_iff]
  cases l.toDouble? with
  | none => simp
  | some x => cases r.toDouble? <;> simp [Double.compare?_eq_none_iff]

/-- A value stands to itself as an equal one, or not at all. -/
theorem order?_self_iff (hl : l ≠ .null) : l.order? l = some .eq ↔ ¬l.IsNan := by
  have hnan : l.order? l = none ↔ l.IsNan := by
    rw [order?_eq_none_iff hl hl]
    refine ⟨fun h => h.elim And.left And.right, fun h => Or.inl ⟨h, ?_⟩⟩
    simp [toDouble?_eq_nan_iff.2 h]
  have hswap := order?_swap hl hl
  rw [← hnan]
  generalize l.order? l = o at hswap ⊢
  revert o
  decide

/-- Truth values have different texts. -/
theorem bool_display_inj {a b : Bool} : (bool a).display = (bool b).display ↔ a = b := by
  revert a b
  decide

/-- Equality is that of the order. -/
theorem equals_eq_order? (hl : l ≠ .null) (hr : r ≠ .null) :
    l.equals r = (l.order? r == some .eq) := by
  rw [order?_eq hl hr]
  unfold equals
  split
  · exact absurd rfl hl
  · exact absurd rfl hl
  · exact absurd rfl hr
  · rename_i a b
    rw [Bool.eq_iff_iff]
    simp [toDouble?, compareText_eq_iff, bool_display_inj]
  · cases l.toDouble? with
    | none => rw [Bool.eq_iff_iff]; simp [compareText_eq_iff]
    | some x =>
      cases r.toDouble? with
      | none => rw [Bool.eq_iff_iff]; simp [compareText_eq_iff]
      | some y => rfl

end

end Value

/-- Which orders of two values a comparison holds for; `none` is no order. -/
def Comparison.accepts : Comparison → Option Ordering → Bool
  | eq, o => o == some .eq
  | ne, o => o != some .eq
  | lt, o => o == some .lt
  | gt, o => o == some .gt
  | le, o => o == some .lt || o == some .eq
  | ge, o => o == some .gt || o == some .eq
  | found, _ | notFound, _ => false

namespace Comparison

/-- The comparison that an order answers. -/
def ofOrdering : Ordering → Comparison
  | .lt => lt
  | .eq => eq
  | .gt => gt

theorem mem_and_accepts_iff {op : Comparison} {o : Ordering} :
    op ∈ [lt, eq, gt] ∧ op.accepts (some o) = true ↔ op = ofOrdering o := by
  cases op <;> cases o <;> decide

/-- Of the three ways in which values can stand to each other, exactly one holds where they have
an order. -/
theorem existsUnique_accepts_iff (o : Option Ordering) :
    (∃! op : Comparison, op ∈ [lt, eq, gt] ∧ op.accepts o = true) ↔ o ≠ none := by
  cases o with
  | none =>
    refine ⟨?_, fun h => absurd rfl h⟩
    rintro ⟨op, ⟨hop, h⟩, -⟩
    revert hop h
    cases op <;> decide
  | some o =>
    simp only [mem_and_accepts_iff]
    exact ⟨fun _ => nofun, fun _ => ⟨ofOrdering o, rfl, fun _ h => h⟩⟩

end Comparison

/-- The text that compares two operands, given as texts: `:a < :b`, for one. -/
def Comparison.source (op : Comparison) (left right : Text) : Text :=
  left ++ ' ' :: (op.symbol ++ ' ' :: right)

namespace Condition

open Name (IsName)

/-- The answer that the text of a condition has. -/
def answer (ctx : Context) (source : Text) (args : Args) : Except Error Bool :=
  match ofText source with
  | .error p => .error (.condition source p)
  | .ok c => c.holds ctx args

/-- A comparison of values holds or not as their order tells. -/
theorem compareValues_eq {op : Comparison} (hop : op ∉ [.found, .notFound]) {l r : Value}
    (hl : l ≠ .null) (hr : r ≠ .null) : compareValues op l r = .ok (op.accepts (l.order? r)) := by
  have heq := Value.equals_eq_order? hl hr
  cases op with
  | eq | ne => simp only [compareValues, heq, Comparison.accepts, bne]
  | lt | gt | le | ge => rfl
  | found | notFound => exact absurd hop (by decide)

section

variable {t u : Token} {left right : Operand}

/-- A comparison of operands of one token each. -/
theorem ofText_source (ht : Spellable t) (hu : Spellable u) (hleft : Derives (.operand left) [t])
    (hright : Derives (.operand right) [u]) (op : Comparison) :
    ofText (op.source t.spelling u.spelling) =
      .ok ⟨(op.source t.spelling u.spelling).trim, .compare left op right⟩ := by
  have hspellable : ∀ v ∈ [t, .comparison op, u], Spellable v :=
    List.forall_mem_cons.2 ⟨ht, List.forall_mem_cons.2 ⟨trivial, List.forall_mem_singleton.2 hu⟩⟩
  have hsplits : Splits (op.source t.spelling u.spelling) [t, .comparison op, u] := by
    simpa [Comparison.source, Token.spelling] using splits_join hspellable
  exact ofText_eq_ok_iff.2
    ⟨_, _, hsplits, (hleft.compare hright).expression_of_comparison, rfl⟩

theorem answer_source (ht : Spellable t) (hu : Spellable u) (hleft : Derives (.operand left) [t])
    (hright : Derives (.operand right) [u]) {op : Comparison} {ctx : Context} {args : Args}
    {l r : Value} (hl : meaning ctx args left = .ok (.value l))
    (hr : meaning ctx args right = .ok (.value r)) {b : Bool} (h : compareValues op l r = .ok b) :
    answer ctx (op.source t.spelling u.spelling) args = .ok b := by
  have heval : eval ctx args (.compare left op right) = .ok b := by
    simp only [eval, hl, hr]
    exact h
  simp only [answer, ofText_source ht hu hleft hright, holds, heval]

end

section

variable {ctx : Context} {args : Args} {l r : Value}

theorem meaning_argument {name : Text} (h : args.lookup? name = some l) :
    meaning ctx args (.argument name []) = .ok (.value l) := by
  simp only [meaning, h]
  rfl

/-- Two named arguments compare as their values do. -/
theorem answer_arguments {x y : Text} (hx : IsName x) (hy : IsName y) {op : Comparison}
    (hop : op ∉ [.found, .notFound]) (hxl : args.lookup? x = some l)
    (hyr : args.lookup? y = some r) (hl : l ≠ .null) (hr : r ≠ .null) :
    answer ctx (op.source (':' :: x) (':' :: y)) args = .ok (op.accepts (l.order? r)) :=
  answer_source (t := .argument x) (u := .argument y) hx hy (.argument .pipesNil)
    (.argument .pipesNil) (meaning_argument hxl) (meaning_argument hyr) (compareValues_eq hop hl hr)

end

theorem isName_singleton {c : Char} (h : Name.isStart c) : IsName [c] := spellable_word h rfl

/-- The arguments `a` and `b`. -/
def given (l r : Value) : Args := .ofList [("a".toList, l), ("b".toList, r)]

section

variable (ctx : Context) {l r : Value} {op : Comparison} (hop : op ∉ [.found, .notFound])
  (hl : l ≠ .null) (hr : r ≠ .null)
include hop hl hr

theorem answer_given :
    answer ctx (op.source ":a".toList ":b".toList) (given l r) = .ok (op.accepts (l.order? r)) :=
  answer_arguments (isName_singleton (by decide)) (isName_singleton (by decide)) hop rfl rfl hl hr

theorem answer_given_swapped :
    answer ctx (op.source ":b".toList ":a".toList) (given l r) = .ok (op.accepts (r.order? l)) :=
  answer_arguments (isName_singleton (by decide)) (isName_singleton (by decide)) hop rfl rfl hr hl

end

/-- Of less, equal and greater exactly one is answered, unless the values have no order. -/
theorem existsUnique_answer_iff (ctx : Context) {l r : Value} (hl : l ≠ .null) (hr : r ≠ .null) :
    (∃! op : Comparison, op ∈ [.lt, .eq, .gt] ∧
      answer ctx (op.source ":a".toList ":b".toList) (given l r) = .ok true) ↔ ¬l.Unordered r := by
  have hiff : ∀ op : Comparison, op ∈ [.lt, .eq, .gt] ∧
        answer ctx (op.source ":a".toList ":b".toList) (given l r) = .ok true ↔
      op ∈ [.lt, .eq, .gt] ∧ op.accepts (l.order? r) = true := by
    refine fun op => and_congr_right fun hop => ?_
    have hop' : op ∉ [.found, .notFound] := by
      revert hop
      cases op <;> decide
    rw [answer_given ctx hop' hl hr, Except.ok.injEq]
  rw [existsUnique_congr hiff, Comparison.existsUnique_accepts_iff, Ne,
    Value.order?_eq_none_iff hl hr]

/-- Comparing `:a` with `:b` is a trichotomy, unless one of two numeric values is not a number;
the other comparisons follow from less and equal, and every value but what is not a number equals
itself. -/
theorem existsUnique_comparison (ctx : Context) {l r : Value} (hl : l ≠ .null) (hr : r ≠ .null) :
    let ask (op : Comparison) := answer ctx (op.source ":a".toList ":b".toList) (given l r)
    (∀ op ∉ [.found, .notFound], ∃ b, ask op = .ok b) ∧
    ((∃! op, op ∈ [.lt, .eq, .gt] ∧ ask op = .ok true) ↔ ¬l.Unordered r) ∧
    ask .ne = (ask .eq).map (!·) ∧
    (ask .le = .ok true ↔ ask .lt = .ok true ∨ ask .eq = .ok true) ∧
    (ask .ge = .ok true ↔ ask .gt = .ok true ∨ ask .eq = .ok true) ∧
    (ask .gt = .ok true ↔
      answer ctx (Comparison.lt.source ":b".toList ":a".toList) (given l r) = .ok true) ∧
    (answer ctx (Comparison.eq.source ":a".toList ":b".toList) (given l l) = .ok true ↔
      ¬l.IsNan) := by
  intro ask
  have hask : ∀ op ∉ [.found, .notFound], ask op = .ok (op.accepts (l.order? r)) :=
    fun op hop => answer_given ctx hop hl hr
  refine ⟨fun op hop => ⟨_, hask op hop⟩, existsUnique_answer_iff ctx hl hr, ?ne, ?le, ?ge, ?gt,
    ?self⟩
  case ne =>
    rw [hask .ne (by decide), hask .eq (by decide)]
    rfl
  case le =>
    rw [hask .le (by decide), hask .lt (by decide), hask .eq (by decide)]
    simp [Comparison.accepts]
  case ge =>
    rw [hask .ge (by decide), hask .gt (by decide), hask .eq (by decide)]
    simp [Comparison.accepts]
  case gt =>
    rw [hask .gt (by decide), answer_given_swapped ctx (by decide) hl hr, Value.order?_swap hl hr]
    simp [Comparison.accepts]
  case self =>
    rw [answer_given ctx (by decide) hl hl, Except.ok.injEq, ← Value.order?_self_iff hl]
    simp [Comparison.accepts]

/-- A string that writes a number beyond all finite ones, beside an integer. -/
theorem existsUnique_comparison_string :
    (∃! op : Comparison, op ∈ [.lt, .eq, .gt] ∧
      answer ⟨true, .builtin⟩ (op.source ":a".toList ":b".toList)
        (given (.string " 1e400 ".toList) (.number (.integer 5))) = .ok true) ∧
    answer ⟨true, .builtin⟩ ":a = :b".toList
      (given (.string " 1e400 ".toList) (.string " 1e400 ".toList)) = .ok true := by
  have h := existsUnique_comparison ⟨true, .builtin⟩ (l := .string " 1e400 ".toList)
    (r := .number (.integer 5)) nofun nofun
  exact ⟨h.2.1.2 (by decide +kernel), h.2.2.2.2.2.2.2 (by decide +kernel)⟩

/-- A string that reads as what is not a number does not even equal itself. -/
theorem not_forall_existsUnique_answer :
    ¬∀ (ctx : Context) (l r : Value), l ≠ .null → r ≠ .null →
      ∃! op : Comparison, op ∈ [.lt, .eq, .gt] ∧
        answer ctx (op.source ":a".toList ":b".toList) (given l r) = .ok true := by
  intro h
  have hiff := existsUnique_answer_iff ⟨true, .builtin⟩ (l := .string "nan".toList)
    (r := .string "nan".toList) nofun nofun
  exact hiff.1 (h _ _ _ nofun nofun) (by decide +kernel)

end Condition

end SqlTemplate
