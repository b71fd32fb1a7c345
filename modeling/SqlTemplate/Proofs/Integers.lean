import SqlTemplate.Proofs.Comparing
import SqlTemplate.Proofs.Rounding

/-!
Integers in conditions.  An integer takes part in a comparison as the double nearest to it, so
integers are told apart exactly if those doubles are different; integers below `2 ^ 53` always are.
An integer that a condition writes out is compared in the same way, and no value without a numeric
value equals one.
-/
namespace SqlTemplate

/-- Integers of 64 bits are far below the infinities. -/
theorem Number.log2_natAbs_lt {n : Int} (h : Number.fits n) : n.natAbs.log2 < 1023 := by
  have hrange : -2 ^ 63 ≤ n ∧ n < 2 ^ 64 := by simpa [Number.fits] using h
  obtain hzero | hne := eq_or_ne n.natAbs 0
  · rw [hzero]
    decide
  · have hlt : n.natAbs.log2 < 65 := (Nat.log2_lt hne).2 (by omega)
    omega

namespace Condition

/-! The text of an integer is a number for the reader of doubles too. -/

/-- Digits have no case. -/
theorem toLower_of_isDigit {c : Char} (h : c.isDigit) : c.toLower = c := by
  have hupper : ¬(c.val ≥ 'A'.val ∧ c.val ≤ 'Z'.val) := by
    rintro ⟨hA, -⟩
    have hdigit : '0'.val ≤ c.val ∧ c.val ≤ '9'.val := by simpa [Char.isDigit] using h
    exact absurd (UInt32.le_trans hA hdigit.2) (by decide)
  rw [Char.toLower, dif_neg hupper]

theorem asciiLower_toDigits (n : Nat) : Text.asciiLower (Nat.toDigits 10 n) = Nat.toDigits 10 n :=
  (List.map_congr_left fun _ hc => toLower_of_isDigit (isDigit_of_mem_toDigits hc)).trans
    (List.map_id _)

/-- Digits, behind a sign or none, are read as a double. -/
theorem isSome_ofText?_of_takeSign {t : Text} {negative : Bool} {n : Nat}
    (h : takeSign t = (negative, Nat.toDigits 10 n)) : (Double.ofText? t).isSome := by
  obtain ⟨c, cs, hcs, hc⟩ := exists_toDigits_eq_cons n
  have hword : ∀ w : String, w.toList.head?.all (!·.isDigit) → Nat.toDigits 10 n ≠ w.toList := by
    intro w hw heq
    rw [← heq, hcs] at hw
    simp [hc] at hw
  have htake : (Nat.toDigits 10 n).takeWhile Char.isDigit = Nat.toDigits 10 n :=
    List.takeWhile_eq_self_iff.2 fun d => isDigit_of_mem_toDigits
  have hdrop : (Nat.toDigits 10 n).dropWhile Char.isDigit = [] :=
    List.dropWhile_eq_nil_iff.2 fun d => isDigit_of_mem_toDigits
  have hne : (Nat.toDigits 10 n).isEmpty = false := by rw [hcs]; rfl
  simp only [Double.ofText?, h, asciiLower_toDigits]
  rw [if_neg (not_or.2 ⟨hword _ (by decide), hword _ (by decide)⟩), if_neg (hword _ (by decide))]
  simp [Double.ofUnsigned?, htake, hdrop, hne, Double.exponentOfText?]

theorem isTrim_of_isNumeral {t : Text} (h : IsNumeral t) : Text.IsTrim t := by
  obtain ⟨c, cs, rfl, hc, hcs⟩ := h
  have hblank : ∀ d ∈ c :: cs, Unicode.isBlank d = false := by
    refine List.forall_mem_cons.2 ⟨?_, fun d hd => ?_⟩
    · obtain hdigit | ⟨rfl, -⟩ := hc
      · exact isBlank_of_isDigit hdigit
      · decide
    · have hpart := hcs d hd
      rw [isNumberPart, Bool.or_eq_true, beq_iff_eq] at hpart
      obtain hdigit | rfl := hpart
      · exact isBlank_of_isDigit hdigit
      · decide
  exact ⟨fun d hd => hblank d (List.mem_of_head? hd),
    fun d hd => hblank d (List.mem_of_getLast? hd)⟩

theorem exists_takeSign_text (n : Int) :
    ∃ negative k, takeSign (Number.integer n).text.toList = (negative, Nat.toDigits 10 k) := by
  cases n with
  | ofNat k =>
    have htext : (Number.integer (.ofNat k)).text.toList = Nat.toDigits 10 k :=
      Number.toList_toString k
    exact ⟨false, k, by rw [htext, takeSign_toDigits]⟩
  | negSucc k =>
    have htext : (Number.integer (.negSucc k)).text.toList = '-' :: Nat.toDigits 10 (k + 1) := by
      rw [← Number.toList_toString]
      exact String.toList_append
    exact ⟨true, k + 1, by rw [htext, takeSign]⟩

section

variable {n : Int}

/-- A value that shows as an integer does has a numeric value. -/
theorem isSome_toDouble?_of_display {v : Value} (hsmall : (Number.integer n).IsSmall)
    (h : v.display = (Number.integer n).text.toList) : v.toDouble?.isSome := by
  obtain ⟨hnumeral, -⟩ := number?_text hsmall
  have hhead : ∀ c : Char, ¬(c.isDigit ∨ c = '-') → v.display.head? ≠ some c := by
    intro c hc hhead
    obtain ⟨d, ds, hds, hd, -⟩ := hnumeral
    rw [h, hds] at hhead
    cases hhead
    exact hc (hd.imp_right And.left)
  cases v with
  | number => rfl
  | string s =>
    obtain ⟨negative, k, hsign⟩ := exists_takeSign_text n
    obtain rfl : s = (Number.integer n).text.toList := h
    rw [Value.toDouble?, (isTrim_of_isNumeral hnumeral).trim_eq]
    exact isSome_ofText?_of_takeSign hsign
  | null => exact absurd rfl (hhead 'n' (by decide))
  | bool b => cases b with
    | true => exact absurd rfl (hhead 't' (by decide))
    | false => exact absurd rfl (hhead 'f' (by decide))
  | array => exact absurd rfl (hhead '[' (by decide))
  | object => exact absurd rfl (hhead '\x7b' (by decide))

/-- What equals an integer: the values with a numeric value that equals its double. -/
theorem equals_integer_iff {v : Value} (hsmall : (Number.integer n).IsSmall) :
    v.equals (.number (.integer n)) = true ↔
      ∃ x, v.toDouble? = some x ∧ x.compare? (.ofInt n) = some .eq := by
  obtain rfl | hv := eq_or_ne v .null
  · simp [Value.equals, Value.toDouble?]
  have hdouble : (Value.number (.integer n)).toDouble? = some (.ofInt n) := rfl
  rw [Value.equals_eq_order? hv (Value.number_ne_null _),
    Value.order?_eq hv (Value.number_ne_null _), hdouble]
  cases hx : v.toDouble? with
  | some x => simp
  | none =>
    have hdisplay : v.display ≠ (Value.number (.integer n)).display := by
      intro heq
      have hsome := isSome_toDouble?_of_display hsmall heq
      simp [hx] at hsome
    simp [Value.compareText_eq_iff, hdisplay]

end

section

variable {m n : Int} (hm : Number.fits m) (hn : Number.fits n)
include hm hn

/-- Two integers stand to each other as their doubles do. -/
theorem order?_integer : (Value.number (.integer m)).order? (.number (.integer n)) =
    some (compare (Double.nearest m) (Double.nearest n)) := by
  rw [Value.order?_eq (Value.number_ne_null _) (Value.number_ne_null _)]
  exact Double.compare?_ofInt (Number.log2_natAbs_lt hm) (Number.log2_natAbs_lt hn)

theorem answer_given_integer (ctx : Context) {op : Comparison} (hop : op ∉ [.found, .notFound]) :
    answer ctx (op.source ":a".toList ":b".toList)
      (given (.number (.integer m)) (.number (.integer n))) =
        .ok (op.accepts (some (compare (Double.nearest m) (Double.nearest n)))) := by
  rw [answer_given ctx hop (Value.number_ne_null _) (Value.number_ne_null _),
    order?_integer hm hn]

/-- The doubles of two integers are in order if the integers are, but may be equal. -/
theorem answer_lt_iff (ctx : Context) :
    answer ctx (Comparison.lt.source ":a".toList ":b".toList)
        (given (.number (.integer m)) (.number (.integer n))) = .ok true ↔
      m < n ∧ Double.nearest m ≠ Double.nearest n := by
  rw [answer_given_integer hm hn ctx (by decide), Except.ok.injEq]
  simp only [Comparison.accepts, beq_iff_eq, Option.some.injEq, compare_lt_iff_lt]
  constructor
  · exact fun hlt => ⟨Double.nearest_mono.reflect_lt hlt, hlt.ne⟩
  · exact fun h => lt_of_le_of_ne (Double.nearest_mono h.1.le) h.2

theorem answer_eq_iff (ctx : Context) :
    answer ctx (Comparison.eq.source ":a".toList ":b".toList)
        (given (.number (.integer m)) (.number (.integer n))) = .ok true ↔
      Double.nearest m = Double.nearest n := by
  rw [answer_given_integer hm hn ctx (by decide), Except.ok.injEq]
  simp [Comparison.accepts]

end

/-- The answer of `:a` compared with an integer that is written out. -/
theorem answer_literal (ctx : Context) {n : Int} (hsmall : (Number.integer n).IsSmall)
    (v : Value) : answer ctx (Comparison.eq.source ":a".toList (toString n).toList)
      (.ofList [("a".toList, v)]) = .ok (v.equals (.number (.integer n))) :=
  answer_source (t := .argument "a".toList) (u := .number (.integer n))
    (isName_singleton (by decide)) hsmall (.argument .pipesNil) (.atom (.number _))
    (meaning_argument rfl) rfl rfl

theorem answer_literal_iff (ctx : Context) {n : Int} (hsmall : (Number.integer n).IsSmall)
    (v : Value) :
    answer ctx (Comparison.eq.source ":a".toList (toString n).toList)
        (.ofList [("a".toList, v)]) = .ok true ↔
      ∃ x, v.toDouble? = some x ∧ x.compare? (.ofInt n) = some .eq := by
  rw [answer_literal ctx hsmall v, Except.ok.injEq, equals_integer_iff hsmall]

/-- Integers compare as the doubles nearest to them do. -/
theorem answer_integer (ctx : Context) {m n : Int} (hm : Number.fits m) (hn : Number.fits n) :
    let ask (op : Comparison) := answer ctx (op.source ":a".toList ":b".toList)
      (given (.number (.integer m)) (.number (.integer n)))
    let literal (v : Value) := answer ctx (Comparison.eq.source ":a".toList (toString n).toList)
      (.ofList [("a".toList, v)])
    (ask .eq = .ok true ↔ Double.nearest m = Double.nearest n) ∧
    (ask .lt = .ok true ↔ m < n ∧ Double.nearest m ≠ Double.nearest n) ∧
    (m.natAbs < 2 ^ 53 ∨ n.natAbs < 2 ^ 53 →
      (ask .eq = .ok true ↔ m = n) ∧ (ask .lt = .ok true ↔ m < n)) ∧
    (n < 2 ^ 63 →
      (∀ v, literal v = .ok true ↔
        ∃ x, v.toDouble? = some x ∧ x.compare? (.ofInt n) = some .eq) ∧
      (literal (.number (.integer m)) = .ok true ↔ Double.nearest m = Double.nearest n) ∧
      (m.natAbs < 2 ^ 53 ∨ n.natAbs < 2 ^ 53 →
        (literal (.number (.integer m)) = .ok true ↔ m = n))) := by
  intro ask literal
  have heq : ask .eq = .ok true ↔ Double.nearest m = Double.nearest n := answer_eq_iff hm hn ctx
  have hlt := answer_lt_iff hm hn ctx
  have hexact : m.natAbs < 2 ^ 53 ∨ n.natAbs < 2 ^ 53 →
      (Double.nearest m = Double.nearest n ↔ m = n) := by
    rintro (hsmall | hsmall)
    · exact Double.nearest_eq_iff hsmall
    · rw [eq_comm, Double.nearest_eq_iff hsmall, eq_comm]
  refine ⟨heq, hlt, fun hsmall => ⟨heq.trans (hexact hsmall), ?_⟩, fun hhigh => ?_⟩
  · rw [hlt, Ne, hexact hsmall]
    exact and_iff_left_of_imp ne_of_lt
  · have hlow : -2 ^ 63 ≤ n ∧ n < 2 ^ 64 := by simpa [Number.fits] using hn
    have hliteral := answer_literal_iff ctx ⟨n, rfl, hlow.1, hhigh⟩
    have hinteger : literal (.number (.integer m)) = .ok true ↔
        Double.nearest m = Double.nearest n := by
      have hdouble : (Value.number (.integer m)).toDouble? = some (.ofInt m) := rfl
      have hcompare :=
        Double.compare?_ofInt (Number.log2_natAbs_lt hm) (Number.log2_natAbs_lt hn)
      rw [hliteral, hdouble]
      simp [hcompare]
    exact ⟨hliteral, hinteger, fun hsmall => hinteger.trans (hexact hsmall)⟩

/-- The least integer beside the greatest one that is told apart from all others, and that one
beside itself. -/
theorem answer_integer_least :
    answer ⟨true, .builtin⟩ ":a < :b".toList
      (given (.number (.integer (-2 ^ 63))) (.number (.integer (2 ^ 53 - 1)))) = .ok true ∧
    answer ⟨true, .builtin⟩ ":a = 9007199254740991".toList
      (.ofList [("a".toList, .number (.integer (2 ^ 53 - 1)))]) = .ok true := by
  have hlt := answer_integer ⟨true, .builtin⟩ (m := -2 ^ 63) (n := 2 ^ 53 - 1) (by decide)
    (by decide)
  have heq := answer_integer ⟨true, .builtin⟩ (m := 2 ^ 53 - 1) (n := 2 ^ 53 - 1) (by decide)
    (by decide)
  exact ⟨(hlt.2.2.1 (by decide)).2.2 (by decide),
    ((heq.2.2.2 (by decide)).2.2 (by decide)).2 rfl⟩

/-- The first integer that no double is equal to passes for its neighbour. -/
theorem not_forall_answer_eq_iff :
    ¬∀ (ctx : Context) (m n : Int), Number.fits m → Number.fits n →
      (answer ctx (Comparison.eq.source ":a".toList ":b".toList)
        (given (.number (.integer m)) (.number (.integer n))) = .ok true ↔ m = n) := by
  intro h
  have hanswer := answer_eq_iff (m := 2 ^ 53) (n := 2 ^ 53 + 1) (by decide) (by decide)
    ⟨true, .builtin⟩
  exact absurd ((h _ _ _ (by decide) (by decide)).1 (hanswer.2 (by decide +kernel))) (by decide)

end Condition

end SqlTemplate
