import SqlTemplate.Value

/-!
The texts of numbers: digits, letters and points, with a dash only in front of them all or in
front of the digits of an exponent.
-/
namespace SqlTemplate.Number

/-- The characters of a number other than its dashes. -/
def isNumeral (c : Char) : Bool := c.isAlphanum || c == '.' || c == '+'

/-- A text of numerals, perhaps with one dash that more numerals follow. -/
def Unsigned (t : Text) : Prop :=
  ∃ a b, (∀ c ∈ a ++ b, isNumeral c) ∧ a ≠ [] ∧ (t = a ∨ b ≠ [] ∧ t = a ++ '-' :: b)

theorem isNumeral_of_isDigit {c : Char} (h : c.isDigit) : isNumeral c := by
  simp [isNumeral, Char.isAlphanum, h]

theorem toList_toString (n : Nat) : (toString n).toList = Nat.toDigits 10 n := Nat.toList_repr

theorem isNumeral_of_all {t : Text} (h : t.all isNumeral) {c : Char} (hc : c ∈ t) : isNumeral c :=
  List.all_eq_true.1 h c hc

theorem isNumeral_toString {n : Nat} {c : Char} (h : c ∈ (toString n).toList) : isNumeral c := by
  rw [toList_toString] at h
  exact isNumeral_of_isDigit (Nat.isDigit_of_mem_toDigits (by decide) (by decide) h)

theorem toString_ne_nil (n : Nat) : (toString n).toList ≠ [] := by
  rw [toList_toString]
  exact Nat.toDigits_ne_nil

theorem unsigned_of_isNumeral {t : Text} (h : ∀ c ∈ t, isNumeral c) (hne : t ≠ []) : Unsigned t :=
  ⟨t, [], by simpa using h, hne, Or.inl rfl⟩

/-- The sign of an exponent is the only dash behind the front of a number. -/
theorem unsigned_exponent {front : String} (h : ∀ c ∈ front.toList, isNumeral c)
    (hne : front.toList ≠ []) (lead : Int) :
    Unsigned (front ++ (if lead < 0 then "-" else "+") ++ toString lead.natAbs).toList := by
  have hexp := toString_ne_nil lead.natAbs
  simp only [String.toList_append]
  by_cases hlead : lead < 0
  · rw [if_pos hlead]
    refine ⟨front.toList, (toString lead.natAbs).toList, ?_, ?_, Or.inr ⟨hexp, by simp⟩⟩
    · exact fun c hc => (List.mem_append.1 hc).elim (h c) isNumeral_toString
    · exact hne
  · rw [if_neg hlead]
    refine unsigned_of_isNumeral ?_ (by simp)
    simp only [List.mem_append]
    rintro c ((hc | hc) | hc)
    · exact h c hc
    · exact isNumeral_of_all (by decide) hc
    · exact isNumeral_toString hc

theorem unsigned_layout (d : Decimal) : Unsigned (Double.layout d).toList := by
  have hd : ∀ c ∈ (toString d.digits).toList, isNumeral c := fun c => isNumeral_toString
  have hzeros : ∀ n, ∀ c ∈ List.replicate n '0', isNumeral c := by
    intro n c hc
    rw [List.eq_of_mem_replicate hc]
    decide
  unfold Double.layout
  dsimp only
  split
  · -- below one: a zero, the point, more zeros and the digits
    refine unsigned_of_isNumeral ?_ (by simp)
    simp only [String.toList_append, String.toList_ofList, List.mem_append]
    rintro c ((hc | hc) | hc)
    · exact isNumeral_of_all (by decide) hc
    · exact hzeros _ c hc
    · exact hd c hc
  split
  · split
    · refine unsigned_of_isNumeral ?_ (by simp)
      simp only [String.toList_append, String.toList_ofList, List.mem_append]
      rintro c ((hc | hc) | hc)
      · exact hd c hc
      · exact hzeros _ c hc
      · exact isNumeral_of_all (by decide) hc
    · refine unsigned_of_isNumeral ?_ (by simp)
      simp only [String.toList_append, String.toList_ofList, List.mem_append]
      rintro c ((hc | hc) | hc)
      · exact hd c (List.mem_of_mem_take hc)
      · exact isNumeral_of_all (by decide) hc
      · exact hd c (List.mem_of_mem_drop hc)
  · refine unsigned_exponent ?_ (by simp) _
    simp only [String.toList_append, String.toList_ofList, List.mem_append]
    rintro c (((hc | hc) | hc) | hc)
    · exact hd c (List.mem_of_mem_take hc)
    · split at hc
      · simp at hc
      · exact isNumeral_of_all (by decide) hc
    · exact hd c (List.mem_of_mem_drop hc)
    · exact isNumeral_of_all (by decide) hc

/-- A text of numerals with at most one dash in front and one inside. -/
theorem text_eq (n : Number) :
    ∃ t, Unsigned t ∧ (n.text.toList = t ∨ n.text.toList = '-' :: t) := by
  cases n with
  | integer n =>
    cases n with
    | ofNat m =>
      exact ⟨_, unsigned_of_isNumeral (fun c => isNumeral_toString) (toString_ne_nil m), Or.inl rfl⟩
    | negSucc m =>
      refine ⟨_, unsigned_of_isNumeral (fun c => isNumeral_toString) (toString_ne_nil (m + 1)),
        Or.inr ?_⟩
      exact String.toList_append
  | double x =>
    cases x with
    | nan =>
      have hnan : ∀ c ∈ "NaN".toList, isNumeral c := fun c => isNumeral_of_all (by decide)
      exact ⟨_, unsigned_of_isNumeral hnan (by decide), Or.inl rfl⟩
    | infinite negative =>
      have hinf : ∀ c ∈ "inf".toList, isNumeral c := fun c => isNumeral_of_all (by decide)
      refine ⟨_, unsigned_of_isNumeral hinf (by decide), ?_⟩
      cases negative with
      | false => exact Or.inl rfl
      | true => exact Or.inr rfl
    | finite negative m e =>
      have ht : Unsigned (if m = 0 then "0.0" else Double.layout (Double.shortest m e)).toList := by
        split
        · exact unsigned_of_isNumeral (fun c => isNumeral_of_all (by decide)) (by decide)
        · exact unsigned_layout _
      refine ⟨_, ht, ?_⟩
      cases negative with
      | false => exact Or.inl (by simp [text, Double.text])
      | true => exact Or.inr (by simp [text, Double.text])

end SqlTemplate.Number
