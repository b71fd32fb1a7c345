import SqlTemplate.Proofs.Grammar

/-!
The sources of conditions.  A condition keeps its text without the blanks around it, and is read
from that again.  What directives hand on has no blanks around it, and neither has what a case
compares, since a case has to compare with something.
-/
namespace SqlTemplate

namespace Text

/-- Whether a text neither starts nor ends with a blank. -/
structure IsTrim (t : Text) : Prop where
  head : ∀ c, t.head? = some c → Unicode.isBlank c = false
  last : ∀ c, t.getLast? = some c → Unicode.isBlank c = false

theorem IsTrim.nil : IsTrim [] := by
  constructor <;> simp

theorem IsTrim.trim_eq {t : Text} (h : IsTrim t) : trim t = t := by
  rw [trim, skipBlanks_of_head h.head, trimEnd_of_getLast? h.last]

/-- What is trimmed at its end only, of a text with no blank in front. -/
theorem isTrim_trimEnd {t : Text} (h : ∀ c, t.head? = some c → Unicode.isBlank c = false) :
    IsTrim (trimEnd t) := by
  refine ⟨fun c hc => h c ?_, getLast?_trimEnd t⟩
  have hprefix : trimEnd t <+: t := by
    rw [trimEnd, ← List.reverse_suffix, List.reverse_reverse]
    exact List.dropWhile_suffix _
  obtain ⟨back, hback⟩ := hprefix
  rw [← hback, List.head?_append, hc]
  rfl

theorem isTrim_trim (t : Text) : IsTrim (trim t) := isTrim_trimEnd (head_skipBlanks t)

theorem IsTrim.append {a b : Text} (ha : IsTrim a) (hne : a ≠ [])
    (hb : ∀ c, b.getLast? = some c → Unicode.isBlank c = false) : IsTrim (a ++ b) := by
  refine ⟨fun c hc => ha.head c ?_, fun c hc => ?_⟩
  · cases a with
    | nil => exact absurd rfl hne
    | cons d a => exact hc
  · rw [List.getLast?_append] at hc
    cases hlast : b.getLast? with
    | none =>
      rw [hlast] at hc
      exact ha.last c hc
    | some d =>
      rw [hlast] at hc
      obtain rfl := Option.some.inj hc
      exact hb d hlast

end Text

namespace Condition

theorem punctuation?_eq_none {c : Char} (h : ∀ d ∈ "&|()=!<>~".toList, c ≠ d) (cs : Text) :
    punctuation? (c :: cs) = none := by
  unfold punctuation?
  split <;> simp_all

theorem isSwitchPart_of_isBlank {c : Char} (h : Unicode.isBlank c) :
    Directive.isSwitchPart c = false := Unicode.eq_false_of_isBlank (by decide +kernel) h

theorem token_of_isSwitchPart {c : Char} (h : Directive.isSwitchPart c)
    (hpart : Name.isPart c = false) (position : Nat) (cs : Text) :
    token position c cs = .error (.unexpectedCharacter c) := by
  have hne : ∀ d, Directive.isSwitchPart d = false → c ≠ d := by
    rintro d hd rfl
    simp [h] at hd
  have hmarks : ∀ d ∈ "&|()=!<>~".toList, Directive.isSwitchPart d = false :=
    Text.forall_mem_of_all (by decide +kernel)
  have hpunctuation : punctuation? (c :: cs) = none :=
    punctuation?_eq_none (fun d hd => hne d (hmarks d hd)) cs
  have hclasses : c.isDigit = false ∧ Name.isStart c = false := by
    simp only [Name.isPart, Char.isAlphanum, Bool.or_eq_false_iff] at hpart
    simp [Name.isStart, hpart]
  have hdash : (c == '-') = false := by simpa using hne '-' (by decide)
  rw [token, if_neg fun hc => hne ':' (by decide) hc.1, if_neg fun hc => hne '$' (by decide) hc.1,
    if_neg fun hc => hc.elim (hne '\x27' (by decide)) (hne '\x22' (by decide)), hclasses.1, hdash,
    hpunctuation, hclasses.2]
  rfl

theorem takeName_of_isSwitchPart {name : Text} (h : ∀ c ∈ name, Directive.isSwitchPart c)
    (rest : Text) :
    (takeName (name ++ ' ' :: rest)).2 = ' ' :: rest ∨
      ∃ c cs, (takeName (name ++ ' ' :: rest)).2 = c :: cs ∧ Directive.isSwitchPart c ∧
        Name.isPart c = false := by
  induction name with
  | nil => exact Or.inl rfl
  | cons c name ih =>
    obtain ⟨hc, hname⟩ := List.forall_mem_cons.1 h
    rw [List.cons_append, takeName]
    split
    · exact ih hname
    · rename_i hstop
      rw [Bool.or_eq_true, not_or] at hstop
      exact Or.inr ⟨c, _, rfl, hc, by simpa using hstop.1⟩

section

variable {size : Nat} {c : Char} {cs rest : Text} {t : Token}

theorem tokensFrom_blank (h : Unicode.isBlank c) : tokensFrom size (c :: cs) = tokensFrom size cs := by
  rw [tokensFrom, if_pos h]

theorem tokensFrom_token (hc : Unicode.isBlank c = false)
    (h : token (size - (cs.length + 1)) c cs = .ok (t, rest)) :
    tokensFrom size (c :: cs) = (tokensFrom size rest).map (t :: ·) := by
  rw [tokensFrom, if_neg (by simp [hc])]
  split
  · rename_i h'
    rw [h] at h'
    cases h'
  · rename_i h'
    rw [h] at h'
    obtain ⟨rfl, rfl⟩ := Prod.mk.inj (Except.ok.inj h')
    rfl

theorem tokensFrom_error {p : Problem} (hc : Unicode.isBlank c = false)
    (h : token (size - (cs.length + 1)) c cs = .error p) :
    tokensFrom size (c :: cs) = .error p := by
  rw [tokensFrom, if_neg (by simp [hc])]
  split
  · rename_i h'
    rw [h] at h'
    rw [Except.error.inj h']
  · rename_i h'
    rw [h] at h'
    cases h'

end

theorem tokensFrom_equals (size : Nat) :
    tokensFrom size [' ', '=', ' '] = .ok [.comparison .eq] := by
  have htoken : ∀ position, token position '=' [' '] = .ok (.comparison .eq, [' ']) := fun _ => rfl
  rw [tokensFrom_blank (by decide), tokensFrom_token (by decide) (htoken _),
    tokensFrom_blank (by decide), tokensFrom]
  rfl

/-- The tokens of a case that compares with nothing. -/
theorem tokens_caseSource_nil {name : Text} (h : ∀ c ∈ name, Directive.isSwitchPart c)
    {ts : List Token} (hts : tokens (Directive.caseSource name []) = .ok ts) :
    ∃ a, ts = [.argument a, .comparison .eq] := by
  have hsource : Directive.caseSource name [] = ':' :: (name ++ [' ', '=', ' ']) := by
    simp [Directive.caseSource]
  rw [hsource, tokens] at hts
  by_cases hstart : (name ++ [' ', '=', ' ']).head?.any Name.isStart
  · have htoken : ∀ position, token position ':' (name ++ [' ', '=', ' ']) =
        .ok (.argument (takeName (name ++ [' ', '=', ' '])).1,
          (takeName (name ++ [' ', '=', ' '])).2) := fun _ => by
      rw [token, if_pos ⟨rfl, hstart⟩]
    rw [tokensFrom_token (by decide) (htoken _)] at hts
    rcases takeName_of_isSwitchPart h ['=', ' '] with hrest | ⟨c, cs, hrest, hc, hpart⟩
    · rw [hrest, tokensFrom_equals] at hts
      exact ⟨_, (Except.ok.inj hts).symm⟩
    · have hblank : Unicode.isBlank c = false := by
        cases hb : Unicode.isBlank c with
        | false => rfl
        | true => simp [isSwitchPart_of_isBlank hb] at hc
      rw [hrest, tokensFrom_error hblank (token_of_isSwitchPart hc hpart _ cs)] at hts
      cases hts
  · have htoken : ∀ position, token position ':' (name ++ [' ', '=', ' ']) =
        .error (.unexpectedCharacter ':') := fun _ => by
      rw [token, if_neg fun hc => hstart hc.2]
      rfl
    rw [tokensFrom_error (by decide) (htoken _)] at hts
    cases hts

theorem formulaOfTokens_equals (a : Text) :
    formulaOfTokens [.argument a, .comparison .eq] = .error .unexpectedEnd := by
  rw [formulaOfTokens, disjunction, conjunction, unary, comparison, operand, pipes]
  · rfl
  · simp
  · simp
  · simp
  · simp

end Condition

namespace Directive

variable {l rest source name : Text} {k : Keyword} {n : Nat} {c : Condition}

theorem isTrim_of_read? (h : read? l = some (k, rest)) : Text.IsTrim rest := by
  obtain ⟨body, -, h⟩ := Option.bind_eq_some_iff.1 h
  obtain ⟨keyword, -, h⟩ := Option.bind_eq_some_iff.1 h
  obtain ⟨-, rfl⟩ := Prod.mk.inj (Option.some.inj h)
  exact Text.isTrim_trim _

theorem exists_of_condition (h : condition source n = .ok c) :
    source.isBlank = false ∧ Condition.ofText source = .ok c := by
  unfold condition at h
  split at h
  · cases h
  · rename_i hblank
    split at h
    · rename_i c' hof
      obtain rfl := Except.ok.inj h
      exact ⟨by simpa using hblank, hof⟩
    · cases h

theorem source_of_condition (hsource : Text.IsTrim source) (h : condition source n = .ok c) :
    c.source = source := by
  obtain ⟨-, hof⟩ := exists_of_condition h
  obtain ⟨ts, -, hof⟩ := exists_of_bind_eq_ok hof
  obtain ⟨formula, -, hof⟩ := exists_of_bind_eq_ok hof
  obtain rfl := Except.ok.inj hof
  exact hsource.trim_eq

/-- A case has to compare with something. -/
theorem condition_caseSource_nil (h : ∀ c ∈ name, isSwitchPart c) :
    condition (caseSource name []) n ≠ .ok c := by
  intro hc
  obtain ⟨-, hof⟩ := exists_of_condition hc
  obtain ⟨ts, hts, hof⟩ := exists_of_bind_eq_ok hof
  obtain ⟨a, rfl⟩ := Condition.tokens_caseSource_nil h hts
  rw [Condition.formulaOfTokens_equals] at hof
  cases hof

theorem isTrim_caseSource (hname : ∀ c ∈ name, isSwitchPart c) (hrest : Text.IsTrim rest)
    (h : condition (caseSource name rest) n = .ok c) : Text.IsTrim (caseSource name rest) := by
  have hne : rest ≠ [] := by
    rintro rfl
    exact condition_caseSource_nil hname h
  have hd : rest.getLast? = some (rest.getLast hne) := List.getLast?_eq_some_getLast hne
  refine ⟨fun c hc => ?_, fun c hc => hrest.last c ?_⟩
  · obtain rfl : ':' = c := Option.some.inj hc
    decide
  · rw [caseSource, List.getLast?_append, hd] at hc
    rw [hd]
    exact hc

theorem forall_of_switchName (h : switchName rest n = .ok name) :
    (∀ c ∈ name, isSwitchPart c) ∧ name ⊆ rest := by
  unfold switchName at h
  split at h
  · split at h
    · rename_i hname
      obtain rfl := Except.ok.inj h
      rw [Bool.and_eq_true] at hname
      exact ⟨List.all_eq_true.1 hname.2, List.subset_cons_self _ _⟩
    · cases h
  · cases h

end Directive

end SqlTemplate
