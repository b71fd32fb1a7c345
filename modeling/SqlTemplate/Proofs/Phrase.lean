import SqlTemplate.Proofs.Lexeme

/-!
The grammar of conditions.  What the reader of conditions accepts are the token lists that a
grammar derives, and the formula is the tree of the derivation.
-/
namespace SqlTemplate.Condition

/-- What the grammar derives. -/
inductive Phrase where
  | expression (f : Formula)
  /-- Alternatives, each behind its connective. -/
  | alternatives (fs : List Formula)
  | conjunction (f : Formula)
  | conjuncts (fs : List Formula)
  | unary (f : Formula)
  | comparison (f : Formula)
  | operand (o : Operand)
  /-- Names of pipes, each behind its bar. -/
  | pipes (names : List Text)

/-- What `is` may compare with. -/
inductive NullOrBlank : Text → Operand → Prop
  | null {w : Text} (h : w.sameWord "null".toList) : NullOrBlank w (.literal .null)
  | blank {w : Text} (h : w.sameWord "blank".toList) : NullOrBlank w .blank

/-- The operands of one token, other than arguments. -/
inductive Atom : Token → Operand → Prop
  | string (s : Text) : Atom (.string s) (.literal (.string s))
  | number (n : Number) : Atom (.number n) (.literal (.number n))
  | word (w : Text) : Atom (.word w) (wordOperand w)

/-- Which tokens a phrase is derived from. -/
inductive Derives : Phrase → List Token → Prop
  | expression {first : Formula} {more : List Formula} {ts us : List Token}
    (hfirst : Derives (.conjunction first) ts) (hmore : Derives (.alternatives more) us) :
    Derives (.expression (chain .any first more)) (ts ++ us)
  | alternativesNil : Derives (.alternatives []) []
  | alternativesCons {next : Formula} {more : List Formula} {ts us : List Token}
    (hnext : Derives (.conjunction next) ts) (hmore : Derives (.alternatives more) us) :
    Derives (.alternatives (next :: more)) (.or :: (ts ++ us))
  | conjunction {first : Formula} {more : List Formula} {ts us : List Token}
    (hfirst : Derives (.unary first) ts) (hmore : Derives (.conjuncts more) us) :
    Derives (.conjunction (chain .all first more)) (ts ++ us)
  | conjunctsNil : Derives (.conjuncts []) []
  | conjunctsCons {next : Formula} {more : List Formula} {ts us : List Token}
    (hnext : Derives (.unary next) ts) (hmore : Derives (.conjuncts more) us) :
    Derives (.conjuncts (next :: more)) (.and :: (ts ++ us))
  | not {part : Formula} {ts : List Token} (h : Derives (.unary part) ts) :
    Derives (.unary (.not part)) (.bang :: ts)
  | parentheses {f : Formula} {ts : List Token} (h : Derives (.expression f) ts) :
    Derives (.unary f) (.openParen :: (ts ++ [.closeParen]))
  | comparison {f : Formula} {ts : List Token} (h : Derives (.comparison f) ts) :
    Derives (.unary f) ts
  | compare {left right : Operand} {op : Comparison} {ts us : List Token}
    (hleft : Derives (.operand left) ts) (hright : Derives (.operand right) us) :
    Derives (.comparison (.compare left op right)) (ts ++ .comparison op :: us)
  | is {left right : Operand} {ts : List Token} {is w : Text} (hleft : Derives (.operand left) ts)
    (his : is.sameWord "is".toList) (hw : NullOrBlank w right) :
    Derives (.comparison (.compare left .eq right)) (ts ++ [.word is, .word w])
  | isNot {left right : Operand} {ts : List Token} {is not w : Text}
    (hleft : Derives (.operand left) ts) (his : is.sameWord "is".toList)
    (hnot : not.sameWord "not".toList) (hw : NullOrBlank w right) :
    Derives (.comparison (.compare left .ne right)) (ts ++ [.word is, .word not, .word w])
  | test {o : Operand} {ts : List Token} (h : Derives (.operand o) ts) :
    Derives (.comparison (.test o)) ts
  | argument {name : Text} {names : List Text} {ts : List Token}
    (h : Derives (.pipes names) ts) :
    Derives (.operand (.argument name names)) (.argument name :: ts)
  | atom {t : Token} {o : Operand} (h : Atom t o) : Derives (.operand o) [t]
  | pipesNil : Derives (.pipes []) []
  | pipesCons {w : Text} {names : List Text} {ts : List Token} (h : Derives (.pipes names) ts) :
    Derives (.pipes (w :: names)) (.pipe :: .word w :: ts)

/-- Whether the reader for a phrase takes it from the front of some tokens and leaves the rest. -/
def Phrase.Reads : Phrase → List Token → List Token → Prop
  | .expression f, ts, rest => ∃ h, disjunction ts = .ok ⟨f, rest, h⟩
  | .alternatives fs, ts, rest => ∃ h, disjuncts ts = .ok ⟨fs, rest, h⟩
  | .conjunction f, ts, rest => ∃ h, Condition.conjunction ts = .ok ⟨f, rest, h⟩
  | .conjuncts fs, ts, rest => ∃ h, Condition.conjuncts ts = .ok ⟨fs, rest, h⟩
  | .unary f, ts, rest => ∃ h, Condition.unary ts = .ok ⟨f, rest, h⟩
  | .comparison f, ts, rest => ∃ h, Condition.comparison ts = .ok ⟨f, rest, h⟩
  | .operand o, ts, rest => ∃ h, Condition.operand ts = .ok ⟨o, rest, h⟩
  | .pipes names, ts, rest => ∃ h, Condition.pipes ts = .ok ⟨names, rest, h⟩

/-! What each reader does. -/

section

variable {ts rest : List Token} {f : Formula} {fs : List Formula} {names : List Text}

/-- Two readers, of which the second one starts where the first one ends. -/
theorem bind_bind_eq_ok_iff {α γ : Type} {β : α → Type} {x : Except Problem α}
    {y : (a : α) → Except Problem (β a)} {make : (a : α) → β a → γ} {c : γ} :
    (do let a ← x; let b ← y a; .ok (make a b)) = Except.ok c ↔
      ∃ a b, x = .ok a ∧ y a = .ok b ∧ make a b = c := by
  constructor
  · intro h
    obtain ⟨a, ha, h⟩ := exists_of_bind_eq_ok h
    obtain ⟨b, hb, h⟩ := exists_of_bind_eq_ok h
    exact ⟨a, b, ha, hb, Except.ok.inj h⟩
  · rintro ⟨a, b, ha, hb, rfl⟩
    rw [ha]
    dsimp only [bind, Except.bind]
    rw [hb]

section

variable {x : (us : List Token) → Except Problem (Parsed Formula us)}
  {y : (us : List Token) → Except Problem (ParsedMany Formula us)}

theorem reads_chain_iff {node : List Formula → Formula}
    {hlt : ∀ (first : Parsed Formula ts) (more : ParsedMany Formula first.rest),
      more.rest.length < ts.length} :
    (∃ h, (do
      let first ← x ts
      let more ← y first.rest
      .ok ⟨chain node first.value more.values, more.rest, hlt first more⟩) =
      (.ok ⟨f, rest, h⟩ : Except Problem (Parsed Formula ts))) ↔
    ∃ first more mid, f = chain node first more ∧ (∃ h, x ts = .ok ⟨first, mid, h⟩) ∧
      ∃ h, y mid = .ok ⟨more, rest, h⟩ := by
  simp only [bind_bind_eq_ok_iff]
  constructor
  · rintro ⟨hlt, first, more, hfirst, hmore, h⟩
    cases h
    exact ⟨first.value, more.values, first.rest, rfl, ⟨first.shorter, hfirst⟩,
      ⟨more.notLonger, hmore⟩⟩
  · rintro ⟨first, more, mid, rfl, ⟨hlt, hfirst⟩, ⟨hle, hmore⟩⟩
    exact ⟨hle.trans_lt hlt, _, _, hfirst, hmore, rfl⟩

/-- The connective in front, a part is read and then more of them. -/
theorem reads_some_iff {t : Token} {us : List Token}
    {hle : ∀ (next : Parsed Formula us) (more : ParsedMany Formula next.rest),
      more.rest.length ≤ (t :: us).length} :
    (∃ h, (do
      let next ← x us
      let more ← y next.rest
      .ok ⟨next.value :: more.values, more.rest, hle next more⟩) =
      (.ok ⟨fs, rest, h⟩ : Except Problem (ParsedMany Formula (t :: us)))) ↔
    (fs = [] ∧ rest = t :: us ∧ (t :: us).head? ≠ some t) ∨
      ∃ us', t :: us = t :: us' ∧ ∃ next more mid, fs = next :: more ∧
        (∃ h, x us' = .ok ⟨next, mid, h⟩) ∧ ∃ h, y mid = .ok ⟨more, rest, h⟩ := by
  simp only [bind_bind_eq_ok_iff]
  constructor
  · rintro ⟨hle, next, more, hnext, hmore, h⟩
    cases h
    exact Or.inr ⟨us, rfl, next.value, more.values, next.rest, rfl, ⟨next.shorter, hnext⟩,
      ⟨more.notLonger, hmore⟩⟩
  · rintro (⟨-, -, hne⟩ | ⟨us', hts, next, more, mid, rfl, ⟨hlt, hnext⟩, ⟨hle, hmore⟩⟩)
    · exact absurd rfl hne
    · obtain rfl := (List.cons.inj hts).2
      exact ⟨(hle.trans hlt.le).trans (Nat.le_succ _), _, _, hnext, hmore, rfl⟩

/-- Without the connective in front, no more parts are read. -/
theorem reads_none_iff {t : Token} (ht : ∀ us, ts = t :: us → False) {more : List Token → Prop} :
    (∃ h, (.ok ⟨[], ts, Nat.le_refl _⟩ : Except Problem (ParsedMany Formula ts)) =
      .ok ⟨fs, rest, h⟩) ↔
      (fs = [] ∧ rest = ts ∧ ts.head? ≠ some t) ∨ ∃ us, ts = t :: us ∧ more us := by
  constructor
  · rintro ⟨hle, h⟩
    cases h
    refine Or.inl ⟨rfl, rfl, fun hhead => ?_⟩
    obtain ⟨us, hus⟩ := List.head?_eq_some_iff.1 hhead
    exact ht us hus
  · rintro (⟨rfl, rfl, -⟩ | ⟨us, hus, -⟩)
    · exact ⟨le_rfl, rfl⟩
    · exact (ht us hus).elim

end

theorem reads_expression_iff : (Phrase.expression f).Reads ts rest ↔
    ∃ first more mid, f = chain .any first more ∧ (Phrase.conjunction first).Reads ts mid ∧
      (Phrase.alternatives more).Reads mid rest := by
  rw [Phrase.Reads, disjunction]
  exact reads_chain_iff

theorem reads_alternatives_iff : (Phrase.alternatives fs).Reads ts rest ↔
    (fs = [] ∧ rest = ts ∧ ts.head? ≠ some .or) ∨
      ∃ us, ts = .or :: us ∧ ∃ next more mid, fs = next :: more ∧
        (Phrase.conjunction next).Reads us mid ∧ (Phrase.alternatives more).Reads mid rest := by
  rw [Phrase.Reads, disjuncts.eq_def]
  split
  · exact reads_some_iff
  · exact reads_none_iff ‹_›

theorem reads_conjunction_iff : (Phrase.conjunction f).Reads ts rest ↔
    ∃ first more mid, f = chain .all first more ∧ (Phrase.unary first).Reads ts mid ∧
      (Phrase.conjuncts more).Reads mid rest := by
  rw [Phrase.Reads, conjunction]
  exact reads_chain_iff

theorem reads_conjuncts_iff : (Phrase.conjuncts fs).Reads ts rest ↔
    (fs = [] ∧ rest = ts ∧ ts.head? ≠ some .and) ∨
      ∃ us, ts = .and :: us ∧ ∃ next more mid, fs = next :: more ∧
        (Phrase.unary next).Reads us mid ∧ (Phrase.conjuncts more).Reads mid rest := by
  rw [Phrase.Reads, conjuncts.eq_def]
  split
  · exact reads_some_iff
  · exact reads_none_iff ‹_›

theorem reads_unary_iff : (Phrase.unary f).Reads ts rest ↔
    (∃ us part, ts = .bang :: us ∧ f = .not part ∧ (Phrase.unary part).Reads us rest) ∨
    (∃ us, ts = .openParen :: us ∧ (Phrase.expression f).Reads us (.closeParen :: rest)) ∨
    (ts.head? ≠ some .bang ∧ ts.head? ≠ some .openParen ∧ (Phrase.comparison f).Reads ts rest) := by
  rw [Phrase.Reads, unary.eq_def]
  split
  · rename_i us
    constructor
    · rintro ⟨hlt, h⟩
      obtain ⟨part, hpart, h⟩ := exists_of_bind_eq_ok h
      cases h
      exact Or.inl ⟨us, part.value, rfl, rfl, part.shorter, hpart⟩
    · rintro (⟨us', part, hts, rfl, hlt, hpart⟩ | ⟨us', hts, -⟩ | ⟨hne, -⟩)
      · obtain rfl := (List.cons.inj hts).2
        refine ⟨Nat.lt_succ_of_lt hlt, ?_⟩
        rw [hpart]
        rfl
      · cases hts
      · exact absurd rfl hne
  · rename_i us
    constructor
    · rintro ⟨hlt, h⟩
      obtain ⟨⟨value, mid, hmid⟩, hinner, h⟩ := exists_of_bind_eq_ok h
      split at h
      · rename_i rest' hrest
        obtain rfl : mid = .closeParen :: rest' := hrest
        cases h
        exact Or.inr (Or.inl ⟨us, rfl, hmid, hinner⟩)
      · cases h
    · rintro (⟨us', part, hts, -⟩ | ⟨us', hts, hlt, hinner⟩ | ⟨-, hne, -⟩)
      · cases hts
      · obtain rfl := (List.cons.inj hts).2
        refine ⟨(Nat.lt_succ_self _).trans (hlt.trans (Nat.lt_succ_self _)), ?_⟩
        rw [hinner]
        rfl
      · exact absurd rfl hne
  · rename_i hbang hparen
    constructor
    · intro h
      refine Or.inr (Or.inr ⟨fun hhead => ?_, fun hhead => ?_, h⟩)
      · obtain ⟨us, rfl⟩ := List.head?_eq_some_iff.1 hhead
        exact hbang us rfl
      · obtain ⟨us, rfl⟩ := List.head?_eq_some_iff.1 hhead
        exact hparen us rfl
    · rintro (⟨us, part, rfl, -⟩ | ⟨us, rfl, -⟩ | ⟨-, -, h⟩)
      · exact absurd rfl (hbang us)
      · exact absurd rfl (hparen us)
      · exact h

theorem reads_pipes_iff : (Phrase.pipes names).Reads ts rest ↔
    (names = [] ∧ rest = ts ∧ ts.head? ≠ some .pipe) ∨
      ∃ us w more, ts = .pipe :: .word w :: us ∧ names = w :: more ∧
        (Phrase.pipes more).Reads us rest := by
  rw [Phrase.Reads, pipes.eq_def]
  split
  · rename_i w us
    constructor
    · rintro ⟨hle, h⟩
      obtain ⟨more, hmore, h⟩ := exists_of_bind_eq_ok h
      cases h
      exact Or.inr ⟨us, w, more.values, rfl, rfl, more.notLonger, hmore⟩
    · rintro (⟨-, -, hne⟩ | ⟨us', w', more, hts, rfl, hle, hmore⟩)
      · exact absurd rfl hne
      · cases hts
        refine ⟨hle.trans ((Nat.le_succ _).trans (Nat.le_succ _)), ?_⟩
        rw [hmore]
        rfl
  · rename_i us hus
    constructor
    · rintro ⟨hle, h⟩
      cases h
    · rintro (⟨-, -, hne⟩ | ⟨us', w, more, hts, -⟩)
      · exact absurd rfl hne
      · exact absurd (List.cons.inj hts).2 (hus w us')
  · rename_i hpipe
    constructor
    · rintro ⟨hle, h⟩
      cases h
      refine Or.inl ⟨rfl, rfl, fun hhead => ?_⟩
      obtain ⟨us, rfl⟩ := List.head?_eq_some_iff.1 hhead
      exact hpipe us rfl
    · rintro (⟨rfl, rfl, -⟩ | ⟨us, w, more, rfl, -⟩)
      · exact ⟨le_rfl, rfl⟩
      · exact absurd rfl (hpipe _)

theorem reads_operand_iff {o : Operand} : (Phrase.operand o).Reads ts rest ↔
    (∃ us name names, ts = .argument name :: us ∧ o = .argument name names ∧
      (Phrase.pipes names).Reads us rest) ∨ ∃ t, ts = t :: rest ∧ Atom t o := by
  constructor
  · rintro ⟨hlt, h⟩
    unfold Condition.operand at h
    split at h
    · cases h
    · obtain ⟨more, hmore, h⟩ := exists_of_bind_eq_ok h
      cases h
      exact Or.inl ⟨_, _, more.values, rfl, rfl, more.notLonger, hmore⟩
    · cases h
      exact Or.inr ⟨_, rfl, .string _⟩
    · cases h
      exact Or.inr ⟨_, rfl, .number _⟩
    · cases h
      exact Or.inr ⟨_, rfl, .word _⟩
    · cases h
  · rintro (⟨us, name, names, rfl, rfl, hle, hpipes⟩ | ⟨t, rfl, h⟩)
    · refine ⟨Nat.lt_succ_of_le hle, ?_⟩
      rw [operand, hpipes]
      rfl
    · cases h <;> exact ⟨Nat.lt_succ_self _, rfl⟩

theorem sameWord_of_sameWord {w a b : Text} (ha : w.sameWord a) (hb : w.sameWord b) :
    a.sameWord b := by
  simp only [Text.sameWord, beq_iff_eq] at ha hb ⊢
  rw [← ha, hb]

theorem exists_nullOrBlank_iff {o : Operand} :
    (∃ h, nullOrBlank ts = .ok ⟨o, rest, h⟩) ↔ ∃ w, ts = .word w :: rest ∧ NullOrBlank w o := by
  constructor
  · rintro ⟨hlt, h⟩
    unfold nullOrBlank at h
    split at h
    · split at h
      · rename_i hnull
        cases h
        exact ⟨_, rfl, .null hnull⟩
      · split at h
        · rename_i hblank
          cases h
          exact ⟨_, rfl, .blank hblank⟩
        · cases h
    · cases h
  · rintro ⟨w, rfl, hw⟩
    refine ⟨Nat.lt_succ_self _, ?_⟩
    cases hw with
    | null h => rw [nullOrBlank, if_pos h]
    | blank h =>
      have hnull : ¬w.sameWord "null".toList := fun hnull =>
        absurd (sameWord_of_sameWord hnull h) (by decide)
      rw [nullOrBlank, if_neg hnull, if_pos h]

theorem negated_of_not {w : Text} (h : w.sameWord "not".toList) (ts : List Token) :
    negated (.word w :: ts) = (true, ts) := if_pos h

theorem negated_of_nullOrBlank {w : Text} {o : Operand} (h : NullOrBlank w o) (ts : List Token) :
    negated (.word w :: ts) = (false, .word w :: ts) := by
  refine if_neg fun hnot => ?_
  cases h with
  | null h => exact absurd (sameWord_of_sameWord hnot h) (by decide)
  | blank h => exact absurd (sameWord_of_sameWord hnot h) (by decide)

theorem negated_spec (ts : List Token) :
    (∃ w us, ts = .word w :: us ∧ w.sameWord "not".toList ∧ negated ts = (true, us)) ∨
      negated ts = (false, ts) := by
  unfold negated
  split
  · split
    · rename_i h
      exact Or.inl ⟨_, _, rfl, h, rfl⟩
    · exact Or.inr rfl
  · exact Or.inr rfl

/-- What may stand behind an operand. -/
inductive Tail (left : Operand) : Formula → List Token → List Token → Prop
  | compare {op : Comparison} {right : Operand} {us rest : List Token}
    (h : (Phrase.operand right).Reads us rest) :
    Tail left (.compare left op right) (.comparison op :: us) rest
  | is {right : Operand} {is w : Text} {rest : List Token} (his : is.sameWord "is".toList)
    (hw : NullOrBlank w right) : Tail left (.compare left .eq right) (.word is :: .word w :: rest) rest
  | isNot {right : Operand} {is not w : Text} {rest : List Token} (his : is.sameWord "is".toList)
    (hnot : not.sameWord "not".toList) (hw : NullOrBlank w right) :
    Tail left (.compare left .ne right) (.word is :: .word not :: .word w :: rest) rest
  | test {rest : List Token} (hcomparison : ∀ op, rest.head? ≠ some (.comparison op))
    (his : ∀ w, rest.head? = some (.word w) → w.sameWord "is".toList = false) :
    Tail left (.test left) rest rest

theorem reads_is {left right : Operand} {is w : Text} {us : List Token} {negative : Bool}
    (hlt : (.word is :: us).length < ts.length)
    (hleft : Condition.operand ts = .ok ⟨left, .word is :: us, hlt⟩) (his : is.sameWord "is".toList)
    (hnegated : negated us = (negative, .word w :: rest)) (hw : NullOrBlank w right) :
    (Phrase.comparison (.compare left (if negative then .ne else .eq) right)).Reads ts rest := by
  have hright : ∃ h, nullOrBlank (negated us).2 = .ok ⟨right, rest, h⟩ := by
    rw [hnegated]
    exact exists_nullOrBlank_iff.2 ⟨w, rfl, hw⟩
  obtain ⟨hrest, hright⟩ := hright
  have hle := length_negated_le us
  refine ⟨by simp only [List.length_cons] at hlt; omega, ?_⟩
  rw [Condition.comparison, hleft]
  dsimp only [bind, Except.bind]
  rw [if_pos his, hright]
  simp [hnegated]

theorem reads_comparison_iff : (Phrase.comparison f).Reads ts rest ↔
    ∃ left mid, (Phrase.operand left).Reads ts mid ∧ Tail left f mid rest := by
  constructor
  · rintro ⟨hlt, h⟩
    unfold Condition.comparison at h
    obtain ⟨⟨left, mid, hmid⟩, hleft, h⟩ := exists_of_bind_eq_ok h
    refine ⟨left, mid, ⟨hmid, hleft⟩, ?_⟩
    dsimp only at h
    split at h
    · obtain ⟨⟨right, us, hus⟩, hright, h⟩ := exists_of_bind_eq_ok h
      cases h
      exact .compare ⟨hus, hright⟩
    · rename_i w us
      split at h
      · rename_i his
        obtain ⟨⟨right, us', hus'⟩, hright, h⟩ := exists_of_bind_eq_ok h
        obtain ⟨w', hnegated, hw'⟩ := exists_nullOrBlank_iff.1 ⟨hus', hright⟩
        cases h
        dsimp only
        rcases negated_spec us with ⟨not, us'', rfl, hnot, heq⟩ | heq
        · rw [heq] at hnegated ⊢
          obtain rfl : us'' = _ := hnegated
          exact .isNot his hnot hw'
        · rw [heq] at hnegated ⊢
          obtain rfl : us = _ := hnegated
          exact .is his hw'
      · rename_i his
        cases h
        refine .test (by simp) fun w' hw' => ?_
        cases hw'
        simpa using his
    · rename_i hcomparison hword
      cases h
      refine .test (fun op hhead => ?_) fun w hhead => ?_
      · obtain ⟨us, rfl⟩ := List.head?_eq_some_iff.1 hhead
        exact absurd rfl (hcomparison op us)
      · obtain ⟨us, rfl⟩ := List.head?_eq_some_iff.1 hhead
        exact absurd rfl (hword w us)
  · rintro ⟨left, mid, ⟨hlt, hleft⟩, htail⟩
    cases htail with
    | compare h =>
      obtain ⟨hright, h⟩ := h
      refine ⟨(hright.trans (Nat.lt_succ_self _)).trans hlt, ?_⟩
      rw [Condition.comparison, hleft]
      dsimp only [bind, Except.bind]
      rw [h]
    | is his hw => exact reads_is hlt hleft his (negated_of_nullOrBlank hw _) hw
    | isNot his hnot hw => exact reads_is hlt hleft his (negated_of_not hnot _) hw
    | test hcomparison his =>
      refine ⟨hlt, ?_⟩
      rw [Condition.comparison, hleft]
      dsimp only [bind, Except.bind]
      split
      · exact absurd rfl (hcomparison _)
      · rename_i w us
        rw [if_neg (by simpa using his w rfl)]
      · rfl

end

/-- The place of a phrase among those that the same tokens are read as. -/
@[simp] def Phrase.level : Phrase → Nat
  | .expression _ | .alternatives _ => 4
  | .conjunction _ | .conjuncts _ => 3
  | .unary _ => 2
  | .comparison _ => 1
  | .operand _ | .pipes _ => 0

/-- What the reader for a phrase takes is what the grammar derives. -/
theorem derives_of_reads (p : Phrase) (ts rest : List Token) (h : p.Reads ts rest) :
    ∃ us, ts = us ++ rest ∧ Derives p us := by
  -- a reader hands on fewer tokens, or the same ones to a reader of a lower level
  match p, h with
  | .expression f, h =>
    obtain ⟨first, more, mid, rfl, hfirst, hmore⟩ := reads_expression_iff.1 h
    have hlt : mid.length < ts.length := hfirst.1
    obtain ⟨us, hts, hus⟩ := derives_of_reads _ ts mid hfirst
    obtain ⟨vs, hmid, hvs⟩ := derives_of_reads _ mid rest hmore
    exact ⟨us ++ vs, by rw [hts, hmid, List.append_assoc], hus.expression hvs⟩
  | .alternatives fs, h =>
    obtain ⟨rfl, rfl, -⟩ | ⟨us, hts, next, more, mid, rfl, hnext, hmore⟩ := reads_alternatives_iff.1 h
    · exact ⟨[], rfl, .alternativesNil⟩
    · have hlt : mid.length < us.length := hnext.1
      have hlt' : us.length < ts.length := by rw [hts]; exact Nat.lt_succ_self _
      obtain ⟨vs, hus, hvs⟩ := derives_of_reads _ us mid hnext
      obtain ⟨ws, hmid, hws⟩ := derives_of_reads _ mid rest hmore
      exact ⟨_, by rw [hts, hus, hmid]; simp, hvs.alternativesCons hws⟩
  | .conjunction f, h =>
    obtain ⟨first, more, mid, rfl, hfirst, hmore⟩ := reads_conjunction_iff.1 h
    have hlt : mid.length < ts.length := hfirst.1
    obtain ⟨us, hts, hus⟩ := derives_of_reads _ ts mid hfirst
    obtain ⟨vs, hmid, hvs⟩ := derives_of_reads _ mid rest hmore
    exact ⟨us ++ vs, by rw [hts, hmid, List.append_assoc], hus.conjunction hvs⟩
  | .conjuncts fs, h =>
    obtain ⟨rfl, rfl, -⟩ | ⟨us, hts, next, more, mid, rfl, hnext, hmore⟩ := reads_conjuncts_iff.1 h
    · exact ⟨[], rfl, .conjunctsNil⟩
    · have hlt : mid.length < us.length := hnext.1
      have hlt' : us.length < ts.length := by rw [hts]; exact Nat.lt_succ_self _
      obtain ⟨vs, hus, hvs⟩ := derives_of_reads _ us mid hnext
      obtain ⟨ws, hmid, hws⟩ := derives_of_reads _ mid rest hmore
      exact ⟨_, by rw [hts, hus, hmid]; simp, hvs.conjunctsCons hws⟩
  | .unary f, h =>
    obtain ⟨us, part, hts, rfl, hpart⟩ | ⟨us, hts, hinner⟩ | ⟨-, -, hcomparison⟩ :=
      reads_unary_iff.1 h
    · have hlt : us.length < ts.length := by rw [hts]; exact Nat.lt_succ_self _
      obtain ⟨vs, hus, hvs⟩ := derives_of_reads _ us rest hpart
      exact ⟨_, by rw [hts, hus]; simp, hvs.not⟩
    · have hlt : us.length < ts.length := by rw [hts]; exact Nat.lt_succ_self _
      obtain ⟨vs, hus, hvs⟩ := derives_of_reads _ us (.closeParen :: rest) hinner
      exact ⟨_, by rw [hts, hus]; simp, hvs.parentheses⟩
    · obtain ⟨us, hts, hus⟩ := derives_of_reads _ ts rest hcomparison
      exact ⟨us, hts, hus.comparison⟩
  | .comparison f, h =>
    obtain ⟨left, mid, hleft, htail⟩ := reads_comparison_iff.1 h
    have hlt : mid.length < ts.length := hleft.1
    obtain ⟨us, hts, hus⟩ := derives_of_reads _ ts mid hleft
    cases htail with
    | @compare op right ws _ hright =>
      have hlt' : ws.length < ts.length := (Nat.lt_succ_self _).trans hlt
      obtain ⟨vs, hws, hvs⟩ := derives_of_reads _ ws rest hright
      exact ⟨_, by rw [hts, hws]; simp, hus.compare hvs⟩
    | is his hw => exact ⟨_, by rw [hts]; simp, hus.is his hw⟩
    | isNot his hnot hw => exact ⟨_, by rw [hts]; simp, hus.isNot his hnot hw⟩
    | test => exact ⟨us, hts, hus.test⟩
  | .operand o, h =>
    obtain ⟨us, name, names, hts, rfl, hpipes⟩ | ⟨t, rfl, hatom⟩ := reads_operand_iff.1 h
    · have hlt : us.length < ts.length := by rw [hts]; exact Nat.lt_succ_self _
      obtain ⟨vs, hus, hvs⟩ := derives_of_reads _ us rest hpipes
      exact ⟨_, by rw [hts, hus]; simp, hvs.argument⟩
    · exact ⟨[t], rfl, .atom hatom⟩
  | .pipes names, h =>
    obtain ⟨rfl, rfl, -⟩ | ⟨us, w, more, hts, rfl, hmore⟩ := reads_pipes_iff.1 h
    · exact ⟨[], rfl, .pipesNil⟩
    · have hlt : us.length < ts.length := by rw [hts]; simp only [List.length_cons]; omega
      obtain ⟨vs, hus, hvs⟩ := derives_of_reads _ us rest hmore
      exact ⟨_, by rw [hts, hus]; simp, hvs.pipesCons⟩
termination_by (ts.length, p.level)
decreasing_by
  all_goals first
    | exact Prod.Lex.left _ _ (by omega)
    | exact Prod.Lex.right _ (by simp)

/-! What is derived is read, where nothing behind it would be taken for more of it. -/

/-- The level from which on phrases take a token behind them for their own. -/
@[simp] def tokenLevel : Token → Nat
  | .pipe => 0
  | .comparison _ | .word _ => 1
  | .and => 3
  | .or => 4
  | _ => 5

def Phrase.Ends (p : Phrase) (rest : List Token) : Prop :=
  ∀ t, rest.head? = some t → p.level < tokenLevel t

section

variable {p q : Phrase} {ts rest : List Token} {t : Token}

theorem Phrase.Ends.cons (h : p.level < tokenLevel t) : p.Ends (t :: ts) := fun _ hu =>
  Option.some.inj hu ▸ h

theorem Phrase.Ends.of_level (h : q.Ends rest) (hle : p.level ≤ q.level) : p.Ends rest :=
  fun t ht => hle.trans_lt (h t ht)

theorem Phrase.Ends.head?_ne (h : p.Ends rest) (ht : tokenLevel t ≤ p.level) :
    rest.head? ≠ some t := fun hhead => absurd (h t hhead) (Nat.not_lt.2 ht)

theorem Phrase.Ends.append_alternatives {fs : List Formula} (hfs : Derives (.alternatives fs) ts)
    (h : (Phrase.alternatives fs).Ends rest) (f : Formula) :
    (Phrase.conjunction f).Ends (ts ++ rest) := by
  cases hfs with
  | alternativesNil => exact h.of_level (by simp)
  | alternativesCons => exact .cons (by simp)

theorem Phrase.Ends.append_conjuncts {fs : List Formula} (hfs : Derives (.conjuncts fs) ts)
    (h : (Phrase.conjuncts fs).Ends rest) (f : Formula) : (Phrase.unary f).Ends (ts ++ rest) := by
  cases hfs with
  | conjunctsNil => exact h.of_level (by simp)
  | conjunctsCons => exact .cons (by simp)

/-- What an operand starts with tells it from a negation and from parentheses. -/
theorem Derives.head_of_operand {o : Operand} (h : Derives (.operand o) ts) :
    ∃ t us, ts = t :: us ∧ t ≠ .bang ∧ t ≠ .openParen := by
  cases h with
  | argument => exact ⟨_, _, rfl, by simp, by simp⟩
  | atom hatom => cases hatom <;> exact ⟨_, _, rfl, by simp, by simp⟩

theorem Derives.head_of_comparison {f : Formula} (h : Derives (.comparison f) ts) :
    ∃ t us, ts = t :: us ∧ t ≠ .bang ∧ t ≠ .openParen := by
  cases h with
  | compare hleft | is hleft | isNot hleft =>
    obtain ⟨t, us, rfl, ht⟩ := hleft.head_of_operand
    exact ⟨t, _, rfl, ht⟩
  | test h => exact h.head_of_operand

end

theorem Derives.reads {p : Phrase} {ts : List Token} (h : Derives p ts) {rest : List Token}
    (hrest : p.Ends rest) : p.Reads (ts ++ rest) rest := by
  induction h generalizing rest with
  | expression hfirst hmore ih₁ ih₂ =>
    rw [List.append_assoc]
    exact reads_expression_iff.2
      ⟨_, _, _, rfl, ih₁ (.append_alternatives hmore hrest _), ih₂ hrest⟩
  | alternativesNil =>
    exact reads_alternatives_iff.2 (Or.inl ⟨rfl, rfl, hrest.head?_ne (by simp)⟩)
  | alternativesCons hnext hmore ih₁ ih₂ =>
    rw [List.cons_append, List.append_assoc]
    exact reads_alternatives_iff.2 (Or.inr
      ⟨_, rfl, _, _, _, rfl, ih₁ (.append_alternatives hmore hrest _), ih₂ hrest⟩)
  | conjunction hfirst hmore ih₁ ih₂ =>
    rw [List.append_assoc]
    exact reads_conjunction_iff.2 ⟨_, _, _, rfl, ih₁ (.append_conjuncts hmore hrest _), ih₂ hrest⟩
  | conjunctsNil => exact reads_conjuncts_iff.2 (Or.inl ⟨rfl, rfl, hrest.head?_ne (by simp)⟩)
  | conjunctsCons hnext hmore ih₁ ih₂ =>
    rw [List.cons_append, List.append_assoc]
    exact reads_conjuncts_iff.2 (Or.inr
      ⟨_, rfl, _, _, _, rfl, ih₁ (.append_conjuncts hmore hrest _), ih₂ hrest⟩)
  | not h ih => exact reads_unary_iff.2 (Or.inl ⟨_, _, rfl, rfl, ih hrest⟩)
  | parentheses h ih =>
    rw [List.cons_append, List.append_assoc]
    exact reads_unary_iff.2 (Or.inr (Or.inl ⟨_, rfl, ih (.cons (by simp))⟩))
  | comparison h ih =>
    obtain ⟨t, us, rfl, hbang, hparen⟩ := h.head_of_comparison
    exact reads_unary_iff.2 (Or.inr (Or.inr
      ⟨fun ht => hbang (Option.some.inj ht), fun ht => hparen (Option.some.inj ht),
        ih (hrest.of_level (by simp))⟩))
  | compare hleft hright ih₁ ih₂ =>
    rw [List.append_assoc]
    exact reads_comparison_iff.2
      ⟨_, _, ih₁ (.cons (by simp)), .compare (ih₂ (hrest.of_level (by simp)))⟩
  | is hleft his hw ih =>
    rw [List.append_assoc]
    exact reads_comparison_iff.2 ⟨_, _, ih (.cons (by simp)), .is his hw⟩
  | isNot hleft his hnot hw ih =>
    rw [List.append_assoc]
    exact reads_comparison_iff.2 ⟨_, _, ih (.cons (by simp)), .isNot his hnot hw⟩
  | test h ih =>
    refine reads_comparison_iff.2 ⟨_, _, ih (hrest.of_level (by simp)), .test ?_ ?_⟩
    · exact fun op => hrest.head?_ne (by simp)
    · exact fun w hw => absurd hw (hrest.head?_ne (by simp))
  | argument h ih => exact reads_operand_iff.2 (Or.inl ⟨_, _, _, rfl, rfl, ih hrest⟩)
  | atom hatom => exact reads_operand_iff.2 (Or.inr ⟨_, rfl, hatom⟩)
  | pipesNil => exact reads_pipes_iff.2 (Or.inl ⟨rfl, rfl, hrest.head?_ne (by simp)⟩)
  | pipesCons h ih => exact reads_pipes_iff.2 (Or.inr ⟨_, _, _, rfl, rfl, ih hrest⟩)

theorem formulaOfTokens_eq_ok_iff {ts : List Token} {f : Formula} :
    formulaOfTokens ts = .ok f ↔ Derives (.expression f) ts := by
  constructor
  · intro h
    obtain ⟨⟨value, rest, hlt⟩, hparsed, h⟩ := exists_of_bind_eq_ok h
    cases rest with
    | nil =>
      obtain rfl : value = f := Except.ok.inj h
      obtain ⟨us, hts, hus⟩ := derives_of_reads (.expression value) ts [] ⟨hlt, hparsed⟩
      rw [List.append_nil] at hts
      rwa [hts]
    | cons t rest => cases h
  · intro h
    have hread : (Phrase.expression f).Reads (ts ++ []) [] := h.reads fun t ht => by cases ht
    rw [List.append_nil] at hread
    obtain ⟨hlt, hread⟩ := hread
    rw [formulaOfTokens, hread]
    rfl

/-- The text of a condition is one if it splits into tokens that the grammar derives, and then the
formula is the tree of the derivation. -/
theorem ofText_eq_ok_iff {source : Text} {c : Condition} :
    ofText source = .ok c ↔ ∃ ts f, Splits source ts ∧ Derives (.expression f) ts ∧
      c = ⟨source.trim, f⟩ := by
  constructor
  · intro h
    obtain ⟨ts, hts, h⟩ := exists_of_bind_eq_ok h
    obtain ⟨f, hf, h⟩ := exists_of_bind_eq_ok h
    exact ⟨ts, f, tokens_eq_ok_iff.1 hts, formulaOfTokens_eq_ok_iff.1 hf, (Except.ok.inj h).symm⟩
  · rintro ⟨ts, f, hts, hf, rfl⟩
    rw [ofText, tokens_eq_ok_iff.2 hts]
    dsimp only [bind, Except.bind]
    rw [formulaOfTokens_eq_ok_iff.2 hf]

end SqlTemplate.Condition
