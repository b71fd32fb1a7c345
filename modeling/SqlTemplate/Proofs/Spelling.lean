import SqlTemplate.Proofs.Literal
import SqlTemplate.Proofs.Phrase

/-!
Printing conditions.  A formula is printed with parentheses around every part of a chain and behind
every negation, with strings in quotes, and with a blank between lexemes; from its print, the same
formula is read.
-/
namespace SqlTemplate

open Name (IsName)

def Comparison.symbol : Comparison → Text
  | eq => "=".toList
  | ne => "<>".toList
  | lt => "<".toList
  | gt => ">".toList
  | le => "<=".toList
  | ge => ">=".toList
  | found => "~".toList
  | notFound => "!~".toList

/-- A token as it is printed. -/
def Token.spelling : Token → Text
  | argument name => ':' :: name
  | string s => quoteText s
  | number n => n.text.toList
  | word w => w
  | comparison op => op.symbol
  | and => "&&".toList
  | or => "||".toList
  | bang => "!".toList
  | pipe => "|".toList
  | openParen => "(".toList
  | closeParen => ")".toList

/-- Names of pipes, each behind its bar. -/
def pipeTokens (names : List Text) : List Token := names.flatMap fun w => [.pipe, .word w]

/-- No condition compares with an array or an object. -/
def Operand.tokens : Operand → List Token
  | argument name pipes => .argument name :: pipeTokens pipes
  | literal .null => [.word "null".toList]
  | literal (.bool true) => [.word "true".toList]
  | literal (.bool false) => [.word "false".toList]
  | literal (.number n) => [.number n]
  | literal (.string s) => [.string s]
  | literal (.array _) | literal (.object _) => []
  | blank => [.word "blank".toList]

namespace Formula

def enclosed (ts : List Token) : List Token := .openParen :: (ts ++ [.closeParen])

mutual

def tokens : Formula → List Token
  | any [] | all [] => []
  | any (first :: more) => enclosed first.tokens ++ moreTokens .or more
  | all (first :: more) => enclosed first.tokens ++ moreTokens .and more
  | not part => .bang :: enclosed part.tokens
  | compare left op right => left.tokens ++ .comparison op :: right.tokens
  | test o => o.tokens

/-- Parts of a chain, each behind the connective. -/
def moreTokens (connective : Token) : List Formula → List Token
  | [] => []
  | part :: parts => connective :: (enclosed part.tokens ++ moreTokens connective parts)

end

def print (f : Formula) : Text := Text.join [' '] (f.tokens.map Token.spelling)

mutual

def operands : Formula → List Operand
  | any parts => operandsOf parts
  | all parts => operandsOf parts
  | not part => part.operands
  | compare left _ right => [left, right]
  | test o => [o]

def operandsOf : List Formula → List Operand
  | [] => []
  | part :: parts => part.operands ++ operandsOf parts

end

end Formula

/-- Whether a number is an integer of 64 bits. -/
def Number.IsSmall (n : Number) : Prop := ∃ i, n = .integer i ∧ -2 ^ 63 ≤ i ∧ i < 2 ^ 63

/-- Whether an operand is one that is read as it is printed: its argument, if it has one, has a
name that may stand behind a colon, and its number is an integer of 64 bits. -/
def Operand.Plain : Operand → Prop
  | argument name _ => IsName name
  | literal (.number n) => n.IsSmall
  | _ => True

namespace Condition

/-! Small integers are read as they are printed. -/

theorem natOfDigits_toDigits (n : Nat) : natOfDigits (Nat.toDigits 10 n) = n :=
  Nat.ofDigitChars_ten_toDigits

theorem isDigit_of_mem_toDigits {n : Nat} {c : Char} (h : c ∈ Nat.toDigits 10 n) : c.isDigit :=
  Nat.isDigit_of_mem_toDigits (by decide) (by decide) h

theorem isNumberPart_of_mem_toDigits {n : Nat} {c : Char} (h : c ∈ Nat.toDigits 10 n) :
    isNumberPart c := by
  simp [isNumberPart, isDigit_of_mem_toDigits h]

theorem exists_toDigits_eq_cons (n : Nat) :
    ∃ c cs, Nat.toDigits 10 n = c :: cs ∧ c.isDigit := by
  obtain ⟨c, cs, hcs⟩ := List.exists_cons_of_ne_nil (Nat.toDigits_ne_nil (n := n) (b := 10))
  exact ⟨c, cs, hcs, isDigit_of_mem_toDigits (n := n) (by rw [hcs]; exact List.mem_cons_self)⟩

theorem isNumeral_toDigits (n : Nat) : IsNumeral (Nat.toDigits 10 n) := by
  obtain ⟨c, cs, hcs, hc⟩ := exists_toDigits_eq_cons n
  refine ⟨c, cs, hcs, Or.inl hc, fun d hd => isNumberPart_of_mem_toDigits (n := n) ?_⟩
  rw [hcs]
  exact List.mem_cons_of_mem c hd

theorem isNumeral_dash (n : Nat) : IsNumeral ('-' :: Nat.toDigits 10 n) := by
  obtain ⟨c, cs, hcs, hc⟩ := exists_toDigits_eq_cons n
  refine ⟨'-', _, rfl, Or.inr ⟨rfl, ?_⟩, fun d => isNumberPart_of_mem_toDigits⟩
  rw [hcs]
  exact hc

theorem takeSign_toDigits (n : Nat) :
    takeSign (Nat.toDigits 10 n) = (false, Nat.toDigits 10 n) := by
  obtain ⟨c, cs, hcs, hc⟩ := exists_toDigits_eq_cons n
  rw [hcs]
  unfold takeSign
  split
  · rename_i heq
    rw [(List.cons.inj heq).1] at hc
    exact absurd hc (by decide)
  · rename_i heq
    rw [(List.cons.inj heq).1] at hc
    exact absurd hc (by decide)
  · rfl

theorem number?_of_takeSign {t : Text} {negative : Bool} {n : Nat} {i : Int}
    (hsign : takeSign t = (negative, Nat.toDigits 10 n))
    (hi : i = if negative then -(n : Int) else n) (hlow : -2 ^ 63 ≤ i) (hhigh : i < 2 ^ 63) :
    number? t = some (.integer i) := by
  have hdigits : (Nat.toDigits 10 n).all Char.isDigit :=
    List.all_eq_true.2 fun d => isDigit_of_mem_toDigits
  have hne : (Nat.toDigits 10 n).isEmpty = false := by simp [Nat.toDigits_ne_nil]
  have hpow : Int.pow 2 63 = 2 ^ 63 := rfl
  simp only [number?, hsign, natOfDigits_toDigits, ← hi, hdigits, hne, hpow, hlow, hhigh]
  rfl

theorem number?_text {n : Number} (h : n.IsSmall) :
    IsNumeral n.text.toList ∧ number? n.text.toList = some n := by
  obtain ⟨i, rfl, hlow, hhigh⟩ := h
  cases i with
  | ofNat m =>
    have htext : (Number.integer (.ofNat m)).text.toList = Nat.toDigits 10 m :=
      Number.toList_toString m
    rw [htext]
    exact ⟨isNumeral_toDigits m, number?_of_takeSign (takeSign_toDigits m) rfl hlow hhigh⟩
  | negSucc m =>
    have htext : (Number.integer (.negSucc m)).text.toList = '-' :: Nat.toDigits 10 (m + 1) := by
      rw [← Number.toList_toString]
      exact String.toList_append
    rw [htext]
    exact ⟨isNumeral_dash (m + 1), number?_of_takeSign rfl rfl hlow hhigh⟩

/-! Printed tokens are lexemes. -/

/-- Whether a token can be read from its spelling. -/
def Spellable : Token → Prop
  | .argument name => IsName name
  | .number n => n.IsSmall
  | .word w => IsName w
  | _ => True

theorem lexeme_mark {t rest : Text} {token : Token}
    (h : (t, token) ∈ marks.map fun m => (m.1, m.2.1)) (hrest : rest.head?.all (· == ' ')) :
    Lexeme t token rest := by
  obtain ⟨⟨_, _, longer⟩, hm, heq⟩ := List.mem_map.1 h
  obtain ⟨rfl, rfl⟩ := Prod.mk.inj heq
  refine .mark hm fun c hc hhead => ?_
  have hmarks : marks.all (fun m => !m.2.2.contains ' ') = true := by decide +kernel
  have hlonger : ' ' ∉ longer := by simpa using List.all_eq_true.1 hmarks _ hm
  rw [hhead] at hrest
  have hc' : c = ' ' := by simpa using hrest
  exact hlonger (hc' ▸ hc)

/-- A blank behind a token ends it, and so does the end of the text. -/
theorem lexeme_spelling {t : Token} (h : Spellable t) {rest : Text}
    (hrest : rest.head?.all (· == ' ')) : Lexeme t.spelling t rest := by
  have hends : ∀ p : Char → Bool, p ' ' = false → ¬rest.head?.any p := by
    intro p hp
    cases rest with
    | nil => simp
    | cons c rest =>
      have hc : c = ' ' := by simpa using hrest
      simp [hc, hp]
  have hstops : Name.Stops rest := by
    cases rest with
    | nil => exact trivial
    | cons c rest =>
      obtain rfl : c = ' ' := by simpa using hrest
      exact ⟨by decide, fun hc => absurd hc (by decide)⟩
  cases t with
  | argument name => exact .argument h hstops
  | string s =>
    refine .string (Or.inl rfl) fun hhead => ?_
    exact hends (· == '\x27') (by decide) (by rw [hhead]; decide)
  | number n =>
    obtain ⟨hnumeral, hn⟩ := number?_text h
    exact .number hnumeral hn (hends _ (by decide))
  | word w => exact .word h hstops
  | comparison op => cases op <;> exact lexeme_mark (by decide) hrest
  | _ => exact lexeme_mark (by decide) hrest

theorem splits_join {ts : List Token} (h : ∀ t ∈ ts, Spellable t) :
    Splits (Text.join [' '] (ts.map Token.spelling)) ts := by
  induction ts with
  | nil => exact .nil
  | cons t ts ih =>
    obtain ⟨ht, hts⟩ := List.forall_mem_cons.1 h
    cases ts with
    | nil =>
      have hlexeme := Splits.lexeme (lexeme_spelling ht Option.all_none) .nil
      simpa using hlexeme
    | cons u ts =>
      have hmore := Splits.blank (c := ' ') (by decide) (ih hts)
      have hlexeme := Splits.lexeme (lexeme_spelling ht rfl) hmore
      simpa using hlexeme

/-- The words among the tokens of a text are names. -/
theorem Splits.isName {cs : Text} {ts : List Token} (h : Splits cs ts) {w : Text}
    (hw : .word w ∈ ts) : IsName w := by
  induction h with
  | nil => cases hw
  | blank hc h ih => exact ih hw
  | lexeme first more ih =>
    rcases List.mem_cons.1 hw with rfl | hw
    · cases first with
      | word hname => exact hname
      | mark hmark => simp [marks] at hmark
    · exact ih hw

/-! The tokens of a formula are derived again. -/

section

variable {f : Formula} {ts : List Token}

theorem Derives.conjunction_of_unary (h : Derives (.unary f) ts) : Derives (.conjunction f) ts := by
  simpa [chain] using h.conjunction .conjunctsNil

theorem Derives.expression_of_conjunction (h : Derives (.conjunction f) ts) :
    Derives (.expression f) ts := by
  simpa [chain] using h.expression .alternativesNil

theorem Derives.expression_of_comparison (h : Derives (.comparison f) ts) :
    Derives (.expression f) ts :=
  h.comparison.conjunction_of_unary.expression_of_conjunction

end

/-- The words for null and the like stand for them. -/
theorem Derives.wordOperand (w : Text) :
    Derives (.operand (Condition.wordOperand w)) (Condition.wordOperand w).tokens := by
  have hword : ∀ {v : Text} {o : Operand}, Condition.wordOperand v = o →
      Derives (.operand o) [.word v] := fun h => h ▸ .atom (.word _)
  unfold Condition.wordOperand
  repeat' split
  · exact hword rfl
  · exact hword rfl
  · exact hword rfl
  · exact hword rfl
  · exact .atom (.string w)

theorem Derives.nullOrBlank {w : Text} {o : Operand} (h : NullOrBlank w o) :
    Derives (.operand o) o.tokens := by
  cases h with
  | null => exact Derives.wordOperand "null".toList
  | blank => exact Derives.wordOperand "blank".toList

/-- What a phrase is printed as. -/
@[simp] def Phrase.tokens : Phrase → List Token
  | .expression f | .conjunction f | .unary f | .comparison f => f.tokens
  | .alternatives fs => Formula.moreTokens .or fs
  | .conjuncts fs => Formula.moreTokens .and fs
  | .operand o => o.tokens
  | .pipes names => pipeTokens names

/-- What the print of a phrase is read as: a formula has no parentheses around it. -/
@[simp] def Phrase.printed : Phrase → Phrase
  | .conjunction f | .unary f | .comparison f => .expression f
  | p => p

theorem Derives.printed {p : Phrase} {ts : List Token} (h : Derives p ts) :
    Derives p.printed p.tokens := by
  induction h with
  | @expression first more _ _ hfirst hmore ih₁ ih₂ =>
    cases more with
    | nil => exact ih₁
    | cons next more => exact ih₁.parentheses.conjunction_of_unary.expression ih₂
  | alternativesNil => exact .alternativesNil
  | alternativesCons hnext hmore ih₁ ih₂ =>
    exact ih₁.parentheses.conjunction_of_unary.alternativesCons ih₂
  | @conjunction first more _ _ hfirst hmore ih₁ ih₂ =>
    cases more with
    | nil => exact ih₁
    | cons next more => exact (ih₁.parentheses.conjunction ih₂).expression_of_conjunction
  | conjunctsNil => exact .conjunctsNil
  | conjunctsCons hnext hmore ih₁ ih₂ => exact ih₁.parentheses.conjunctsCons ih₂
  | not h ih => exact ih.parentheses.not.conjunction_of_unary.expression_of_conjunction
  | parentheses h ih => exact ih
  | comparison h ih => exact ih
  | compare hleft hright ih₁ ih₂ => exact (ih₁.compare ih₂).expression_of_comparison
  | is hleft his hw ih => exact (ih.compare (.nullOrBlank hw)).expression_of_comparison
  | isNot hleft his hnot hw ih => exact (ih.compare (.nullOrBlank hw)).expression_of_comparison
  | test h ih => exact ih.test.expression_of_comparison
  | argument h ih => exact ih.argument
  | atom hatom =>
    cases hatom with
    | string s => exact .atom (.string s)
    | number n => exact .atom (.number n)
    | word w => exact Derives.wordOperand w
  | pipesNil => exact .pipesNil
  | pipesCons h ih => exact ih.pipesCons

/-! The tokens of a formula can be spelled. -/

/-- Whether the pipes of an operand have names that a condition can write. -/
def NamedPipes : Operand → Prop
  | .argument _ pipes => ∀ w ∈ pipes, IsName w
  | _ => True

theorem spellable_word {c : Char} {cs : Text} (hc : Name.isStart c) (hcs : cs.all Name.isPart) :
    Spellable (.word (c :: cs)) :=
  Name.IsWord.isName ⟨c, cs, rfl, hc, List.all_eq_true.1 hcs⟩

theorem spellable_operand {o : Operand} (hplain : o.Plain) (hpipes : NamedPipes o) :
    ∀ t ∈ o.tokens, Spellable t := by
  cases o with
  | argument name pipes =>
    refine List.forall_mem_cons.2 ⟨hplain, fun t ht => ?_⟩
    obtain ⟨w, hw, ht⟩ := List.mem_flatMap.1 ht
    simp only [List.mem_cons, List.not_mem_nil, or_false] at ht
    rcases ht with rfl | rfl
    · exact trivial
    · exact hpipes w hw
  | literal v =>
    cases v with
    | null => exact List.forall_mem_singleton.2 (spellable_word (by decide) (by decide))
    | bool b =>
      cases b <;> exact List.forall_mem_singleton.2 (spellable_word (by decide) (by decide))
    | number n => exact List.forall_mem_singleton.2 hplain
    | string s => exact List.forall_mem_singleton.2 trivial
    | array _ | object _ => simp [Operand.tokens]
  | blank => exact List.forall_mem_singleton.2 (spellable_word (by decide) (by decide))

theorem spellable_enclosed {ts : List Token} (h : ∀ t ∈ ts, Spellable t) :
    ∀ t ∈ Formula.enclosed ts, Spellable t :=
  List.forall_mem_cons.2
    ⟨trivial, List.forall_mem_append.2 ⟨h, List.forall_mem_singleton.2 trivial⟩⟩

mutual

theorem spellable_tokens (f : Formula) (h : ∀ o ∈ f.operands, ∀ t ∈ o.tokens, Spellable t) :
    ∀ t ∈ f.tokens, Spellable t := by
  match f with
  | .any [] | .all [] => simp [Formula.tokens]
  | .any (first :: more) =>
    obtain ⟨hfirst, hmore⟩ := List.forall_mem_append.1 h
    exact List.forall_mem_append.2 ⟨spellable_enclosed (spellable_tokens first hfirst),
      spellable_moreTokens more trivial hmore⟩
  | .all (first :: more) =>
    obtain ⟨hfirst, hmore⟩ := List.forall_mem_append.1 h
    exact List.forall_mem_append.2 ⟨spellable_enclosed (spellable_tokens first hfirst),
      spellable_moreTokens more trivial hmore⟩
  | .not part =>
    exact List.forall_mem_cons.2 ⟨trivial, spellable_enclosed (spellable_tokens part h)⟩
  | .compare left op right =>
    obtain ⟨hleft, hright⟩ := List.forall_mem_cons.1 h
    exact List.forall_mem_append.2 ⟨hleft,
      List.forall_mem_cons.2 ⟨trivial, List.forall_mem_singleton.1 hright⟩⟩
  | .test o => exact List.forall_mem_singleton.1 h

theorem spellable_moreTokens {connective : Token} (fs : List Formula)
    (hconnective : Spellable connective)
    (h : ∀ o ∈ Formula.operandsOf fs, ∀ t ∈ o.tokens, Spellable t) :
    ∀ t ∈ Formula.moreTokens connective fs, Spellable t := by
  match fs with
  | [] => simp [Formula.moreTokens]
  | part :: parts =>
    obtain ⟨hpart, hparts⟩ := List.forall_mem_append.1 h
    exact List.forall_mem_cons.2 ⟨hconnective, List.forall_mem_append.2
      ⟨spellable_enclosed (spellable_tokens part hpart),
        spellable_moreTokens parts hconnective hparts⟩⟩

end

def Phrase.NamedPipes : Phrase → Prop
  | .expression f | .conjunction f | .unary f | .comparison f =>
    ∀ o ∈ f.operands, Condition.NamedPipes o
  | .alternatives fs | .conjuncts fs => ∀ o ∈ Formula.operandsOf fs, Condition.NamedPipes o
  | .operand o => Condition.NamedPipes o
  | .pipes names => ∀ w ∈ names, IsName w

theorem operands_chain {node : List Formula → Formula}
    (hnode : ∀ fs, (node fs).operands = Formula.operandsOf fs) (first : Formula)
    (more : List Formula) :
    (chain node first more).operands = first.operands ++ Formula.operandsOf more := by
  cases more with
  | nil => simp [chain, Formula.operandsOf]
  | cons next more => rw [chain, hnode, Formula.operandsOf]; simp

theorem NullOrBlank.namedPipes {w : Text} {o : Operand} (h : NullOrBlank w o) : NamedPipes o := by
  cases h <;> exact trivial

theorem namedPipes_wordOperand (w : Text) : NamedPipes (wordOperand w) := by
  unfold wordOperand
  repeat' split
  all_goals exact trivial

/-- Pipes are words of the condition. -/
theorem Derives.namedPipes {p : Phrase} {ts : List Token} (h : Derives p ts)
    (hwords : ∀ w, .word w ∈ ts → IsName w) : p.NamedPipes := by
  induction h with
  | expression hfirst hmore ih₁ ih₂ =>
    simp only [List.mem_append, or_imp, forall_and] at hwords
    rw [Phrase.NamedPipes, operands_chain fun fs => rfl]
    exact List.forall_mem_append.2 ⟨ih₁ hwords.1, ih₂ hwords.2⟩
  | conjunction hfirst hmore ih₁ ih₂ =>
    simp only [List.mem_append, or_imp, forall_and] at hwords
    rw [Phrase.NamedPipes, operands_chain fun fs => rfl]
    exact List.forall_mem_append.2 ⟨ih₁ hwords.1, ih₂ hwords.2⟩
  | alternativesNil | conjunctsNil => exact List.forall_mem_nil _
  | alternativesCons hnext hmore ih₁ ih₂ | conjunctsCons hnext hmore ih₁ ih₂ =>
    simp only [List.mem_cons, List.mem_append, or_imp, forall_and] at hwords
    exact List.forall_mem_append.2 ⟨ih₁ hwords.2.1, ih₂ hwords.2.2⟩
  | not h ih => exact ih fun w hw => hwords w (List.mem_cons_of_mem _ hw)
  | parentheses h ih =>
    exact ih fun w hw => hwords w (List.mem_cons_of_mem _ (List.mem_append_left _ hw))
  | comparison h ih => exact ih hwords
  | compare hleft hright ih₁ ih₂ =>
    simp only [List.mem_append, List.mem_cons, or_imp, forall_and] at hwords
    exact List.forall_mem_cons.2
      ⟨ih₁ hwords.1, List.forall_mem_singleton.2 (ih₂ hwords.2.2)⟩
  | is hleft his hw ih | isNot hleft his hnot hw ih =>
    exact List.forall_mem_cons.2 ⟨ih fun w hw => hwords w (List.mem_append_left _ hw),
      List.forall_mem_singleton.2 hw.namedPipes⟩
  | test h ih => exact List.forall_mem_singleton.2 (ih hwords)
  | argument h ih => exact ih fun w hw => hwords w (List.mem_cons_of_mem _ hw)
  | atom hatom =>
    cases hatom with
    | string | number => exact trivial
    | word w => exact namedPipes_wordOperand w
  | pipesNil => exact List.forall_mem_nil _
  | pipesCons h ih =>
    simp only [List.mem_cons, or_imp, forall_and] at hwords
    exact List.forall_mem_cons.2 ⟨hwords.2.1 _ rfl, ih hwords.2.2⟩

/-- Conditions are the texts of the grammar, each with the tree of its derivation; and from the
print of such a tree the same tree is read. -/
theorem ofText_iff_derives_and_ofText_print (source : Text) :
    (∀ c, ofText source = .ok c ↔
      ∃ ts f, Splits source ts ∧ Derives (.expression f) ts ∧ c = ⟨source.trim, f⟩) ∧
    ∀ c, ofText source = .ok c → (∀ o ∈ c.formula.operands, o.Plain) →
      ofText c.formula.print = .ok ⟨c.formula.print.trim, c.formula⟩ := by
  refine ⟨fun c => ofText_eq_ok_iff, fun c hc hplain => ?_⟩
  obtain ⟨ts, f, hts, hf, rfl⟩ := ofText_eq_ok_iff.1 hc
  have hpipes := hf.namedPipes fun w => hts.isName
  have hspellable : ∀ t ∈ f.tokens, Spellable t :=
    spellable_tokens f fun o ho => spellable_operand (hplain o ho) (hpipes o ho)
  exact ofText_eq_ok_iff.2 ⟨f.tokens, f, splits_join hspellable, hf.printed, rfl⟩

/-- A negated chain beside a comparison, with a pipe, a quote and a sign. -/
theorem ofText_print_nested :
    ∃ c, ofText "!(:a.b|trim is not null || 'it''s' ~ w) && :n > -5".toList = .ok c ∧
      (∀ o ∈ c.formula.operands, o.Plain) ∧
      c.formula.print =
        "( ! ( ( :a.b | trim <> null ) || ( 'it''s' ~ 'w' ) ) ) && ( :n > -5 )".toList ∧
      ofText c.formula.print = .ok ⟨c.formula.print.trim, c.formula⟩ := by
  have hsource : ofText "!(:a.b|trim is not null || 'it''s' ~ w) && :n > -5".toList =
      .ok ⟨"!(:a.b|trim is not null || 'it''s' ~ w) && :n > -5".toList,
        .all [.not (.any
          [.compare (.argument "a.b".toList ["trim".toList]) .ne (.literal .null),
            .compare (.literal (.string "it's".toList)) .found (.literal (.string "w".toList))]),
          .compare (.argument "n".toList []) .gt (.literal (.number (.integer (-5))))]⟩ := by
    cbv
  have hdotted : IsName ['a', '.', 'b'] :=
    ⟨['a'], [['b']], rfl, ⟨'a', [], rfl, by decide, List.forall_mem_nil _⟩,
      List.forall_mem_singleton.2 ⟨by decide, List.forall_mem_singleton.2 (by decide)⟩⟩
  have hname : IsName ['n'] := spellable_word (by decide) (by decide)
  have hsmall : (Number.integer (-5)).IsSmall := ⟨-5, rfl, by decide, by decide⟩
  refine ⟨_, hsource, ?plain, by decide +kernel,
    (ofText_iff_derives_and_ofText_print _).2 _ hsource ?plain⟩
  simp [Formula.operands, Formula.operandsOf, Operand.Plain, hdotted, hname, hsmall]

end Condition

end SqlTemplate
