import SqlTemplate.Proofs.Name
import SqlTemplate.Proofs.Printing

/-!
Lexemes.  The tokens of a condition are those of the lexemes that its text splits into, where each
lexeme is as long as it can be.
-/
namespace SqlTemplate.Condition

open Name (IsName)

/-- The lexemes of punctuation with their tokens.  Behind a lexeme, none of the characters may
stand that would make it a longer one. -/
def marks : List (Text × Token × Text) :=
  [("&&".toList, .and, []), ("||".toList, .or, []), ("|".toList, .pipe, ['|']),
    ("(".toList, .openParen, []), (")".toList, .closeParen, []),
    ("==".toList, .comparison .eq, []), ("=".toList, .comparison .eq, ['=']),
    ("!=".toList, .comparison .ne, []), ("!~".toList, .comparison .notFound, []),
    ("!".toList, .bang, ['=', '~']), ("<>".toList, .comparison .ne, []),
    ("<=".toList, .comparison .le, []), ("<".toList, .comparison .lt, ['>', '=']),
    (">=".toList, .comparison .ge, []), (">".toList, .comparison .gt, ['=']),
    ("~".toList, .comparison .found, [])]

/-- The text of a number: digits and points, perhaps behind a dash, with a digit in front. -/
def IsNumeral (t : Text) : Prop :=
  ∃ c cs, t = c :: cs ∧ (c.isDigit ∨ c = '-' ∧ cs.head?.any Char.isDigit) ∧
    ∀ d ∈ cs, isNumberPart d

/-- The lexeme of a token, in front of the rest of a text. -/
inductive Lexeme : Text → Token → Text → Prop
  | argument {name rest : Text} (h : IsName name) (stops : Name.Stops rest) :
    Lexeme (':' :: name) (.argument name) rest
  | reference {inner rest : Text} (closing : '}' ∉ inner) (h : referenceName inner ≠ []) :
    Lexeme ('$' :: '{' :: (inner ++ ['}'])) (.argument (referenceName inner)) rest
  | string {mark : Char} {s rest : Text} (h : mark = '\x27' ∨ mark = '\x22')
    (stops : rest.head? ≠ some mark) : Lexeme (mark :: (s.double mark ++ [mark])) (.string s) rest
  | number {t rest : Text} {n : Number} (h : IsNumeral t) (value : number? t = some n)
    (stops : ¬rest.head?.any isNumberPart) : Lexeme t (.number n) rest
  | mark {t longer rest : Text} {token : Token} (h : (t, token, longer) ∈ marks)
    (stops : ∀ c ∈ longer, rest.head? ≠ some c) : Lexeme t token rest
  | word {w rest : Text} (h : IsName w) (stops : Name.Stops rest) : Lexeme w (.word w) rest

/-- Which tokens a text splits into.  Between lexemes there may be blanks. -/
inductive Splits : Text → List Token → Prop
  | nil : Splits [] []
  | blank {c : Char} {cs : Text} {ts : List Token} (hc : Unicode.isBlank c) (h : Splits cs ts) :
    Splits (c :: cs) ts
  | lexeme {l rest : Text} {t : Token} {ts : List Token} (first : Lexeme l t rest)
    (more : Splits rest ts) : Splits (l ++ rest) (t :: ts)

/-! The readers of single lexemes. -/

theorem takeName_eq (cs : Text) :
    takeName cs = (cs.takeWhile Name.isPart ++ Name.dotted (Name.path (cs.dropWhile Name.isPart)).1,
      (Name.path (cs.dropWhile Name.isPart)).2) := by
  induction cs with
  | nil => simp [takeName, Name.path, Name.dotted]
  | cons c cs ih =>
    rw [takeName]
    by_cases hc : Name.isPart c
    · simp [hc, ih]
    by_cases hdot : c = '.' ∧ cs.head?.any Name.isPart
    · obtain ⟨rfl, hcs⟩ := hdot
      have hne : ¬(cs.takeWhile Name.isPart).isEmpty := by
        cases cs with
        | nil => simp at hcs
        | cons d cs =>
          have hd : Name.isPart d := by simpa using hcs
          simp [hd]
      simp [hc, hcs, ih, Name.path, hne, Name.dotted]
    · have hstops : Name.Stops (c :: cs) :=
        ⟨by simpa using hc, fun hc' => fun h => hdot ⟨hc', h⟩⟩
      have hif : (Name.isPart c || (c == '.' && cs.head?.any Name.isPart)) = false := by
        simpa [hc] using hdot
      rw [hif]
      simp [hc, Name.path_of_stops hstops, Name.dotted]

theorem takeName_cons {c : Char} (h : Name.isPart c) (cs : Text) :
    takeName (c :: cs) = (c :: (takeName cs).1, (takeName cs).2) := by
  rw [takeName, h]
  rfl

/-- Where a name starts, the whole name is taken. -/
theorem read?_eq_takeName {cs : Text} (h : cs.head?.any Name.isStart) :
    Name.read? cs = some (takeName cs) := by
  cases cs with
  | nil => cases h
  | cons c cs =>
    have hc : Name.isStart c := h
    rw [Name.read?, if_pos hc, takeName_cons (Name.isPart_of_isStart hc), takeName_eq]
    rfl

theorem takeString_eq_some {mark : Char} {cs s rest : Text}
    (h : takeString mark cs = some (s, rest)) :
    cs = s.double mark ++ mark :: rest ∧ rest.head? ≠ some mark := by
  induction cs using takeString.induct mark generalizing s rest with
  | case1 => cases h
  | case2 =>
    rw [takeString, if_pos rfl] at h
    obtain ⟨rfl, rfl⟩ := Prod.mk.inj (Option.some.inj h)
    exact ⟨rfl, by simp⟩
  | case3 c hc =>
    rw [takeString, if_neg hc] at h
    cases h
  | case4 cs ih =>
    rw [takeString, if_pos rfl, if_pos rfl] at h
    obtain ⟨⟨s', rest'⟩, hs, heq⟩ := Option.map_eq_some_iff.1 h
    obtain ⟨rfl, rfl⟩ := Prod.mk.inj heq
    obtain ⟨rfl, hrest⟩ := ih hs
    exact ⟨by simp [Text.double], hrest⟩
  | case5 d cs hd =>
    rw [takeString, if_pos rfl, if_neg hd] at h
    obtain ⟨rfl, rfl⟩ := Prod.mk.inj (Option.some.inj h)
    exact ⟨rfl, by simpa using hd⟩
  | case6 c d cs hc ih =>
    rw [takeString, if_neg hc] at h
    obtain ⟨⟨s', rest'⟩, hs, heq⟩ := Option.map_eq_some_iff.1 h
    obtain ⟨rfl, rfl⟩ := Prod.mk.inj heq
    obtain ⟨hcs, hrest⟩ := ih hs
    exact ⟨by simp [Text.double, hc, hcs], hrest⟩

theorem punctuation?_eq_some_iff {cs rest : Text} {t : Token} :
    punctuation? cs = some (t, rest) ↔
      ∃ l longer, (l, t, longer) ∈ marks ∧ cs = l ++ rest ∧ ∀ c ∈ longer, rest.head? ≠ some c := by
  constructor
  · intro h
    unfold punctuation? at h
    split at h <;> cases h
    case h_3 => exact ⟨[_], ['|'], by decide, rfl, by simp_all [List.head?_eq_some_iff]⟩
    case h_7 => exact ⟨[_], ['='], by decide, rfl, by simp_all [List.head?_eq_some_iff]⟩
    case h_10 => exact ⟨[_], ['=', '~'], by decide, rfl, by simp_all [List.head?_eq_some_iff]⟩
    case h_13 => exact ⟨[_], ['>', '='], by decide, rfl, by simp_all [List.head?_eq_some_iff]⟩
    case h_15 => exact ⟨[_], ['='], by decide, rfl, by simp_all [List.head?_eq_some_iff]⟩
    all_goals first
      | exact ⟨[_], [], by decide, rfl, by simp⟩
      | exact ⟨[_, _], [], by decide, rfl, by simp⟩
  · rintro ⟨l, longer, hmark, rfl, hstops⟩
    have hne : ∀ {c}, c ∈ longer → ∀ cs, rest = c :: cs → False := fun hc cs heq =>
      hstops _ hc (by rw [heq]; rfl)
    simp only [marks, List.mem_cons, List.not_mem_nil, or_false, Prod.mk.injEq] at hmark
    rcases hmark with ⟨rfl, rfl, rfl⟩ | ⟨rfl, rfl, rfl⟩ | ⟨rfl, rfl, rfl⟩ | ⟨rfl, rfl, rfl⟩ |
      ⟨rfl, rfl, rfl⟩ | ⟨rfl, rfl, rfl⟩ | ⟨rfl, rfl, rfl⟩ | ⟨rfl, rfl, rfl⟩ | ⟨rfl, rfl, rfl⟩ |
      ⟨rfl, rfl, rfl⟩ | ⟨rfl, rfl, rfl⟩ | ⟨rfl, rfl, rfl⟩ | ⟨rfl, rfl, rfl⟩ | ⟨rfl, rfl, rfl⟩ |
      ⟨rfl, rfl, rfl⟩ | ⟨rfl, rfl, rfl⟩
    all_goals first
      | rfl
      | exact punctuation?.eq_3 rest (hne (by decide))
      | exact punctuation?.eq_7 rest (hne (by decide))
      | exact punctuation?.eq_10 rest (hne (by decide)) (hne (by decide))
      | exact punctuation?.eq_13 rest (hne (by decide)) (hne (by decide))
      | exact punctuation?.eq_15 rest (hne (by decide))

/-! Single lexemes are read. -/

section

variable {c : Char} {cs rest : Text} {t : Token} {position : Nat}

theorem exists_lexeme_of_token (h : token position c cs = .ok (t, rest)) :
    ∃ l, Lexeme l t rest ∧ c :: cs = l ++ rest := by
  unfold token at h
  split at h
  · rename_i hc
    obtain ⟨rfl, hstart⟩ := hc
    obtain ⟨rfl, rfl⟩ := Prod.mk.inj (Except.ok.inj h)
    obtain ⟨hname, hstops⟩ := Name.read?_spec (read?_eq_takeName hstart)
    exact ⟨_, .argument hname hstops, by rw [List.cons_append, takeName_append]⟩
  split at h
  · rename_i hc
    obtain ⟨rfl, hbrace⟩ := hc
    obtain ⟨cs, rfl⟩ := List.head?_eq_some_iff.1 hbrace
    split at h
    · cases h
    · rename_i inner rest' hcut
      obtain ⟨rfl, hclosing⟩ := Text.cut?_eq_some_iff.1 hcut
      split at h
      · cases h
      · rename_i hname
        obtain ⟨rfl, rfl⟩ := Prod.mk.inj (Except.ok.inj h)
        exact ⟨_, .reference hclosing (by simpa using hname), by simp⟩
  split at h
  · rename_i hmark
    split at h
    · cases h
    · rename_i s rest' hs
      obtain ⟨rfl, rfl⟩ := Prod.mk.inj (Except.ok.inj h)
      obtain ⟨rfl, hstops⟩ := takeString_eq_some hs
      exact ⟨_, .string hmark hstops, by simp⟩
  split at h
  · rename_i hdigit
    dsimp only at h
    split at h
    · cases h
    · rename_i n hn
      obtain ⟨rfl, rfl⟩ := Prod.mk.inj (Except.ok.inj h)
      refine ⟨_, .number ⟨c, _, rfl, ?_, fun d => Text.mem_takeWhile⟩ hn
        (Text.head?_dropWhile _ _), ?_⟩
      · rw [Bool.or_eq_true, Bool.and_eq_true, beq_iff_eq] at hdigit
        refine hdigit.imp_right fun hdash => ⟨hdash.1, ?_⟩
        cases cs with
        | nil => exact hdash.2
        | cons d cs =>
          have hd : d.isDigit := by simpa using hdash.2
          simp [isNumberPart, hd]
      · rw [List.cons_append, List.takeWhile_append_dropWhile]
  · split at h
    · rename_i found hfound
      obtain ⟨l, longer, hmark, hl, hstops⟩ :=
        punctuation?_eq_some_iff.1 (hfound.trans (congrArg some (Except.ok.inj h)))
      exact ⟨l, .mark hmark hstops, hl⟩
    · split at h
      · rename_i hstart
        obtain ⟨rfl, rfl⟩ := Prod.mk.inj (Except.ok.inj h)
        have hread := @read?_eq_takeName (c :: cs) hstart
        rw [takeName_cons (Name.isPart_of_isStart hstart)] at hread
        obtain ⟨hname, hstops⟩ := Name.read?_spec hread
        exact ⟨_, .word hname hstops, by rw [List.cons_append, takeName_append]⟩
      · cases h

theorem takeName_of_isName {name : Text} (h : IsName name) (hstops : Name.Stops rest) :
    takeName (name ++ rest) = (name, rest) := by
  obtain ⟨d, ds, rfl, hd⟩ := h.head
  have hread := @read?_eq_takeName (d :: ds ++ rest) hd
  rw [Name.read?_of_isName h hstops] at hread
  exact (Option.some.inj hread).symm

theorem isDigit_eq_false_of_isStart (h : Name.isStart c) : c.isDigit = false := by
  rw [← Bool.not_eq_true]
  intro hdigit
  have hle : c.toNat ≤ 57 := by
    have := hdigit
    simp only [Char.isDigit, Bool.and_eq_true, decide_eq_true_eq, UInt32.le_iff_toNat_le] at this
    exact this.2
  simp only [Name.isStart, Char.isAlpha, Char.isUpper, Char.isLower, Bool.or_eq_true,
    Bool.and_eq_true, decide_eq_true_eq, beq_iff_eq, UInt32.le_iff_toNat_le] at h
  rcases h with (h | h) | rfl
  · exact absurd (h.1.trans hle) (by decide)
  · exact absurd (h.1.trans hle) (by decide)
  · exact absurd hdigit (by decide)

theorem mem_of_mem_marks {longer : Text} (h : (c :: cs, t, longer) ∈ marks) :
    c ∈ "&|()=!<>~".toList := by
  have hall : marks.all (fun m => m.1.head?.all ("&|()=!<>~".toList.contains ·)) = true := by
    decide +kernel
  simpa using List.all_eq_true.1 hall _ h

theorem ne_nil_of_mem_marks {l longer : Text} (h : (l, t, longer) ∈ marks) : l ≠ [] := by
  have hall : marks.all (fun m => !m.1.isEmpty) = true := by decide +kernel
  simpa using List.all_eq_true.1 hall _ h

/-! The first character of a lexeme tells which rules of the reader do not apply. -/

theorem token_argument {name : Text} (h : IsName name) (hstops : Name.Stops rest) :
    token position ':' (name ++ rest) = .ok (.argument name, rest) := by
  have hstart : (name ++ rest).head?.any Name.isStart := by
    obtain ⟨d, ds, rfl, hd⟩ := h.head
    exact hd
  rw [token, if_pos ⟨rfl, hstart⟩, takeName_of_isName h hstops]

theorem token_reference {inner : Text} (hclosing : '}' ∉ inner) (h : referenceName inner ≠ []) :
    token position '$' ('{' :: (inner ++ '}' :: rest)) =
      .ok (.argument (referenceName inner), rest) := by
  have hcut : Text.cut? '}' (inner ++ '}' :: rest) = some (inner, rest) :=
    Text.cut?_eq_some_iff.2 ⟨rfl, hclosing⟩
  rw [token, if_neg fun h => absurd h.1 (by decide), if_pos ⟨rfl, rfl⟩, List.tail_cons, hcut]
  simp [h]

theorem token_string {mark : Char} (h : mark = '\x27' ∨ mark = '\x22')
    (hstops : rest.head? ≠ some mark) (s : Text) :
    token position mark (s.double mark ++ mark :: rest) = .ok (.string s, rest) := by
  have hne : mark ≠ ':' ∧ mark ≠ '$' := by rcases h with rfl | rfl <;> decide
  rw [token, if_neg fun h => hne.1 h.1, if_neg fun h => hne.2 h.1, if_pos h,
    LoopHeader.takeString_double mark s hstops]

theorem token_number {ds : Text} {n : Number}
    (h : c.isDigit ∨ c = '-' ∧ ds.head?.any Char.isDigit) (hds : ∀ d ∈ ds, isNumberPart d)
    (value : number? (c :: ds) = some n) (hstops : ¬rest.head?.any isNumberPart) :
    token position c (ds ++ rest) = .ok (.number n, rest) := by
  have hne : ∀ e, e.isDigit = false → e ≠ '-' → c ≠ e := by
    rintro e he hdash rfl
    rcases h with h | h
    · rw [he] at h
      cases h
    · exact hdash h.1
  have hfirst : (c.isDigit || (c == '-' && (ds ++ rest).head?.any Char.isDigit)) = true := by
    rcases h with h | ⟨rfl, h⟩
    · simp [h]
    · cases ds with
      | nil => cases h
      | cons d ds =>
        have hd : d.isDigit := h
        simp [hd]
  rw [token, if_neg fun h => hne ':' (by decide) (by decide) h.1,
    if_neg fun h => hne '$' (by decide) (by decide) h.1,
    if_neg fun h => h.elim (hne '\x27' (by decide) (by decide)) (hne '\x22' (by decide) (by decide)),
    if_pos hfirst, Text.takeWhile_append_stop hds hstops, Text.dropWhile_append_stop hds hstops]
  dsimp only
  rw [value]

theorem token_mark {longer : Text} (h : (c :: cs, t, longer) ∈ marks)
    (hstops : ∀ d ∈ longer, rest.head? ≠ some d) :
    token position c (cs ++ rest) = .ok (t, rest) := by
  have hpunctuation : punctuation? (c :: (cs ++ rest)) = some (t, rest) :=
    punctuation?_eq_some_iff.2 ⟨_, _, h, rfl, hstops⟩
  have hclass : ∀ e ∈ "&|()=!<>~".toList,
      e ∉ [':', '$', '\x27', '\x22', '-'] ∧ e.isDigit = false :=
    Text.forall_mem_of_all (by decide)
  obtain ⟨hne, hdigit⟩ := hclass c (mem_of_mem_marks h)
  simp only [List.mem_cons, List.not_mem_nil, or_false, not_or] at hne
  obtain ⟨hcolon, hdollar, hquote, hdouble, hdash⟩ := hne
  rw [token, if_neg fun h => hcolon h.1, if_neg fun h => hdollar h.1,
    if_neg fun h => h.elim hquote hdouble, hpunctuation]
  simp [hdigit, hdash]

theorem token_word (h : IsName (c :: cs)) (hstops : Name.Stops rest) :
    token position c (cs ++ rest) = .ok (.word (c :: cs), rest) := by
  obtain ⟨d, ds, heq, hd⟩ := h.head
  obtain ⟨rfl, rfl⟩ := List.cons.inj heq
  have htake := takeName_of_isName h hstops
  rw [List.cons_append, takeName_cons (Name.isPart_of_isStart hd)] at htake
  obtain ⟨hcs, hrest⟩ := Prod.mk.inj htake
  have hne : ∀ e, Name.isPart e = false → c ≠ e := fun e he =>
    Name.ne_of_isPart (Name.isPart_of_isStart hd) he
  have hmarks : ∀ e ∈ "&|()=!<>~".toList, Name.isPart e = false :=
    Text.forall_mem_of_all (by decide)
  have hdash : (c == '-') = false := by simpa using hne '-' (by decide)
  rw [token, if_neg fun h => hne ':' (by decide) h.1, if_neg fun h => hne '$' (by decide) h.1,
    if_neg fun h => h.elim (hne '\x27' (by decide)) (hne '\x22' (by decide)),
    isDigit_eq_false_of_isStart hd, hdash, punctuation?_eq_none fun e he => hne e (hmarks e he)]
  simp [hd, hrest, (List.cons.inj hcs).2]

theorem token_of_lexeme (h : Lexeme (c :: cs) t rest) :
    token position c (cs ++ rest) = .ok (t, rest) := by
  cases h with
  | argument hname hstops => exact token_argument hname hstops
  | @reference inner _ hclosing hname =>
    rw [List.cons_append, List.append_assoc]
    exact token_reference hclosing hname
  | @string _ s _ hmark hstops =>
    rw [List.append_assoc]
    exact token_string hmark hstops s
  | number hnumeral value hstops =>
    obtain ⟨d, ds, heq, hd, hds⟩ := hnumeral
    obtain ⟨rfl, rfl⟩ := List.cons.inj heq
    exact token_number hd hds value hstops
  | mark hmark hstops => exact token_mark hmark hstops
  | word hname hstops => exact token_word hname hstops

theorem isBlank_of_isDigit (h : c.isDigit) : Unicode.isBlank c = false := by
  cases hblank : Unicode.isBlank c with
  | false => rfl
  | true =>
    have hdigit : c.isDigit = false := Unicode.eq_false_of_isBlank (by decide) hblank
    rw [hdigit] at h
    cases h

/-- No lexeme starts with a blank. -/
theorem Lexeme.head {l : Text} (h : Lexeme l t rest) :
    ∃ c cs, l = c :: cs ∧ Unicode.isBlank c = false := by
  cases h with
  | argument => exact ⟨_, _, rfl, by decide⟩
  | reference => exact ⟨_, _, rfl, by decide⟩
  | string hmark => exact ⟨_, _, rfl, by rcases hmark with rfl | rfl <;> decide⟩
  | number hnumeral =>
    obtain ⟨d, ds, rfl, hd, -⟩ := hnumeral
    refine ⟨d, ds, rfl, ?_⟩
    rcases hd with hd | ⟨rfl, -⟩
    · exact isBlank_of_isDigit hd
    · decide
  | mark hmark =>
    have hclass : ∀ e ∈ "&|()=!<>~".toList, Unicode.isBlank e = false :=
      Text.forall_mem_of_all (by decide)
    obtain ⟨c, cs, rfl⟩ := List.exists_cons_of_ne_nil (ne_nil_of_mem_marks hmark)
    exact ⟨c, cs, rfl, hclass c (mem_of_mem_marks hmark)⟩
  | word hname =>
    obtain ⟨d, ds, rfl, hd⟩ := hname.head
    exact ⟨d, ds, rfl, Name.isBlank_of_isStart hd⟩

end

/-! All tokens of a text. -/

theorem splits_of_tokensFrom {size : Nat} {cs : Text} {ts : List Token}
    (h : tokensFrom size cs = .ok ts) : Splits cs ts := by
  induction hn : cs.length using Nat.strong_induction_on generalizing cs ts with
  | _ n ih =>
    subst hn
    cases cs with
    | nil =>
      rw [tokensFrom] at h
      obtain rfl := Except.ok.inj h
      exact .nil
    | cons c cs =>
      cases hblank : Unicode.isBlank c with
      | true =>
        rw [tokensFrom_blank hblank] at h
        exact .blank hblank (ih cs.length (Nat.lt_succ_self _) h rfl)
      | false =>
        cases htoken : token (size - (cs.length + 1)) c cs with
        | error p =>
          rw [tokensFrom_error hblank htoken] at h
          cases h
        | ok found =>
          obtain ⟨t, rest⟩ := found
          rw [tokensFrom_token hblank htoken] at h
          cases hmore : tokensFrom size rest with
          | error p =>
            rw [hmore] at h
            cases h
          | ok more =>
            rw [hmore] at h
            obtain rfl := Except.ok.inj h
            obtain ⟨l, hl, hcs⟩ := exists_lexeme_of_token htoken
            have hlt := Nat.lt_succ_of_le (length_le_of_token htoken)
            rw [hcs]
            exact .lexeme hl (ih rest.length hlt hmore rfl)

/-- What a text is read as are the tokens that it splits into. -/
theorem tokens_eq_ok_iff {cs : Text} {ts : List Token} : tokens cs = .ok ts ↔ Splits cs ts := by
  refine ⟨splits_of_tokensFrom, fun h => ?_⟩
  rw [tokens]
  generalize cs.length = size
  induction h with
  | nil => rw [tokensFrom]
  | blank hc h ih => rw [tokensFrom_blank hc, ih]
  | @lexeme l rest t ts first more ih =>
    obtain ⟨c, cs, rfl, hc⟩ := first.head
    rw [List.cons_append, tokensFrom_token hc (token_of_lexeme first), ih]
    rfl

end SqlTemplate.Condition
