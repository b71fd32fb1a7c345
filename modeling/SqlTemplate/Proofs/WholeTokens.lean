import SqlTemplate.Proofs.Deletion

/-!
Cleaning up deletes whole tokens.  Each pass over a plain text is a run of steps that delete one
comma or one word, and what is left of the segments does not join where a `where` was dropped at the
end.
-/
namespace SqlTemplate

open Segment (region? Cut Follows)

namespace Cleanup

/-- A step of cleaning up in front of the end of a text: it deletes a comma in front of a blank, a
connective behind a name, or a `where` in front of a clause or a closing parenthesis. -/
inductive Step : Text → Text → Prop
  | comma (a : Text) {b : Text} (hb : b.head?.any Unicode.isBlank) : Step (a ++ ',' :: b) (a ++ b)
  | connective {a s w s' b : Text} (ha : a.getLast?.any Name.isPart)
    (hs : ∀ c ∈ s, Unicode.isBlank c) (hne : s ≠ []) (hw : IsKeyword w)
    (hs' : ∀ c ∈ s', Unicode.isBlank c) (hstop : s' = [] → ¬b.head?.any Unicode.isWord) :
    Step (a ++ (s ++ (w ++ s') ++ b)) (a ++ ' ' :: b)
  | clause {a w s b : Text} (ha : ¬a.getLast?.any Unicode.isWord)
    (hw : w.sameWord "where".toList) (hs : ∀ c ∈ s, Unicode.isBlank c) (hne : s ≠ [])
    (hb : b.head?.any fun c => c.isAlpha || c == ')') : Step (a ++ (w ++ s ++ b)) (a ++ b)

/-- What a step keeps of the ends of a text. -/
structure Keeps (t u : Text) : Prop where
  ne_nil : t ≠ [] → u ≠ []
  newline : t.head? = some '\n' → u.head? = some '\n'
  part : u.head?.any Name.isPart → t.head?.any Name.isPart
  dash : u.getLast? = some '-' → t.getLast? = some '-'

variable {t u : Text}

theorem Keeps.refl (t : Text) : Keeps t t := ⟨id, id, id, id⟩

theorem Keeps.trans {v : Text} (h : Keeps t u) (h' : Keeps u v) : Keeps t v :=
  ⟨h'.ne_nil ∘ h.ne_nil, h'.newline ∘ h.newline, h.part ∘ h'.part, h.dash ∘ h'.dash⟩

/-- What is put between two texts that are not empty makes no difference to the ends. -/
theorem keeps_of_ne_nil {a m g b : Text} (ha : a ≠ []) (hb : b ≠ []) :
    Keeps (a ++ (m ++ b)) (a ++ (g ++ b)) := by
  obtain ⟨c, a, rfl⟩ := List.exists_cons_of_ne_nil ha
  refine ⟨fun _ => List.cons_ne_nil _ _, id, id, ?_⟩
  have hlast : ∀ m, (c :: a ++ (m ++ b)).getLast? = b.getLast? := by
    intro m
    rw [← List.append_assoc, List.getLast?_append_of_ne_nil _ hb]
  rw [hlast, hlast]
  exact id

theorem Step.keeps (h : Step t u) : Keeps t u := by
  cases h with
  | @comma a b hb =>
    cases b with
    | nil => cases hb
    | cons c b =>
      by_cases ha : a = []
      · subst ha
        have hpart : Name.isPart c = false := Unicode.eq_false_of_isBlank (by decide) hb
        exact ⟨by simp, by simp, by simp [hpart], by simp [List.getLast?_cons]⟩
      · exact keeps_of_ne_nil (m := [',']) (g := []) ha (List.cons_ne_nil c b)
  | @connective a s w s' b ha hs hne hw hs' hstop =>
    have ha' : a ≠ [] := by
      rintro rfl
      cases ha
    cases b with
    | cons c b => exact keeps_of_ne_nil (g := [' ']) ha' (List.cons_ne_nil c b)
    | nil =>
      obtain ⟨c, a, rfl⟩ := List.exists_cons_of_ne_nil ha'
      exact ⟨fun _ => List.cons_ne_nil _ _, id, id, by simp [List.getLast?_cons]⟩
  | @clause a w s b ha hw hs hne hb =>
    cases b with
    | nil => cases hb
    | cons c b =>
      by_cases ha' : a = []
      · subst ha'
        have hkey : IsKeyword w := isKeyword_of_sameWord hw (by decide)
        obtain ⟨d, w, rfl, hd⟩ := hkey.exists_cons
        have hline : d ≠ '\n' := by
          rintro rfl
          cases hd
        have hpart := Name.isPart_of_isStart (isStart_of_isAlpha hd)
        refine ⟨by simp, by simp [hline], by simp [hpart], ?_⟩
        rw [List.nil_append, List.nil_append,
          List.getLast?_append_of_ne_nil _ (List.cons_ne_nil c b)]
        exact id
      · exact keeps_of_ne_nil (g := []) ha' (List.cons_ne_nil c b)

theorem Step.deletes (h : Step t u) (ht : Whole t) : Deletes t u := by
  cases h with
  | comma a hb => exact ht.comma hb
  | connective ha hs hne hw hs' hstop => exact ht.connective ha hs hne hw hs' hstop
  | clause ha hw hs hne hb => exact ht.clause hw ha hs hne hb

open Relation (ReflTransGen)

/-- What a run of steps leaves. -/
theorem deletes_of_steps (h : ReflTransGen Step t u) (ht : Whole t) : Deletes t u := by
  induction h with
  | refl => exact ht.deletes_refl
  | tail _ hstep ih => exact ih.trans (hstep.deletes ih.whole)

theorem keeps_of_steps (h : ReflTransGen Step t u) : Keeps t u := by
  induction h with
  | refl => exact .refl t
  | tail _ hstep ih => exact ih.trans hstep.keeps

/-! The passes as runs of steps. -/

/-- Whether a blank stands behind each comma in front of a `where`. -/
def Spaced (t : Text) : Prop := ∀ v, ',' :: v <:+ t → dropKeyword? "where" v = none

instance (t : Text) : Decidable (Spaced t) :=
  decidable_of_iff (∀ w ∈ t.tails, w.head? = some ',' → dropKeyword? "where" w.tail = none) <| by
    refine ⟨fun h v hv => h _ ((List.mem_tails _ _).2 hv) rfl, fun h w hw hcomma => ?_⟩
    obtain ⟨v, rfl⟩ := List.head?_eq_some_iff.1 hcomma
    exact h v ((List.mem_tails _ _).1 hw)

theorem Spaced.tail {c : Char} (h : Spaced (c :: t)) : Spaced t :=
  fun v hv => h v (hv.trans (List.suffix_cons c t))

theorem steps_dropCommas (pre : Text) (h : Spaced t) :
    ReflTransGen Step (pre ++ t) (pre ++ dropCommas t) := by
  induction t using dropCommas.induct generalizing pre with
  | case1 => exact .refl
  | case2 c cs hc ih =>
    obtain ⟨rfl, hwhere⟩ : c = ',' ∧ (dropKeyword? "where" (Text.skipBlanks cs)).isSome := by
      simpa using hc
    have hblank : cs.head?.any Unicode.isBlank := by
      by_contra hnot
      have hskip : Text.skipBlanks cs = cs :=
        Text.skipBlanks_of_head fun d hd => by simpa [hd] using hnot
      rw [hskip, h cs (List.suffix_refl _)] at hwhere
      cases hwhere
    rw [dropCommas, if_pos hc]
    exact .head (.comma pre hblank) (ih pre h.tail)
  | case3 c cs hc ih =>
    rw [dropCommas, if_neg hc]
    have hrun := ih (pre ++ [c]) h.tail
    simpa using hrun

/-- A pass that edits words is a run of steps, if each of its edits is a step. -/
theorem steps_editWords {edit : Edit}
    (hedit : ∀ pre cs u n, ¬pre.getLast?.any Unicode.isWord → edit cs = some (u, n) →
      0 < n ∧ Step (pre ++ cs) (pre ++ (u ++ cs.drop n)) ∧
        ¬(pre ++ u).getLast?.any Unicode.isWord)
    (pre : Text) (last : Option Char) (taken : Nat) (cs : Text)
    (hpre : pre.getLast?.any Unicode.isWord → taken = 0 ∧ last.any Unicode.isWord) :
    ReflTransGen Step (pre ++ cs.drop taken) (pre ++ editWords edit last taken cs) := by
  induction last, taken, cs using editWords.induct edit generalizing pre with
  | case1 => simp [editWords, ReflTransGen.refl]
  | case2 last taken c cs ih =>
    rw [editWords, List.drop_succ_cons]
    exact ih pre fun hlast => absurd (hpre hlast).1 (Nat.succ_ne_zero taken)
  | case3 last c cs u n hu ih =>
    rw [editWords, hu]
    split at hu
    · cases hu
    · rename_i hlast
      have hpre' : ¬pre.getLast?.any Unicode.isWord := fun h => hlast (hpre h).2
      obtain ⟨hn, hstep, hend⟩ := hedit pre (c :: cs) u n hpre' hu
      obtain ⟨n, rfl⟩ := Nat.exists_eq_add_one_of_ne_zero (Nat.ne_of_gt hn)
      have hrun := ih (pre ++ u) fun h => absurd h hend
      rw [List.append_assoc, List.append_assoc] at hrun
      exact .head hstep hrun
  | case4 last c cs hnone ih =>
    rw [editWords, hnone]
    have hrun := ih (pre ++ [c]) fun h => ⟨rfl, by simpa using h⟩
    simpa using hrun

theorem dropKeyword?_eq_some {word : String} {cs rest : Text}
    (h : dropKeyword? word cs = some rest) :
    ∃ w, w.sameWord word.toList ∧ cs = w ++ rest ∧ ¬rest.head?.any Unicode.isWord := by
  obtain ⟨r, hr, h⟩ := Option.bind_eq_some_iff.1 h
  split at h
  · cases h
  · rename_i hstop
    obtain rfl := Option.some.inj h
    obtain ⟨w, hw, rfl⟩ := Text.dropWord?_eq_some_iff.1 hr
    exact ⟨w, hw, rfl, hstop⟩

theorem blanks?_eq_some {cs rest : Text} (h : blanks? cs = some rest) :
    ∃ s, s ≠ [] ∧ (∀ c ∈ s, Unicode.isBlank c) ∧ cs = s ++ rest := by
  cases cs with
  | nil => cases h
  | cons c cs =>
    rw [blanks?] at h
    split at h
    · rename_i hc
      obtain rfl := Option.some.inj h
      obtain ⟨s, hs, hcs⟩ := Text.exists_skipBlanks cs
      refine ⟨c :: s, List.cons_ne_nil c s, ?_, by rw [List.cons_append, ← hcs]⟩
      exact fun d hd => (List.mem_cons.1 hd).elim (fun hdc => hdc ▸ hc) (hs d)
    · cases h

theorem connective?_eq_some {cs rest : Text} (h : connective? cs = some rest) :
    ∃ s w s', cs = s ++ (w ++ s') ++ rest ∧ s ≠ [] ∧ (∀ c ∈ s, Unicode.isBlank c) ∧ IsKeyword w ∧
      (∀ c ∈ s', Unicode.isBlank c) ∧ (s' = [] → ¬rest.head?.any Unicode.isWord) := by
  obtain ⟨cs', hblanks, h⟩ := Option.bind_eq_some_iff.1 h
  obtain ⟨r, hr, h⟩ := Option.bind_eq_some_iff.1 h
  obtain rfl := Option.some.inj h
  obtain ⟨s, hne, hs, rfl⟩ := blanks?_eq_some hblanks
  obtain ⟨word, hword, hdrop⟩ : ∃ word ∈ removableWords, dropKeyword? word cs' = some r := by
    cases hand : dropKeyword? "and" cs' with
    | some r' =>
      rw [hand] at hr
      exact ⟨"and", by decide, hand.trans hr⟩
    | none =>
      rw [hand] at hr
      exact ⟨"or", by decide, hr⟩
  obtain ⟨w, hw, rfl, hstop⟩ := dropKeyword?_eq_some hdrop
  obtain ⟨s', hs', hr'⟩ := Text.exists_skipBlanks r
  refine ⟨s, w, s', ?_, hne, hs, isKeyword_of_sameWord hw hword, hs', ?_⟩
  · conv => lhs; rw [hr']
    simp
  · rintro rfl
    rw [List.nil_append] at hr'
    rwa [← hr']

theorem drop_length_sub (a b : Text) : (a ++ b).drop ((a ++ b).length - b.length) = b := by simp

/-- An edit that deletes a connective is a step. -/
theorem step_whereConnective {pre cs u : Text} {n : Nat} (h : whereConnective cs = some (u, n)) :
    0 < n ∧ Step (pre ++ cs) (pre ++ (u ++ cs.drop n)) ∧
      ¬(pre ++ u).getLast?.any Unicode.isWord := by
  obtain ⟨cs', hdrop, h⟩ := Option.bind_eq_some_iff.1 h
  obtain ⟨rest, hrest, h⟩ := Option.bind_eq_some_iff.1 h
  obtain ⟨rfl, rfl⟩ := Prod.mk.inj (Option.some.inj h)
  obtain ⟨w, hw, rfl⟩ := Text.dropWord?_eq_some_iff.1 hdrop
  obtain ⟨s, k, s', rfl, hne, hs, hk, hs', hstop⟩ := connective?_eq_some hrest
  have hkey : IsKeyword w := isKeyword_of_sameWord hw (by decide)
  have htake : ∀ x : Text, (w ++ x).take 5 = w := fun x => by
    rw [show 5 = w.length from (Text.length_of_sameWord hw).symm, List.take_left]
  have hlast : (pre ++ w).getLast?.any Name.isPart := by
    rw [List.getLast?_append_of_ne_nil _ hkey.ne_nil,
      List.getLast?_eq_getLast_of_ne_nil hkey.ne_nil]
    exact hkey.isPart (List.getLast_mem _)
  rw [htake, ← List.append_assoc w, drop_length_sub]
  refine ⟨?_, ?_, ?_⟩
  · have := List.length_pos_iff.2 hne
    simp only [List.length_append]
    omega
  · have hstep := Step.connective hlast hs hne hk hs' hstop
    simpa using hstep
  · rw [← List.append_assoc, List.getLast?_concat]
    decide

/-- Each way for a clause to start starts with a letter or a closing parenthesis. -/
theorem head_of_startsClause {cs : Text} (h : startsClause cs) :
    cs.head?.any fun c => c.isAlpha || c == ')' := by
  have hword : ∀ {word : String} {rest : Text}, word.toList ≠ [] →
      word.toList.all (·.toLower.isAlpha) → Text.dropWord? word.toList cs = some rest →
      cs.head?.any fun c => c.isAlpha || c == ')' := by
    intro word rest hne hall hdrop
    obtain ⟨w, hw, rfl⟩ := Text.dropWord?_eq_some_iff.1 hdrop
    cases w with
    | nil =>
      have hlength := Text.length_of_sameWord hw
      exact absurd (List.eq_nil_of_length_eq_zero hlength.symm) hne
    | cons c w =>
      have hc := isAlpha_of_sameWord hw (List.all_eq_true.1 hall) (c := c) List.mem_cons_self
      simp [hc]
  have hordering : ∀ {word : String}, word.toList ≠ [] → word.toList.all (·.toLower.isAlpha) →
      startsOrdering word cs → cs.head?.any fun c => c.isAlpha || c == ')' := by
    intro word hne hall hstarts
    rw [startsOrdering] at hstarts
    cases hdrop : Text.dropWord? word.toList cs with
    | none => simp [hdrop] at hstarts
    | some rest => exact hword hne hall hdrop
  have hkeyword : ∀ {word : String}, word.toList ≠ [] → word.toList.all (·.toLower.isAlpha) →
      (dropKeyword? word cs).isSome → cs.head?.any fun c => c.isAlpha || c == ')' := by
    intro word hne hall hsome
    obtain ⟨rest, hrest⟩ := Option.isSome_iff_exists.1 hsome
    obtain ⟨r, hdrop, -⟩ := Option.bind_eq_some_iff.1 hrest
    exact hword hne hall hdrop
  simp only [startsClause, Bool.or_eq_true] at h
  rcases h with (((h | h) | h) | h) | h
  · exact hordering (by decide) (by decide) h
  · exact hordering (by decide) (by decide) h
  · exact hkeyword (by decide) (by decide) h
  · exact hkeyword (by decide) (by decide) h
  · obtain ⟨rest, hrest⟩ := Option.isSome_iff_exists.1 h
    rw [Text.eq_append_of_dropFront? hrest]
    rfl

/-- An edit that deletes a `where` is a step. -/
theorem step_whereClause {pre cs u : Text} {n : Nat} (hpre : ¬pre.getLast?.any Unicode.isWord)
    (h : whereClause cs = some (u, n)) :
    0 < n ∧ Step (pre ++ cs) (pre ++ (u ++ cs.drop n)) ∧
      ¬(pre ++ u).getLast?.any Unicode.isWord := by
  obtain ⟨cs', hdrop, h⟩ := Option.bind_eq_some_iff.1 h
  obtain ⟨rest, hrest, h⟩ := Option.bind_eq_some_iff.1 h
  split at h
  · rename_i hclause
    obtain ⟨rfl, rfl⟩ := Prod.mk.inj (Option.some.inj h)
    obtain ⟨w, hw, rfl⟩ := Text.dropWord?_eq_some_iff.1 hdrop
    obtain ⟨s, hne, hs, rfl⟩ := blanks?_eq_some hrest
    rw [← List.append_assoc w, drop_length_sub, List.nil_append, List.append_nil]
    refine ⟨?_, .clause hpre hw hs hne (head_of_startsClause hclause), hpre⟩
    have := List.length_pos_iff.2 hne
    simp only [List.length_append]
    omega
  · cases h

/-- Cleaning up a plain text is a run of steps, if blanks stand behind the commas. -/
theorem steps_plain (h : Spaced t) : ReflTransGen Step t (plain t) := by
  have hcommas := steps_dropCommas [] h
  have hconnectives := steps_editWords (fun _ _ _ _ _ => step_whereConnective) [] none 0
    (dropCommas t) (by simp)
  have hclauses := steps_editWords (fun _ _ _ _ hpre => step_whereClause hpre) [] none 0
    (editWords whereConnective none 0 (dropCommas t)) (by simp)
  exact (hcommas.trans hconnectives).trans hclauses

/-- A `where` at the end is dropped with the blanks in front of it, and the blanks behind stay. -/
theorem dropLastWhere_cases (t : Text) :
    dropLastWhere t = t ∨ ∃ a s w s', t = a ++ s ++ (w ++ s') ∧ dropLastWhere t = a ++ s' ∧
      w.sameWord "where".toList ∧ ¬(a ++ s).getLast?.any Unicode.isWord ∧
      (∀ c ∈ s, Unicode.isBlank c) ∧ ∀ c ∈ s', Unicode.isBlank c := by
  -- the text is read from its end
  obtain ⟨r, hr, ht⟩ := Text.exists_skipBlanks t.reverse
  generalize hskip : Text.skipBlanks t.reverse = body at ht
  have ht' : t = body.reverse ++ r.reverse := by
    rw [← List.reverse_append, ← ht, List.reverse_reverse]
  have hdrop : t.drop body.length = r.reverse := by
    rw [ht', ← List.length_reverse, List.drop_left]
  rw [dropLastWhere, show t.reverse.dropWhile Unicode.isBlank = body from hskip]
  split
  · rename_i before hbefore
    split
    · exact Or.inl rfl
    · rename_i hword
      right
      obtain ⟨w, hw, hbody⟩ := Text.dropWord?_eq_some_iff.1 hbefore
      obtain ⟨q, hq, hfront⟩ := Text.exists_skipBlanks before
      have hbefore' : before.reverse = (Text.skipBlanks before).reverse ++ q.reverse := by
        rw [← List.reverse_append, ← hfront]
      refine ⟨(Text.skipBlanks before).reverse, q.reverse, w.reverse, r.reverse, ?_, ?_, ?_, ?_, ?_,
        ?_⟩
      · rw [← hbefore', ht', hbody, List.reverse_append, List.append_assoc]
      · exact congrArg _ hdrop
      · rwa [← Text.sameWord_reverse, List.reverse_reverse]
      · rwa [← hbefore', List.getLast?_reverse]
      · simpa using hq
      · simpa using hr
  · exact Or.inl rfl

/-- What is left of a plain text whose last `where` may be dropped. -/
theorem Whole.dropLastWhere (h : Whole t) : Deletes t (dropLastWhere t) := by
  rcases dropLastWhere_cases t with heq | ⟨a, s, w, s', rfl, heq, hw, ha, hs, hs'⟩
  · rw [heq]
    exact h.deletes_refl
  · rw [heq]
    exact h.ending hw ha hs hs'

/-! The segments. -/

/-- Whether nothing runs on over the place of a `where` that is dropped at the end: a region in
front of it ends where it did, and no two dashes meet. -/
def Sealed (ss : List Segment) : Prop :=
  ∀ before t after, ss = before ++ .plain t :: after → t.isBlank = false →
    after.any counts = false → dropLastWhere (plain t) ≠ plain t →
      (∀ run, before.getLast? = some (.inert run) →
        Follows run (dropLastWhere (plain t) ++ cleanSegments after)) ∧
      ¬((dropLastWhere (plain t)).getLast? = some '-' ∧ (cleanSegments after).head? = some '-')

/-- Whether cleaning up the segments can be said of their tokens. -/
structure Orderly (ss : List Segment) : Prop where
  whole : ∀ t, .plain t ∈ ss → Whole t
  spaced : ∀ t, .plain t ∈ ss → Spaced t
  sealed : Sealed ss

theorem Orderly.tail {s : Segment} {ss : List Segment} (h : Orderly (s :: ss)) : Orderly ss where
  whole t ht := h.whole t (List.mem_cons_of_mem s ht)
  spaced t ht := h.spaced t (List.mem_cons_of_mem s ht)
  sealed before t after heq hblank hafter hne := by
    obtain ⟨hrun, hdash⟩ := h.sealed (s :: before) t after (by rw [heq]; rfl) hblank hafter hne
    refine ⟨fun run hlast => hrun run ?_, hdash⟩
    rw [List.getLast?_cons, hlast]
    rfl

theorem cleanSegments_inert (run : Text) (ss : List Segment) :
    cleanSegments (.inert run :: ss) = run ++ cleanSegments ss := rfl

/-- What is left of a plain segment: what the passes leave, or that without the last `where`. -/
theorem cleanSegments_plain (t : Text) (ss : List Segment) :
    ∃ left, cleanSegments (.plain t :: ss) = left ++ cleanSegments ss ∧
      (left = plain t ∨ t.isBlank = false ∧ ss.any counts = false ∧
        dropLastWhere (plain t) ≠ plain t ∧ left = dropLastWhere (plain t)) := by
  rw [cleanSegments]
  by_cases hlast : (!t.isBlank && !ss.any counts) = true
  · rw [if_pos hlast]
    refine ⟨dropLastWhere (plain t), rfl, ?_⟩
    by_cases heq : dropLastWhere (plain t) = plain t
    · exact Or.inl heq
    · simp only [Bool.and_eq_true, Bool.not_eq_true'] at hlast
      exact Or.inr ⟨hlast.1, hlast.2, heq, rfl⟩
  · rw [if_neg hlast]
    exact ⟨plain t, rfl, Or.inl rfl⟩

theorem follows_of_head? {run rest rest' : Text} (h : Follows run rest)
    (hhead : rest'.head? = rest.head?) : Follows run rest' := by
  refine ⟨?_, ?_, ?_⟩
  · rw [hhead]
    exact h.1
  · have hnil : rest = [] → rest' = [] := by
      rintro rfl
      exact List.head?_eq_none_iff.1 hhead
    rw [hhead]
    exact fun hdash => (h.2.1 hdash).imp_left hnil
  · rw [hhead]
    exact h.2.2

/-- A region in front of plain text is left alone by what keeps the ends of the text. -/
theorem Keeps.follows (h : Keeps t u) (hne : t ≠ []) (hplain : Segment.IsPlain u) {run : Text}
    {rest rest' : Text} (hfollows : Follows run (t ++ rest)) : Follows run (u ++ rest') := by
  obtain ⟨c, t, rfl⟩ := List.exists_cons_of_ne_nil hne
  obtain ⟨d, u, rfl⟩ := List.exists_cons_of_ne_nil (h.ne_nil hne)
  refine ⟨fun hquote hd => ?_, fun hdash => ?_, fun hcolon hpart => ?_⟩
  · -- no plain text starts with a quote
    have hmark : d = '\x27' ∨ d = '\x22' := by
      rw [← hd] at hquote
      simpa using hquote
    have hnone := hplain _ (List.suffix_refl _)
    rw [Segment.region?_quoted hmark] at hnone
    cases hnone
  · have hc := (hfollows.2.1 hdash).resolve_left (List.cons_ne_nil _ _)
    exact Or.inr (h.newline hc)
  · exact hfollows.2.2 hcolon (h.part hpart)

/-- What is left of a plain segment is whole, without some of its tokens. -/
theorem Orderly.left {t left : Text} {ss : List Segment} (h : Orderly (.plain t :: ss))
    (hleft : left = plain t ∨ left = dropLastWhere (plain t)) :
    Deletes t left := by
  have hplain : Deletes t (plain t) :=
    deletes_of_steps (steps_plain (h.spaced t List.mem_cons_self)) (h.whole t List.mem_cons_self)
  rcases hleft with rfl | rfl
  · exact hplain
  · exact hplain.trans hplain.whole.dropLastWhere

theorem Orderly.keeps {t : Text} {ss : List Segment} (h : Orderly (.plain t :: ss)) :
    Keeps t (plain t) :=
  keeps_of_steps (steps_plain (h.spaced t List.mem_cons_self))

/-- A region ends in front of what is left where it did in the text. -/
theorem Orderly.follows {run : Text} {ss : List Segment} (h : Orderly (.inert run :: ss))
    (hcut : Cut (.inert run :: ss)) : Follows run (cleanSegments ss) := by
  have hfollows := Segment.follows_of_region? hcut.1
  match ss, hcut.2 with
  | [], _ => exact hfollows
  | .inert run' :: ss, hcut' =>
    refine follows_of_head? hfollows ?_
    obtain ⟨c, run', rfl⟩ := List.exists_cons_of_ne_nil (Segment.region?_append hcut'.1).2
    rfl
  | .plain t :: ss, hcut' =>
    obtain ⟨left, heq, hleft⟩ := cleanSegments_plain t ss
    rw [heq]
    rcases hleft with rfl | ⟨hblank, hlast, hne, rfl⟩
    · exact h.tail.keeps.follows hcut'.1 (h.tail.left (Or.inl rfl)).whole.plain hfollows
    · exact (h.sealed [.inert run] t ss rfl hblank hlast hne).1 run rfl

theorem Orderly.region?_eq {run : Text} {ss : List Segment} (h : Orderly (.inert run :: ss))
    (hcut : Cut (.inert run :: ss)) :
    region? (run ++ cleanSegments ss) = some (run, cleanSegments ss) := by
  cases ss with
  | nil => exact hcut.1
  | cons s ss =>
    have hne : Segment.unsplit (s :: ss) ≠ [] := fun hnil => by
      cases Segment.eq_nil_of_unsplit hcut.2 hnil
    exact Segment.region?_change hcut.1 hne (h.follows hcut)

theorem head?_segments_ne {cs : Text} (h : cs = [] ∨ (region? cs).isSome) (v : Text) :
    (segments cs).head? ≠ some (.plain v) := by
  rcases h with rfl | h
  · simp
  · obtain ⟨⟨run, rest⟩, hregion⟩ := Option.isSome_iff_exists.1 h
    simp [segments_of_region? hregion]

/-- Plain text in front of a region is a segment, if no two dashes meet. -/
theorem segments_append_of_region {left rest : Text} (hne : left ≠ [])
    (hplain : Segment.IsPlain left) (hregion : rest = [] ∨ (region? rest).isSome)
    (hdash : ¬(left.getLast? = some '-' ∧ rest.head? = some '-')) :
    segments (left ++ rest) = .plain left :: segments rest := by
  refine Segment.segments_plain_append hne (fun w hw hsuffix => ?_) (head?_segments_ne hregion)
  refine Segment.region?_append_eq_none hw (hplain.suffix hsuffix) hregion ?_
  obtain ⟨v, rfl⟩ := hsuffix
  rwa [List.getLast?_append_of_ne_nil _ hw] at hdash

/-- In front of what is left of the segments stands no plain text where there was none. -/
theorem Orderly.head? {ss : List Segment} (h : Orderly ss) (hcut : Cut ss)
    (hhead : ∀ u, ss.head? ≠ some (.plain u)) :
    (cleanSegments ss = [] ∨ (region? (cleanSegments ss)).isSome) ∧
      (cleanSegments ss).head? = (Segment.unsplit ss).head? := by
  match ss with
  | [] => exact ⟨Or.inl rfl, rfl⟩
  | .plain t :: ss => exact absurd rfl (hhead t)
  | .inert run :: ss =>
    obtain ⟨c, run', rfl⟩ := List.exists_cons_of_ne_nil (Segment.region?_append hcut.1).2
    refine ⟨Or.inr ?_, rfl⟩
    rw [cleanSegments_inert, h.region?_eq hcut]
    rfl

/-- Cleaning up the segments deletes whole tokens. -/
theorem Orderly.drops {ss : List Segment} (h : Orderly ss) (hcut : Cut ss) :
    Drops (ss.flatMap segmentTokens) (tokens (cleanSegments ss)) := by
  induction ss with
  | nil =>
    rw [tokens, cleanSegments, segments_nil]
    exact .nil
  | cons s ss ih =>
    cases s with
    | inert run =>
      rw [tokens, cleanSegments_inert, segments_of_region? (h.region?_eq hcut), List.flatMap_cons,
        List.flatMap_cons]
      exact .keep _ (ih h.tail hcut.2)
    | plain t =>
      obtain ⟨hne, -, hhead, hcut'⟩ := id hcut
      obtain ⟨left, heq, hleft⟩ := cleanSegments_plain t ss
      obtain ⟨hwhole, hdrops⟩ := h.left (hleft.imp_right fun hlast => hlast.2.2.2)
      obtain ⟨hregion, hsame⟩ := h.tail.head? hcut' hhead
      have hdash : ¬(left.getLast? = some '-' ∧ (cleanSegments ss).head? = some '-') := by
        rcases hleft with rfl | ⟨hblank, hlast, hne', rfl⟩
        · rintro ⟨hl, hd⟩
          exact hcut.not_dash ⟨h.keeps.dash hl, by rwa [← hsame]⟩
        · exact (h.sealed [] t ss rfl hblank hlast hne').2
      have hdrop : Drops ((Segment.plain t :: ss).flatMap segmentTokens)
          (plainTokens left ++ tokens (cleanSegments ss)) := hdrops.append (ih h.tail hcut')
      rw [heq]
      by_cases hnil : left = []
      · simpa [hnil] using hdrop
      · rwa [tokens, segments_append_of_region hnil hwhole.plain hregion hdash, List.flatMap_cons]

/-- Whether a token is a parameter or a placeholder. -/
def Token.isReference : Token → Bool
  | .parameter _ => true
  | .placeholder _ => true
  | _ => false

theorem isPlain_of_mem {ss : List Segment} (hcut : Cut ss) (h : .plain t ∈ ss) :
    Segment.IsPlain t := by
  induction ss with
  | nil => cases h
  | cons s ss ih =>
    rcases List.mem_cons.1 h with rfl | hmem
    · exact hcut.isPlain
    · cases s with
      | plain u => exact ih hcut.2.2.2 hmem
      | inert u => exact ih hcut.2 hmem

end Cleanup

open Cleanup

/-- Cleaning up deletes nothing but commas and the words `where`, `and` and `or`, each of them
whole, if no parameter is named `where`, blanks stand behind the commas in front of a `where`,
placeholders are closed, and nothing joins where the last `where` stood.  So all parameters and
placeholders stay as they are. -/
theorem drops_tokens_cleanup {sql : Text}
    (hnames : ∀ name, .parameter name ∈ tokens sql → ¬EndsInWhere name)
    (hspaced : ∀ t, .plain t ∈ segments sql → Spaced t)
    (hbraced : ∀ t, .plain t ∈ segments sql → Placeholder.Braced t)
    (hsealed : Sealed (segments sql)) :
    Drops (tokens sql) (tokens (cleanup sql)) ∧
      (tokens (cleanup sql)).filter Token.isReference =
        (tokens sql).filter Token.isReference := by
  have hcut := Segment.cut_segments sql
  have horderly : Orderly (segments sql) := by
    refine ⟨fun t ht => ⟨isPlain_of_mem hcut ht, hbraced t ht, fun name hname => ?_⟩, hspaced,
      hsealed⟩
    exact hnames name (List.mem_flatMap.2 ⟨_, ht, hname⟩)
  have hdrops := horderly.drops hcut
  refine ⟨hdrops, hdrops.filter_eq fun k hk => ?_⟩
  cases k with
  | inert t => rfl
  | word w => rfl
  | mark c => rfl
  | parameter name => cases hk
  | placeholder w => cases hk

/-- Commas, a connective, and a `where` in front of a comment. -/
theorem drops_tokens_cleanup_comment :
    cleanup "select * from t, where and a = :a where -- all".toList =
      "select * from t where a = :a -- all".toList ∧
    Drops (tokens "select * from t, where and a = :a where -- all".toList)
      (tokens "select * from t where a = :a -- all".toList) := by
  have hsegments : segments "select * from t, where and a = :a where -- all".toList =
      [.plain "select * from t, where and a = :a where ".toList, .inert "-- all".toList] := by
    decide +kernel
  have hclean : cleanup "select * from t, where and a = :a where -- all".toList =
      "select * from t where a = :a -- all".toList := by decide +kernel
  refine ⟨hclean, ?_⟩
  rw [← hclean]
  have hplain : ∀ t, .plain t ∈ segments "select * from t, where and a = :a where -- all".toList →
      t = "select * from t, where and a = :a where ".toList := by
    rw [hsegments]
    simp
  refine (drops_tokens_cleanup (fun name hname => ?_) (fun t ht => ?_) (fun t ht => ?_) ?_).1
  · have hshort : ∀ k ∈ tokens "select * from t, where and a = :a where -- all".toList,
        k = .parameter "a".toList ∨ k.isReference = false := by decide +kernel
    obtain rfl : name = "a".toList := by simpa [Token.isReference] using hshort _ hname
    rintro ⟨x, w, heq, hw, -⟩
    have hlength := congrArg List.length heq
    rw [List.length_append, Text.length_of_sameWord hw] at hlength
    simp at hlength
  · rw [hplain t ht]
    decide +kernel
  · rw [hplain t ht]
    exact Placeholder.braced_of_notMem (by decide)
  · intro before t after heq hblank hafter hne
    rw [hsegments] at heq
    match before, heq with
    | [], heq =>
      obtain ⟨ht, rfl⟩ := List.cons.inj heq
      obtain rfl := Segment.plain.inj ht
      exact ⟨by simp, by decide +kernel⟩
    | [s], heq => simp at heq
    | s :: s' :: before, heq => simp at heq

/-- A comma between a parameter and a `where` is not all that is deleted. -/
theorem not_forall_drops_tokens_cleanup :
    ¬∀ sql, Drops (tokens sql) (tokens (cleanup sql)) := by
  intro h
  have hmem : Token.parameter "awhere".toList ∈
      tokens (cleanup "update t set a = :a,where id = 1".toList) := by decide +kernel
  have hnot : Token.parameter "awhere".toList ∉
      tokens "update t set a = :a,where id = 1".toList := by decide +kernel
  exact hnot ((h _).subset hmem)

end SqlTemplate
