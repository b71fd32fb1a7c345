import SqlTemplate.Proofs.Lexical
import SqlTemplate.Proofs.Name

/-!
Line breaks between texts.  No region opens over a line break, and a complete region in front of it
ends there: only a string, an identifier or a block comment that is still open goes on behind it.
Texts with line breaks between them have the regions that they have one by one exactly if none of
them, the last one apart, ends in such a region.
-/
namespace SqlTemplate

theorem Text.count_double (mark : Char) (s : Text) :
    (s.double mark).count mark = 2 * s.count mark := by
  induction s with
  | nil => rfl
  | cons c s ih =>
    simp only [Text.double, List.flatMap_cons, List.count_append] at ih ⊢
    rw [ih]
    by_cases hc : c = mark
    · subst hc
      simp only [↓reduceIte, List.count_cons_self, List.count_nil]
      omega
    · simp [hc]

namespace Segment

/-- A quoted run or a block comment without its end. -/
inductive Open : Text → Prop
  | quoted {mark : Char} (hm : mark = '\x27' ∨ mark = '\x22') (s : Text) :
    Open (mark :: s.double mark)
  | block {t : Text} (hin : Inside 1 t) (hopen : 0 < 1 + depth t) : Open ('/' :: '*' :: t)

/-- Whether the last segment of a text is an open region. -/
def EndsOpen (t : Text) : Prop := ∃ run, (segments t).getLast? = some (.inert run) ∧ Open run

variable {run rest a b t : Text}

theorem Open.exists_double {mark : Char} (hm : mark = '\x27' ∨ mark = '\x22')
    (h : Open (mark :: t)) : ∃ s, t = Text.double mark s := by
  cases h with
  | quoted _ s => exact ⟨s, rfl⟩
  | block => rcases hm with hm | hm <;> cases hm

theorem Open.depth_pos (h : Open ('/' :: '*' :: t)) : 0 < 1 + depth t := by
  generalize hu : '*' :: t = u at h
  cases h with
  | quoted hm => rcases hm with hm | hm <;> cases hm
  | block _ hopen =>
    obtain ⟨-, rfl⟩ := List.cons.inj hu
    exact hopen

theorem not_open {c : Char} (h : c ∉ ['\x27', '\x22', '/']) (t : Text) : ¬Open (c :: t) := by
  rintro (⟨hm, s⟩ | _)
  · rcases hm with rfl | rfl <;> simp at h
  · simp at h

/-- Only at the end of a text are regions open. -/
theorem Complete.not_open (h : Complete run rest) (hne : rest ≠ []) : ¬Open run := by
  intro hopen
  cases h with
  | @quoted mark hm s =>
    -- the marks of an open run come in pairs, and one more closes it
    obtain ⟨s', hs⟩ := hopen.exists_double hm
    have hcount := congrArg (List.count mark) hs
    rw [List.count_append, Text.count_double, Text.count_double, List.count_singleton_self]
      at hcount
    omega
  | openQuoted => exact hne rfl
  | comment => exact Segment.not_open (by decide) _ hopen
  | block _ hin hend =>
    have := hopen.depth_pos
    omega
  | openBlock => exact hne rfl
  | cast => exact Segment.not_open (by decide) _ hopen

/-- A line break leaves a region in front of it as it is, unless that is open. -/
theorem Complete.append_newline (h : Complete run rest) (hopen : rest = [] → ¬Open run)
    (b : Text) : Complete run (rest ++ '\n' :: b) := by
  have hhead : (rest ++ '\n' :: b).head? = some (rest.head?.getD '\n') := by
    cases rest <;> rfl
  cases h with
  | quoted hm s hrest =>
    refine .quoted hm s fun hmark => ?_
    cases rest with
    | nil => rcases hm with rfl | rfl <;> cases hmark
    | cons c rest => exact hrest hmark
  | openQuoted hm s => exact absurd (.quoted hm s) (hopen rfl)
  | comment ht hrest =>
    refine .comment ht (Or.inr ?_)
    rcases hrest with rfl | hrest
    · rfl
    · rw [hhead, hrest]
      rfl
  | block _ hin hend => exact .block _ hin hend
  | openBlock hin hend => exact absurd (.block hin hend) (hopen rfl)
  | cast hc hcs hrest =>
    refine .cast hc hcs fun hpart => hrest ?_
    cases rest with
    | nil => cases hpart
    | cons c rest => exact hpart

/-- No region opens over a line break. -/
theorem region?_append_newline {c : Char} (h : region? (c :: t) = none) (b : Text) :
    region? (c :: (t ++ '\n' :: b)) = none := by
  rw [← Option.not_isSome_iff_eq_none, region?_isSome_iff] at h ⊢
  -- what opens a region has no line break in it and so stands in front of this one
  have hfront : ∀ {u : Text}, '\n' ∉ u → u <+: c :: (t ++ '\n' :: b) → u <+: c :: t := by
    intro u hu hprefix
    rcases List.prefix_or_prefix_of_prefix hprefix (List.prefix_append (c :: t) ('\n' :: b)) with
      hu' | ⟨v, rfl⟩
    · exact hu'
    · cases v with
      | nil => simp
      | cons d v =>
        obtain ⟨w, hw⟩ := hprefix
        simp only [List.cons_append, List.append_assoc, List.cons.injEq, List.append_cancel_left_eq,
          true_and] at hw
        simp [hw.1] at hu
  rintro (hq | hd | hb | ⟨d, hd, hcast⟩)
  · exact h (.inl hq)
  · exact h (.inr (.inl (hfront (by decide) hd)))
  · exact h (.inr (.inr (.inl (hfront (by decide) hb))))
  · have hnewline : '\n' ∉ [':', ':', d] := by
      have hne : d ≠ '\n' := Name.ne_of_isPart (Name.isPart_of_isStart hd) rfl
      simp [hne.symm]
    exact h (.inr (.inr (.inr ⟨d, hd, hfront hnewline hcast⟩)))

/-! Where a text ends in its segments. -/

theorem endsOpen_region (h : region? t = some (run, rest)) :
    EndsOpen t ↔ rest = [] ∧ Open run ∨ EndsOpen rest := by
  rw [EndsOpen, EndsOpen, segments_of_region? h]
  by_cases hrest : rest = []
  · subst hrest
    simp
  · have hne : segments rest ≠ [] := by
      intro hnil
      have hunsplit := unsplit_segments rest
      rw [hnil] at hunsplit
      exact hrest hunsplit.symm
    rw [List.getLast?_cons_of_ne_nil hne]
    simp [hrest]

theorem getLast?_consPlain {c : Char} {ss : List Segment} :
    (consPlain c ss).getLast? = some (.inert run) ↔ ss.getLast? = some (.inert run) := by
  match ss with
  | [] => simp [consPlain]
  | [.plain u] => simp [consPlain]
  | .plain u :: s :: ss => simp [consPlain, List.getLast?_cons]
  | .inert u :: ss => simp [consPlain, List.getLast?_cons]

theorem endsOpen_cons {c : Char} (h : region? (c :: t) = none) :
    EndsOpen (c :: t) ↔ EndsOpen t := by
  simp only [EndsOpen, segments_cons h, getLast?_consPlain]

/-! Joining the segments of two texts. -/

theorem glue_cons (c : Char) (t : Text) (ss : List Segment) :
    glue (.plain (c :: t)) ss = consPlain c (glue (.plain t) ss) := by
  match t, ss with
  | [], [] => rfl
  | [], .plain u :: ss => rfl
  | [], .inert u :: ss => rfl
  | d :: t, [] => rfl
  | d :: t, .plain u :: ss => rfl
  | d :: t, .inert u :: ss => rfl

theorem merge_consPlain_append (c : Char) (ss ts : List Segment) :
    merge (consPlain c ss ++ ts) = consPlain c (merge (ss ++ ts)) := by
  match ss with
  | [] => exact glue_cons c [] (merge ts)
  | .plain u :: ss => exact glue_cons c u (merge (ss ++ ts))
  | .inert u :: ss => exact glue_cons c [] (merge (.inert u :: ss ++ ts))

/-- In the segments of a text, plain texts are in one piece. -/
theorem merge_segments (t : Text) : merge (segments t) = segments t := by
  induction t using segments.induct with
  | case1 t run rest h _ ih => rw [segments_of_region? h, merge_cons, ih, glue_inert]
  | case2 =>
    rw [segments_nil]
    rfl
  | case3 c t h ih =>
    have happend := merge_consPlain_append c (segments t) []
    rwa [List.append_nil, List.append_nil, ih, ← segments_cons h] at happend

/-- Behind a text that does not end in an open region, a line break is plain, and what follows it
is read as if it stood alone. -/
theorem segments_append_newline (h : ¬EndsOpen a) (b : Text) :
    segments (a ++ '\n' :: b) = merge (segments a ++ .plain ['\n'] :: segments b) := by
  induction a using segments.induct with
  | case1 a run rest hregion _ ih =>
    obtain ⟨hopen, hrest⟩ := not_or.1 (mt (endsOpen_region hregion).2 h)
    have hcomplete := (complete_of_region? hregion).append_newline (not_and.1 hopen) b
    rw [← (region?_append hregion).1, List.append_assoc, segments_of_region? hcomplete.region?,
      ih hrest, (region?_append hregion).1, segments_of_region? hregion]
    rfl
  | case2 =>
    have hnewline : region? ('\n' :: b) = none := rfl
    rw [segments_nil, List.nil_append, List.nil_append, segments_cons hnewline, merge_cons,
      glue_cons, merge_segments]
    rfl
  | case3 c a hregion ih =>
    rw [List.cons_append, segments_cons (region?_append_newline hregion b),
      ih (mt (endsOpen_cons hregion).2 h), segments_cons hregion, merge_consPlain_append]

/-! Regions and where they stand. -/

/-- The regions among the segments from position `n` of a text on, each with its position. -/
def regionsFrom : Nat → List Segment → List (Nat × Text)
  | _, [] => []
  | n, .plain t :: ss => regionsFrom (n + t.length) ss
  | n, .inert t :: ss => (n, t) :: regionsFrom (n + t.length) ss

/-- The regions of a text, each with its position. -/
def regions (t : Text) : List (Nat × Text) := regionsFrom 0 (segments t)

/-- The regions of texts that are read one by one, each with its position in the text where they
stand from position `n` on with line breaks between them. -/
def regionsOfEach : Nat → List Text → List (Nat × Text)
  | _, [] => []
  | n, t :: ts => regionsFrom n (segments t) ++ regionsOfEach (n + t.length + 1) ts

theorem regionsFrom_append (n : Nat) (ss ts : List Segment) :
    regionsFrom n (ss ++ ts) = regionsFrom n ss ++ regionsFrom (n + (unsplit ss).length) ts := by
  induction ss generalizing n with
  | nil => rfl
  | cons s ss ih =>
    cases s <;> simp [regionsFrom, text, ih, Nat.add_assoc]

theorem regionsFrom_glue (n : Nat) (s : Segment) (ss : List Segment) :
    regionsFrom n (glue s ss) = regionsFrom n (s :: ss) := by
  match s, ss with
  | .inert t, ss => rfl
  | .plain [], ss => rfl
  | .plain (c :: t), [] => rfl
  | .plain (c :: t), .inert u :: ss => rfl
  | .plain (c :: t), .plain u :: ss =>
    change regionsFrom (n + (c :: t ++ u).length) ss = regionsFrom (n + (c :: t).length + u.length) ss
    rw [List.length_append, Nat.add_assoc]

/-- Where regions stand is the same before and after plain texts are put together. -/
theorem regionsFrom_merge (n : Nat) (ss : List Segment) :
    regionsFrom n (merge ss) = regionsFrom n ss := by
  induction ss generalizing n with
  | nil => rfl
  | cons s ss ih =>
    rw [merge_cons, regionsFrom_glue]
    cases s <;> simp only [regionsFrom, ih]

/-- A region stands in its text in front of something that it is complete in front of. -/
theorem exists_of_mem_regionsFrom {n p : Nat} {ss : List Segment} (hcut : Cut ss)
    (h : (p, run) ∈ regionsFrom n ss) :
    ∃ front rest, unsplit ss = front ++ (run ++ rest) ∧ p = n + front.length ∧
      Complete run rest := by
  induction ss generalizing n with
  | nil => cases h
  | cons s ss ih =>
    cases s with
    | plain t =>
      obtain ⟨front, rest, hss, rfl, hcomplete⟩ := ih hcut.2.2.2 h
      exact ⟨t ++ front, rest, by simp [text, hss], by simp [Nat.add_assoc], hcomplete⟩
    | inert t =>
      rcases List.mem_cons.1 h with heq | h
      · obtain ⟨rfl, rfl⟩ := Prod.mk.inj heq
        exact ⟨[], unsplit ss, rfl, rfl, complete_of_region? hcut.1⟩
      · obtain ⟨front, rest, hss, rfl, hcomplete⟩ := ih hcut.2 h
        exact ⟨t ++ front, rest, by simp [text, hss], by simp [Nat.add_assoc], hcomplete⟩

/-- An open region at the end of a text does not end there in front of a line break. -/
theorem not_endsOpen_of_subset {n : Nat}
    (h : regionsFrom n (segments a) ⊆ regionsFrom n (segments (a ++ '\n' :: b))) : ¬EndsOpen a := by
  rintro ⟨run, hlast, hopen⟩
  obtain ⟨ss, hss⟩ := List.getLast?_eq_some_iff.1 hlast
  have ha : unsplit ss ++ run = a := by
    rw [← unsplit_segments a, hss, unsplit_append]
    simp [text]
  have hmem : (n + (unsplit ss).length, run) ∈ regionsFrom n (segments a) := by
    rw [hss, regionsFrom_append]
    simp [regionsFrom]
  obtain ⟨front, rest, hwhole, hfront, hcomplete⟩ :=
    exists_of_mem_regionsFrom (cut_segments _) (h hmem)
  rw [unsplit_segments, ← ha, List.append_assoc] at hwhole
  obtain ⟨-, hrest⟩ := List.append_inj hwhole (by omega)
  obtain rfl := List.append_cancel_left hrest
  exact hcomplete.not_open (List.cons_ne_nil _ _) hopen

theorem regionsFrom_append_newline (h : ¬EndsOpen a) (n : Nat) (b : Text) :
    regionsFrom n (segments (a ++ '\n' :: b)) =
      regionsFrom n (segments a) ++ regionsFrom (n + a.length + 1) (segments b) := by
  rw [segments_append_newline h, regionsFrom_merge, regionsFrom_append, unsplit_segments]
  rfl

theorem regionsFrom_unlines_iff (n : Nat) (ts : List Text) :
    regionsFrom n (segments (Text.unlines ts)) = regionsOfEach n ts ↔
      ∀ t ∈ ts.dropLast, ¬EndsOpen t := by
  induction ts generalizing n with
  | nil => simp [Text.unlines, regionsFrom, regionsOfEach]
  | cons t ts ih =>
    cases ts with
    | nil => simp [Text.unlines, regionsOfEach]
    | cons u ts =>
      have hunlines : Text.unlines (t :: u :: ts) = t ++ '\n' :: Text.unlines (u :: ts) := by
        simp [Text.unlines]
      rw [hunlines, regionsOfEach, List.dropLast_cons_cons, List.forall_mem_cons, ← ih]
      constructor
      · intro h
        have ht : ¬EndsOpen t := not_endsOpen_of_subset (h ▸ List.subset_append_left _ _)
        rw [regionsFrom_append_newline ht] at h
        exact ⟨ht, List.append_cancel_left h⟩
      · rintro ⟨ht, h⟩
        rw [regionsFrom_append_newline ht, h]

/-- A text, a line break and another text have the segments of the one, the line break and those of
the other, with plain texts put together, exactly if the first one does not end in an open region;
and texts with line breaks between them have the regions that they have one by one, in their places,
exactly if none but the last one ends in one. -/
theorem segments_append_newline_iff (a b : Text) (ts : List Text) :
    (segments (a ++ '\n' :: b) = merge (segments a ++ .plain ['\n'] :: segments b) ↔ ¬EndsOpen a) ∧
      (regions (Text.unlines ts) = regionsOfEach 0 ts ↔ ∀ t ∈ ts.dropLast, ¬EndsOpen t) := by
  refine ⟨⟨fun h => ?_, fun h => segments_append_newline h b⟩, regionsFrom_unlines_iff 0 ts⟩
  have hsubset : regionsFrom 0 (segments a) ⊆ regionsFrom 0 (segments (a ++ '\n' :: b)) := by
    rw [h, regionsFrom_merge, regionsFrom_append]
    exact List.subset_append_left _ _
  exact not_endsOpen_of_subset hsubset

/-- A cast and a comment that line breaks end, and a string right behind one. -/
example : regions "x::int\n'y' -- 'z\n:w".toList =
    [(1, "::int".toList), (7, "'y'".toList), (11, "-- 'z".toList)] := by decide +kernel

end Segment

end SqlTemplate
