import SqlTemplate.Proofs.Literal

/-!
The lexical segmentation by itself.  Which segmentations a text has is said of the segments alone:
regions are complete, and nothing in plain text opens one.  Where no two dashes meet at the end of
plain text, exactly one list of segments is a segmentation, and it is the one that is read.
-/
namespace SqlTemplate

namespace Segment

/-! Plain text. -/

/-- Nothing in the text opens a region. -/
structure Unmarked (t : Text) : Prop where
  string : '\x27' ∉ t
  identifier : '\x22' ∉ t
  comment : ¬['-', '-'] <:+: t
  block : ¬['/', '*'] <:+: t
  cast : ∀ c, Name.isStart c → ¬[':', ':', c] <:+: t

theorem Unmarked.isPlain {t : Text} (h : Unmarked t) : IsPlain t := by
  intro w hw
  rw [← Option.not_isSome_iff_eq_none, region?_isSome_iff]
  have hin : ∀ {u : Text}, u <+: w → u <:+: t := fun hu => hu.isInfix.trans hw.isInfix
  rintro ((hq | hq) | hd | hb | ⟨c, hc, hcast⟩)
  · exact h.string (hw.subset (List.mem_of_head? hq))
  · exact h.identifier (hw.subset (List.mem_of_head? hq))
  · exact h.comment (hin hd)
  · exact h.block (hin hb)
  · exact h.cast c hc (hin hcast)

theorem IsPlain.unmarked {t : Text} (h : IsPlain t) : Unmarked t := by
  -- whatever opens a region does so at the start of the suffix that it stands in front of
  have hopens : ∀ {u : Text}, u <:+: t → (∀ v, (region? (u ++ v)).isSome) → False := by
    rintro u ⟨s, v, rfl⟩ hu
    have hnone := h (u ++ v) ⟨s, by simp⟩
    simpa [hnone] using hu v
  have hmark : ∀ {c : Char}, c ∈ t → [c] <:+: t := by
    intro c hc
    obtain ⟨s, v, rfl⟩ := List.append_of_mem hc
    exact ⟨s, v, by simp⟩
  refine ⟨fun hq => hopens (hmark hq) fun v => rfl, fun hq => hopens (hmark hq) fun v => rfl,
    fun hd => hopens hd fun v => rfl, fun hb => hopens hb fun v => rfl, fun c hc hcast => ?_⟩
  refine hopens hcast fun v => ?_
  rw [List.cons_append, List.cons_append, List.cons_append, region?_cast hc]
  rfl

/-! Quoted runs. -/

/-- A quoted run ends at a mark that is not doubled, or at the end of the text. -/
theorem quotedRun_spec (mark : Char) (cs : Text) :
    (∃ s, (quotedRun mark cs).1 = Text.double mark s ++ [mark]) ∨
      (∃ s, (quotedRun mark cs).1 = Text.double mark s) ∧ (quotedRun mark cs).2 = [] := by
  induction cs using quotedRun.induct mark with
  | case1 => exact Or.inr ⟨⟨[], rfl⟩, rfl⟩
  | case2 c =>
    by_cases hc : c = mark
    · exact Or.inl ⟨[], by simp [quotedRun, Text.double, hc]⟩
    · exact Or.inr ⟨⟨[c], by simp [quotedRun, Text.double, hc]⟩, rfl⟩
  | case3 cs run rest hr ih =>
    rw [quotedRun_mark_mark]
    rcases ih with ⟨s, hs⟩ | ⟨⟨s, hs⟩, hrest⟩
    · exact Or.inl ⟨mark :: s, by simp [hs, Text.double]⟩
    · exact Or.inr ⟨⟨mark :: s, by simp [hs, Text.double]⟩, hrest⟩
  | case4 d cs hd => exact Or.inl ⟨[], by simp [quotedRun, hd, Text.double]⟩
  | case5 c d cs hc run rest hr ih =>
    rw [quotedRun_cons_of_ne hc]
    rcases ih with ⟨s, hs⟩ | ⟨⟨s, hs⟩, hrest⟩
    · exact Or.inl ⟨c :: s, by simp [hs, Text.double, hc]⟩
    · exact Or.inr ⟨⟨c :: s, by simp [hs, Text.double, hc]⟩, hrest⟩

/-- A run whose marks are all doubled goes on to the end of the text. -/
theorem quotedRun_double_end (mark : Char) (s : Text) :
    quotedRun mark (s.double mark) = (s.double mark, []) := by
  induction s with
  | nil => rfl
  | cons c s ih =>
    simp only [Text.double, List.flatMap_cons] at ih ⊢
    by_cases hc : c = mark
    · subst hc
      simp only [↓reduceIte, List.cons_append, List.nil_append]
      rw [quotedRun_mark_mark, ih]
    · simp only [hc, ↓reduceIte, List.cons_append, List.nil_append]
      rw [quotedRun_cons_of_ne hc, ih]

/-! Block comments. -/

/-- How many more block comments a text opens than it closes. -/
def depth : Text → Int
  | '/' :: '*' :: cs => depth cs + 1
  | '*' :: '/' :: cs => depth cs - 1
  | _ :: cs => depth cs
  | [] => 0

/-- Behind `d` open comments, no part that the text goes on after closes them all. -/
def Inside (d : Int) (t : Text) : Prop := ∀ u, u <+: t → u ≠ t → 0 < d + depth u

theorem depth_open (t : Text) : depth ('/' :: '*' :: t) = depth t + 1 := rfl

theorem depth_close (t : Text) : depth ('*' :: '/' :: t) = depth t - 1 := rfl

theorem depth_cons {c : Char} {t : Text} (hopen : ¬(c = '/' ∧ t.head? = some '*'))
    (hclose : ¬(c = '*' ∧ t.head? = some '/')) : depth (c :: t) = depth t := by
  rw [depth]
  · rintro cs rfl rfl
    exact hopen ⟨rfl, rfl⟩
  · rintro cs rfl rfl
    exact hclose ⟨rfl, rfl⟩

theorem head?_of_prefix {t u : Text} (h : u <+: t) (hne : u ≠ []) : u.head? = t.head? := by
  obtain ⟨v, rfl⟩ := h
  cases u with
  | nil => exact absurd rfl hne
  | cons c u => rfl

theorem inside_cons {d : Int} {c : Char} {t : Text} (hopen : ¬(c = '/' ∧ t.head? = some '*'))
    (hclose : ¬(c = '*' ∧ t.head? = some '/')) : Inside d (c :: t) ↔ 0 < d ∧ Inside d t := by
  -- a part of the tail has the tail's first character, so `c` in front of it counts for nothing
  have hdepth : ∀ u, u <+: t → depth (c :: u) = depth u := by
    intro u hu
    cases u with
    | nil => exact depth_cons (by simp) (by simp)
    | cons e u =>
      have hhead := head?_of_prefix hu (by simp)
      exact depth_cons (by rwa [hhead]) (by rwa [hhead])
  constructor
  · intro h
    refine ⟨by simpa [depth] using h [] List.nil_prefix (by simp), fun u hu hne => ?_⟩
    have := h (c :: u) (by simpa using hu) (by simpa using hne)
    rwa [hdepth u hu] at this
  · rintro ⟨hd, h⟩ u hu hne
    cases u with
    | nil => simpa [depth] using hd
    | cons e u =>
      obtain ⟨rfl, htail⟩ := List.cons_prefix_cons.1 hu
      rw [hdepth u htail]
      exact h u htail (by simpa using hne)

theorem depth_singleton (c : Char) : depth [c] = 0 := depth_cons (by simp) (by simp)

/-- Two characters that open or close a comment count once both are there. -/
theorem inside_pair {d k : Int} {c e : Char} (hk : ∀ u, depth (c :: e :: u) = depth u + k)
    {t : Text} : Inside d (c :: e :: t) ↔ 0 < d ∧ Inside (d + k) t := by
  constructor
  · intro h
    refine ⟨by simpa [depth] using h [] List.nil_prefix (by simp), fun u hu hne => ?_⟩
    have := h (c :: e :: u) (by simpa using hu) (by simpa using hne)
    rw [hk] at this
    omega
  · rintro ⟨hd, h⟩ u hu hne
    match u with
    | [] => simpa [depth] using hd
    | [f] => simpa [depth_singleton] using hd
    | f :: g :: u =>
      obtain ⟨rfl, hrest⟩ := List.cons_prefix_cons.1 hu
      obtain ⟨rfl, htail⟩ := List.cons_prefix_cons.1 hrest
      have := h u htail (by simpa using hne)
      rw [hk]
      omega

theorem inside_open {d : Int} {t : Text} :
    Inside d ('/' :: '*' :: t) ↔ 0 < d ∧ Inside (d + 1) t := inside_pair depth_open

theorem inside_close {d : Int} {t : Text} :
    Inside d ('*' :: '/' :: t) ↔ 0 < d ∧ Inside (d - 1) t := inside_pair depth_close

theorem inside_nil (d : Int) : Inside d [] := fun _ hu hne => absurd (List.prefix_nil.1 hu) hne

theorem inside_singleton {d : Int} {c : Char} : Inside d [c] ↔ 0 < d := by
  rw [inside_cons (by simp) (by simp)]
  simp [inside_nil]

/-- A block comment ends where all comments are closed for the first time, or at the end of the
text. -/
theorem blockRun_spec {d : Nat} (hd : 0 < d) (cs : Text) :
    Inside d (blockRun d cs).1 ∧
      (d + depth (blockRun d cs).1 = 0 ∨
        0 < d + depth (blockRun d cs).1 ∧ (blockRun d cs).2 = []) := by
  induction d, cs using blockRun.induct with
  | case1 d => exact ⟨inside_nil d, Or.inr ⟨by simpa [blockRun, depth] using hd, rfl⟩⟩
  | case2 d c =>
    refine ⟨inside_singleton.2 (by omega), Or.inr ⟨?_, rfl⟩⟩
    rw [blockRun, depth_singleton]
    omega
  | case3 d c e cs h run rest hr ih =>
    obtain ⟨rfl, rfl⟩ := h
    obtain ⟨hin, hend⟩ := ih (by omega)
    rw [blockRun_open]
    refine ⟨inside_open.2 ⟨by omega, by simpa using hin⟩, ?_⟩
    simp only [depth_open]
    push_cast at hend
    exact hend.imp (fun h => by omega) (And.imp_left fun h => by omega)
  | case4 d c e cs hopen h hle =>
    obtain ⟨rfl, rfl⟩ := h
    rw [blockRun_last hle]
    refine ⟨inside_close.2 ⟨by omega, inside_nil _⟩, Or.inl ?_⟩
    simp only [depth_close, depth]
    omega
  | case5 d c e cs hopen h hle run rest hr ih =>
    obtain ⟨rfl, rfl⟩ := h
    obtain ⟨hin, hend⟩ := ih (by omega)
    have hcast : ((d - 1 : Nat) : Int) = d - 1 := by omega
    rw [hcast] at hin hend
    rw [blockRun_close hle]
    refine ⟨inside_close.2 ⟨by omega, hin⟩, ?_⟩
    simp only [depth_close]
    exact hend.imp (fun h => by omega) (And.imp_left fun h => by omega)
  | case6 d c e cs hopen hclose run rest hr ih =>
    have hhead := head?_blockRun d e cs
    have hopen' : ¬(c = '/' ∧ (blockRun d (e :: cs)).1.head? = some '*') := by
      simpa [hhead] using hopen
    have hclose' : ¬(c = '*' ∧ (blockRun d (e :: cs)).1.head? = some '/') := by
      simpa [hhead] using hclose
    obtain ⟨hin, hend⟩ := ih hd
    rw [blockRun_cons hopen hclose]
    exact ⟨(inside_cons hopen' hclose').2 ⟨by omega, hin⟩, by rwa [depth_cons hopen' hclose']⟩

/-- A text that closes all comments where it ends, or goes on to the end of everything, is read as
the rest of a block comment. -/
theorem blockRun_eq {d : Nat} (hd : 0 < d) {t rest : Text} (hin : Inside d t)
    (hend : d + depth t = 0 ∨ 0 < d + depth t ∧ rest = []) :
    blockRun d (t ++ rest) = (t, rest) := by
  induction t using depth.induct generalizing d with
  | case1 t ih =>
    have hd' : (0 : Int) < d + 1 := by omega
    rw [depth_open] at hend
    have h := ih (d := d + 1) (by omega) (by simpa using (inside_open.1 hin).2)
      (by push_cast; exact hend.imp (fun h => by omega) (And.imp_left fun h => by omega))
    rw [List.cons_append, List.cons_append, blockRun_open, h]
  | case2 t ih =>
    rw [depth_close] at hend
    have hin' := (inside_close.1 hin).2
    by_cases hone : d ≤ 1
    · obtain rfl : d = 1 := by omega
      -- the mark closes the last comment, so nothing of the text can be left
      have hnil : t = [] := by
        refine Decidable.byContradiction fun hne => ?_
        have := hin' [] List.nil_prefix (Ne.symm hne)
        simp [depth] at this
      subst hnil
      exact blockRun_last (Nat.le_refl 1) rest
    · have hcast : ((d - 1 : Nat) : Int) = d - 1 := by omega
      have h := ih (d := d - 1) (by omega) (by rwa [hcast])
        (by rw [hcast]; exact hend.imp (fun h => by omega) (And.imp_left fun h => by omega))
      rw [List.cons_append, List.cons_append, blockRun_close hone, h]
  | case3 c t hopen hclose ih =>
    have hopen' : ¬(c = '/' ∧ t.head? = some '*') := by
      rintro ⟨rfl, hhead⟩
      obtain ⟨u, rfl⟩ := List.head?_eq_some_iff.1 hhead
      exact hopen u rfl rfl
    have hclose' : ¬(c = '*' ∧ t.head? = some '/') := by
      rintro ⟨rfl, hhead⟩
      obtain ⟨u, rfl⟩ := List.head?_eq_some_iff.1 hhead
      exact hclose u rfl rfl
    rw [depth_cons hopen' hclose'] at hend
    have h := ih hd ((inside_cons hopen' hclose').1 hin).2 hend
    cases t with
    | nil =>
      obtain rfl : rest = [] := by
        rcases hend with h | ⟨-, hrest⟩
        · simp [depth] at h
          omega
        · exact hrest
      rfl
    | cons e t =>
      rw [List.cons_append] at h ⊢
      rw [List.cons_append, blockRun_cons (by simpa using hopen') (by simpa using hclose'), h]
  | case4 =>
    obtain rfl : rest = [] := by
      rcases hend with h | ⟨-, hrest⟩
      · simp [depth] at h
        omega
      · exact hrest
    rfl

/-! Segmentations. -/

/-- Whether a text is exactly one region where `rest` follows it. -/
inductive Complete : Text → Text → Prop
  | quoted {mark : Char} (hm : mark = '\x27' ∨ mark = '\x22') (s : Text) {rest : Text}
    (hrest : rest.head? ≠ some mark) : Complete (mark :: (s.double mark ++ [mark])) rest
  | openQuoted {mark : Char} (hm : mark = '\x27' ∨ mark = '\x22') (s : Text) :
    Complete (mark :: s.double mark) []
  | comment {t rest : Text} (ht : '\n' ∉ t) (hrest : rest = [] ∨ rest.head? = some '\n') :
    Complete ('-' :: '-' :: t) rest
  | block {t : Text} (rest : Text) (hin : Inside 1 t) (hend : 1 + depth t = 0) :
    Complete ('/' :: '*' :: t) rest
  | openBlock {t : Text} (hin : Inside 1 t) (hend : 0 < 1 + depth t) :
    Complete ('/' :: '*' :: t) []
  | cast {c : Char} (hc : Name.isStart c) {cs rest : Text} (hcs : ∀ d ∈ cs, Name.isPart d)
    (hrest : ¬rest.head?.any Name.isPart) : Complete (':' :: ':' :: c :: cs) rest

theorem complete_of_region? {cs run rest : Text} (h : region? cs = some (run, rest)) :
    Complete run rest := by
  cases opening_of_region? h with
  | quoted hm t =>
    have hhead := head?_quotedRun
    rcases quotedRun_spec _ t with ⟨s, hs⟩ | ⟨⟨s, hs⟩, hrest⟩
    · rw [hs]
      exact .quoted hm s (hhead _ t)
    · rw [hs, hrest]
      exact .openQuoted hm s
  | comment t =>
    refine .comment (fun hmem => by simpa using Text.mem_takeWhile hmem) ?_
    have hstop := Text.head?_dropWhile (· != '\n') t
    cases hd : t.dropWhile (· != '\n') with
    | nil => exact Or.inl rfl
    | cons d ds => exact Or.inr (by simpa [hd] using hstop)
  | block t =>
    obtain ⟨hin, hend⟩ := blockRun_spec (d := 1) (by decide) t
    rcases hend with hend | ⟨hend, hrest⟩
    · exact .block _ hin hend
    · rw [hrest]
      exact .openBlock hin hend
  | cast hc t => exact .cast hc (fun d => Text.mem_takeWhile) (Text.head?_dropWhile _ t)

theorem Complete.region? {run rest : Text} (h : Complete run rest) :
    Segment.region? (run ++ rest) = some (run, rest) := by
  cases h with
  | quoted hm s hrest =>
    rw [List.cons_append, region?_quoted hm, List.append_assoc, List.singleton_append,
      quotedRun_double hrest]
  | openQuoted hm s => rw [List.append_nil, region?_quoted hm, quotedRun_double_end]
  | @comment t _ ht hrest =>
    have hstop : ¬rest.head?.any (· != '\n') := by
      rcases hrest with rfl | hhead
      · simp
      · simp [hhead]
    have hall : ∀ c ∈ t, (c != '\n') = true := by
      intro c hc
      rw [bne_iff_ne]
      rintro rfl
      exact ht hc
    rw [List.cons_append, List.cons_append, region?_comment,
      Text.takeWhile_append_stop hall hstop, Text.dropWhile_append_stop hall hstop]
  | block _ hin hend =>
    rw [List.cons_append, List.cons_append, region?_block,
      blockRun_eq (d := 1) (by decide) hin (Or.inl hend)]
  | openBlock hin hend =>
    rw [List.cons_append, List.cons_append, region?_block,
      blockRun_eq (d := 1) (by decide) hin (Or.inr ⟨hend, rfl⟩)]
  | cast hc hcs hrest =>
    rw [List.cons_append, List.cons_append, List.cons_append, region?_cast hc,
      Text.takeWhile_append_stop hcs hrest, Text.dropWhile_append_stop hcs hrest]

/-- The segments make up the text; none is empty, no two plain ones are neighbours, nothing in
plain text opens a region, and each inert segment is one complete region. -/
structure IsSegmentation (t : Text) (ss : List Segment) : Prop where
  whole : unsplit ss = t
  nonempty : ∀ s ∈ ss, s.text ≠ []
  joined : ∀ before u v after, ss ≠ before ++ .plain u :: .plain v :: after
  plain : ∀ u, .plain u ∈ ss → Unmarked u
  inert : ∀ before run after, ss = before ++ .inert run :: after → Complete run (unsplit after)

/-- No dash at the end of plain text has another one behind it. -/
def Seamless (ss : List Segment) : Prop :=
  ∀ before u s after, ss = before ++ .plain u :: s :: after →
    ¬(u.getLast? = some '-' ∧ s.text.head? = some '-')

theorem Cut.tail {before ss : List Segment} (h : Cut (before ++ ss)) : Cut ss := by
  induction before with
  | nil => exact h
  | cons s before ih =>
    cases s with
    | inert t => exact ih h.2
    | plain t => exact ih h.2.2.2

theorem Cut.unmarked {u : Text} {ss : List Segment} (h : Cut (.plain u :: ss)) : Unmarked u :=
  h.isPlain.unmarked

theorem Cut.isSegmentation {ss : List Segment} (h : Cut ss) : IsSegmentation (unsplit ss) ss := by
  have htail : ∀ {before s after}, ss = before ++ s :: after → Cut (s :: after) := by
    rintro before s after rfl
    exact h.tail
  refine ⟨rfl, fun s hs => ?_, fun before u v after heq => ?_, fun u hu => ?_,
    fun before run after heq => complete_of_region? (htail heq).1⟩
  · obtain ⟨before, after, heq⟩ := List.append_of_mem hs
    cases s with
    | inert t => exact (region?_append (htail heq).1).2
    | plain t => exact (htail heq).1
  · exact (htail heq).2.2.1 v rfl
  · obtain ⟨before, after, heq⟩ := List.append_of_mem hu
    exact (htail heq).unmarked

theorem Cut.seamless {ss : List Segment} (h : Cut ss) : Seamless ss := by
  rintro before u s after rfl ⟨hlast, hdash⟩
  obtain ⟨w, hw⟩ := List.head?_eq_some_iff.1 hdash
  exact h.tail.not_dash ⟨hlast, by rw [unsplit_cons, hw]; rfl⟩

theorem IsSegmentation.tail {t : Text} {s : Segment} {ss : List Segment}
    (h : IsSegmentation t (s :: ss)) : IsSegmentation (unsplit ss) ss where
  whole := rfl
  nonempty r hr := h.nonempty r (List.mem_cons_of_mem s hr)
  joined before u v after heq := h.joined (s :: before) u v after (by rw [heq]; rfl)
  plain u hu := h.plain u (List.mem_cons_of_mem s hu)
  inert before run after heq := h.inert (s :: before) run after (by rw [heq]; rfl)

theorem cut_of_isSegmentation {t : Text} {ss : List Segment} (h : IsSegmentation t ss)
    (hseam : Seamless ss) : Cut ss := by
  induction ss generalizing t with
  | nil => trivial
  | cons s ss ih =>
    have hcut : Cut ss :=
      ih h.tail fun before u r after heq => hseam (s :: before) u r after (by rw [heq]; rfl)
    cases s with
    | inert run => exact ⟨(h.inert [] run ss rfl).region?, hcut⟩
    | plain u =>
      have hhead : ∀ v, ss.head? ≠ some (.plain v) := by
        intro v hv
        obtain ⟨after, rfl⟩ := List.head?_eq_some_iff.1 hv
        exact h.joined [] u v after rfl
      refine ⟨h.nonempty _ List.mem_cons_self, fun w hne hw => ?_, hhead, hcut⟩
      have hplain : IsPlain w := (h.plain u List.mem_cons_self).isPlain.suffix hw
      refine region?_append_eq_none hne hplain (region?_unsplit hcut hhead) ?_
      rintro ⟨hlast, hdash⟩
      cases ss with
      | nil => cases hdash
      | cons s after =>
        have hs : s.text ≠ [] := h.nonempty s (by simp)
        obtain ⟨v, rfl⟩ := hw
        refine hseam [] (v ++ w) s after rfl ⟨by rw [List.getLast?_append, hlast]; rfl, ?_⟩
        cases ht : s.text with
        | nil => exact absurd ht hs
        | cons c cs => simpa [ht] using hdash

theorem mapPlain_id (ss : List Segment) : mapPlain id ss = unsplit ss := by
  induction ss with
  | nil => rfl
  | cons s ss ih =>
    rw [unsplit_cons, ← ih]
    cases s <;> rfl

/-- Reading gives the only segmentation of a text in which no dash at the end of plain text has
another one behind it. -/
theorem eq_segments_iff (t : Text) :
    overPlain id t = t ∧ ∀ ss, ss = segments t ↔ IsSegmentation t ss ∧ Seamless ss := by
  refine ⟨by rw [overPlain, mapPlain_id, unsplit_segments], fun ss => ⟨?_, ?_⟩⟩
  · rintro rfl
    have hcut := cut_segments t
    exact ⟨by simpa [unsplit_segments] using hcut.isSegmentation, hcut.seamless⟩
  · rintro ⟨h, hseam⟩
    rw [← h.whole, segments_unsplit (cut_of_isSegmentation h hseam)]

/-- Of three dashes the last two may be taken for a comment as well. -/
theorem not_forall_segmentation_unique :
    ¬∀ t : Text, overPlain id t = t ∧ IsSegmentation t (segments t) ∧
      ∀ ss, IsSegmentation t ss → ss = segments t := by
  intro h
  have hsegmentation : IsSegmentation ['-', '-', '-'] [.plain ['-'], .inert ['-', '-']] := by
    refine ⟨rfl, by simp [text], fun before u v after heq => ?_, fun u hu => ?_,
      fun before run after heq => ?_⟩
    · rcases before with _ | ⟨_, _ | ⟨_, before⟩⟩ <;> simp at heq
    · obtain rfl : u = ['-'] := by simpa using hu
      exact ⟨by decide, by decide, by decide, by decide, fun c _ hcast => by
        simpa using hcast.subset List.mem_cons_self⟩
    · rcases before with _ | ⟨_, _ | ⟨_, before⟩⟩
      · simp at heq
      · obtain ⟨-, rfl, rfl⟩ : _ ∧ run = ['-', '-'] ∧ after = [] := by simpa using heq.symm
        exact .comment (by simp) (Or.inl rfl)
      · simp at heq
  have heq := (h _).2.2 _ hsegmentation
  have hread : segments ['-', '-', '-'] = [.inert ['-', '-', '-']] := by
    rw [segments_of_region? (region?_comment ['-'])]
    simp
  simp [hread] at heq

end Segment

end SqlTemplate
