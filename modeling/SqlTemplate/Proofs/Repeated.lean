import SqlTemplate.Proofs.Piling

/-!
Cleaning up a second time.  What is left of a text has nothing to clean up, if nothing piled up in
it, the end was cleaned up in one segment only, and nothing joins where something was taken out.
-/
namespace SqlTemplate

open Segment (Cut Apart Follows Regional)

namespace Cleanup

variable {w s s' t u v z a b x : Text} {word : String} {ss : List Segment}

/-! The end of a text without its last `where`. -/

theorem exists_of_dangling (h : Dangling b) : ∃ c t, b = c :: t ∧ Unicode.isBlank c = false := by
  cases h with
  | comma h => exact ⟨',', _, rfl, rfl⟩
  | followed h =>
    obtain ⟨w, t, rfl, hw, -⟩ := h
    obtain ⟨hne, halpha⟩ := isAlpha_of_sought hw (by decide)
    obtain ⟨c, w, rfl⟩ := List.exists_cons_of_ne_nil hne
    exact ⟨c, w ++ t, rfl, isBlank_of_isAlpha (halpha c List.mem_cons_self)⟩

theorem notMem_of_isBlank_eq_false {c : Char} (hs : ∀ c ∈ s, Unicode.isBlank c)
    (hc : Unicode.isBlank c = false) : c ∉ s := fun hmem => by
  simp [hs c hmem] at hc

/-- What has no blanks in it stands in front of the blanks at the end. -/
theorem front_of_blanks (hs : ∀ c ∈ s, Unicode.isBlank c) (h : w ++ u = v ++ s)
    (hw : ∀ c ∈ w, Unicode.isBlank c = false) : ∃ v', v = w ++ v' ∧ u = v' ++ s := by
  rcases append_eq_append_cases h with hv | ⟨c, y, rfl, rfl⟩
  · exact hv
  · exact absurd List.mem_cons_self (notMem_of_isBlank_eq_false hs (hw c (by simp)))

/-- What starts with no blank starts in front of the blanks at the end. -/
theorem start_of_blanks {c : Char} (hs : ∀ c ∈ s, Unicode.isBlank c) (h : x ++ c :: u = v ++ s)
    (hc : Unicode.isBlank c = false) : ∃ v', v = x ++ c :: v' ∧ u = v' ++ s := by
  have hfront : x ++ [c] ++ u = v ++ s := by simpa using h
  rcases append_eq_append_cases hfront with ⟨v', rfl, hv⟩ | ⟨d, y, hx, rfl⟩
  · exact ⟨v', by simp, hv⟩
  · have hmem : c ∈ d :: y := by
      have hlast := congrArg List.getLast? hx
      rw [List.getLast?_concat, List.getLast?_append_of_ne_nil _ (List.cons_ne_nil d y)] at hlast
      exact List.mem_of_getLast? hlast.symm
    exact absurd (List.mem_append_left u hmem) (notMem_of_isBlank_eq_false hs hc)

theorem isBlank_of_sought (hw : w.sameWord word.toList) (hword : word ∈ soughtWords) :
    ∀ c ∈ w, Unicode.isBlank c = false := fun c hc =>
  isBlank_of_isAlpha ((isAlpha_of_sought hw hword).2 c hc)

section

variable (hs : ∀ c ∈ s, Unicode.isBlank c) (hbound : Bounded v z)
include hs hbound

/-- The blanks at the end make no difference to the words in front of them. -/
theorem starts_change (h : Starts word (v ++ s)) (hword : word ∈ soughtWords) :
    Starts word (v ++ z) := by
  obtain ⟨w, b, heq, hw, hb⟩ := h
  obtain ⟨v', rfl, rfl⟩ := front_of_blanks hs heq.symm (isBlank_of_sought hw hword)
  refine ⟨w, v' ++ z, by simp, hw, ?_⟩
  cases v' with
  | cons c v' => exact hb
  | nil =>
    have hne := (isAlpha_of_sought hw hword).1
    rw [List.append_nil] at hbound
    refine hbound ?_
    rw [List.getLast?_eq_getLast_of_ne_nil hne]
    exact isWord_of_sought hw hword _ (List.getLast_mem hne)

theorem connects_change (h : Connects (v ++ s)) : Connects (v ++ z) :=
  h.imp (starts_change hs hbound · (by decide)) (starts_change hs hbound · (by decide))

theorem opensClause_change (h : OpensClause (v ++ s)) : OpensClause (v ++ z) := by
  generalize heq : v ++ s = t at h
  cases h with
  | parenthesis t =>
    obtain ⟨v, rfl, -⟩ := start_of_blanks (x := []) hs heq.symm (by decide)
    exact .parenthesis _
  | limit h => exact .limit (starts_change hs hbound (heq ▸ h) (by decide))
  | union h => exact .union (starts_change hs hbound (heq ▸ h) (by decide))
  | @ordering w r t hw hr hne h =>
    have hblank : ∀ c ∈ w, Unicode.isBlank c = false :=
      hw.elim (isBlank_of_sought · (by decide)) (isBlank_of_sought · (by decide))
    obtain ⟨v, rfl, hv⟩ := front_of_blanks hs heq.symm hblank
    obtain ⟨c, t, rfl, hc⟩ := h.head (by decide)
    obtain ⟨v, rfl, rfl⟩ := start_of_blanks hs hv (isBlank_of_isAlpha hc)
    rw [List.append_assoc, List.append_assoc]
    exact .ordering hw hr hne (starts_change hs hbound.of_append.of_append h (by decide))

theorem dangling_change (h : Dangling (v ++ s)) : Dangling (v ++ z) := by
  generalize heq : v ++ s = t at h
  cases h with
  | comma h =>
    obtain ⟨v, rfl, hv⟩ := start_of_blanks (x := []) hs heq.symm (by decide)
    obtain ⟨r, t, rfl, hr, ht⟩ := h
    obtain ⟨c, t, rfl, hc⟩ := ht.head (by decide)
    obtain ⟨v, rfl, rfl⟩ := start_of_blanks hs hv (isBlank_of_isAlpha hc)
    have hbehind : Bounded (c :: v) z :=
      @Bounded.of_append (c :: v) z (',' :: r) (by simpa using hbound)
    exact .comma ⟨r, c :: v ++ z, by simp, hr, starts_change hs hbehind ht (by decide)⟩
  | followed h =>
    obtain ⟨w, _, rfl, hw, r, t, rfl, hr, hne, ht⟩ := h
    obtain ⟨v, rfl, hv⟩ := front_of_blanks hs heq.symm (isBlank_of_sought hw (by decide))
    obtain ⟨c, t, rfl, hc⟩ := exists_of_followed ht
    obtain ⟨v, rfl, rfl⟩ := start_of_blanks hs hv hc
    have hbound := hbound.of_append.of_append
    refine .followed ⟨w, r ++ (c :: v ++ z), by simp, hw, r, _, rfl, hr, hne, ?_⟩
    exact ht.imp (connects_change hs hbound) (opensClause_change hs hbound)

end

/-- Nothing dangles without the last `where` that did not with it. -/
theorem dangles_of_dropLastWhere (h : Dangles (dropLastWhere t)) : Dangles t := by
  rcases dropLastWhere_cases t with heq | ⟨a, s, w, s', rfl, heq, hw, ha, hs, hs'⟩
  · rwa [heq] at h
  · rw [heq] at h
    obtain ⟨x, b, hsplit, hbound, hb⟩ := h
    obtain ⟨c, u, rfl, hc⟩ := exists_of_dangling hb
    obtain ⟨v, rfl, rfl⟩ := start_of_blanks hs' hsplit.symm hc
    have hend : Bounded (c :: v) (s ++ (w ++ s')) := by
      cases s with
      | nil =>
        intro hlast
        refine absurd ?_ ha
        rwa [List.append_nil, List.getLast?_append_of_ne_nil _ (List.cons_ne_nil c v)]
      | cons e s => exact bounded_cons (isWord_of_isBlank (hs e List.mem_cons_self)) _ _
    exact ⟨x, c :: v ++ (s ++ (w ++ s')), by simp, hbound, dangling_change hs' hend hb⟩

/-- A `where` that ends the text without the last one stands in front of it. -/
theorem wheres_of_trails (h : Trails (dropLastWhere t)) :
    Occurs (Leads (Spaces (Starts "where"))) t := by
  rcases dropLastWhere_cases t with heq | ⟨a, s, w, s', rfl, heq, hw, ha, hs, hs'⟩
  · have hnot := (mends_dropLastWhere (fun _ => Nat.one_pos) t).eq_iff.1 heq
    rw [heq] at h
    exact absurd h hnot
  · rw [heq] at h
    obtain ⟨x, _, hsplit, hbound, k, r, rfl, hk, hr⟩ := h
    have hblank := isBlank_of_sought hk (by decide)
    have hword := isWord_of_sought hk (by decide)
    obtain ⟨c, k, rfl⟩ := List.exists_cons_of_ne_nil (isAlpha_of_sought hk (by decide)).1
    obtain ⟨hc, hblank⟩ := List.forall_mem_cons.1 hblank
    obtain ⟨v, rfl, hv⟩ := start_of_blanks hs' hsplit.symm hc
    obtain ⟨v, rfl, rfl⟩ := front_of_blanks hs' hv hblank
    obtain ⟨hvs, -⟩ := List.forall_mem_append.1 hr
    refine ⟨x, c :: k ++ (v ++ s ++ (w ++ s')), by simp, hbound, c :: k, _, rfl, hk, v ++ s,
      w ++ s', rfl, List.forall_mem_append.2 ⟨hvs, hs⟩, fun hnil => ?_, w, s', rfl, hw,
      not_head?_isWord_of_blank hs'⟩
    obtain ⟨rfl, rfl⟩ := List.append_eq_nil_iff.1 hnil
    refine ha ?_
    rw [List.append_nil, List.append_nil, List.getLast?_append_of_ne_nil _ (List.cons_ne_nil c k),
      List.getLast?_eq_getLast_of_ne_nil (List.cons_ne_nil c k)]
    exact hword _ (List.getLast_mem _)

/-! The segments. -/

/-- What is left of a plain segment in front of others. -/
def leaves (t : Text) (ss : List Segment) : Text :=
  if !t.isBlank && !ss.any counts then dropLastWhere (plain t) else plain t

/-- What is left of a segment in front of others. -/
def mend : Segment → List Segment → Segment
  | .inert t, _ => .inert t
  | .plain t, ss => .plain (leaves t ss)

/-- What is left of each segment. -/
def mended : List Segment → List Segment
  | [] => []
  | s :: ss => mend s ss :: mended ss

/-- Whether the end is cleaned up in one segment only: where nothing but blanks is left of the last
segment that counts, the one before does not end in a `where`. -/
def EndsOnce (ss : List Segment) : Prop :=
  ∀ before t' between t after, ss = before ++ .plain t' :: (between ++ .plain t :: after) →
    between.any counts = false → after.any counts = false → t.isBlank = false →
      (dropLastWhere (plain t)).isBlank → ¬Hangs t'

theorem unsplit_mended (ss : List Segment) : Segment.unsplit (mended ss) = cleanSegments ss := by
  induction ss with
  | nil => rfl
  | cons s ss ih =>
    cases s with
    | inert t => rw [mended, mend, Segment.unsplit_cons, ih, cleanSegments, Segment.text]
    | plain t => rw [mended, mend, Segment.unsplit_cons, ih, cleanSegments, Segment.text, leaves]

theorem regional_mended (hcut : Cut ss) : Regional (mended ss) := by
  induction ss with
  | nil => trivial
  | cons s ss ih =>
    cases s with
    | plain t => exact ih hcut.2.2.2
    | inert t =>
      refine ⟨fun hfollows => ?_, ih hcut.2⟩
      cases ss with
      | nil => exact hcut.1
      | cons s ss =>
        refine Segment.region?_change hcut.1 (fun hnil => ?_) hfollows
        cases Segment.eq_nil_of_unsplit hcut.2 hnil

/-- No plain segments meet where nothing is left of one. -/
theorem merge_mended (hcut : Cut ss) :
    Segment.merge (mended ss) = (mended ss).filter (· ≠ .plain []) := by
  induction ss with
  | nil => rfl
  | cons s ss ih =>
    cases s with
    | inert t =>
      rw [mended, Segment.merge_cons, ih hcut.2]
      rfl
    | plain t =>
      obtain ⟨-, -, hhead, hcut⟩ := hcut
      rw [mended, mend, Segment.merge_cons, ih hcut]
      cases leaves t ss with
      | nil => rfl
      | cons c u =>
        match ss, hhead with
        | [], _ => rfl
        | .inert v :: ss, _ => rfl
        | .plain v :: ss, hhead => exact absurd rfl (hhead v)

theorem isBlank_iff : t.isBlank ↔ ∀ c ∈ t, Unicode.isBlank c := List.all_eq_true

theorem isBlank_plain (t : Text) : (plain t).isBlank = t.isBlank := by
  rw [Bool.eq_iff_iff, isBlank_iff, isBlank_iff]
  constructor
  · intro hblank
    obtain ⟨u, v, hcommas, hconnectives, hclauses⟩ := passes_plain t
    have hv := keyed_whereClause.eq_of_blank hclauses hblank
    subst hv
    have hu := keyed_whereConnective.eq_of_blank hconnectives hblank
    subst hu
    rwa [eq_of_whereComma hcommas hblank]
  · intro hblank
    have hsame : plain t = t := by
      refine (mends_plain (fun _ => Nat.one_pos) rfl t).eq_iff.2 ?_
      rintro ⟨a, b, rfl, -, hb⟩
      obtain ⟨c, u, rfl, hc⟩ := exists_of_dangling hb
      exact notMem_of_isBlank_eq_false hblank hc (by simp)
    rwa [hsame]

theorem mem_mended (h : .plain u ∈ mended ss) : ∃ t, .plain t ∈ ss ∧
    (u = plain t ∨ u = dropLastWhere (plain t)) := by
  induction ss with
  | nil => cases h
  | cons s ss ih =>
    rcases List.mem_cons.1 h with h | h
    · cases s with
      | inert t => cases h
      | plain t =>
        obtain rfl := Segment.plain.inj h
        refine ⟨t, List.mem_cons_self, ?_⟩
        rw [leaves]
        split
        · exact Or.inr rfl
        · exact Or.inl rfl
    · obtain ⟨t, ht, hu⟩ := ih h
      exact ⟨t, List.mem_cons_of_mem _ ht, hu⟩

theorem leaves_of_any (h : ss.any counts) (t : Text) : leaves t ss = plain t :=
  if_neg (by simp [h])

theorem leaves_of_not_any (h : ¬ss.any counts) (ht : t.isBlank = false) :
    leaves t ss = dropLastWhere (plain t) :=
  if_pos (by simp [h, ht])

theorem counts_mend (h : ss.any counts) (s : Segment) : counts (mend s ss) = counts s := by
  cases s with
  | inert t => rfl
  | plain t => rw [mend, leaves_of_any h, counts, counts, isBlank_plain]

/-- If no segment counts any more, only one of them did, and a `where` was dropped from it. -/
theorem exists_emptied (h : ss.any counts) (hnone : (mended ss).any counts = false) :
    ∃ between t after, ss = between ++ .plain t :: after ∧ between.any counts = false ∧
      after.any counts = false ∧ t.isBlank = false ∧ (dropLastWhere (plain t)).isBlank := by
  induction ss with
  | nil => cases h
  | cons s ss ih =>
    obtain ⟨hs, hss⟩ := Bool.or_eq_false_iff.1 hnone
    by_cases hrest : ss.any counts
    · rw [counts_mend hrest] at hs
      obtain ⟨between, t, after, rfl, hbetween, hafter⟩ := ih hrest hss
      exact ⟨s :: between, t, after, rfl, by simp [hs, hbetween], hafter⟩
    · have hcounts : counts s := by simpa [hrest] using h
      cases s with
      | inert t => cases hs.symm.trans hcounts
      | plain t =>
        have ht : t.isBlank = false := by simpa [counts] using hcounts
        refine ⟨[], t, ss, rfl, rfl, by simpa using hrest, ht, ?_⟩
        rw [mend, leaves_of_not_any hrest ht] at hs
        simpa [counts] using hs

theorem EndsOnce.tail {s : Segment} (h : EndsOnce (s :: ss)) : EndsOnce ss :=
  fun before t' between t after heq => h (s :: before) t' between t after (by rw [heq]; rfl)

/-- The last segment that counts does not end in a `where` any more. -/
theorem not_trails_mended (hpiled : ∀ t, .plain t ∈ ss → ¬Occurs Piling t) (hends : EndsOnce ss)
    (hlast : ((mended ss).filter counts).getLast? = some (.plain u)) : ¬Trails u := by
  induction ss with
  | nil => cases hlast
  | cons s ss ih =>
    rw [mended, getLast?_counts_cons] at hlast
    split at hlast
    · exact ih (fun t ht => hpiled t (List.mem_cons_of_mem _ ht)) hends.tail hlast
    · rename_i hnone
      split at hlast
      · rename_i hcounts
        cases s with
        | inert t => cases hlast
        | plain t =>
          obtain rfl := Segment.plain.inj (Option.some.inj hlast)
          intro htrails
          by_cases hrest : ss.any counts
          · obtain ⟨between, t', after, rfl, hbetween, hafter, ht', hblank⟩ :=
              exists_emptied hrest (by simpa using hnone)
            rw [leaves_of_any hrest] at htrails
            exact hends [] t between t' after rfl hbetween hafter ht' hblank
              (hangs_of_trails htrails)
          · have ht : t.isBlank = false := by
              by_contra hblank
              have hsame : leaves t ss = plain t := if_neg (by simp [hblank])
              rw [mend, hsame, counts, isBlank_plain] at hcounts
              simp [hblank] at hcounts
            rw [leaves_of_not_any hrest ht] at htrails
            exact hpiled t List.mem_cons_self (piles_of_wheres (wheres_of_trails htrails))
      · cases hlast

theorem tidy_mended (hpiled : ∀ t, .plain t ∈ ss → ¬Occurs Piling t) (hends : EndsOnce ss) :
    Tidy (mended ss) where
  plain u hu hdangles := by
    obtain ⟨t, ht, rfl | rfl⟩ := mem_mended hu
    · exact hpiled t ht (piles_of_dangles hdangles)
    · exact hpiled t ht (piles_of_dangles (dangles_of_dropLastWhere hdangles))
  last u hlast := not_trails_mended hpiled hends hlast

/-- Empty segments make no difference. -/
theorem Tidy.filter (h : Tidy ss) : Tidy (ss.filter (· ≠ .plain [])) where
  plain t ht := h.plain t (List.mem_of_mem_filter ht)
  last t ht := by
    refine h.last t (ht ▸ ?_)
    rw [List.filter_filter]
    congr 1
    refine List.filter_congr fun s _ => ?_
    cases s with
    | inert t => simp
    | plain t =>
      cases t with
      | nil => rfl
      | cons c t => simp

end Cleanup

open Cleanup

/-- Cleaning up a second time changes nothing, if nothing piles up in the text, the end is cleaned
up in one segment only, and what is left of the segments does not join. -/
theorem cleanup_cleanup {sql : Text} (hpiled : ∀ t, .plain t ∈ segments sql → ¬Occurs Piling t)
    (hends : EndsOnce (segments sql)) (hapart : Apart (Segment.merge (mended (segments sql)))) :
    cleanup (cleanup sql) = cleanup sql ∧ Tidy (segments (cleanup sql)) := by
  have hcut := Segment.cut_segments sql
  have hsegments : segments (cleanup sql) = Segment.merge (mended (segments sql)) := by
    rw [cleanup, ← unsplit_mended]
    exact (Segment.segments_unsplit_merge_iff (regional_mended hcut)).2 hapart
  have htidy : Tidy (segments (cleanup sql)) := by
    rw [hsegments, merge_mended hcut]
    exact (tidy_mended hpiled hends).filter
  exact ⟨(mends_cleanup (fun _ => Nat.one_pos) rfl _).eq_iff.2 (not_not.2 htidy), htidy⟩

/-- A comma, a connective, and a `where` in front of a comment. -/
theorem cleanup_cleanup_comment :
    cleanup (cleanup "select * from t, where and a = :a where -- all".toList) =
        cleanup "select * from t, where and a = :a where -- all".toList ∧
      Tidy (segments (cleanup "select * from t, where and a = :a where -- all".toList)) := by
  have hsegments : segments "select * from t, where and a = :a where -- all".toList =
      [.plain "select * from t, where and a = :a where ".toList, .inert "-- all".toList] := by
    decide +kernel
  refine cleanup_cleanup ?_ ?_ ?_
  · rw [hsegments]
    intro t ht
    obtain rfl : t = "select * from t, where and a = :a where ".toList := by simpa using ht
    decide +kernel
  · rw [hsegments]
    intro before t' between t after heq
    match before, between, heq with
    | [], [], heq => simp at heq
    | [], s :: between, heq => simp at heq
    | [s], between, heq => simp at heq
    | s :: s' :: before, between, heq => simp at heq
  · refine (Segment.segments_unsplit_merge_iff (regional_mended (Segment.cut_segments _))).1 ?_
    rw [hsegments]
    decide +kernel

/-- Of two `where`s at the end, one is left. -/
theorem not_forall_cleanup_cleanup : ¬∀ sql, cleanup (cleanup sql) = cleanup sql := by
  intro h
  exact absurd (h "select * from t where where".toList) (by decide +kernel)

end SqlTemplate
