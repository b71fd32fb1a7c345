import SqlTemplate.Cleanup
import SqlTemplate.Proofs.Segmentation

/-!
Which characters cleaning up can write: those of its text, and blanks.
-/
namespace SqlTemplate

namespace Cleanup

theorem dropCommas_subset (t : Text) : dropCommas t ⊆ t := by
  induction t using dropCommas.induct with
  | case1 => simp [dropCommas]
  | case2 c cs h ih =>
    rw [dropCommas, if_pos h]
    exact List.Subset.trans ih (List.subset_cons_self c cs)
  | case3 c cs h ih =>
    rw [dropCommas, if_neg h]
    exact List.cons_subset_cons c ih

theorem editWords_subset {edit : Edit} (hedit : ∀ cs t n, edit cs = some (t, n) → t ⊆ ' ' :: cs)
    (last : Option Char) (taken : Nat) (cs : Text) :
    editWords edit last taken cs ⊆ ' ' :: cs := by
  have hmono : ∀ c (cs : Text), ' ' :: cs ⊆ ' ' :: c :: cs := fun c cs =>
    List.cons_subset_cons _ (List.subset_cons_self c cs)
  induction last, taken, cs using editWords.induct edit with
  | case1 => simp [editWords]
  | case2 last taken c cs ih =>
    rw [editWords]
    exact List.Subset.trans ih (hmono c cs)
  | case3 last c cs t n h ih =>
    rw [editWords, h]
    refine List.append_subset.2 ⟨?_, List.Subset.trans ih (hmono c cs)⟩
    split at h
    · cases h
    · exact hedit _ _ _ h
  | case4 last c cs h ih =>
    rw [editWords, h]
    exact List.cons_subset.2 ⟨by simp, List.Subset.trans ih (hmono c cs)⟩

theorem whereConnective_subset {cs t : Text} {n : Nat} (h : whereConnective cs = some (t, n)) :
    t ⊆ ' ' :: cs := by
  obtain ⟨a, -, h⟩ := Option.bind_eq_some_iff.1 h
  obtain ⟨b, -, h⟩ := Option.bind_eq_some_iff.1 h
  obtain ⟨rfl, -⟩ := Prod.mk.inj (Option.some.inj h)
  exact List.append_subset.2
    ⟨List.Subset.trans (List.take_subset 5 cs) (List.subset_cons_self _ _), by simp⟩

theorem whereClause_subset {cs t : Text} {n : Nat} (h : whereClause cs = some (t, n)) :
    t ⊆ ' ' :: cs := by
  obtain ⟨a, -, h⟩ := Option.bind_eq_some_iff.1 h
  obtain ⟨b, -, h⟩ := Option.bind_eq_some_iff.1 h
  split at h
  · obtain ⟨rfl, -⟩ := Prod.mk.inj (Option.some.inj h)
    simp
  · cases h

theorem plain_subset (t : Text) : plain t ⊆ ' ' :: t := by
  have hinner := editWords_subset (fun cs t n => whereConnective_subset) none 0 (dropCommas t)
  have houter := editWords_subset (fun cs t n => whereClause_subset) none 0
    (editWords whereConnective none 0 (dropCommas t))
  have hcommas : ' ' :: dropCommas t ⊆ ' ' :: t := List.cons_subset_cons _ (dropCommas_subset t)
  refine List.Subset.trans houter (List.cons_subset.2 ⟨by simp, ?_⟩)
  exact List.Subset.trans hinner hcommas

theorem dropLastWhere_subset (t : Text) : dropLastWhere t ⊆ t := by
  rw [dropLastWhere]
  split
  · rename_i before hbefore
    split
    · exact fun c hc => hc
    · refine List.append_subset.2 ⟨fun c hc => ?_, List.drop_subset _ _⟩
      have hbody := (List.dropWhile_suffix _).subset (List.mem_reverse.1 hc)
      have hfront := (Text.dropWord?_suffix hbefore).subset hbody
      exact List.mem_reverse.1 ((List.dropWhile_suffix _).subset hfront)
  · exact fun c hc => hc

theorem cleanSegments_subset (ss : List Segment) :
    cleanSegments ss ⊆ ' ' :: Segment.unsplit ss := by
  induction ss with
  | nil => simp [cleanSegments]
  | cons s ss ih =>
    have hrest : cleanSegments ss ⊆ ' ' :: Segment.unsplit (s :: ss) :=
      List.Subset.trans ih (List.cons_subset_cons _ (List.subset_append_right _ _))
    cases s with
    | inert t =>
      exact List.append_subset.2
        ⟨fun c hc => List.mem_cons_of_mem _ (List.mem_append_left _ hc), hrest⟩
    | plain t =>
      have hplain : plain t ⊆ ' ' :: Segment.unsplit (.plain t :: ss) :=
        List.Subset.trans (plain_subset t) (List.cons_subset_cons _ (List.subset_append_left _ _))
      rw [cleanSegments]
      refine List.append_subset.2 ⟨?_, hrest⟩
      split
      · exact List.Subset.trans (dropLastWhere_subset _) hplain
      · exact hplain

end Cleanup

/-- Cleaning up writes nothing but blanks. -/
theorem cleanup_subset (sql : Text) : cleanup sql ⊆ ' ' :: sql := by
  have h := Cleanup.cleanSegments_subset (segments sql)
  rwa [unsplit_segments] at h

end SqlTemplate
