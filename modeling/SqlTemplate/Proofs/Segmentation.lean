import SqlTemplate.Proofs.Region

/-!
Segmentations: which lists of segments are the segments of the text they make up.  Putting
segments next to each other that come from different texts is a segmentation exactly if the
neighbours leave each other alone.
-/
namespace SqlTemplate

namespace Segment

@[simp] theorem unsplit_nil : unsplit [] = [] := rfl

@[simp] theorem unsplit_cons (s : Segment) (ss : List Segment) :
    unsplit (s :: ss) = s.text ++ unsplit ss := rfl

@[simp] theorem unsplit_append (ss ts : List Segment) :
    unsplit (ss ++ ts) = unsplit ss ++ unsplit ts := by simp [unsplit]

@[simp] theorem unsplit_consPlain (c : Char) (ss : List Segment) :
    unsplit (consPlain c ss) = c :: unsplit ss := by
  cases ss with
  | nil => rfl
  | cons s ss => cases s <;> rfl

end Segment

open Segment

@[simp] theorem segments_nil : segments [] = [] := by rw [segments]; rfl

theorem segments_of_region? {cs run rest : Text} (h : region? cs = some (run, rest)) :
    segments cs = .inert run :: segments rest := by
  rw [segments]
  split
  · rename_i run' rest' h'
    obtain ⟨rfl, rfl⟩ := Prod.mk.inj (Option.some.inj (h.symm.trans h'))
    rfl
  · rename_i h'
    simp [h] at h'

theorem segments_cons {c : Char} {cs : Text} (h : region? (c :: cs) = none) :
    segments (c :: cs) = consPlain c (segments cs) := by
  rw [segments]
  split
  · rename_i h'
    simp [h] at h'
  · rfl

theorem unsplit_segments (cs : Text) : unsplit (segments cs) = cs := by
  induction cs using segments.induct with
  | case1 cs run rest h _ ih => simpa [segments_of_region? h, text, ih] using (region?_append h).1
  | case2 => simp
  | case3 c cs h ih => rw [segments_cons h, unsplit_consPlain, ih]

namespace Segment

/-- Segments as reading the text they make up gives them: regions end where they do, no region
starts in plain text, and plain text is in one piece. -/
def Cut : List Segment → Prop
  | [] => True
  | .inert t :: ss => region? (t ++ unsplit ss) = some (t, unsplit ss) ∧ Cut ss
  | .plain t :: ss =>
    t ≠ [] ∧ (∀ w, w ≠ [] → w <:+ t → region? (w ++ unsplit ss) = none) ∧
      (∀ u, ss.head? ≠ some (.plain u)) ∧ Cut ss

theorem cut_consPlain {c : Char} {ss : List Segment} (h : region? (c :: unsplit ss) = none)
    (hss : Cut ss) : Cut (consPlain c ss) := by
  match ss with
  | [] =>
    refine ⟨by simp, ?_, by simp, trivial⟩
    intro w hw hsuf
    obtain rfl : w = [c] := by
      rcases List.suffix_cons_iff.1 hsuf with rfl | hnil
      · rfl
      · exact absurd (List.suffix_nil.1 hnil) hw
    exact h
  | .inert t :: ss =>
    refine ⟨by simp, ?_, by simp, hss⟩
    intro w hw hsuf
    rcases List.suffix_cons_iff.1 hsuf with rfl | hnil
    · exact h
    · exact absurd (List.suffix_nil.1 hnil) hw
  | .plain t :: ss =>
    obtain ⟨-, hplain, hhead, hcut⟩ := hss
    refine ⟨by simp, ?_, hhead, hcut⟩
    intro w hw hsuf
    rcases List.suffix_cons_iff.1 hsuf with rfl | hsuf
    · exact h
    · exact hplain w hw hsuf

theorem cut_segments (cs : Text) : Cut (segments cs) := by
  induction cs using segments.induct with
  | case1 cs run rest h _ ih =>
    rw [segments_of_region? h]
    refine ⟨?_, ih⟩
    rw [unsplit_segments, (region?_append h).1]
    exact h
  | case2 => simp [Cut]
  | case3 c cs h ih =>
    rw [segments_cons h]
    exact cut_consPlain (by rwa [unsplit_segments]) ih

theorem eq_nil_of_unsplit {ss : List Segment} (h : Cut ss) (hnil : unsplit ss = []) : ss = [] := by
  cases ss with
  | nil => rfl
  | cons s ss =>
    obtain ⟨hs, -⟩ := List.append_eq_nil_iff.1 hnil
    cases s with
    | plain t => exact absurd hs h.1
    | inert t => exact absurd hs (region?_append h.1).2

theorem segments_plain_append {t u : Text} (ht : t ≠ [])
    (hnone : ∀ w, w ≠ [] → w <:+ t → region? (w ++ u) = none)
    (hhead : ∀ v, (segments u).head? ≠ some (.plain v)) :
    segments (t ++ u) = .plain t :: segments u := by
  induction t with
  | nil => exact absurd rfl ht
  | cons c t ih =>
    have hc : region? (c :: (t ++ u)) = none := hnone (c :: t) (by simp) (List.suffix_refl _)
    rw [List.cons_append, segments_cons hc]
    by_cases hnil : t = []
    · subst hnil
      cases hs : segments u with
      | nil => simp [hs, consPlain]
      | cons s ss =>
        cases s with
        | plain v => exact absurd (by rw [hs]; rfl) (hhead v)
        | inert v => simp [hs, consPlain]
    · rw [ih hnil fun w hw hsuf => hnone w hw (hsuf.trans (List.suffix_cons c t))]
      rfl

/-- A segmentation is what reading its text gives. -/
theorem segments_unsplit {ss : List Segment} (h : Cut ss) : segments (unsplit ss) = ss := by
  induction ss with
  | nil => simp
  | cons s ss ih =>
    cases s with
    | inert t => rw [unsplit_cons, text, segments_of_region? h.1, ih h.2]
    | plain t =>
      obtain ⟨ht, hnone, hhead, hcut⟩ := h
      rw [unsplit_cons, text, segments_plain_append ht hnone (by rwa [ih hcut]), ih hcut]

/-- Puts a segment in front of others.  Plain text in front of plain text becomes one, and empty
plain text nothing. -/
def glue : Segment → List Segment → List Segment
  | .plain [], ss => ss
  | .plain t, .plain u :: ss => .plain (t ++ u) :: ss
  | s, ss => s :: ss

/-- The same segments with neighbouring plain texts in one piece. -/
def merge (ss : List Segment) : List Segment := ss.foldr glue []

@[simp] theorem merge_cons (s : Segment) (ss : List Segment) :
    merge (s :: ss) = glue s (merge ss) := rfl

@[simp] theorem glue_inert (t : Text) (ss : List Segment) :
    glue (.inert t) ss = .inert t :: ss := rfl

/-- No plain text is empty or stands next to another one. -/
def Normal : List Segment → Prop
  | [] => True
  | .inert _ :: ss => Normal ss
  | .plain t :: ss => t ≠ [] ∧ (∀ u, ss.head? ≠ some (.plain u)) ∧ Normal ss

@[simp] theorem unsplit_glue (s : Segment) (ss : List Segment) :
    unsplit (glue s ss) = s.text ++ unsplit ss := by
  unfold glue
  split
  · rfl
  · simp [text]
  · rfl

@[simp] theorem unsplit_merge (ss : List Segment) : unsplit (merge ss) = unsplit ss := by
  induction ss with
  | nil => rfl
  | cons s ss ih => rw [merge_cons, unsplit_glue, ih, unsplit_cons]

theorem normal_glue (s : Segment) {ss : List Segment} (h : Normal ss) : Normal (glue s ss) := by
  cases s with
  | inert t => exact h
  | plain t =>
    cases t with
    | nil => exact h
    | cons c t =>
      match ss with
      | [] => exact ⟨by simp, by simp, trivial⟩
      | .inert u :: ss => exact ⟨by simp, by simp, h⟩
      | .plain u :: ss => exact ⟨by simp, h.2.1, h.2.2⟩

theorem normal_merge (ss : List Segment) : Normal (merge ss) := by
  induction ss with
  | nil => trivial
  | cons s ss ih => exact normal_glue s ih

/-- Whether neighbouring segments leave each other alone when their texts stand side by side: no
region starts in plain text, no dash in front of one makes it a comment, and no region runs on
into what follows it. -/
def Apart : List Segment → Prop
  | [] => True
  | .inert t :: ss => Follows t (unsplit ss) ∧ Apart ss
  | .plain t :: ss =>
    IsPlain t ∧ ¬(t.getLast? = some '-' ∧ (unsplit ss).head? = some '-') ∧ Apart ss

/-- Whether each inert segment is a region in its place, if what follows leaves it alone. -/
def Regional : List Segment → Prop
  | [] => True
  | .inert t :: ss =>
    (Follows t (unsplit ss) → region? (t ++ unsplit ss) = some (t, unsplit ss)) ∧ Regional ss
  | .plain _ :: ss => Regional ss

theorem regional_glue {s : Segment} {ss : List Segment} (h : Regional (s :: ss)) :
    Regional (glue s ss) := by
  cases s with
  | inert t => exact h
  | plain t =>
    cases t with
    | nil => exact h
    | cons c t =>
      match ss with
      | [] => exact h
      | .inert u :: ss => exact h
      | .plain u :: ss => exact h

theorem regional_merge {ss : List Segment} (h : Regional ss) : Regional (merge ss) := by
  induction ss with
  | nil => trivial
  | cons s ss ih =>
    rw [merge_cons]
    apply regional_glue
    cases s with
    | inert t =>
      refine ⟨?_, ih h.2⟩
      rw [unsplit_merge]
      exact h.1
    | plain t => exact ih h

theorem head_of_region? {c : Char} {t : Text} (h : (region? (c :: t)).isSome) :
    c ≠ '*' ∧ Name.isStart c = false ∧ (c = ':' → t.head? = some ':') := by
  rcases (region?_isSome_iff _).1 h with (h | h) | ⟨s, h⟩ | ⟨s, h⟩ | ⟨d, hd, s, h⟩
  · obtain rfl : c = '\x27' := by simpa using h
    exact ⟨by decide, by decide, by simp⟩
  · obtain rfl : c = '\x22' := by simpa using h
    exact ⟨by decide, by decide, by simp⟩
  · obtain ⟨rfl, -⟩ := List.cons.inj h
    exact ⟨by decide, by decide, by simp⟩
  · obtain ⟨rfl, -⟩ := List.cons.inj h
    exact ⟨by decide, by decide, by simp⟩
  · obtain ⟨rfl, rfl⟩ := List.cons.inj h
    exact ⟨by decide, by decide, fun _ => rfl⟩

/-- A region that opens in plain text and goes on behind it has the last character of the one and
the first of the other among those that open it. -/
theorem exists_of_region?_append {w u : Text} (hw : w ≠ []) (hplain : IsPlain w)
    (h : (region? (w ++ u)).isSome) :
    ∃ c d, w.getLast? = some c ∧ u.head? = some d ∧
      (c = '-' ∧ d = '-' ∨ c = '/' ∧ d = '*' ∨
        c = ':' ∧ (d = ':' ∧ u.tail.head?.any Name.isStart ∨ Name.isStart d)) := by
  have hself : ¬(region? w).isSome := by simp [hplain w (List.suffix_refl w)]
  rcases (region?_isSome_iff _).1 h with h | ⟨s, h⟩ | ⟨s, h⟩ | ⟨c, hc, s, h⟩
  · refine absurd ?_ hself
    rw [region?_isSome_iff]
    cases w with
    | nil => exact absurd rfl hw
    | cons a w => exact Or.inl h
  · match w, h with
    | [], _ => exact absurd rfl hw
    | [a], h =>
      obtain ⟨rfl, rfl⟩ := List.cons.inj h
      exact ⟨'-', '-', rfl, rfl, by simp⟩
    | a :: b :: w, h =>
      simp only [List.cons_append, List.nil_append, List.cons.injEq] at h
      obtain ⟨rfl, rfl, -⟩ := h
      exact absurd ((region?_isSome_iff _).2 (by simp)) hself
  · match w, h with
    | [], _ => exact absurd rfl hw
    | [a], h =>
      obtain ⟨rfl, rfl⟩ := List.cons.inj h
      exact ⟨'/', '*', rfl, rfl, by simp⟩
    | a :: b :: w, h =>
      simp only [List.cons_append, List.nil_append, List.cons.injEq] at h
      obtain ⟨rfl, rfl, -⟩ := h
      exact absurd ((region?_isSome_iff _).2 (by simp)) hself
  · match w, h with
    | [], _ => exact absurd rfl hw
    | [a], h =>
      obtain ⟨rfl, rfl⟩ := List.cons.inj h
      exact ⟨':', ':', rfl, rfl, by simp [hc]⟩
    | [a, b], h =>
      simp only [List.cons_append, List.nil_append, List.cons.injEq] at h
      obtain ⟨rfl, rfl, rfl⟩ := h
      exact ⟨':', c, rfl, rfl, by simp [hc]⟩
    | a :: b :: d :: w, h =>
      simp only [List.cons_append, List.nil_append, List.cons.injEq] at h
      obtain ⟨rfl, rfl, rfl, -⟩ := h
      exact absurd ((region?_isSome_iff _).2 (Or.inr (Or.inr (Or.inr ⟨c, hc, by simp⟩)))) hself

/-- Behind plain text a region opens only where the text that follows starts. -/
theorem region?_append_eq_none {w u : Text} (hw : w ≠ []) (hplain : IsPlain w)
    (hu : u = [] ∨ (region? u).isSome)
    (hdash : ¬(w.getLast? = some '-' ∧ u.head? = some '-')) : region? (w ++ u) = none := by
  rw [← Option.not_isSome_iff_eq_none]
  intro hsome
  obtain ⟨c, d, hc, hd, hopen⟩ := exists_of_region?_append hw hplain hsome
  obtain ⟨t, rfl⟩ := List.head?_eq_some_iff.1 hd
  obtain ⟨hstar, hstart, hcolon⟩ := head_of_region? (hu.resolve_left (List.cons_ne_nil d t))
  rcases hopen with ⟨rfl, rfl⟩ | ⟨-, rfl⟩ | ⟨-, ⟨rfl, hnext⟩ | hnext⟩
  · exact hdash ⟨hc, rfl⟩
  · exact hstar rfl
  · rw [List.tail_cons, hcolon rfl] at hnext
    cases hnext
  · simp [hstart] at hnext

theorem IsPlain.suffix {t w : Text} (h : IsPlain t) (hw : w <:+ t) : IsPlain w :=
  fun v hv => h v (hv.trans hw)

theorem IsPlain.front {t w : Text} (h : IsPlain t) (hw : w <+: t) : IsPlain w := by
  obtain ⟨u, rfl⟩ := hw
  rintro v ⟨x, rfl⟩
  rw [← Option.not_isSome_iff_eq_none]
  intro hsome
  have hsuffix : v ++ u <:+ x ++ v ++ u := ⟨x, by simp⟩
  simpa [h (v ++ u) hsuffix] using region?_append_isSome hsome u

/-- Plain text in front of plain text, if their neighbouring characters open nothing. -/
theorem IsPlain.append {t u : Text} (ht : IsPlain t) (hu : IsPlain u)
    (hhead : ∀ d ∈ u.head?, d ∉ ['-', '*', ':'] ∧ (Name.isStart d → t.getLast? ≠ some ':')) :
    IsPlain (t ++ u) := by
  intro w hw
  rcases Text.suffix_append_cases hw with hw | ⟨v, hv, hne, rfl⟩
  · exact hu w hw
  rw [← Option.not_isSome_iff_eq_none]
  intro hsome
  obtain ⟨c, d, hc, hd, hopen⟩ := exists_of_region?_append hne (ht.suffix hv) hsome
  obtain ⟨hmark, hstart⟩ := hhead d hd
  rcases hopen with ⟨-, rfl⟩ | ⟨-, rfl⟩ | ⟨rfl, ⟨rfl, -⟩ | hd'⟩
  · exact hmark (by simp)
  · exact hmark (by simp)
  · exact hmark (by simp)
  · refine hstart hd' ?_
    obtain ⟨x, rfl⟩ := hv
    simp [List.getLast?_append, hc]

/-- The text of a segmentation is empty, or starts with a region or with plain text. -/
theorem region?_unsplit {ss : List Segment} (h : Cut ss) (hhead : ∀ u, ss.head? ≠ some (.plain u)) :
    unsplit ss = [] ∨ (region? (unsplit ss)).isSome := by
  match ss with
  | [] => exact Or.inl rfl
  | .plain t :: ss => exact absurd rfl (hhead t)
  | .inert t :: ss =>
    right
    rw [unsplit_cons, text, h.1]
    rfl

theorem Cut.isPlain {t : Text} {ss : List Segment} (h : Cut (.plain t :: ss)) : IsPlain t := by
  intro w hw
  rw [← Option.not_isSome_iff_eq_none]
  intro hsome
  have hne : w ≠ [] := by rintro rfl; cases hsome
  simpa [h.2.1 w hne hw] using region?_append_isSome hsome (unsplit ss)

/-- In a row of dashes the region starts at the first one. -/
theorem Cut.not_dash {t : Text} {ss : List Segment} (h : Cut (.plain t :: ss)) :
    ¬(t.getLast? = some '-' ∧ (unsplit ss).head? = some '-') := by
  rintro ⟨hlast, hdash⟩
  obtain ⟨v, rfl⟩ := List.getLast?_eq_some_iff.1 hlast
  obtain ⟨u, hu⟩ := List.head?_eq_some_iff.1 hdash
  have hnone := h.2.1 ['-'] (by simp) (List.suffix_append v ['-'])
  rw [hu] at hnone
  cases hnone

/-- A list of regions and joined plain texts is a segmentation exactly if the neighbours leave
each other alone. -/
theorem cut_iff_apart {ss : List Segment} (hn : Normal ss) (hr : Regional ss) :
    Cut ss ↔ Apart ss := by
  induction ss with
  | nil => exact Iff.rfl
  | cons s ss ih =>
    cases s with
    | inert t =>
      constructor
      · rintro ⟨hregion, hcut⟩
        exact ⟨follows_of_region? hregion, (ih hn hr.2).1 hcut⟩
      · rintro ⟨hfollows, hapart⟩
        exact ⟨hr.1 hfollows, (ih hn hr.2).2 hapart⟩
    | plain t =>
      obtain ⟨ht, hhead, hn⟩ := hn
      constructor
      · intro hcut
        exact ⟨hcut.isPlain, hcut.not_dash, (ih hn hr).1 hcut.2.2.2⟩
      · rintro ⟨hplain, hdash, hapart⟩
        have hcut := (ih hn hr).2 hapart
        refine ⟨ht, ?_, hhead, hcut⟩
        intro w hw hsuf
        refine region?_append_eq_none hw (hplain.suffix hsuf) (region?_unsplit hcut hhead) ?_
        rintro ⟨hlast, hd⟩
        obtain ⟨v, rfl⟩ := hsuf
        exact hdash ⟨by rw [List.getLast?_append, hlast]; rfl, hd⟩

/-- Joined segments are the segments of their text exactly if neighbours leave each other alone. -/
theorem segments_unsplit_merge_iff {ss : List Segment} (hr : Regional ss) :
    segments (unsplit ss) = merge ss ↔ Apart (merge ss) := by
  rw [← cut_iff_apart (normal_merge ss) (regional_merge hr), ← unsplit_merge]
  constructor
  · intro h
    rw [← h]
    exact cut_segments _
  · exact segments_unsplit

/-! Texts without regions. -/

theorem isPlain_nil : IsPlain [] := by
  intro w hw
  rw [List.suffix_nil.1 hw]
  rfl

theorem isPlain_cons {c : Char} {t : Text} (hc : region? (c :: t) = none) (ht : IsPlain t) :
    IsPlain (c :: t) := by
  intro w hw
  rcases List.suffix_cons_iff.1 hw with rfl | hw
  · exact hc
  · exact ht w hw

/-- Such a text is one plain segment, if any. -/
theorem segments_of_isPlain {t : Text} (h : IsPlain t) : segments t = merge [.plain t] := by
  have hplain : unsplit [.plain t] = t := by simp [text]
  conv => lhs; rw [← hplain]
  refine (@segments_unsplit_merge_iff [.plain t] trivial).2 ?_
  cases t with
  | nil => trivial
  | cons c t => exact ⟨h, by simp, trivial⟩

/-- What is put together from the segments of a plain text comes from the text as a whole. -/
theorem flatMap_segments {β : Type} {f : Segment → List β} (hnil : f (.plain []) = []) {t : Text}
    (h : IsPlain t) : (segments t).flatMap f = f (.plain t) := by
  rw [segments_of_isPlain h]
  cases t with
  | nil => exact hnil.symm
  | cons c t =>
    have hmerge : merge [.plain (c :: t)] = [.plain (c :: t)] := rfl
    rw [hmerge, List.flatMap_singleton]

end Segment

end SqlTemplate
