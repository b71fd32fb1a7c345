import SqlTemplate.Proofs.Pass

/-!
What cleaning up looks for.  A text is left as it is exactly if nothing in it dangles, and gets
shorter otherwise; so cleaning up again and again comes to an end.
-/
namespace SqlTemplate

namespace Cleanup

/-- Whether a text starts with something that dangles: a comma with only blanks between it and the
word `where`, or the word `where` with only blanks between it and a connective, a clause or a
closing parenthesis. -/
inductive Dangling : Text → Prop
  | comma {cs : Text} (h : Reaches cs) : Dangling (',' :: cs)
  | followed {cs : Text} (h : Leads (Spaces fun t => Connects t ∨ OpensClause t) cs) : Dangling cs

/-- Whether something dangles in a plain text. -/
def Dangles (t : Text) : Prop := Occurs Dangling t

/-- Whether a plain text ends, up to blanks, in the word `where`. -/
def Trails (t : Text) : Prop := Occurs (Leads fun s => ∀ c ∈ s, Unicode.isBlank c) t

/-- Whether nothing dangles in the plain segments, and the last segment that is neither blank nor a
comment is no plain text that ends in a `where`. -/
structure Tidy (ss : List Segment) : Prop where
  plain : ∀ t, .plain t ∈ ss → ¬Dangles t
  last : ∀ t, (ss.filter counts).getLast? = some (.plain t) → ¬Trails t

variable {w s t a b cs : Text} {word : String}

/-! The size of a text, where each character has one. -/

section

variable (size : Char → Nat)

/-- The sizes of the characters of a text together. -/
def weight (t : Text) : Nat := (t.map size).sum

@[simp] theorem weight_nil : weight size [] = 0 := rfl

@[simp] theorem weight_cons (c : Char) (t : Text) :
    weight size (c :: t) = size c + weight size t := List.sum_cons

@[simp] theorem weight_append (t u : Text) :
    weight size (t ++ u) = weight size t + weight size u := by
  simp [weight]

theorem weight_one (t : Text) : weight (fun _ => 1) t = t.length := by
  simp [weight]

theorem weight_utf8Size (t : Text) : weight Char.utf8Size t = t.str.utf8ByteSize := by
  rw [Text.str, String.utf8ByteSize_ofList]
  induction t with
  | nil => rfl
  | cons c t ih => rw [weight_cons, ih, String.utf8Len_cons, Nat.add_comm]

end

section

variable {size : Char → Nat} (hsize : ∀ c, 0 < size c)
include hsize

theorem weight_pos (h : t ≠ []) : 0 < weight size t := by
  obtain ⟨c, t, rfl⟩ := List.exists_cons_of_ne_nil h
  have := hsize c
  simp only [weight_cons]
  omega

end

/-- What a pass makes of a text: the same text if it finds nothing, and a smaller one if it finds
something. -/
inductive Mends (size : Char → Nat) (t u : Text) (found : Prop) : Prop
  | same (h : ¬found) (heq : u = t)
  | smaller (h : found) (hlt : weight size u < weight size t)

namespace Mends

variable {size : Char → Nat} {t u v : Text} {found found' : Prop}

theorem congr (h : Mends size t u found) (hiff : found ↔ found') : Mends size t u found' := by
  rwa [← hiff]

theorem cons (h : Mends size t u found) (c : Char) : Mends size (c :: t) (c :: u) found := by
  cases h with
  | same h heq => exact .same h (by rw [heq])
  | smaller h hlt => exact .smaller h (by simpa using hlt)

theorem weight_le (h : Mends size t u found) : weight size u ≤ weight size t := by
  cases h with
  | same h heq => rw [heq]
  | smaller h hlt => exact Nat.le_of_lt hlt

theorem weight_lt (h : Mends size t u found) (hfound : found) : weight size u < weight size t := by
  cases h with
  | same h heq => exact absurd hfound h
  | smaller h hlt => exact hlt

theorem eq_iff (h : Mends size t u found) : u = t ↔ ¬found := by
  cases h with
  | same h heq => exact iff_of_true heq h
  | smaller h hlt =>
    refine iff_of_false ?_ (not_not.2 h)
    rintro rfl
    exact Nat.lt_irrefl _ hlt

/-- One pass behind another finds what it would have found without the first one, or that one has
found something. -/
theorem trans {P : Text → Prop} (h : Mends size t u found) (h' : Mends size u v (P u)) :
    Mends size t v (found ∨ P t) := by
  cases h with
  | same h heq =>
    subst heq
    exact h'.congr (or_iff_right h).symm
  | smaller h hlt => exact .smaller (Or.inl h) (Nat.lt_of_le_of_lt h'.weight_le hlt)

theorem append {t' u' : Text} (h : Mends size t u found) (h' : Mends size t' u' found') :
    Mends size (t ++ t') (u ++ u') (found ∨ found') := by
  have hle := h.weight_le
  have hle' := h'.weight_le
  cases h with
  | smaller h hlt =>
    refine .smaller (Or.inl h) ?_
    rw [weight_append, weight_append]
    omega
  | same h heq =>
    cases h' with
    | smaller h' hlt =>
      refine .smaller (Or.inr h') ?_
      rw [weight_append, weight_append]
      omega
    | same h' heq' => exact .same (not_or.2 ⟨h, h'⟩) (by rw [heq, heq'])

end Mends

/-! The passes over a plain text. -/

section

variable {size : Char → Nat} {edit : Edit}

theorem occurs_word {w cs : Text} (hw : ∀ c ∈ w, Unicode.isWord c)
    (hstop : ¬cs.head?.any Unicode.isWord) (h : edit (w ++ cs) = none) :
    Occurs (fun b => (edit b).isSome) (w ++ cs) ↔ Occurs (fun b => (edit b).isSome) cs := by
  constructor
  · rintro ⟨a, b, heq, hbound, hb⟩
    rcases List.append_eq_append_iff.1 heq with ⟨v, rfl, rfl⟩ | ⟨v, rfl, rfl⟩
    · exact ⟨v, b, rfl, hbound.of_append, hb⟩
    · cases v with
      | nil => exact ⟨[], cs, rfl, bounded_nil cs, hb⟩
      | cons c v =>
        obtain ⟨ha, hv⟩ := List.forall_mem_append.1 hw
        by_cases hne : a = []
        · rw [hne, List.nil_append] at h
          rw [h] at hb
          cases hb
        · exact absurd hbound (not_bounded_word ha hne (List.forall_mem_cons.1 hv).1)
  · rintro ⟨a, b, rfl, hbound, hb⟩
    refine ⟨w ++ a, b, by simp, hbound.append ?_, hb⟩
    rintro rfl -
    exact hstop

theorem occurs_cons {c : Char} {cs : Text} (hc : Unicode.isWord c = false)
    (h : edit (c :: cs) = none) :
    Occurs (fun b => (edit b).isSome) (c :: cs) ↔ Occurs (fun b => (edit b).isSome) cs := by
  constructor
  · rintro ⟨a, b, heq, hbound, hb⟩
    cases a with
    | nil =>
      obtain rfl : c :: cs = b := heq
      rw [h] at hb
      cases hb
    | cons d a =>
      obtain ⟨rfl, rfl⟩ := List.cons.inj heq
      exact ⟨a, b, rfl, @Bounded.of_append a b [c] hbound, hb⟩
  · rintro ⟨a, b, rfl, hbound, hb⟩
    exact ⟨[c] ++ a, b, rfl, hbound.append fun _ hlast => by simp [hc] at hlast, hb⟩

theorem Pass.mends {cs out : Text} (h : Pass edit cs out)
    (hedit : ∀ old rest put, edit (old ++ rest) = some (put, old.length) →
      weight size put < weight size old) (hnil : edit [] = none) :
    Mends size cs out (Occurs (fun b => (edit b).isSome) cs) := by
  induction h with
  | nil =>
    refine .same ?_ rfl
    rintro ⟨a, b, heq, -, hb⟩
    obtain ⟨rfl, rfl⟩ := List.append_eq_nil_iff.1 heq.symm
    simp [hnil] at hb
  | @word w cs out hne hw hstop h more ih =>
    have hword : Mends size w w False := .same id rfl
    exact (hword.append ih).congr (by rw [occurs_word hw hstop h, false_or])
  | @other c cs out hc h more ih => exact (ih.cons c).congr (occurs_cons hc h).symm
  | @apply old rest put out hne hbound h more ih =>
    refine .smaller ⟨[], old ++ rest, rfl, bounded_nil _, by simp [h]⟩ ?_
    have hput := hedit _ _ _ h
    have hout := ih.weight_le
    rw [weight_append, weight_append]
    omega

end

section

variable {size : Char → Nat} (hsize : ∀ c, 0 < size c)
include hsize

theorem weight_whereComma {old rest put : Text}
    (h : whereComma (old ++ rest) = some (put, old.length)) :
    weight size put < weight size old := by
  obtain ⟨cs, hold, -⟩ := whereComma_isSome_iff.1 (by rw [h]; rfl)
  rw [hold] at h
  rcases whereComma_cons ',' cs with ⟨-, -, hedit⟩ | ⟨-, hedit⟩
  · rw [hedit] at h
    obtain ⟨rfl, hlength⟩ := Prod.mk.inj (Option.some.inj h)
    refine weight_pos hsize ?_
    rintro rfl
    cases hlength
  · rw [hedit] at h
    cases h

theorem weight_whereConnective (hblank : size ' ' = 1) {old rest put : Text}
    (h : whereConnective (old ++ rest) = some (put, old.length)) :
    weight size put < weight size old := by
  obtain ⟨w, s, k, s', rest', hlink, heq, rfl, hlength⟩ := exists_link h
  obtain ⟨rfl, rfl⟩ : old = w ++ (s ++ (k ++ s')) ∧ rest = rest' :=
    List.append_inj (by rw [heq]; simp) hlength
  have hs := weight_pos hsize hlink.ne_nil
  have hk : k ≠ [] := hlink.connective.elim (fun h => (isAlpha_of_sought h (by decide)).1)
    fun h => (isAlpha_of_sought h (by decide)).1
  have hk' := weight_pos hsize hk
  simp only [weight_append, weight_cons, weight_nil, hblank]
  omega

theorem weight_whereClause {old rest put : Text}
    (h : whereClause (old ++ rest) = some (put, old.length)) :
    weight size put < weight size old := by
  obtain ⟨w, s, b, -, -, -, hne, -, rfl, hlength⟩ := exists_of_whereClause h
  refine weight_pos hsize ?_
  rintro rfl
  have := List.length_pos_iff.2 hne
  simp only [List.length_nil, List.length_append] at hlength
  omega

/-- Cleaning up a plain text leaves it as it is if nothing dangles, and makes it smaller if
something does. -/
theorem mends_plain (hblank : size ' ' = 1) (t : Text) : Mends size t (plain t) (Dangles t) := by
  obtain ⟨u, v, hcommas, hconnectives, hclauses⟩ := passes_plain t
  have hall := ((hcommas.mends (fun _ _ _ => weight_whereComma hsize) rfl).trans
    (hconnectives.mends (fun _ _ _ => weight_whereConnective hsize hblank) rfl)).trans
    (hclauses.mends (fun _ _ _ => weight_whereClause hsize) rfl)
  refine hall.congr ⟨?_, ?_⟩
  · rintro ((⟨a, b, rfl, hbound, hb⟩ | ⟨a, b, rfl, hbound, hb⟩) | ⟨a, b, rfl, hbound, hb⟩)
    · refine ⟨a, b, rfl, hbound, ?_⟩
      obtain ⟨cs, rfl, hcs⟩ := whereComma_isSome_iff.1 hb
      exact .comma hcs
    · obtain ⟨w, _, rfl, hw, s, t, rfl, hs, hne, ht⟩ := whereConnective_isSome_iff.1 hb
      exact ⟨a, _, rfl, hbound, .followed ⟨w, _, rfl, hw, s, t, rfl, hs, hne, Or.inl ht⟩⟩
    · obtain ⟨w, _, rfl, hw, s, t, rfl, hs, hne, ht⟩ := whereClause_isSome_iff.1 hb
      exact ⟨a, _, rfl, hbound, .followed ⟨w, _, rfl, hw, s, t, rfl, hs, hne, Or.inr ht⟩⟩
  · rintro ⟨a, b, rfl, hbound, hb⟩
    cases hb with
    | comma h => exact Or.inl (Or.inl ⟨a, _, rfl, hbound, whereComma_isSome_iff.2 ⟨_, rfl, h⟩⟩)
    | followed h =>
      obtain ⟨w, _, rfl, hw, s, t, rfl, hs, hne, ht | ht⟩ := h
      · exact Or.inl (Or.inr ⟨a, _, rfl, hbound,
          whereConnective_isSome_iff.2 ⟨w, _, rfl, hw, s, t, rfl, hs, hne, ht⟩⟩)
      · exact Or.inr ⟨a, _, rfl, hbound,
          whereClause_isSome_iff.2 ⟨w, _, rfl, hw, s, t, rfl, hs, hne, ht⟩⟩

end

/-! The end of a text. -/

/-- A `where` at the end is dropped with the blanks in front of it. -/
theorem dropLastWhere_eq (hw : w.sameWord "where".toList) (ha : ¬a.getLast?.any Unicode.isWord)
    (hs : ∀ c ∈ s, Unicode.isBlank c) : dropLastWhere (a ++ (w ++ s)) = a.trimEnd ++ s := by
  obtain ⟨hne, halpha⟩ := isAlpha_of_sought hw (by decide)
  have hbody : (a ++ (w ++ s)).reverse.dropWhile Unicode.isBlank = w.reverse ++ a.reverse := by
    rw [List.reverse_append, List.reverse_append, List.append_assoc]
    refine Text.skipBlanks_append (by simpa using hs) fun c hc => ?_
    refine isBlank_of_isAlpha (halpha c ?_)
    rw [List.head?_append_of_ne_nil _ (by simpa using hne), List.head?_reverse] at hc
    exact List.mem_of_getLast? hc
  have hdrop : Text.dropWord? "where".toList.reverse (w.reverse ++ a.reverse) = some a.reverse :=
    Text.dropWord?_eq_some_iff.2 ⟨w.reverse, Text.sameWord_reverse.2 hw, rfl⟩
  have hlength : (a ++ (w ++ s)).drop (w.reverse ++ a.reverse).length = s := by
    rw [← List.append_assoc, show (w.reverse ++ a.reverse).length = (a ++ w).length by simp; omega,
      List.drop_left]
  rw [dropLastWhere, hbody, hdrop]
  dsimp only
  rw [if_neg (by simpa using ha), hlength]
  rfl

theorem mends_dropLastWhere {size : Char → Nat} (hsize : ∀ c, 0 < size c) (t : Text) :
    Mends size t (dropLastWhere t) (Trails t) := by
  by_cases h : Trails t
  · refine .smaller h ?_
    obtain ⟨a, _, rfl, hbound, w, s, rfl, hw, hs⟩ := h
    have ha := (bounded_word_iff hw).1 hbound
    obtain ⟨bs, -, htrim⟩ := Text.exists_trimEnd a
    have hword := weight_pos hsize (isAlpha_of_sought hw (by decide)).1
    have hweight : weight size a = weight size a.trimEnd + weight size bs := by
      rw [← weight_append, ← htrim]
    rw [dropLastWhere_eq hw ha hs]
    simp only [weight_append]
    omega
  · refine .same h ?_
    rcases dropLastWhere_cases t with heq | ⟨a, s, w, s', rfl, -, hw, ha, -, hs'⟩
    · exact heq
    · exact absurd ⟨a ++ s, _, rfl, (bounded_word_iff hw).2 ha, w, s', rfl, hw, hs'⟩ h

/-! The segments. -/

variable {ss : List Segment}

theorem getLast?_counts_cons (x : Segment) (ss : List Segment) :
    ((x :: ss).filter counts).getLast? =
      if ss.any counts then (ss.filter counts).getLast? else if counts x then some x else none := by
  have hrest : ss.any counts ↔ ss.filter counts ≠ [] := by
    simp [List.filter_eq_nil_iff]
  rw [List.filter_cons]
  split
  · rw [List.getLast?_cons]
    split
    · rename_i hany
      rw [List.getLast?_eq_getLast_of_ne_nil (hrest.1 hany)]
      rfl
    · rename_i hany
      rw [not_not.1 (mt hrest.2 hany)]
      rfl
  · split
    · rfl
    · rename_i hany
      rw [not_not.1 (mt hrest.2 hany)]
      rfl

theorem getLast?_counts_of_not_any (h : ¬ss.any counts) : (ss.filter counts).getLast? = none := by
  rw [List.getLast?_eq_none_iff, List.filter_eq_nil_iff]
  simpa using h

theorem tidy_inert (t : Text) : Tidy (.inert t :: ss) ↔ Tidy ss := by
  have hplain : (∀ u, .plain u ∈ Segment.inert t :: ss → ¬Dangles u) ↔
      ∀ u, .plain u ∈ ss → ¬Dangles u := by simp
  have hlast : (∀ u, ((.inert t :: ss).filter counts).getLast? = some (.plain u) → ¬Trails u) ↔
      ∀ u, (ss.filter counts).getLast? = some (.plain u) → ¬Trails u := by
    rw [getLast?_counts_cons]
    split
    · rfl
    · rename_i hany
      rw [getLast?_counts_of_not_any hany]
      split <;> simp
  exact ⟨fun h => ⟨hplain.1 h.plain, hlast.1 h.last⟩, fun h => ⟨hplain.2 h.plain, hlast.2 h.last⟩⟩

theorem tidy_plain (t : Text) : Tidy (.plain t :: ss) ↔
    (¬Dangles t ∧ (!t.isBlank && !ss.any counts → ¬Trails t)) ∧ Tidy ss := by
  have hplain : (∀ u, .plain u ∈ Segment.plain t :: ss → ¬Dangles u) ↔
      ¬Dangles t ∧ ∀ u, .plain u ∈ ss → ¬Dangles u := by simp
  have hlast : (∀ u, ((.plain t :: ss).filter counts).getLast? = some (.plain u) → ¬Trails u) ↔
      (!t.isBlank && !ss.any counts → ¬Trails t) ∧
        ∀ u, (ss.filter counts).getLast? = some (.plain u) → ¬Trails u := by
    rw [getLast?_counts_cons]
    split
    · rename_i hany
      simp [hany]
    · rename_i hany
      rw [getLast?_counts_of_not_any hany]
      simp [hany, counts]
  constructor
  · rintro ⟨h, h'⟩
    exact ⟨⟨(hplain.1 h).1, (hlast.1 h').1⟩, (hplain.1 h).2, (hlast.1 h').2⟩
  · rintro ⟨⟨h, h'⟩, hss⟩
    exact ⟨hplain.2 ⟨h, hss.plain⟩, hlast.2 ⟨h', hss.last⟩⟩

theorem mends_cleanSegments {size : Char → Nat} (hsize : ∀ c, 0 < size c) (hblank : size ' ' = 1)
    (ss : List Segment) : Mends size (Segment.unsplit ss) (cleanSegments ss) (¬Tidy ss) := by
  induction ss with
  | nil => exact .same (fun h => h ⟨by simp, by simp⟩) rfl
  | cons x ss ih =>
    cases x with
    | inert t =>
      have ht : Mends size t t False := .same id rfl
      exact (ht.append ih).congr (by rw [tidy_inert, false_or])
    | plain t =>
      have ht := mends_plain hsize hblank t
      rw [cleanSegments]
      split
      · rename_i hlast
        refine ((ht.trans (mends_dropLastWhere hsize (plain t))).append ih).congr ?_
        rw [tidy_plain, not_and_or, not_and_or, forall_prop_of_true hlast, not_not, not_not]
      · rename_i hlast
        refine (ht.append ih).congr ?_
        rw [tidy_plain, not_and_or, not_and_or, not_not]
        simp [hlast]

theorem mends_cleanup {size : Char → Nat} (hsize : ∀ c, 0 < size c) (hblank : size ' ' = 1)
    (sql : Text) : Mends size sql (cleanup sql) (¬Tidy (segments sql)) := by
  have h := mends_cleanSegments hsize hblank (segments sql)
  rwa [unsplit_segments] at h

end Cleanup

open Cleanup

/-- Cleaning up leaves a text as it is exactly if nothing in it dangles, and makes it shorter
otherwise, in characters and in bytes.  So cleaning up again and again comes to an end after at most
as many times as the text has characters. -/
theorem cleanup_eq_iff_tidy (sql : Text) :
    (cleanup sql = sql ↔ Tidy (segments sql)) ∧
      (¬Tidy (segments sql) → (cleanup sql).length < sql.length ∧
        (cleanup sql).str.utf8ByteSize < sql.str.utf8ByteSize) ∧
      ∃ n ≤ sql.length, Function.IsFixedPt cleanup (cleanup^[n] sql) := by
  have hlength := fun sql => mends_cleanup (fun _ => Nat.one_pos) rfl sql
  have hshorter : ∀ sql, ¬Tidy (segments sql) → (cleanup sql).length < sql.length := by
    intro sql h
    simpa only [weight_one] using (hlength sql).weight_lt h
  refine ⟨(hlength sql).eq_iff.trans not_not, fun h => ⟨hshorter sql h, ?_⟩, ?_⟩
  · simpa only [weight_utf8Size] using
      (mends_cleanup Char.utf8Size_pos (by decide) sql).weight_lt h
  · induction hn : sql.length using Nat.strong_induction_on generalizing sql with
    | _ n ih =>
      subst hn
      by_cases htidy : Tidy (segments sql)
      · exact ⟨0, Nat.zero_le _, (hlength sql).eq_iff.2 (not_not.2 htidy)⟩
      · have hlt := hshorter sql htidy
        obtain ⟨n, hn, hfixed⟩ := ih _ hlt (cleanup sql) rfl
        exact ⟨n + 1, by omega, hfixed⟩

end SqlTemplate
