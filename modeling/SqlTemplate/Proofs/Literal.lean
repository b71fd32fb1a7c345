import SqlTemplate.Literal
import SqlTemplate.Proofs.Number
import SqlTemplate.Proofs.Segmentation

/-!
The segments of literals.  The content of a string never leaves its quotes: a literal is read as
one closed quoted run for each string, nested array or object, and plain text between them.
-/
namespace SqlTemplate

open Segment

theorem Segment.quotedRun_double {mark : Char} {rest : Text} (h : rest.head? ≠ some mark)
    (s : Text) :
    quotedRun mark (s.double mark ++ mark :: rest) = (s.double mark ++ [mark], rest) := by
  induction s with
  | nil => exact quotedRun_mark h
  | cons c s ih =>
    simp only [Text.double, List.flatMap_cons] at ih ⊢
    by_cases hc : c = mark
    · subst hc
      simp only [↓reduceIte, List.cons_append, List.nil_append]
      rw [quotedRun_mark_mark, ih]
    · simp only [hc, ↓reduceIte, List.cons_append, List.nil_append]
      rw [quotedRun_cons_of_ne hc, ih]

/-- A string literal is a region of its own, unless a quote stands directly behind it. -/
theorem region?_quoteText {rest : Text} (h : rest.head? ≠ some '\x27') (s : Text) :
    region? (quoteText s ++ rest) = some (quoteText s, rest) := by
  have hrun := quotedRun_double h s
  simp only [quoteText, List.cons_append, List.append_assoc, List.nil_append]
  rw [region?_quoted (Or.inl rfl), hrun]

namespace Literal

/-- Text that opens no region, and cannot where it ends: dashes have a numeral behind them. -/
def Quiet : Text → Prop
  | [] => True
  | c :: t =>
    c ∉ ['\x27', '\x22', '/', ':'] ∧ (c = '-' → t.head?.any Number.isNumeral) ∧ Quiet t

theorem Quiet.append {t u : Text} (ht : Quiet t) (hu : Quiet u) : Quiet (t ++ u) := by
  induction t with
  | nil => exact hu
  | cons c t ih =>
    refine ⟨ht.1, fun hc => ?_, ih ht.2.2⟩
    have h := ht.2.1 hc
    cases t with
    | nil => simp at h
    | cons d t => exact h

theorem quiet_of_isNumeral {t : Text} (h : ∀ c ∈ t, Number.isNumeral c) : Quiet t := by
  induction t with
  | nil => trivial
  | cons c t ih =>
    have hc := h c (by simp)
    refine ⟨?_, ?_, ih fun d hd => h d (by simp [hd])⟩
    · intro hmem
      simp only [List.mem_cons, List.not_mem_nil, or_false] at hmem
      rcases hmem with rfl | rfl | rfl | rfl <;> exact absurd hc (by decide)
    · rintro rfl
      exact absurd hc (by decide)

theorem quiet_dash {t : Text} (h : ∀ c ∈ t, Number.isNumeral c) (hne : t ≠ []) :
    Quiet ('-' :: t) := by
  refine ⟨by decide, fun _ => ?_, quiet_of_isNumeral h⟩
  cases t with
  | nil => exact absurd rfl hne
  | cons c t => simpa using h c (by simp)

theorem quiet_unsigned {t : Text} (h : Number.Unsigned t) :
    Quiet t ∧ t.head?.any Number.isNumeral := by
  obtain ⟨a, b, hab, ha, ht⟩ := h
  have hfront : Quiet a := quiet_of_isNumeral fun c hc => hab c (by simp [hc])
  have hhead : a.head?.any Number.isNumeral := by
    cases a with
    | nil => exact absurd rfl ha
    | cons c a => simpa using hab c (by simp)
  rcases ht with rfl | ⟨hb, rfl⟩
  · exact ⟨hfront, hhead⟩
  · refine ⟨hfront.append (quiet_dash (fun c hc => hab c (by simp [hc])) hb), ?_⟩
    cases a with
    | nil => exact absurd rfl ha
    | cons c a => exact hhead

theorem quiet_number (n : Number) : Quiet n.text.toList ∧ n.text.toList ≠ [] := by
  obtain ⟨t, ht, h | h⟩ := n.text_eq
  · have hq := quiet_unsigned ht
    rw [h]
    refine ⟨hq.1, ?_⟩
    rintro rfl
    simp at hq
  · have hq := quiet_unsigned ht
    rw [h]
    exact ⟨⟨by decide, fun _ => hq.2, hq.1⟩, by simp⟩

theorem isPlain_of_quiet {t : Text} (h : Quiet t) : IsPlain t := by
  induction t with
  | nil =>
    intro w hw
    rw [List.suffix_nil.1 hw]
    rfl
  | cons c t ih =>
    obtain ⟨hc, hdash, ht⟩ := h
    intro w hw
    rcases List.suffix_cons_iff.1 hw with rfl | hw
    · rw [← Option.not_isSome_iff_eq_none, region?_isSome_iff]
      simp only [List.mem_cons, List.not_mem_nil, or_false, not_or] at hc
      rintro (h | ⟨s, h⟩ | ⟨s, h⟩ | ⟨d, -, s, h⟩)
      · simp [hc] at h
      · obtain ⟨rfl, rfl⟩ := List.cons.inj h
        exact absurd (hdash rfl) (show ¬Number.isNumeral '-' from by decide)
      · exact hc.2.2.1 (List.cons.inj h).1.symm
      · exact hc.2.2.2 (List.cons.inj h).1.symm
    · exact ih ht w hw

theorem getLast?_ne_of_quiet {t : Text} (h : Quiet t) : t.getLast? ≠ some '-' := by
  induction t with
  | nil => simp
  | cons c t ih =>
    cases t with
    | nil =>
      intro hc
      obtain rfl : c = '-' := by simpa using hc
      simpa using h.2.1 rfl
    | cons d t =>
      rw [List.getLast?_cons_cons]
      exact ih h.2.2

/-- Segments that make up literals: quiet text, and string literals with no quote behind. -/
def Tame : List Segment → Prop
  | [] => True
  | .plain t :: ss => Quiet t ∧ Tame ss
  | .inert t :: ss => (∃ s, t = quoteText s) ∧ (unsplit ss).head? ≠ some '\x27' ∧ Tame ss

theorem tame_glue {s : Segment} {ss : List Segment} (h : Tame (s :: ss)) : Tame (glue s ss) := by
  cases s with
  | inert t => exact h
  | plain t =>
    cases t with
    | nil => exact h.2
    | cons c t =>
      match ss with
      | [] => exact h
      | .inert u :: ss => exact h
      | .plain u :: ss => exact ⟨h.1.append h.2.1, h.2.2⟩

theorem tame_merge {ss : List Segment} (h : Tame ss) : Tame (merge ss) := by
  induction ss with
  | nil => trivial
  | cons s ss ih =>
    rw [merge_cons]
    apply tame_glue
    cases s with
    | plain t => exact ⟨h.1, ih h.2⟩
    | inert t =>
      refine ⟨h.1, ?_, ih h.2.2⟩
      rw [unsplit_merge]
      exact h.2.1

theorem apart_of_tame {ss : List Segment} (h : Tame ss) : Apart ss := by
  induction ss with
  | nil => trivial
  | cons s ss ih =>
    cases s with
    | plain t =>
      exact ⟨isPlain_of_quiet h.1, fun hd => getLast?_ne_of_quiet h.1 hd.1, ih h.2⟩
    | inert t =>
      obtain ⟨⟨s, rfl⟩, hhead, hss⟩ := h
      exact ⟨follows_of_region? (region?_quoteText hhead s), ih hss⟩

theorem regional_of_tame {ss : List Segment} (h : Tame ss) : Regional ss := by
  induction ss with
  | nil => trivial
  | cons s ss ih =>
    cases s with
    | plain t => exact ih h.2
    | inert t =>
      obtain ⟨⟨s, rfl⟩, hhead, hss⟩ := h
      exact ⟨fun _ => region?_quoteText hhead s, ih hss⟩

/-- The segment of a single literal. -/
def scalarPart : Value → Segment
  | .string s => .inert (quoteText s)
  | .array items => .inert (quoteText (Value.array items).json)
  | .object fields => .inert (quoteText (Value.object fields).json)
  | v => .plain v.json

/-- The segments of a literal before neighbouring plain texts are joined. -/
def parts : Value → List Segment
  | .array items => (items.map scalarPart).intersperse (.plain [',', ' '])
  | v => [scalarPart v]

theorem text_scalarPart (v : Value) : (scalarPart v).text = v.scalarLiteral := by
  cases v <;> rfl

theorem unsplit_intersperse (items : List Value) :
    unsplit ((items.map scalarPart).intersperse (.plain [',', ' '])) =
      Text.join [',', ' '] (items.map Value.scalarLiteral) := by
  induction items with
  | nil => rfl
  | cons v items ih =>
    cases items with
    | nil => simp [text_scalarPart]
    | cons w items =>
      simp only [List.map_cons, List.intersperse_cons_cons, unsplit_cons, text_scalarPart,
        Text.join_cons_cons] at ih ⊢
      rw [ih]
      simp [text]

theorem unsplit_parts (v : Value) : unsplit (parts v) = v.literal := by
  cases v with
  | array items => exact unsplit_intersperse items
  | null | bool b | number n | string s | object fields =>
    simp [parts, text_scalarPart, Value.literal]

theorem tame_scalarPart (v : Value) {ss : List Segment} (h : Tame ss)
    (hhead : (unsplit ss).head? ≠ some '\x27') : Tame (scalarPart v :: ss) := by
  cases v with
  | null => exact ⟨quiet_of_isNumeral fun c => Number.isNumeral_of_all (by decide), h⟩
  | bool b => cases b <;> exact ⟨quiet_of_isNumeral fun c => Number.isNumeral_of_all (by decide), h⟩
  | number n => exact ⟨(quiet_number n).1, h⟩
  | string s => exact ⟨⟨s, rfl⟩, hhead, h⟩
  | array items => exact ⟨⟨_, rfl⟩, hhead, h⟩
  | object fields => exact ⟨⟨_, rfl⟩, hhead, h⟩

theorem tame_intersperse (items : List Value) :
    Tame ((items.map scalarPart).intersperse (.plain [',', ' '])) := by
  induction items with
  | nil => trivial
  | cons v items ih =>
    cases items with
    | nil => exact tame_scalarPart v trivial (by simp)
    | cons w items =>
      refine tame_scalarPart v ⟨?_, ih⟩ (by simp [text])
      exact ⟨by decide, by decide, by decide, by decide, trivial⟩

theorem tame_parts (v : Value) : Tame (parts v) := by
  cases v with
  | array items => exact tame_intersperse items
  | null | bool b | number n | string s | object fields =>
    exact tame_scalarPart _ trivial (by simp)

/-- A literal is read as the literals it was written from. -/
theorem segments_literal (v : Value) : segments v.literal = merge (parts v) := by
  rw [← unsplit_parts, segments_unsplit_merge_iff (regional_of_tame (tame_parts v))]
  exact apart_of_tame (tame_merge (tame_parts v))

/-- Whatever a literal holds, its inert segments are closed string literals. -/
theorem tame_segments_literal (v : Value) : Tame (segments v.literal) := by
  rw [segments_literal]
  exact tame_merge (tame_parts v)

end Literal

end SqlTemplate
