import Mathlib
import SqlTemplate.Proofs.Placeholder
import SqlTemplate.Proofs.Segmentation

/-!
One pass over a text for its placeholders.  From its start on, a text is a region, or a
placeholder, or a character that opens neither, and then goes on with what is behind that.
-/
namespace SqlTemplate.Placeholder

open Segment (region?)

variable {p : Placeholder} {w t : Text}

/-- Blanks, name characters, and the marks of a placeholder. -/
theorem Written.mem (h : Written p w) {c : Char} (hc : c ∈ w) :
    Unicode.isBlank c ∨ Name.isPart c ∨ c ∈ ['$', '\x7b', '\x7d', ':', '!', '.'] := by
  cases h with
  | @intro mark name a b d hname ha hb hd =>
    simp only [List.mem_cons, List.mem_append, List.not_mem_nil, or_false] at hc
    rcases hc with rfl | rfl | hc | hc | hc | hc | hc | rfl
    · exact .inr (.inr (by decide))
    · exact .inr (.inr (by decide))
    · exact .inl (ha c hc)
    · refine .inr (.inr ?_)
      cases mark <;> simp [Mark.text] at hc <;> subst hc <;> decide
    · exact .inl (hb c hc)
    · rcases hname.mem hc with hpart | rfl
      · exact .inr (.inl hpart)
      · exact .inr (.inr (by decide))
    · exact .inl (hd c hc)
    · exact .inr (.inr (by decide))

theorem Written.notMem (h : Written p w) {c : Char} (hblank : Unicode.isBlank c = false)
    (hpart : Name.isPart c = false) (hmark : c ∉ ['$', '\x7b', '\x7d', ':', '!', '.']) : c ∉ w := by
  intro hc
  rcases h.mem hc with hc | hc | hc
  · simp [hblank] at hc
  · simp [hpart] at hc
  · exact hmark hc

theorem Written.not_colons (h : Written p w) : ¬[':', ':'] <:+: w := by
  intro hcolons
  have htwo : 2 ≤ w.count ':' := hcolons.sublist.count_le ':'
  cases h with
  | @intro mark name a b d hname ha hb hd =>
    have hnone : ∀ {t : Text}, (∀ x ∈ t, Unicode.isBlank x) → t.count ':' = 0 := fun ht =>
      List.count_eq_zero.2 fun hmem => absurd (ht _ hmem) (by decide)
    have hname' : name.count ':' = 0 := List.count_eq_zero.2 fun hmem =>
      (hname.mem hmem).elim (fun hpart => absurd hpart (by decide)) (by decide)
    have hmark : mark.text.count ':' ≤ 1 := by cases mark <;> decide
    simp [List.count_append, hnone ha, hnone hb, hnone hd, hname'] at htwo
    omega

/-- No region opens inside a placeholder, whatever stands behind it. -/
theorem Written.region?_eq_none (h : Written p w) {v : Text} (hv : v <:+ w) (hne : v ≠ [])
    (t : Text) : region? (v ++ t) = none := by
  obtain ⟨c, v, rfl⟩ := List.exists_cons_of_ne_nil hne
  have hmem : c ∈ w := hv.subset List.mem_cons_self
  have hother : ∀ d, Unicode.isBlank d = false → Name.isPart d = false →
      d ∉ ['$', '\x7b', '\x7d', ':', '!', '.'] → c ≠ d := by
    rintro d hblank hpart hmark rfl
    exact h.notMem hblank hpart hmark hmem
  rw [← Option.not_isSome_iff_eq_none, Segment.region?_isSome_iff]
  rintro ((hq | hq) | ⟨s, hs⟩ | ⟨s, hs⟩ | ⟨d, -, s, hs⟩)
  · exact hother _ (by decide) (by decide) (by decide) (Option.some.inj hq)
  · exact hother _ (by decide) (by decide) (by decide) (Option.some.inj hq)
  · exact hother _ (by decide) (by decide) (by decide) (List.cons.inj hs).1.symm
  · exact hother _ (by decide) (by decide) (by decide) (List.cons.inj hs).1.symm
  · -- a placeholder ends in a brace, so that the second colon would be one of its own
    have hlast : (c :: v).getLast? = some '\x7d' := by
      obtain ⟨front, rfl⟩ := hv
      rw [← h.getLast?, List.getLast?_append_of_ne_nil _ hne]
    cases v with
    | nil =>
      obtain rfl : c = '\x7d' := Option.some.inj hlast
      cases hs
    | cons e v =>
      simp only [List.cons_append, List.nil_append, List.cons.injEq] at hs
      obtain ⟨rfl, rfl, -⟩ := hs
      exact h.not_colons ((List.prefix_append [':', ':'] v).isInfix.trans hv.isInfix)

theorem Written.ne_nil (h : Written p w) : w ≠ [] := by
  cases h
  exact List.cons_ne_nil _ _

theorem Written.isName (h : Written p w) : Name.IsName p.name := by
  cases h with
  | intro mark hname => exact hname

/-! Splitting plain text. -/

theorem split_nil : split [] = [] := by
  rw [split]
  rfl

theorem split_written (h : Written p w) (t : Text) :
    split (w ++ t) = .placeholder w p :: split t := by
  rw [split]
  split
  · rename_i h'
    obtain ⟨rfl, rfl⟩ := Prod.mk.inj (Option.some.inj (h'.symm.trans (h.read? t)))
    simp
  · rename_i h'
    simp [h.read? t] at h'

theorem split_char {c : Char} (h : read? (c :: t) = none) :
    split (c :: t) = .char c :: split t := by
  rw [split]
  split
  · rename_i h'
    simp [h] at h'
  · rfl

theorem split_text_append {s : Text} (h : '$' ∉ s) (t : Text) :
    split (s ++ t) = s.map .char ++ split t := by
  induction s with
  | nil => rfl
  | cons c s ih =>
    obtain ⟨hc, hs⟩ := not_or.1 (mt List.mem_cons.2 h)
    have hread : read? (c :: (s ++ t)) = none := read?_eq_none (by simpa using Ne.symm hc)
    rw [List.cons_append, split_char hread, ih hs]
    rfl

theorem split_of_notMem {t : Text} (h : '$' ∉ t) : split t = t.map .char := by
  have happend := split_text_append h []
  rwa [split_nil, List.append_nil, List.append_nil] at happend

theorem fill_of_notMem (f : Placeholder → Option Text) {t : Text} (h : '$' ∉ t) : fill f t = t := by
  rw [fill, split_of_notMem h, List.flatMap_map]
  exact List.flatMap_singleton' t

/-- A placeholder that a part of a text starts with is one that the text starts with. -/
theorem read?_eq_none_of_append {u : Text} (h : u <+: t) (ht : read? t = none) :
    read? u = none := by
  obtain ⟨s, rfl⟩ := h
  refine Option.eq_none_iff_forall_ne_some.2 fun ⟨p, rest⟩ hread => ?_
  obtain ⟨w, rfl, hw, -⟩ := read?_change hread
  rw [List.append_assoc, hw.read?] at ht
  cases ht

/-! Scanning a text. -/

/-- What one pass over a text meets. -/
inductive Token where
  | inert (run : Text)
  | placeholder (written : Text) (p : Placeholder)
  | char (c : Char)

def Token.ofPiece : Piece → Token
  | .char c => char c
  | .placeholder w p => placeholder w p

/-- A token with a text in the place of its placeholder. -/
def Token.fill (f : Placeholder → Option Text) : Token → Text
  | inert run => run
  | placeholder w p => (f p).getD w
  | char c => [c]

/-- The tokens of a text in order. -/
def scan (t : Text) : List Token :=
  (segments t).flatMap fun
    | .plain t => (split t).map Token.ofPiece
    | .inert run => [.inert run]

/-- Filling in placeholders is a matter of the tokens. -/
theorem overPlain_fill (f : Placeholder → Option Text) (t : Text) :
    overPlain (fill f) t = (scan t).flatMap (Token.fill f) := by
  rw [overPlain, Segment.mapPlain, scan, List.flatMap_assoc]
  refine List.flatMap_congr fun s _ => ?_
  cases s with
  | inert run => simp [Token.fill]
  | plain t =>
    change (split t).flatMap _ = _
    rw [List.flatMap_map]
    refine List.flatMap_congr fun piece _ => ?_
    cases piece <;> rfl

theorem scan_nil : scan [] = [] := by
  rw [scan, segments_nil]
  rfl

theorem scan_region {run rest : Text} (h : region? t = some (run, rest)) :
    scan t = .inert run :: scan rest := by
  rw [scan, segments_of_region? h]
  rfl

/-- Text in front of which no region opens is put in front of the segments as plain text. -/
theorem segments_append_of_none (h : ∀ v, v <:+ w → v ≠ [] → region? (v ++ t) = none) :
    segments (w ++ t) = w.foldr Segment.consPlain (segments t) := by
  induction w with
  | nil => rfl
  | cons c w ih =>
    have hc : region? (c :: (w ++ t)) = none := h _ List.suffix_rfl (List.cons_ne_nil c w)
    rw [List.cons_append, segments_cons hc, List.foldr_cons,
      ih fun v hv => h v (hv.trans (List.suffix_cons c w))]

theorem foldr_consPlain (w : Text) (ss : List Segment) (hw : w ≠ []) :
    ∃ u rest, w.foldr Segment.consPlain ss = .plain (w ++ u) :: rest ∧
      ((ss = .plain u :: rest) ∨ u = [] ∧ rest = ss) := by
  induction w with
  | nil => exact absurd rfl hw
  | cons c w ih =>
    cases w with
    | nil =>
      cases ss with
      | nil => exact ⟨[], [], rfl, .inr ⟨rfl, rfl⟩⟩
      | cons s ss =>
        cases s with
        | plain u => exact ⟨u, ss, rfl, .inl rfl⟩
        | inert run => exact ⟨[], _, rfl, .inr ⟨rfl, rfl⟩⟩
    | cons d w =>
      obtain ⟨u, rest, heq, hss⟩ := ih (List.cons_ne_nil d w)
      exact ⟨u, rest, by rw [List.foldr_cons, heq]; rfl, hss⟩

/-- What is split off the front of a text, whatever is plain behind it, is its first token. -/
theorem scan_append_of_none (hw : w ≠ [])
    (hnone : ∀ v, v <:+ w → v ≠ [] → region? (v ++ t) = none) {piece : Piece}
    (hsplit : ∀ u, u <+: t → split (w ++ u) = piece :: split u) :
    scan (w ++ t) = .ofPiece piece :: scan t := by
  obtain ⟨u, rest, hfold, hrest⟩ := foldr_consPlain w (segments t) hw
  have hfront : u <+: t := by
    rcases hrest with hrest | ⟨rfl, -⟩
    · exact ⟨Segment.unsplit rest, by
        conv => rhs; rw [← unsplit_segments t, hrest]
        rfl⟩
    · exact List.nil_prefix
  rw [scan, scan, segments_append_of_none hnone, hfold, List.flatMap_cons]
  dsimp only
  rw [hsplit u hfront, List.map_cons, List.cons_append]
  rcases hrest with hrest | ⟨rfl, rfl⟩
  · rw [hrest, List.flatMap_cons]
  · rw [split_nil, List.map_nil, List.nil_append]

theorem scan_written (h : Written p w) (t : Text) :
    scan (w ++ t) = .placeholder w p :: scan t :=
  scan_append_of_none h.ne_nil (fun _ hv hne => h.region?_eq_none hv hne t)
    fun u _ => split_written h u

theorem scan_char {c : Char} (hregion : region? (c :: t) = none)
    (hread : read? (c :: t) = none) : scan (c :: t) = .char c :: scan t := by
  change scan ([c] ++ t) = .ofPiece (.char c) :: scan t
  refine scan_append_of_none (List.cons_ne_nil c []) (fun v hv hne => ?_) fun u hu => ?_
  · rcases List.suffix_cons_iff.1 hv with rfl | hnil
    · exact hregion
    · exact absurd (List.suffix_nil.1 hnil) hne
  · exact split_char (read?_eq_none_of_append ((List.prefix_cons_inj c).2 hu) hread)

/-- What holds of a text if it holds of what is behind its first token holds of all texts. -/
@[elab_as_elim]
theorem scan_induction {motive : Text → Prop} (nil : motive [])
    (region : ∀ t run rest, region? t = some (run, rest) → motive rest → motive t)
    (placeholder : ∀ p w t, Written p w → motive t → motive (w ++ t))
    (char : ∀ c t, region? (c :: t) = none → read? (c :: t) = none → motive t → motive (c :: t))
    (t : Text) : motive t := by
  induction hn : t.length using Nat.strong_induction_on generalizing t with
  | _ n ih =>
    subst hn
    cases hregion : region? t with
    | some parts =>
      obtain ⟨run, rest⟩ := parts
      exact region t run rest hregion (ih _ (Segment.length_lt_of_region? hregion) rest rfl)
    | none =>
      cases hread : read? t with
      | some parts =>
        obtain ⟨p, rest⟩ := parts
        obtain ⟨w, rfl, hw, -⟩ := read?_change hread
        exact placeholder p w rest hw (ih _ (length_lt_of_read? hread) rest rfl)
      | none =>
        cases t with
        | nil => exact nil
        | cons c t => exact char c t hregion hread (ih _ (Nat.lt_succ_self _) t rfl)

/-- The placeholders of a text, in order. -/
def placeholders (t : Text) : List Placeholder :=
  (scan t).filterMap fun
    | .placeholder _ p => some p
    | _ => none

theorem flatMap_scan_none (t : Text) : (scan t).flatMap (Token.fill fun _ => none) = t := by
  induction t using scan_induction with
  | nil => rw [scan_nil, List.flatMap_nil]
  | region t run rest h ih =>
    rw [scan_region h, List.flatMap_cons, ih]
    exact (Segment.region?_append h).1
  | placeholder p w t hw ih =>
    rw [scan_written hw, List.flatMap_cons, ih]
    rfl
  | char c t hregion hread ih =>
    rw [scan_char hregion hread, List.flatMap_cons, ih]
    rfl

/-- A text without placeholders that are filled in stays as it is. -/
theorem overPlain_fill_of_none {f : Placeholder → Option Text}
    (h : ∀ p ∈ placeholders t, f p = none) : overPlain (fill f) t = t := by
  rw [overPlain_fill]
  conv => rhs; rw [← flatMap_scan_none t]
  refine List.flatMap_congr fun token htoken => ?_
  cases token with
  | placeholder w p =>
    have hnone : f p = none := h p (List.mem_filterMap.2 ⟨_, htoken, rfl⟩)
    rw [Token.fill, Token.fill, hnone]
  | inert run => rfl
  | char c => rfl

/-! What one pass does to a text, token by token. -/

section

variable {f : Placeholder → Option Text}

theorem overPlain_nil : overPlain (fill f) [] = [] := by
  rw [overPlain_fill, scan_nil]
  rfl

theorem overPlain_region {run rest : Text} (h : region? t = some (run, rest)) :
    overPlain (fill f) t = run ++ overPlain (fill f) rest := by
  rw [overPlain_fill, overPlain_fill, scan_region h]
  rfl

theorem overPlain_written {p : Placeholder} {w : Text} (h : Written p w) (t : Text) :
    overPlain (fill f) (w ++ t) = (f p).getD w ++ overPlain (fill f) t := by
  rw [overPlain_fill, overPlain_fill, scan_written h]
  rfl

theorem overPlain_char {c : Char} (hregion : region? (c :: t) = none)
    (hread : read? (c :: t) = none) :
    overPlain (fill f) (c :: t) = c :: overPlain (fill f) t := by
  rw [overPlain_fill, overPlain_fill, scan_char hregion hread]
  rfl

end

/-- Rounds after the text has stopped changing make no difference. -/
theorem settle_eq_iterate (f : Text → Text) (n : Nat) (t : Text) : settle f n t = f^[n] t := by
  induction n generalizing t with
  | zero => rfl
  | succ n ih =>
    rw [settle, Function.iterate_succ_apply]
    split
    · rename_i hfix
      rw [hfix, Function.iterate_fixed hfix]
    · exact ih (f t)

end SqlTemplate.Placeholder
