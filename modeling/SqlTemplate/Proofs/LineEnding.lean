import SqlTemplate.Proofs.Grammar
import SqlTemplate.Proofs.Name
import SqlTemplate.Proofs.Segmentation

/-!
Text that is taken apart into lines and joined again.  What gets lost are the carriage returns in
front of newlines and the newline at the end; inert segments lose what of that lies in them, and stay
the same segments.
-/
namespace SqlTemplate

namespace Text

/-- Whether a character with `behind` behind it is lost. -/
def Lost (c : Char) (behind : Text) : Prop :=
  c = '\r' ∧ behind.head? = some '\n' ∨ c = '\n' ∧ behind = []

instance (c : Char) (behind : Text) : Decidable (Lost c behind) :=
  inferInstanceAs (Decidable (_ ∨ _))

/-- What is left of a text with `rest` behind it. -/
def rejoin : Text → Text → Text
  | [], _ => []
  | c :: cs, rest => if Lost c (cs ++ rest) then rejoin cs rest else c :: rejoin cs rest

variable {c : Char} {cs t rest : Text}

theorem rejoin_cons_nil (c : Char) (cs : Text) :
    rejoin (c :: cs) [] = if Lost c cs then rejoin cs [] else c :: rejoin cs [] := by
  rw [rejoin, List.append_nil]

/-- Whether a character is lost is the same for each way to divide what stands behind it. -/
theorem rejoin_cons_of_append {c : Char} {a b t : Text} (h : a ++ b = t) :
    rejoin (c :: a) b = if Lost c t then rejoin a b else c :: rejoin a b := by
  rw [rejoin, h]

theorem not_lost (hc : c ≠ '\r' ∧ c ≠ '\n') (behind : Text) : ¬Lost c behind := by
  rintro (⟨hr, -⟩ | ⟨hn, -⟩)
  · exact hc.1 hr
  · exact hc.2 hn

theorem rejoin_cons (hc : c ≠ '\r' ∧ c ≠ '\n') (cs rest : Text) :
    rejoin (c :: cs) rest = c :: rejoin cs rest := if_neg (not_lost hc _)

theorem rejoin_append (a b rest : Text) :
    rejoin (a ++ b) rest = rejoin a (b ++ rest) ++ rejoin b rest := by
  induction a with
  | nil => rfl
  | cons c a ih =>
    rw [List.cons_append, rejoin, rejoin, List.append_assoc, ih]
    split <;> rfl

theorem rejoin_sublist (t rest : Text) : (rejoin t rest).Sublist t := by
  induction t with
  | nil => exact List.Sublist.refl _
  | cons c t ih =>
    rw [rejoin]
    split
    · exact ih.cons c
    · exact ih.cons_cons c

/-- A text stays as it is exactly if none of its characters is lost. -/
theorem rejoin_eq_self_iff :
    rejoin t rest = t ↔ ∀ x c y, t = x ++ c :: y → ¬Lost c (y ++ rest) := by
  induction t with
  | nil => simp [rejoin]
  | cons d t ih =>
    constructor
    · intro h x c y heq
      rw [rejoin] at h
      split at h
      · have hlength := (rejoin_sublist t rest).length_le
        rw [h, List.length_cons] at hlength
        omega
      · rename_i hlost
        cases x with
        | nil =>
          obtain ⟨rfl, rfl⟩ := List.cons.inj heq
          exact hlost
        | cons e x => exact ih.1 (List.cons.inj h).2 x c y (List.cons.inj heq).2
    · intro h
      rw [rejoin, if_neg (h [] d t rfl), ih.2 fun x c y heq => h (d :: x) c y (by rw [heq]; rfl)]

theorem head?_rejoin (h : (rejoin t []).head? = some c) : c = '\n' ∨ t.head? = some c := by
  cases t with
  | nil => cases h
  | cons d t =>
    rw [rejoin_cons_nil] at h
    split at h
    · rename_i hlost
      rcases hlost with ⟨rfl, hn⟩ | ⟨rfl, rfl⟩
      · obtain ⟨u, rfl⟩ := List.head?_eq_some_iff.1 hn
        rw [rejoin_cons_nil] at h
        split at h
        · rename_i hlast
          rcases hlast with ⟨hc, -⟩ | ⟨-, rfl⟩
          · cases hc
          · cases h
        · exact Or.inl (Option.some.inj h).symm
      · cases h
    · exact Or.inr h

/-- A character that is kept stood at the start, too. -/
theorem exists_of_rejoin_eq_cons {u : Text} (hc : c ≠ '\r' ∧ c ≠ '\n') (h : rejoin t [] = c :: u) :
    ∃ cs, t = c :: cs ∧ rejoin cs [] = u := by
  have hhead := (head?_rejoin (by rw [h]; rfl)).resolve_left hc.2
  obtain ⟨cs, rfl⟩ := List.head?_eq_some_iff.1 hhead
  rw [rejoin_cons hc] at h
  exact ⟨cs, rfl, (List.cons.inj h).2⟩

theorem lines_eq_nil {t : Text} : t.lines = [] ↔ t = [] := by
  constructor
  · intro h
    unfold lines at h
    split at h
    · rfl
    · cases h
    · split at h
      · cases h
      · split at h <;> cases h
  · rintro rfl
    rfl

theorem unlines_nil_cons (ls : List Text) :
    unlines ([] :: ls) = if ls = [] then [] else '\n' :: unlines ls := by
  cases ls with
  | nil => rfl
  | cons l ls => simp [unlines]

theorem unlines_cons_cons (c : Char) (l : Text) (ls : List Text) :
    unlines ((c :: l) :: ls) = c :: unlines (l :: ls) := by
  cases ls <;> simp [unlines]

theorem rejoin_newline (cs : Text) :
    rejoin ('\n' :: cs) [] = if cs = [] then [] else '\n' :: rejoin cs [] := by
  rw [rejoin_cons_nil]
  by_cases hcs : cs = []
  · subst hcs
    rfl
  · have hlost : ¬Lost '\n' cs := by simp [Lost, hcs]
    rw [if_neg hlost, if_neg hcs]

/-- The lines of a text, joined again. -/
theorem unlines_lines (t : Text) : unlines t.lines = rejoin t [] := by
  induction t using lines.induct with
  | case1 => rfl
  | case2 cs ih =>
    have hlost : Lost '\r' ('\n' :: cs) := Or.inl ⟨rfl, rfl⟩
    rw [lines, unlines_nil_cons, rejoin_cons_nil, if_pos hlost, rejoin_newline, ih]
    simp only [lines_eq_nil]
  | case3 cs hcs ih =>
    rw [lines, if_pos rfl, unlines_nil_cons, rejoin_newline, ih]
    · simp only [lines_eq_nil]
    · exact hcs
  | case4 c cs hcs hc hls ih =>
    obtain rfl := lines_eq_nil.1 hls
    have hlost : ¬Lost c [] := by simp [Lost, hc]
    rw [lines, if_neg hc, hls, rejoin_cons_nil, if_neg hlost]
    · rfl
    · exact hcs
  | case5 c cs hcs hc l ls hls ih =>
    have hlost : ¬Lost c cs := by
      rintro (⟨rfl, hn⟩ | ⟨rfl, -⟩)
      · obtain ⟨u, hu⟩ := List.head?_eq_some_iff.1 hn
        exact hcs u rfl hu
      · exact hc rfl
    rw [lines, if_neg hc, hls, unlines_cons_cons, ← hls, ih, rejoin_cons_nil, if_neg hlost]
    exact hcs

end Text

namespace Segment

open Text

theorem quotedRun_rejoin {mark : Char} (hmark : mark ≠ '\r' ∧ mark ≠ '\n') (t : Text) :
    quotedRun mark (rejoin t []) =
      (rejoin (quotedRun mark t).1 (quotedRun mark t).2, rejoin (quotedRun mark t).2 []) := by
  induction t using quotedRun.induct mark with
  | case1 => rfl
  | case2 c =>
    rw [rejoin_cons_nil]
    split <;> rename_i hlost <;> simp [quotedRun, rejoin_cons_nil, hlost, rejoin]
  | case3 cs run rest hq ih =>
    rw [rejoin_cons hmark, rejoin_cons hmark, quotedRun_mark_mark, quotedRun_mark_mark, ih,
      rejoin_cons hmark, rejoin_cons hmark]
  | case4 d cs hd =>
    have hhead : (rejoin (d :: cs) []).head? ≠ some mark := by
      intro h
      rcases head?_rejoin h with hm | hm
      · exact hmark.2 hm
      · exact hd (Option.some.inj hm)
    have hself : (d :: cs).head? ≠ some mark := by simpa using hd
    rw [rejoin_cons hmark, quotedRun_mark hhead, quotedRun_mark hself, rejoin_cons hmark]
    rfl
  | case5 c d cs hc run rest hq ih =>
    rw [quotedRun_cons_of_ne hc, rejoin_cons_nil,
      rejoin_cons_of_append (quotedRun_append mark (d :: cs))]
    split
    · exact ih
    · rw [quotedRun_cons_of_ne hc, ih]

theorem blockRun_cons_of_head {depth : Nat} {c : Char} {cs : Text}
    (hopen : ¬(c = '/' ∧ cs.head? = some '*')) (hclose : ¬(c = '*' ∧ cs.head? = some '/')) :
    blockRun depth (c :: cs) = (c :: (blockRun depth cs).1, (blockRun depth cs).2) := by
  cases cs with
  | nil => rfl
  | cons d cs => exact blockRun_cons (by simpa using hopen) (by simpa using hclose) cs

theorem blockRun_rejoin (depth : Nat) (t : Text) :
    blockRun depth (rejoin t []) =
      (rejoin (blockRun depth t).1 (blockRun depth t).2, rejoin (blockRun depth t).2 []) := by
  have hslash := rejoin_cons (c := '/') (by decide)
  have hstar := rejoin_cons (c := '*') (by decide)
  induction depth, t using blockRun.induct with
  | case1 depth => rfl
  | case2 depth c =>
    rw [rejoin_cons_nil]
    split <;> rename_i hlost <;> simp [blockRun, rejoin_cons_nil, hlost, rejoin]
  | case3 depth c d cs h run rest hb ih =>
    obtain ⟨rfl, rfl⟩ := h
    rw [hslash, hstar, blockRun_open, blockRun_open, ih, hslash, hstar]
  | case4 depth c d cs hopen h hd =>
    obtain ⟨rfl, rfl⟩ := h
    rw [hstar, hslash, blockRun_last hd, blockRun_last hd, hstar, hslash]
    rfl
  | case5 depth c d cs hopen h hd run rest hb ih =>
    obtain ⟨rfl, rfl⟩ := h
    rw [hstar, hslash, blockRun_close hd, blockRun_close hd, ih, hstar, hslash]
  | case6 depth c d cs hopen hclose run rest hb ih =>
    rw [blockRun_cons hopen hclose, rejoin_cons_nil,
      rejoin_cons_of_append (blockRun_append depth (d :: cs))]
    split
    · exact ih
    · have hhead : ∀ e, e ≠ '\n' → (rejoin (d :: cs) []).head? = some e → d = e := by
        intro e hne he
        rcases head?_rejoin he with rfl | he
        · exact absurd rfl hne
        · exact Option.some.inj he
      rw [blockRun_cons_of_head, ih]
      · rintro ⟨hc, he⟩
        exact hopen ⟨hc, hhead '*' (by decide) he⟩
      · rintro ⟨hc, he⟩
        exact hclose ⟨hc, hhead '/' (by decide) he⟩

theorem span_rejoin {p : Char → Bool} (hp : p '\n' = false) (t : Text) :
    (rejoin t []).takeWhile p = rejoin (t.takeWhile p) (t.dropWhile p) ∧
      (rejoin t []).dropWhile p = rejoin (t.dropWhile p) [] := by
  have happ : rejoin t [] =
      rejoin (t.takeWhile p) (t.dropWhile p) ++ rejoin (t.dropWhile p) [] := by
    conv => lhs; rw [← List.takeWhile_append_dropWhile (p := p) (l := t)]
    rw [rejoin_append, List.append_nil]
  have hall : ∀ c ∈ rejoin (t.takeWhile p) (t.dropWhile p), p c := fun c hc =>
    mem_takeWhile ((rejoin_sublist _ _).subset hc)
  have hstop : ¬(rejoin (t.dropWhile p) []).head?.any p := by
    have hself := head?_dropWhile p t
    cases hhead : (rejoin (t.dropWhile p) []).head? with
    | none => simp
    | some c =>
      rcases head?_rejoin hhead with rfl | hc
      · simp [hp]
      · rwa [hc] at hself
  rw [happ]
  exact ⟨takeWhile_append_stop hall hstop, dropWhile_append_stop hall hstop⟩

/-- A region loses the characters that are lost in it, and stays a region. -/
theorem region?_rejoin {cs run rest : Text} (h : region? cs = some (run, rest)) :
    region? (rejoin cs []) = some (rejoin run rest, rejoin rest []) := by
  cases opening_of_region? h with
  | @quoted mark hm t =>
    have hmark : mark ≠ '\r' ∧ mark ≠ '\n' := by rcases hm with rfl | rfl <;> decide
    rw [rejoin_cons hmark, region?_quoted hm, quotedRun_rejoin hmark, rejoin_cons hmark]
  | comment t =>
    have hdash := rejoin_cons (c := '-') (by decide)
    obtain ⟨htake, hdrop⟩ := span_rejoin (p := (· != '\n')) (by decide) t
    rw [hdash, hdash, region?_comment, htake, hdrop, hdash, hdash]
  | block t =>
    have hslash := rejoin_cons (c := '/') (by decide)
    have hstar := rejoin_cons (c := '*') (by decide)
    rw [hslash, hstar, region?_block, blockRun_rejoin, hslash, hstar]
  | @cast c hc t =>
    have hcolon := rejoin_cons (c := ':') (by decide)
    have hpart := Name.isPart_of_isStart hc
    have hstart := rejoin_cons (c := c) ⟨Name.ne_of_isPart hpart rfl, Name.ne_of_isPart hpart rfl⟩
    obtain ⟨htake, hdrop⟩ := span_rejoin (p := Name.isPart) rfl t
    rw [hcolon, hcolon, hstart, region?_cast hc, htake, hdrop, hcolon, hcolon, hstart]

/-- No region arises where none was. -/
theorem region?_rejoin_eq_none {c : Char} {cs : Text} (h : region? (c :: cs) = none) :
    region? (c :: rejoin cs []) = none := by
  rw [← Option.not_isSome_iff_eq_none, region?_isSome_iff] at h ⊢
  rintro (hq | ⟨u, hu⟩ | ⟨u, hu⟩ | ⟨d, hd, u, hu⟩)
  · exact h (Or.inl hq)
  · obtain ⟨rfl, hcs⟩ := List.cons.inj hu
    obtain ⟨cs', rfl, -⟩ := exists_of_rejoin_eq_cons (by decide) hcs.symm
    exact h (by simp)
  · obtain ⟨rfl, hcs⟩ := List.cons.inj hu
    obtain ⟨cs', rfl, -⟩ := exists_of_rejoin_eq_cons (by decide) hcs.symm
    exact h (by simp)
  · obtain ⟨rfl, hcs⟩ := List.cons.inj hu
    obtain ⟨cs', rfl, hcs'⟩ := exists_of_rejoin_eq_cons (by decide) hcs.symm
    have hpart := Name.isPart_of_isStart hd
    have hkept : d ≠ '\r' ∧ d ≠ '\n' := ⟨Name.ne_of_isPart hpart rfl, Name.ne_of_isPart hpart rfl⟩
    obtain ⟨cs'', rfl, -⟩ := exists_of_rejoin_eq_cons hkept hcs'
    exact h (Or.inr (Or.inr (Or.inr ⟨d, hd, by simp⟩)))

/-- The inert segments' texts. -/
def inertTexts (ss : List Segment) : List Text :=
  ss.filterMap fun
    | .plain _ => none
    | .inert t => some t

@[simp] theorem inertTexts_plain (t : Text) (ss : List Segment) :
    inertTexts (.plain t :: ss) = inertTexts ss := rfl

@[simp] theorem inertTexts_inert (t : Text) (ss : List Segment) :
    inertTexts (.inert t :: ss) = t :: inertTexts ss := rfl

@[simp] theorem inertTexts_consPlain (c : Char) (ss : List Segment) :
    inertTexts (consPlain c ss) = inertTexts ss := by
  cases ss with
  | nil => rfl
  | cons s ss => cases s <;> rfl

/-- What is left of the inert segments' texts. -/
def rejoinedTexts : List Segment → List Text
  | [] => []
  | .plain _ :: ss => rejoinedTexts ss
  | .inert t :: ss => rejoin t (unsplit ss) :: rejoinedTexts ss

@[simp] theorem rejoinedTexts_consPlain (c : Char) (ss : List Segment) :
    rejoinedTexts (consPlain c ss) = rejoinedTexts ss := by
  cases ss with
  | nil => rfl
  | cons s ss => cases s <;> rfl

theorem length_rejoinedTexts (ss : List Segment) :
    (rejoinedTexts ss).length = (inertTexts ss).length := by
  induction ss with
  | nil => rfl
  | cons s ss ih =>
    cases s with
    | plain t => exact ih
    | inert t => simp [rejoinedTexts, ih]

/-- The inert segments of a joined text are what is left of those that it had. -/
theorem inertTexts_rejoin (t : Text) :
    inertTexts (segments (rejoin t [])) = rejoinedTexts (segments t) := by
  induction t using segments.induct with
  | case1 cs run rest h _ ih =>
    rw [segments_of_region? h, segments_of_region? (region?_rejoin h), inertTexts_inert, ih,
      rejoinedTexts, unsplit_segments]
  | case2 => simp [rejoin, rejoinedTexts, inertTexts]
  | case3 c cs h ih =>
    rw [segments_cons h, rejoinedTexts_consPlain, rejoin_cons_nil]
    split
    · exact ih
    · rw [segments_cons (region?_rejoin_eq_none h), inertTexts_consPlain, ih]

/-- No character that is lost lies in an inert segment. -/
def Intact (ss : List Segment) : Prop :=
  ∀ before x c y after, ss = before ++ .inert (x ++ c :: y) :: after →
    ¬Lost c (y ++ unsplit after)

theorem intact_plain {t : Text} {ss : List Segment} : Intact (.plain t :: ss) ↔ Intact ss := by
  constructor
  · intro h before x c y after heq
    exact h (.plain t :: before) x c y after (by rw [heq]; rfl)
  · intro h before x c y after heq
    cases before with
    | nil => cases heq
    | cons s before => exact h before x c y after (List.cons.inj heq).2

theorem intact_inert {t : Text} {ss : List Segment} : Intact (.inert t :: ss) ↔
    (∀ x c y, t = x ++ c :: y → ¬Lost c (y ++ unsplit ss)) ∧ Intact ss := by
  constructor
  · intro h
    refine ⟨fun x c y ht => h [] x c y ss (by rw [ht]; rfl), fun before x c y after heq => ?_⟩
    exact h (.inert t :: before) x c y after (by rw [heq]; rfl)
  · rintro ⟨ht, h⟩ before x c y after heq
    cases before with
    | nil =>
      obtain ⟨hinert, rfl⟩ := List.cons.inj heq
      exact ht x c y (Segment.inert.inj hinert)
    | cons s before => exact h before x c y after (List.cons.inj heq).2

theorem rejoinedTexts_eq_iff (ss : List Segment) :
    rejoinedTexts ss = inertTexts ss ↔ Intact ss := by
  induction ss with
  | nil =>
    refine ⟨fun _ before x c y after heq => ?_, fun _ => rfl⟩
    simp at heq
  | cons s ss ih =>
    cases s with
    | plain t => rw [intact_plain, ← ih]; rfl
    | inert t =>
      rw [intact_inert, ← ih, ← rejoin_eq_self_iff, rejoinedTexts, inertTexts_inert,
        List.cons.injEq]

/-- The inert segments are still there after joining exactly if none of them lost anything. -/
theorem inertTexts_sublist_iff (t : Text) :
    (inertTexts (segments t)).Sublist (inertTexts (segments (unlines t.lines))) ↔
      Intact (segments t) := by
  rw [unlines_lines, inertTexts_rejoin, ← rejoinedTexts_eq_iff]
  constructor
  · intro h
    exact (h.eq_of_length (length_rejoinedTexts _).symm).symm
  · intro h
    rw [h]

end Segment

namespace Template

open Segment

/-! Templates without directives. -/

theorem Derives.eq_map_text {bs : List Block} {ls : List Text} (h : Derives (.blocks bs) ls)
    (hstatic : isDynamic bs = false) :
    (∀ l ∈ ls, Directive.read? l = none) ∧ bs = ls.map .text := by
  generalize hpart : Part.blocks bs = part at h
  induction h generalizing bs with
  | nil =>
    cases hpart
    exact ⟨by simp, rfl⟩
  | snoc before last ih =>
    cases hpart
    rw [isDynamic, List.any_append, Bool.or_eq_false_iff] at hstatic
    obtain ⟨hlines, rfl⟩ := ih hstatic.1 rfl
    cases last with
    | text read =>
      refine ⟨fun l hl => ?_, by simp⟩
      rcases List.mem_append.1 hl with hl | hl
      · exact hlines l hl
      · rwa [List.mem_singleton.1 hl]
    | guarded | loop | choose | default => simp at hstatic
  | _ => cases hpart

theorem derives_map_text {ls : List Text} (h : ∀ l ∈ ls, Directive.read? l = none) :
    Derives (.blocks (ls.map .text)) ls := by
  induction ls using List.reverseRecOn with
  | nil => exact .nil
  | append_singleton ls l ih =>
    rw [List.map_append]
    exact .snoc (ih fun m hm => h m (List.mem_append_left _ hm)) (.text (h l (by simp)))

theorem ofText_eq_ok_static_iff {t : Text} {blocks : Template} :
    ofText t = .ok blocks ∧ isDynamic blocks = false ↔
      (∀ l ∈ t.lines, Directive.read? l = none) ∧ blocks = t.lines.map .text := by
  rw [ofText_eq_ok_iff_derives]
  constructor
  · rintro ⟨h, hstatic⟩
    exact h.eq_map_text hstatic
  · rintro ⟨h, rfl⟩
    exact ⟨derives_map_text h, by simp [isDynamic]⟩

theorem renderBlocks_map_text (ctx : Condition.Context) (sigil : Char) (scope : Args)
    (ls : List Text) (p : Progress) :
    renderBlocks ctx sigil scope (ls.map .text) p = .ok (ls, p) := by
  induction ls with
  | nil => rfl
  | cons l ls ih =>
    rw [List.map_cons, renderBlocks, renderBlock]
    change (renderBlocks ctx sigil scope (ls.map .text) p >>= fun s => pure (l :: s.1, s.2)) = _
    rw [ih]
    rfl

theorem render_map_text (ctx : Condition.Context) (sigil : Char) (args : Args) (ls : List Text) :
    render ctx sigil (ls.map .text) args = .ok ⟨Text.unlines ls, args.union ∅⟩ := by
  rw [render, StateT.run, renderBlocks_map_text]
  rfl

/-- Rendering keeps what is inert, without any directive block, exactly if no line is a directive
and no character of an inert segment is lost with the line endings. -/
theorem inertTexts_render_iff (ctx : Condition.Context) (sigil : Char) (args : Args) (t : Text) :
    (∃ blocks rendering, ofText t = .ok blocks ∧ isDynamic blocks = false ∧
      render ctx sigil blocks args = .ok rendering ∧
        (inertTexts (segments t)).Sublist (inertTexts (segments rendering.sql))) ↔
      (∀ l ∈ t.lines, Directive.read? l = none) ∧ Intact (segments t) := by
  rw [← inertTexts_sublist_iff]
  constructor
  · rintro ⟨blocks, rendering, hblocks, hstatic, hrender, hsublist⟩
    obtain ⟨hlines, rfl⟩ := ofText_eq_ok_static_iff.1 ⟨hblocks, hstatic⟩
    rw [render_map_text] at hrender
    obtain rfl := Except.ok.inj hrender
    exact ⟨hlines, hsublist⟩
  · rintro ⟨hlines, hsublist⟩
    obtain ⟨hblocks, hstatic⟩ := ofText_eq_ok_static_iff.2 ⟨hlines, rfl⟩
    exact ⟨_, _, hblocks, hstatic, render_map_text ctx sigil args _, hsublist⟩

/-- The line `l` begins in `t` behind `front`. -/
def BeginsAt (t front l : Text) : Prop :=
  ∃ behind ls, t = front ++ behind ∧ behind.lines = l :: ls ∧ t.lines = front.lines ++ l :: ls

/-- The place behind `front` lies inside a string, a quoted identifier or a block comment. -/
def Enclosed (t front : Text) : Prop :=
  ∃ before a b after, segments t = before ++ .inert (a ++ b) :: after ∧ front = unsplit before ++ a ∧
    b ≠ [] ∧ (a.head? = some '\x27' ∨ a.head? = some '\x22' ∨ a.head? = some '/')

/-- A directive line inside a string is read as a directive nevertheless. -/
theorem not_forall_ofText_of_enclosed :
    ¬∀ t : Text, (∀ front l, BeginsAt t front l → Directive.read? l ≠ none → Enclosed t front) →
      ∃ blocks, ofText t = .ok blocks ∧ isDynamic blocks = false := by
  intro h
  have hsegments : segments "'\n--#if :a\n'".toList = [.inert "'\n--#if :a\n'".toList] := by cbv
  have hlines : Text.lines "'\n--#if :a\n'".toList = ["'".toList, "--#if :a".toList, "'".toList] := by
    cbv
  have hread : ofText "'\n--#if :a\n'".toList = .error ⟨2, .unclosed .if⟩ := by cbv
  obtain ⟨blocks, hblocks, -⟩ := h "'\n--#if :a\n'".toList fun front l hbegins hdirective => by
    obtain ⟨behind, ls, ht, hbehind, -⟩ := hbegins
    cases front with
    | nil =>
      -- the first line is only a quote
      rw [← show "'\n--#if :a\n'".toList = behind from ht, hlines] at hbehind
      obtain ⟨rfl, -⟩ := List.cons.inj hbehind
      exact absurd (by cbv) hdirective
    | cons c front =>
      refine ⟨[], c :: front, behind, [], by rw [hsegments, ht]; rfl, rfl, ?_, Or.inl ?_⟩
      · rintro rfl
        cases hbehind
      · exact congrArg some (List.cons.inj ht).1.symm
  rw [hread] at hblocks
  cases hblocks

end Template

end SqlTemplate
