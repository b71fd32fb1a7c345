import SqlTemplate.Proofs.Calm
import SqlTemplate.Proofs.Lexical
import SqlTemplate.Proofs.Scan
import SqlTemplate.Proofs.Trace

/-!
The joined text of a loop.  Where no region, placeholder or name runs on over a seam, the parameters
of texts side by side are those of the one and then those of the other; with a delimiter between
the elements, none of theirs is lost.
-/
namespace SqlTemplate

open Segment (region? Cut Complete)

/-- Whether a segment at the end of a text leaves the text behind it alone. -/
def Segment.Meets (sigil : Char) (b : Text) : Segment → Prop
  | .inert run => b ≠ [] ∧ Complete run b
  | .plain u => Placeholder.Braced u ∧ Parameter.Seam sigil u b

/-- Whether nothing in one text runs on in another one behind it. -/
def Parameter.Joint (sigil : Char) (a b : Text) : Prop :=
  ∀ s ∈ (segments a).getLast?, s.Meets sigil b

namespace Parameter

variable {sigil : Char} {u b : Text}

/-- What leaves a text alone leaves it alone whatever goes on behind it. -/
theorem meets_append {s : Segment} (h : s.Meets sigil b) (c : Text) : s.Meets sigil (b ++ c) := by
  cases s with
  | plain u =>
    obtain ⟨hbraced, hseam⟩ := h
    refine ⟨hbraced, hseam.imp_right fun hb => ?_⟩
    cases b with
    | nil => cases hb
    | cons d b => exact hb
  | inert run =>
    obtain ⟨hne, hcomplete⟩ := h
    obtain ⟨d, b, rfl⟩ := List.exists_cons_of_ne_nil hne
    refine ⟨List.cons_ne_nil _ _, ?_⟩
    cases hcomplete with
    | quoted hm s hrest => exact .quoted hm s hrest
    | comment ht hrest => exact .comment ht (Or.inr (hrest.resolve_left (List.cons_ne_nil _ _)))
    | block _ hin hend => exact .block _ hin hend
    | cast hc hcs hrest => exact .cast hc hcs hrest

theorem joint_of_getLast? {s : Segment} (hlast : (segments u).getLast? = some s)
    (h : s.Meets sigil b) : Joint sigil u b := by
  intro r hr
  rw [hlast] at hr
  obtain rfl := Option.some.inj hr
  exact h

theorem Joint.append (h : Joint sigil u b) (c : Text) : Joint sigil u (b ++ c) :=
  fun s hs => meets_append (h s hs) c

theorem follows_append {run : Text} (h : Segment.Follows run b) (hne : b ≠ []) (c : Text) :
    Segment.Follows run (b ++ c) := by
  obtain ⟨d, b, rfl⟩ := List.exists_cons_of_ne_nil hne
  exact ⟨h.1, fun hrun => Or.inr ((h.2.1 hrun).resolve_left (List.cons_ne_nil d b)), h.2.2⟩

/-- Plain text at the end of a text is split by itself, whether or not the text behind it starts
with plain text. -/
theorem flatMap_pieces_plain (hplain : Segment.IsPlain u) (hne : u ≠ [])
    (h : (Segment.plain u).Meets sigil b) :
    (segments (u ++ b)).flatMap (pieces sigil) =
      splitPlain sigil none u ++ (segments b).flatMap (pieces sigil) := by
  obtain ⟨hbraced, hseam⟩ := h
  have hnone : ∀ v, v <:+ u → v ≠ [] → region? (v ++ b) = none := fun v hv hv' =>
    (hseam.suffix hv hv').region?_append_eq_none hv' (hplain.suffix hv)
  obtain ⟨v, rest, hfold, hv⟩ := Placeholder.foldr_consPlain u (segments b) hne
  rw [Placeholder.segments_append_of_none hnone, hfold, List.flatMap_cons]
  rcases hv with hb | ⟨rfl, rfl⟩
  · have hcut := Segment.cut_segments b
    rw [hb] at hcut
    have hhead : b.head? = v.head? := by
      obtain ⟨d, v', rfl⟩ := List.exists_cons_of_ne_nil hcut.1
      rw [← unsplit_segments b, hb]
      rfl
    have hsplit : pieces sigil (.plain (u ++ v)) =
        splitPlain sigil none u ++ pieces sigil (.plain v) :=
      splitPlain_append_of_seam hbraced (fun _ => by rwa [Seam, ← hhead])
        fun hnil => absurd hnil hne
    rw [hb, List.flatMap_cons, hsplit, List.append_assoc]
  · rw [List.append_nil]
    rfl

/-- Segments in front of a text that their last one leaves alone. -/
theorem flatMap_pieces_append {ss : List Segment} (hcut : Cut ss)
    (h : ∀ s ∈ ss.getLast?, s.Meets sigil b) :
    (segments (Segment.unsplit ss ++ b)).flatMap (pieces sigil) =
      ss.flatMap (pieces sigil) ++ (segments b).flatMap (pieces sigil) := by
  induction ss with
  | nil => rfl
  | cons s ss ih =>
    have hlast : ∀ s ∈ ss.getLast?, s.Meets sigil b := by
      intro r hr
      refine h r ?_
      cases ss with
      | nil => cases hr
      | cons s' ss => rwa [List.getLast?_cons_cons]
    rw [Segment.unsplit_cons, List.append_assoc, List.flatMap_cons, List.append_assoc]
    cases s with
    | inert run =>
      obtain ⟨hregion, hrest⟩ := hcut
      have hregion' : region? (run ++ (Segment.unsplit ss ++ b)) =
          some (run, Segment.unsplit ss ++ b) := by
        by_cases hnil : ss = []
        · subst hnil
          exact (h _ rfl).2.region?
        · have hne : Segment.unsplit ss ≠ [] := fun heq =>
            hnil (Segment.eq_nil_of_unsplit hrest heq)
          exact Segment.region?_change hregion hne
            (follows_append (Segment.follows_of_region? hregion) hne b)
      rw [Segment.text, segments_of_region? hregion', List.flatMap_cons, ih hrest hlast]
    | plain t =>
      have hplain : Segment.IsPlain t := hcut.isPlain
      have hdash := hcut.not_dash
      obtain ⟨hne, -, hhead, hrest⟩ := hcut
      by_cases hnil : ss = []
      · subst hnil
        exact flatMap_pieces_plain hplain hne (h _ rfl)
      · have hopen : (region? (Segment.unsplit ss)).isSome :=
          (Segment.region?_unsplit hrest hhead).resolve_left
            fun heq => hnil (Segment.eq_nil_of_unsplit hrest heq)
        have hopen' := Segment.region?_append_isSome hopen b
        obtain ⟨run, hrun⟩ := Option.isSome_iff_exists.1 hopen'
        have hinert : ∀ v, (segments (Segment.unsplit ss ++ b)).head? ≠ some (.plain v) := by
          intro v
          rw [segments_of_region? hrun]
          simp
        have hnone : ∀ w, w ≠ [] → w <:+ t → region? (w ++ (Segment.unsplit ss ++ b)) = none := by
          intro w hw hsuffix
          refine Segment.region?_append_eq_none hw (hplain.suffix hsuffix) (Or.inr hopen') ?_
          rintro ⟨hdash', hd⟩
          obtain ⟨v, rfl⟩ := hsuffix
          refine hdash ⟨by rw [List.getLast?_append, hdash']; rfl, ?_⟩
          cases hu : Segment.unsplit ss with
          | nil => exact absurd (Segment.eq_nil_of_unsplit hrest hu) hnil
          | cons d u => rwa [hu] at hd
        rw [Segment.text, Segment.segments_plain_append hne hnone hinert, List.flatMap_cons,
          ih hrest hlast]

/-- Texts side by side are split one by one. -/
theorem split_append (h : Joint sigil u b) :
    split sigil (u ++ b) = split sigil u ++ split sigil b := by
  have happend := flatMap_pieces_append (Segment.cut_segments u) h
  rwa [unsplit_segments, ← split_eq, ← split_eq, ← split_eq] at happend

theorem exists_join_cons (d t : Text) (ts : List Text) :
    ∃ more, Text.join d (t :: ts) = t ++ more := by
  cases ts with
  | nil => exact ⟨[], by simp⟩
  | cons u ts => exact ⟨d ++ Text.join d (u :: ts), by rw [Text.join_cons_cons, List.append_assoc]⟩

/-- Texts with a delimiter between them are split one by one, and so is each delimiter. -/
theorem split_join {d : Text} {ts : List Text}
    (h : ∀ t ∈ ts, Joint sigil t d ∧ Joint sigil d t) :
    split sigil (Text.join d ts) = (split sigil d).intercalate (ts.map (split sigil)) := by
  induction ts with
  | nil =>
    rw [Text.join_nil, split, segments_nil]
    rfl
  | cons t ts ih =>
    obtain ⟨⟨htd, -⟩, hts⟩ := List.forall_mem_cons.1 h
    cases ts with
    | nil => simp
    | cons u ts =>
      obtain ⟨more, hmore⟩ := exists_join_cons d u ts
      have hdu : Joint sigil d (Text.join d (u :: ts)) := by
        rw [hmore]
        exact (hts u List.mem_cons_self).2.append more
      rw [Text.join_cons_cons, List.append_assoc, split_append (htd.append _), split_append hdu,
        ih hts]
      simp

/-- A delimiter without parameters adds none. -/
theorem names_join_of_joint {d : Text} {ts : List Text}
    (h : ∀ t ∈ ts, Joint sigil t d ∧ Joint sigil d t) (hd : names sigil d = []) :
    names sigil (Text.join d ts) = ts.flatMap (names sigil) := by
  rw [names_eq] at hd
  rw [names_eq, split_join h]
  clear h
  induction ts with
  | nil => rfl
  | cons t ts ih =>
    cases ts with
    | nil => simp [names_eq]
    | cons u ts =>
      simp only [List.map_cons, List.intercalate_cons_cons, namesOf_append, hd,
        List.append_nil] at ih ⊢
      rw [List.flatMap_cons, ih]
      rfl

end Parameter

namespace Template

open Parameter (Joint names split)

variable {ctx : Condition.Context} {sigil : Char} {header : LoopHeader} {scope : Args}
  {body : Args → Render (List Text)} {p q : Progress}

/-- A loop loses no parameter of an element where elements and delimiters leave each other alone:
the pieces of its text are those of the elements that are kept, in their order, with those of the
delimiter between them, and if the delimiter has no parameters, then the names are just those of
the elements. -/
theorem split_renderLoop {items : List Value} {texts : List Text}
    (hitems : loopItems ctx scope header.source = .ok (some items))
    (htexts : renderElements ctx sigil header scope p.loops body 0 items
      { p with loops := p.loops + 1 } = .ok (texts, q))
    (hjoint : ∀ t ∈ texts, Joint sigil t header.delimiter ∧ Joint sigil header.delimiter t) :
    ∃ lines, renderLoop ctx sigil header scope body p = .ok (lines, q) ∧
      lines.flatMap (split sigil) =
        (split sigil header.delimiter).intercalate (texts.map (split sigil)) ∧
      (names sigil header.delimiter = [] →
        lines.flatMap (names sigil) = texts.flatMap (names sigil)) := by
  refine ⟨loopLines header texts, ?_, ?_, fun hnames => ?_⟩
  · rw [renderLoop, get_bind, set_bind, bind_lift_of_ok hitems]
    dsimp only
    rw [bind_of_ok htexts]
    rfl
  · rw [← Parameter.split_join hjoint]
    cases texts with
    | nil => simp [loopLines, split]
    | cons t texts => simp [loopLines]
  · rw [← Parameter.names_join_of_joint hjoint hnames]
    cases texts with
    | nil => simp [loopLines, names, split]
    | cons t texts => simp [loopLines]

def itemsHeader : LoopHeader :=
  ⟨"x".toList, none, "xs".toList, LoopHeader.defaultDelimiter, none⟩

def twoItems : Args := .ofList [("xs".toList, .array [.ofNat 1, .ofNat 2])]

/-- Elements that end in a cast. -/
theorem split_renderLoop_cast :
    ∃ lines q,
      renderLoop ⟨true, Pipes.builtin⟩ ':' itemsHeader twoItems
        (fun inner => renderBlocks ⟨true, Pipes.builtin⟩ ':' inner [.text ":x::int".toList])
        ⟨0, ∅⟩ = .ok (lines, q) ∧
      lines.flatMap (names ':') = ["_x_0_0".toList, "_x_0_1".toList] := by
  have hitems : loopItems ⟨true, Pipes.builtin⟩ twoItems itemsHeader.source =
      .ok (some [.ofNat 1, .ofNat 2]) := by cbv
  have hrun : (renderElements ⟨true, Pipes.builtin⟩ ':' itemsHeader twoItems 0
      (fun inner => renderBlocks ⟨true, Pipes.builtin⟩ ':' inner [.text ":x::int".toList]) 0
      [.ofNat 1, .ofNat 2] ⟨1, ∅⟩).toOption.map Prod.fst =
      some [":_x_0_0::int".toList, ":_x_0_1::int".toList] := by decide +kernel
  obtain ⟨⟨texts, q⟩, htexts, hfst⟩ := Option.map_eq_some_iff.1 hrun
  obtain rfl : texts = [":_x_0_0::int".toList, ":_x_0_1::int".toList] := hfst
  have hdelimiter : ∀ t, Joint ':' itemsHeader.delimiter t := by
    intro t
    have hlast : (segments itemsHeader.delimiter).getLast? = some (.plain ", ".toList) := by
      decide +kernel
    exact Parameter.joint_of_getLast? hlast
      ⟨Placeholder.braced_of_notMem (by decide), Or.inl (by decide)⟩
  have hcast : ∀ t, (segments t).getLast? = some (.inert "::int".toList) →
      Joint ':' t itemsHeader.delimiter := by
    intro t hlast
    have hcomplete : Complete "::int".toList itemsHeader.delimiter :=
      @Complete.cast 'i' (by decide) "nt".toList _ (Text.forall_mem_of_all (by decide)) (by decide)
    exact Parameter.joint_of_getLast? hlast ⟨by decide, hcomplete⟩
  have hjoint : ∀ t ∈ [":_x_0_0::int".toList, ":_x_0_1::int".toList],
      Joint ':' t itemsHeader.delimiter ∧ Joint ':' itemsHeader.delimiter t := by
    intro t ht
    refine ⟨hcast t ?_, hdelimiter t⟩
    rcases List.mem_cons.1 ht with rfl | ht
    · decide +kernel
    · obtain rfl := List.mem_singleton.1 ht
      decide +kernel
  obtain ⟨lines, hlines, -, hnames⟩ :=
    split_renderLoop (p := ⟨0, ∅⟩) hitems (eq_ok_of_toOption htexts) hjoint
  refine ⟨lines, q, hlines, (hnames (by decide +kernel)).trans ?_⟩
  decide +kernel

/-- A line comment at the end of an element hides the parameter of the next one. -/
theorem not_forall_names_renderLoop :
    ¬∀ (header : LoopHeader) (scope : Args) (body : List Block) (items : List Value)
      (p q : Progress) (texts lines : List Text),
      loopItems ⟨true, Pipes.builtin⟩ scope header.source = .ok (some items) →
      renderElements ⟨true, Pipes.builtin⟩ ':' header scope p.loops
        (fun inner => renderBlocks ⟨true, Pipes.builtin⟩ ':' inner body) 0 items
        { p with loops := p.loops + 1 } = .ok (texts, q) →
      renderLoop ⟨true, Pipes.builtin⟩ ':' header scope
        (fun inner => renderBlocks ⟨true, Pipes.builtin⟩ ':' inner body) p = .ok (lines, q) →
      names ':' header.delimiter = [] →
      lines.flatMap (names ':') = texts.flatMap (names ':') := by
  intro h
  have hitems : loopItems ⟨true, Pipes.builtin⟩ twoItems itemsHeader.source =
      .ok (some [.ofNat 1, .ofNat 2]) := by cbv
  have hrun : (renderElements ⟨true, Pipes.builtin⟩ ':' itemsHeader twoItems 0
      (fun inner => renderBlocks ⟨true, Pipes.builtin⟩ ':' inner [.text ":x -- note".toList]) 0
      [.ofNat 1, .ofNat 2] ⟨1, ∅⟩).toOption.map Prod.fst =
      some [":_x_0_0 -- note".toList, ":_x_0_1 -- note".toList] := by decide +kernel
  obtain ⟨⟨texts, q⟩, htexts, hfst⟩ := Option.map_eq_some_iff.1 hrun
  obtain rfl : texts = [":_x_0_0 -- note".toList, ":_x_0_1 -- note".toList] := hfst
  have htexts' := eq_ok_of_toOption htexts
  have hlines : renderLoop ⟨true, Pipes.builtin⟩ ':' itemsHeader twoItems
      (fun inner => renderBlocks ⟨true, Pipes.builtin⟩ ':' inner [.text ":x -- note".toList])
      ⟨0, ∅⟩ = .ok ([":_x_0_0 -- note, :_x_0_1 -- note".toList], q) := by
    rw [renderLoop, get_bind, set_bind, bind_lift_of_ok hitems]
    dsimp only
    rw [bind_of_ok htexts']
    rfl
  have hnames := h itemsHeader twoItems [.text ":x -- note".toList] _ ⟨0, ∅⟩ q _ _ hitems htexts'
    hlines (by decide +kernel)
  exact absurd hnames (by decide +kernel)

end Template

end SqlTemplate
