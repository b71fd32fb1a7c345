import Mathlib
import SqlTemplate.Proofs.Lexical
import SqlTemplate.Proofs.Placeholder
import SqlTemplate.Proofs.Weave

/-!
The statement with question marks, read again.  A question mark opens nothing and belongs to no
name, so it changes neither where regions start nor what may stand in front of a parameter.
-/
namespace SqlTemplate

namespace Parameter

open Statement

/-! One text comes from the other by question marks in the place of some parameters. -/

/-- `Marked sigil t u`: some parameters of `t` are question marks in `u`. -/
inductive Marked (sigil : Char) : Text → Text → Prop
  | nil : Marked sigil [] []
  | char (c : Char) {t u : Text} (h : Marked sigil t u) : Marked sigil (c :: t) (c :: u)
  | mark (name : Text) {t u : Text} (h : Marked sigil t u) :
    Marked sigil (sigil :: (name ++ t)) ('?' :: u)

variable {sigil : Char} {t u w : Text}

theorem Marked.append_left (a : Text) (h : Marked sigil t u) : Marked sigil (a ++ t) (a ++ u) := by
  induction a with
  | nil => exact h
  | cons c a ih => exact ih.char c

theorem Marked.append {t' u' : Text} (h : Marked sigil t u) (h' : Marked sigil t' u') :
    Marked sigil (t ++ t') (u ++ u') := by
  induction h with
  | nil => exact h'
  | char c h ih => exact ih.char c
  | mark name h ih => simpa using ih.mark name

theorem marked_pieces (sigil : Char) (ps : List Piece) :
    Marked sigil (ps.flatMap (Piece.source sigil)) (ps.flatMap writePositional) := by
  induction ps with
  | nil => exact .nil
  | cons p ps ih =>
    cases p with
    | text a => exact ih.append_left a
    | parameter name => exact ih.mark name

theorem Marked.eq_nil (h : Marked sigil t u) : t = [] ↔ u = [] := by
  cases h <;> simp

theorem Marked.head? (h : Marked sigil t u) :
    u.head? = t.head? ∨ t.head? = some sigil ∧ u.head? = some '?' := by
  cases h with
  | nil => exact Or.inl rfl
  | char c h => exact Or.inl rfl
  | mark name h => exact Or.inr ⟨rfl, rfl⟩

theorem Marked.head?_of_ne {c : Char} (h : Marked sigil t u) (hc : c ≠ '?')
    (hhead : u.head? = some c) : t.head? = some c := by
  rcases h.head? with heq | ⟨-, hmark⟩
  · rwa [heq] at hhead
  · rw [hmark] at hhead
    exact absurd (Option.some.inj hhead).symm hc

/-- What holds no question mark stood in the other text as well. -/
theorem Marked.starts (h : Marked sigil t u) (hmark : '?' ∉ w) (hw : w <+: u) : w <+: t := by
  induction h generalizing w with
  | nil => exact hw
  | char c h ih =>
    rcases List.prefix_cons_iff.1 hw with rfl | ⟨v, rfl, hv⟩
    · exact List.nil_prefix
    · exact List.cons_prefix_cons.2 ⟨rfl, ih (fun hm => hmark (List.mem_cons_of_mem c hm)) hv⟩
  | mark name h ih =>
    rcases List.prefix_cons_iff.1 hw with rfl | ⟨v, rfl, -⟩
    · exact List.nil_prefix
    · exact absurd List.mem_cons_self hmark

theorem Marked.contains (h : Marked sigil t u) (hmark : '?' ∉ w) (hw : w <:+: u) : w <:+: t := by
  induction h with
  | nil => exact hw
  | char c h ih =>
    rcases List.infix_cons_iff.1 hw with hw | hw
    · exact ((h.char c).starts hmark hw).isInfix
    · exact List.infix_cons_iff.2 (Or.inr (ih hw))
  | mark name h ih =>
    rcases List.infix_cons_iff.1 hw with hw | hw
    · exact ((h.mark name).starts hmark hw).isInfix
    · exact (ih hw).trans (List.suffix_append (sigil :: name) _).isInfix

theorem Marked.getLast? {c : Char} (h : Marked sigil t u) (hc : c ≠ '?')
    (hlast : u.getLast? = some c) : t.getLast? = some c := by
  induction h with
  | nil => exact hlast
  | @char d t u h ih =>
    rw [List.getLast?_cons] at hlast ⊢
    cases hu : u.getLast? with
    | none =>
      obtain rfl := h.eq_nil.2 (List.getLast?_eq_none_iff.1 hu)
      simpa [hu] using hlast
    | some e =>
      obtain rfl : e = c := by simpa [hu] using hlast
      simp [ih hu]
  | @mark name t u h ih =>
    rw [List.getLast?_cons] at hlast
    cases hu : u.getLast? with
    | none =>
      obtain rfl : '?' = c := by simpa [hu] using hlast
      exact absurd rfl hc
    | some e =>
      obtain rfl : e = c := by simpa [hu] using hlast
      rw [← List.cons_append, List.getLast?_append, ih hu]
      rfl

/-- A question mark opens no region. -/
theorem Marked.unmarked (h : Marked sigil t u) (ht : Segment.Unmarked t) : Segment.Unmarked u := by
  have hmem : ∀ {c : Char}, c ≠ '?' → c ∈ u → c ∈ t := by
    intro c hc hu
    obtain ⟨a, b, rfl⟩ := List.append_of_mem hu
    have hin : [c] <:+: t := h.contains (by simpa using hc.symm) ⟨a, b, by simp⟩
    exact hin.subset List.mem_cons_self
  refine ⟨fun hu => ht.string (hmem (by decide) hu), fun hu => ht.identifier (hmem (by decide) hu),
    fun hu => ht.comment (h.contains (by decide) hu), fun hu => ht.block (h.contains (by decide) hu),
    fun c hc hu => ht.cast c hc (h.contains ?_ hu)⟩
  intro hmark
  obtain rfl : '?' = c := by simpa using hmark
  cases hc

/-! The pieces of the text with question marks. -/

/-- Plain text with question marks in the place of its parameters. -/
def positional (sigil : Char) (last : Option Char) (t : Text) : Text :=
  (splitPlain sigil last t).flatMap writePositional

theorem marked_positional (sigil : Char) (last : Option Char) (t : Text) :
    Marked sigil t (positional sigil last t) := by
  have h := marked_pieces sigil (splitPlain sigil last t)
  rwa [flatMap_source_splitPlain] at h

theorem Marked.stops (h : Marked sigil t u) (ht : Name.Stops t) : Name.Stops u := by
  cases h with
  | nil => exact ht
  | char c h =>
    refine ⟨ht.1, fun hc hpart => ht.2 hc ?_⟩
    rcases h.head? with heq | ⟨-, hmark⟩
    · rwa [heq] at hpart
    · rw [hmark] at hpart
      cases hpart
  | mark name h => exact ⟨rfl, fun hc => by cases hc⟩

theorem Marked.read?_name_eq_none (h : Marked sigil t u) (ht : Name.read? t = none) :
    Name.read? u = none := by
  rw [Name.read?_eq_none_iff] at ht ⊢
  rcases h.head? with heq | ⟨-, hmark⟩
  · rwa [heq]
  · rw [hmark]
    decide

/-- No placeholder arises: none holds a question mark. -/
theorem Marked.read?_placeholder_eq_none (h : Marked sigil t u)
    (ht : Placeholder.read? t = none) : Placeholder.read? u = none := by
  cases hu : Placeholder.read? u with
  | none => rfl
  | some found =>
    obtain ⟨p, rest⟩ := found
    obtain ⟨w, rfl, hw, hread⟩ := Placeholder.read?_change hu
    have hmark : '?' ∉ w := by
      obtain ⟨v, rfl, hv⟩ := hw.mem_tail
      intro hm
      simp only [List.mem_cons] at hm
      rcases hm with hm | hm | hm
      · cases hm
      · cases hm
      · exact (hv '?' hm).2 rfl
    obtain ⟨v, rfl⟩ := h.starts hmark (List.prefix_append w rest)
    rw [hread] at ht
    cases ht

variable {last : Option Char}

theorem positional_written {p : Placeholder} (hw : p.Written w) (rest : Text) :
    positional sigil last (w ++ rest) = w ++ positional sigil (some '}') rest := by
  rw [positional, splitPlain_written hw]
  rfl

theorem positional_name {name rest : Text} (h : Placeholder.read? (sigil :: (name ++ rest)) = none)
    (hname : Name.read? (name ++ rest) = some (name, rest)) :
    positional sigil last (sigil :: (name ++ rest)) =
      (if last = some sigil then sigil :: name else ['?']) ++
        positional sigil name.getLast? rest := by
  rw [positional, splitPlain_name h hname]
  split <;> rfl

theorem positional_char {c : Char} {rest : Text} (h : Placeholder.read? (c :: rest) = none)
    (hname : c = sigil → Name.read? rest = none) :
    positional sigil last (c :: rest) = c :: positional sigil (some c) rest := by
  rw [positional, splitPlain_char h hname]
  rfl

/-- A character that introduces nothing still does so in front of question marks. -/
theorem splitPlain_positional_char {c : Char} {rest : Text}
    (h : Placeholder.read? (c :: rest) = none) (hname : c = sigil → Name.read? rest = none)
    (last' : Option Char) :
    splitPlain sigil last' (positional sigil last (c :: rest)) =
      .text [c] :: splitPlain sigil (some c) (positional sigil (some c) rest) := by
  have hmarked := marked_positional sigil (some c) rest
  rw [positional_char h hname]
  exact splitPlain_char ((hmarked.char c).read?_placeholder_eq_none h)
    fun hc => hmarked.read?_name_eq_none (hname hc)

/-- A text whose parameters are question marks has none left.  What stands in front of it may be
another character than before, unless that was a sigil. -/
theorem namesOf_positional (hsigil : Name.isPart sigil = false) (last last' : Option Char) (t : Text)
    (hlast : last = some sigil → last' = some sigil) :
    namesOf (splitPlain sigil last' (positional sigil last t)) = [] := by
  induction last, t using splitPlain.induct sigil generalizing last' with
  | case1 last t p rest h _ ih =>
    obtain ⟨w, rfl, hw, -⟩ := Placeholder.read?_change h
    rw [positional_written hw, splitPlain_written hw]
    exact ih (some '}') id
  | case2 last => simp [positional, namesOf]
  | case3 last rest name rest' hname _ h ih =>
    have hmarked := marked_positional sigil name.getLast? rest'
    obtain ⟨hisname, hstops⟩ := Name.read?_spec hname
    obtain ⟨rfl, -⟩ := Name.read?_append hname
    have hstops' := hmarked.stops hstops
    rw [positional_name h hname]
    by_cases hescape : last = some sigil
    · -- the sigil in front still stands there, and so does the name behind it
      have hread := Name.read?_of_isName hisname hstops'
      have hnone := ((hmarked.append_left name).char sigil).read?_placeholder_eq_none h
      rw [if_pos hescape, List.cons_append, splitPlain_name hnone hread, if_pos (hlast hescape)]
      exact ih name.getLast? id
    · rw [if_neg hescape, List.singleton_append,
        splitPlain_char rfl fun _ => hstops'.read?_eq_none]
      refine ih (some '?') fun hend => ?_
      have hpart := hisname.getLast hend
      rw [hsigil] at hpart
      cases hpart
  | case4 last rest hname h ih =>
    rw [splitPlain_positional_char h fun _ => hname]
    exact ih (some sigil) id
  | case5 last c rest h hc ih =>
    rw [splitPlain_positional_char h fun hc' => absurd hc' hc]
    exact ih (some c) id

end Parameter

namespace Statement

open Parameter Segment

variable {sigil : Char}

/-- A segment with question marks in the place of its parameters. -/
def positionalSegment (sigil : Char) : Segment → Segment
  | .plain t => .plain (positional sigil none t)
  | .inert t => .inert t

theorem sql_eq_unsplit (sigil : Char) (sql : Text) (args : Args) :
    (ofSql sigil sql args).sql = unsplit ((segments sql).map (positionalSegment sigil)) := by
  rw [sql_ofSql, split_eq, unsplit, List.flatMap_assoc, List.flatMap_map]
  refine List.flatMap_congr fun s _ => ?_
  cases s with
  | plain t => rfl
  | inert t => simp [pieces, writePositional, positionalSegment, text]

theorem marked_unsplit (sigil : Char) (ss : List Segment) :
    Marked sigil (unsplit ss) (unsplit (ss.map (positionalSegment sigil))) := by
  induction ss with
  | nil => exact .nil
  | cons s ss ih =>
    rw [List.map_cons, unsplit_cons, unsplit_cons]
    cases s with
    | plain t => exact (marked_positional sigil none t).append ih
    | inert t => exact ih.append_left t

/-- A region that ends in front of a text ends in front of the same with question marks. -/
theorem follows_of_marked {run t u : Text} (hsigil : isSigil sigil) (hmarked : Marked sigil t u)
    (h : Follows run t) : Follows run u := by
  obtain ⟨hquote, hcomment, hcast⟩ := h
  refine ⟨fun hrun hhead => ?_, fun hrun => ?_, fun hrun hpart => ?_⟩
  · rcases hrun with hrun | hrun
    all_goals
      rw [hrun] at hhead hquote
      exact hquote (by simp) (hmarked.head?_of_ne (by decide) hhead)
  · rcases hcomment hrun with rfl | hline
    · exact Or.inl (hmarked.eq_nil.1 rfl)
    · rcases hmarked.head? with heq | ⟨hhead, -⟩
      · exact Or.inr (heq.trans hline)
      · obtain rfl : sigil = '\n' := Option.some.inj (hhead.symm.trans hline)
        cases hsigil
  · rcases hmarked.head? with heq | ⟨-, hmark⟩
    · rw [heq] at hpart
      exact hcast hrun hpart
    · rw [hmark] at hpart
      cases hpart

/-- Question marks in the place of parameters leave the segmentation as it is. -/
theorem cut_positional (hsigil : isSigil sigil) {ss : List Segment} (h : Cut ss) :
    Cut (ss.map (positionalSegment sigil)) := by
  induction ss with
  | nil => trivial
  | cons s ss ih =>
    rw [List.map_cons]
    have hrest := marked_unsplit sigil ss
    cases s with
    | inert run =>
      refine ⟨?_, ih h.2⟩
      cases ss with
      | nil => exact h.1
      | cons s ss =>
        have hne : unsplit (s :: ss) ≠ [] := fun hnil => by
          simpa using eq_nil_of_unsplit h.2 hnil
        exact region?_change h.1 hne (follows_of_marked hsigil hrest (follows_of_region? h.1))
    | plain t =>
      have hmarked := marked_positional sigil none t
      have hhead : ∀ u, (ss.map (positionalSegment sigil)).head? ≠ some (.plain u) := by
        intro u hu
        cases ss with
        | nil => cases hu
        | cons s ss =>
          cases s with
          | plain v => exact h.2.2.1 v rfl
          | inert run => cases hu
      refine ⟨fun hnil => h.1 (hmarked.eq_nil.2 hnil), fun w hne hw => ?_, hhead, ih h.2.2.2⟩
      have hplain := (hmarked.unmarked h.unmarked).isPlain.suffix hw
      refine region?_append_eq_none hne hplain (region?_unsplit (ih h.2.2.2) hhead) ?_
      rintro ⟨hlast, hdash⟩
      obtain ⟨v, hv⟩ := hw
      have hend : (positional sigil none t).getLast? = some '-' := by
        rw [← hv, List.getLast?_append, hlast]
        rfl
      exact h.not_dash ⟨hmarked.getLast? (by decide) hend, hrest.head?_of_ne (by decide) hdash⟩

theorem segments_ofSql (hsigil : isSigil sigil) (sql : Text) (args : Args) :
    segments (ofSql sigil sql args).sql = (segments sql).map (positionalSegment sigil) := by
  rw [sql_eq_unsplit, segments_unsplit (cut_positional hsigil (cut_segments sql))]

/-- No parameters are left in a statement. -/
theorem names_sql_ofSql (hsigil : isSigil sigil) (sql : Text) (args : Args) :
    Parameter.names sigil (ofSql sigil sql args).sql = [] := by
  rw [names_eq, split_eq, segments_ofSql hsigil, namesOf, List.filterMap_eq_nil_iff]
  intro p hp
  obtain ⟨s', hs', hp⟩ := List.mem_flatMap.1 hp
  obtain ⟨s, -, rfl⟩ := List.mem_map.1 hs'
  cases s with
  | plain t =>
    have hnames := namesOf_positional (isPart_of_isSigil hsigil) none none t id
    exact List.filterMap_eq_nil_iff.1 hnames p hp
  | inert t =>
    obtain rfl := List.mem_singleton.1 hp
    rfl

/-- SQL without parameters stays as it is. -/
theorem sql_of_names {sql : Text} (h : Parameter.names sigil sql = []) (args : Args) :
    (ofSql sigil sql args).sql = sql := by
  have hsource := source_eq_weave sigil sql
  have hsql := sql_eq_weave sigil sql args
  rw [h] at hsource hsql
  exact hsql.trans hsource.symm

/-- The statement with question marks has the segments of its source, with the inert ones as they
were, and no parameters are left in it. -/
theorem ofSql_stable {sigil : Char} (hsigil : isSigil sigil) (sql : Text)
    (args args' : Args) :
    segments (ofSql sigil sql args).sql = (segments sql).map (positionalSegment sigil) ∧
      (ofSql sigil (ofSql sigil sql args).sql args').names = [] ∧
      (ofSql sigil (ofSql sigil sql args).sql args').sql = (ofSql sigil sql args).sql := by
  have hnames := names_sql_ofSql hsigil sql args
  exact ⟨segments_ofSql hsigil sql args, (names_ofSql _ _ _).trans hnames,
    sql_of_names hnames args'⟩

/-- A question mark may itself be the sigil; of two in a row neither introduces anything. -/
theorem ofSql_stable_question :
    isSigil '?' = true ∧
      (ofSql '?' "a = ?x ??y '?x'--?x".toList ∅).sql = "a = ? ??y '?x'--?x".toList ∧
      segments "a = ? ??y '?x'--?x".toList =
        [.plain "a = ? ??y ".toList, .inert "'?x'".toList, .inert "--?x".toList] ∧
      (ofSql '?' "a = ? ??y '?x'--?x".toList ∅).names = [] ∧
      (ofSql '?' "a = ? ??y '?x'--?x".toList ∅).sql = "a = ? ??y '?x'--?x".toList := by
  have hsigil : isSigil '?' = true := by cbv
  have hsql : (ofSql '?' "a = ?x ??y '?x'--?x".toList ∅).sql = "a = ? ??y '?x'--?x".toList := by cbv
  obtain ⟨hsegments, hnames, hagain⟩ :=
    ofSql_stable hsigil "a = ?x ??y '?x'--?x".toList ∅ ∅
  rw [hsql] at hsegments hnames hagain
  exact ⟨hsigil, hsql, hsegments.trans (by cbv), hnames, hagain⟩

end Statement

end SqlTemplate
