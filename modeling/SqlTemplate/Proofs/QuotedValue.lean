import Mathlib
import SqlTemplate.Proofs.Args
import SqlTemplate.Proofs.Lexical
import SqlTemplate.Proofs.Scan

/-!
Strings in expanded SQL.  With a mark in the place of a string's placeholders, SQL is expanded once
for all strings.  If no round of that finds a mark in a region, then the expansion for a string has
its literal in the place of each mark; what the string holds makes no other difference.
-/
namespace SqlTemplate

namespace Text

/-- The text with another one in the place of each `mark`. -/
def fillMark (mark : Char) (new t : Text) : Text := t.flatMap fun c => if c = mark then new else [c]

variable {mark c : Char} {new t u : Text}

theorem fillMark_append (mark : Char) (new t u : Text) :
    fillMark mark new (t ++ u) = fillMark mark new t ++ fillMark mark new u :=
  List.flatMap_append

theorem fillMark_mark (mark : Char) (new t : Text) :
    fillMark mark new (mark :: t) = new ++ fillMark mark new t := by
  rw [fillMark, List.flatMap_cons, if_pos rfl, fillMark]

theorem fillMark_cons (h : c ≠ mark) : fillMark mark new (c :: t) = c :: fillMark mark new t := by
  rw [fillMark, List.flatMap_cons, if_neg h, List.singleton_append, fillMark]

theorem fillMark_of_notMem (h : mark ∉ t) : fillMark mark new t = t := by
  induction t with
  | nil => rfl
  | cons c t ih =>
    obtain ⟨hc, ht⟩ := not_or.1 (mt List.mem_cons.2 h)
    rw [fillMark_cons (Ne.symm hc), ih ht]

/-- A text without the first character of what is put in stands in front of the filled text only
if it stood there before. -/
theorem prefix_of_fillMark {d : Char} (hnew : new.head? = some d) (hd : d ∉ u)
    (h : u <+: fillMark mark new t) : u <+: t := by
  induction u generalizing t with
  | nil => exact List.nil_prefix
  | cons e u ih =>
    obtain ⟨hde, hu⟩ := not_or.1 (mt List.mem_cons.2 hd)
    cases t with
    | nil => exact h
    | cons c t =>
      by_cases hc : c = mark
      · obtain ⟨new, rfl⟩ := List.head?_eq_some_iff.1 hnew
        rw [hc, fillMark_mark, List.cons_append] at h
        exact absurd (List.cons_prefix_cons.1 h).1.symm hde
      · rw [fillMark_cons hc] at h
        obtain ⟨rfl, hrest⟩ := List.cons_prefix_cons.1 h
        exact List.cons_prefix_cons.2 ⟨rfl, ih hu hrest⟩

theorem splitAt_ne_nil (c : Char) (t : Text) : splitAt c t ≠ [] := by
  induction t with
  | nil => simp [splitAt]
  | cons d t ih =>
    rw [splitAt]
    split
    · exact List.cons_ne_nil _ _
    · split <;> exact List.cons_ne_nil _ _

theorem join_splitAt (mark : Char) (new t : Text) :
    join new (splitAt mark t) = fillMark mark new t := by
  induction t with
  | nil => simp [splitAt, fillMark]
  | cons c t ih =>
    cases hs : splitAt mark t with
    | nil => exact absurd hs (splitAt_ne_nil mark t)
    | cons u us =>
      rw [hs] at ih
      rw [splitAt, hs]
      by_cases hc : c = mark
      · rw [if_pos hc, join_cons_cons, ih, hc, fillMark_mark, List.nil_append]
      · rw [if_neg hc, fillMark_cons hc, ← ih]
        cases us <;> simp

end Text

/-! One pass over SQL with marks in it. -/

namespace Segment

/-- A quoted run goes on behind a doubled mark as it would from there. -/
theorem quotedRun_double_mark (mark : Char) (s t : Text) :
    quotedRun mark (s.double mark ++ mark :: mark :: t) =
      (s.double mark ++ mark :: mark :: (quotedRun mark t).1, (quotedRun mark t).2) := by
  induction s with
  | nil => exact quotedRun_mark_mark mark t
  | cons c s ih =>
    simp only [Text.double, List.flatMap_cons] at ih ⊢
    by_cases hc : c = mark
    · subst hc
      simp only [↓reduceIte, List.cons_append, List.nil_append]
      rw [quotedRun_mark_mark, ih]
    · simp only [hc, ↓reduceIte, List.cons_append, List.nil_append]
      rw [quotedRun_cons_of_ne hc, ih]

end Segment

namespace Placeholder

open Segment (region?)

variable {f g : Placeholder → Option Text} {mark : Char} {name t : Text}

/-- A string literal is left alone whatever follows it.  If that is a quote, the two are one region,
and the quoted run behind the quote is as long as it would be without the literal. -/
theorem overPlain_quoteText (f : Placeholder → Option Text) (s t : Text) :
    overPlain (fill f) (quoteText s ++ t) = quoteText s ++ overPlain (fill f) t := by
  by_cases hhead : t.head? = some '\x27'
  · obtain ⟨u, rfl⟩ := List.head?_eq_some_iff.1 hhead
    have hjoined : region? (quoteText s ++ '\x27' :: u) =
        some (quoteText s ++ '\x27' :: (Segment.quotedRun '\x27' u).1,
          (Segment.quotedRun '\x27' u).2) := by
      simp only [quoteText, List.cons_append, List.append_assoc, List.nil_append]
      rw [Segment.region?_quoted (Or.inl rfl), Segment.quotedRun_double_mark]
    rw [overPlain_region hjoined, overPlain_region (Segment.region?_quoted (Or.inl rfl) u),
      List.append_assoc]
  · exact overPlain_region (region?_quoteText hhead s)

/-- Whether a token leaves a mark alone that stands for a string: it is no region with the mark in
it, and no place where the string is put in without its quotes. -/
def Token.Spares (mark : Char) (name : Text) : Token → Prop
  | inert run => mark ∉ run
  | placeholder _ p => p ≠ ⟨.exclamation, name⟩
  | char _ => True

instance (mark : Char) (name : Text) (token : Token) : Decidable (token.Spares mark name) := by
  cases token <;> unfold Token.Spares <;> infer_instance

/-- A character that is part of no placeholder and opens no region. -/
structure IsFree (c : Char) : Prop where
  high : 128 ≤ c.toNat
  nonblank : Unicode.isBlank c = false

theorem IsFree.ne (h : IsFree mark) {c : Char} (hc : c.toNat < 128) : c ≠ mark := by
  rintro rfl
  exact absurd h.high (by omega)

theorem IsFree.notMem_written (h : IsFree mark) {p : Placeholder} {w : Text} (hw : Written p w) :
    mark ∉ w := by
  refine hw.notMem h.nonblank ?_ fun hmem => ?_
  · exact Bool.eq_false_iff.2 fun hpart => absurd (Name.isPart_ascii hpart) (not_lt.2 h.high)
  · have hascii : ∀ c ∈ ['$', '\x7b', '\x7d', ':', '!', '.'], c.toNat < 128 :=
      Text.forall_mem_of_all (by decide)
    exact h.ne (hascii mark hmem) rfl

/-- In front of a text with its marks filled in, a character opens what it opened before. -/
theorem region?_fillMark_eq_none {c : Char} {s : Text} (hc : c ≠ mark)
    (h : region? (c :: t) = none) :
    region? (c :: Text.fillMark mark (quoteText s) t) = none := by
  have hquote : (quoteText s).head? = some '\x27' := rfl
  have hfront : ∀ u, '\x27' ∉ u → u <+: c :: Text.fillMark mark (quoteText s) t →
      u <+: c :: t := by
    intro u hu hfill
    rw [← Text.fillMark_cons hc] at hfill
    exact Text.prefix_of_fillMark hquote hu hfill
  rw [← Option.not_isSome_iff_eq_none, Segment.region?_isSome_iff] at h ⊢
  rintro (hq | hd | hb | ⟨d, hd, hcast⟩)
  · exact h (.inl hq)
  · exact h (.inr (.inl (hfront _ (by decide) hd)))
  · exact h (.inr (.inr (.inl (hfront _ (by decide) hb))))
  · have hne : '\x27' ∉ [':', ':', d] := by
      simp only [List.mem_cons, List.not_mem_nil, or_false, not_or]
      refine ⟨by decide, by decide, ?_⟩
      rintro rfl
      exact absurd hd (by decide)
    exact h (.inr (.inr (.inr ⟨d, hd, hfront _ hne hcast⟩)))

theorem read?_fillMark_eq_none {c : Char} {s : Text} (hc : c ≠ mark) (h : read? (c :: t) = none) :
    read? (c :: Text.fillMark mark (quoteText s) t) = none := by
  refine Option.eq_none_iff_forall_ne_some.2 fun ⟨p, rest⟩ hread => ?_
  obtain ⟨w, heq, hw, hread'⟩ := read?_change hread
  have hquote : '\x27' ∉ w := hw.notMem (by decide) (by decide) (by decide)
  rw [← Text.fillMark_cons hc] at heq
  obtain ⟨rest', hrest'⟩ := Text.prefix_of_fillMark (d := '\x27') rfl hquote ⟨_, heq.symm⟩
  rw [← hrest', hread' rest'] at h
  cases h

/-- Text with its marks filled in follows a region that is no string literal as it did before. -/
theorem follows_fillMark {run rest s : Text} (hmark : IsFree mark)
    (h : region? t = some (run, rest)) (hne : rest ≠ []) (hstring : ∀ u, run ≠ quoteText u) :
    Segment.Follows run (Text.fillMark mark (quoteText s) rest) := by
  have hbefore := Segment.follows_of_region? h
  obtain ⟨c, rest, rfl⟩ := List.exists_cons_of_ne_nil hne
  by_cases hc : c = mark
  · subst hc
    rw [Text.fillMark_mark]
    refine ⟨fun hquoted hhead => ?_, fun hdash => ?_,
      fun _ => show ¬(some '\x27').any Name.isPart by decide⟩
    · -- only a string literal would go on with the quote of what is filled in
      cases Segment.complete_of_region? h with
      | @quoted quote hm u =>
        obtain rfl : '\x27' = quote := Option.some.inj hhead
        exact hstring u rfl
      | comment => rcases hquoted with hq | hq <;> cases hq
      | block => rcases hquoted with hq | hq <;> cases hq
      | cast => rcases hquoted with hq | hq <;> cases hq
    · have hend : some c = some '\n' := (hbefore.2.1 hdash).resolve_left hne
      exact absurd (Option.some.inj hend).symm (hmark.ne (by decide))
  · rw [Text.fillMark_cons hc]
    exact ⟨hbefore.1, fun hdash => .inr ((hbefore.2.1 hdash).resolve_left hne), hbefore.2.2⟩

/-- A region is left alone in front of a text with its marks filled in. -/
theorem overPlain_region_fillMark {run rest s : Text} (hmark : IsFree mark)
    (h : region? t = some (run, rest)) :
    overPlain (fill f) (run ++ Text.fillMark mark (quoteText s) rest) =
      run ++ overPlain (fill f) (Text.fillMark mark (quoteText s) rest) := by
  by_cases hstring : ∃ u, run = quoteText u
  · obtain ⟨u, rfl⟩ := hstring
    exact overPlain_quoteText f u _
  · refine overPlain_region ?_
    by_cases hne : rest = []
    · subst hne
      have ht : run ++ [] = t := (Segment.region?_append h).1
      exact (congrArg region? ht).trans h
    · exact Segment.region?_change h hne
        (follows_fillMark hmark h hne fun u hu => hstring ⟨u, hu⟩)

/-- One pass over the filled text does what it does over the text with marks, filled afterwards. -/
theorem overPlain_fillMark {s : Text} (hmark : IsFree mark)
    (hfill : ∀ p, Name.IsName p.name → p ≠ ⟨.exclamation, name⟩ →
      f p = (g p).map (Text.fillMark mark (quoteText s)))
    (h : ∀ token ∈ scan t, token.Spares mark name) :
    overPlain (fill f) (Text.fillMark mark (quoteText s) t) =
      Text.fillMark mark (quoteText s) (overPlain (fill g) t) := by
  induction t using scan_induction with
  | nil => rw [overPlain_nil, Text.fillMark, List.flatMap_nil, overPlain_nil]
  | region t run rest hregion ih =>
    rw [scan_region hregion, List.forall_mem_cons] at h
    have hrun : mark ∉ run := h.1
    have ht : t = run ++ rest := (Segment.region?_append hregion).1.symm
    rw [overPlain_region hregion, Text.fillMark_append, ← ih h.2, Text.fillMark_of_notMem hrun,
      ← overPlain_region_fillMark hmark hregion, ht, Text.fillMark_append,
      Text.fillMark_of_notMem hrun]
  | placeholder p w t hw ih =>
    rw [scan_written hw, List.forall_mem_cons] at h
    have hwritten : Text.fillMark mark (quoteText s) w = w :=
      Text.fillMark_of_notMem (hmark.notMem_written hw)
    rw [overPlain_written hw, Text.fillMark_append, Text.fillMark_append, hwritten,
      overPlain_written hw, ih h.2, hfill p hw.isName h.1]
    cases g p with
    | none => exact congrArg (· ++ _) hwritten.symm
    | some u => rfl
  | char c t hregion hread ih =>
    rw [scan_char hregion hread, List.forall_mem_cons] at h
    rw [overPlain_char hregion hread]
    by_cases hc : c = mark
    · rw [hc, Text.fillMark_mark, Text.fillMark_mark, overPlain_quoteText, ih h.2]
    · rw [Text.fillMark_cons hc, Text.fillMark_cons hc,
        overPlain_char (region?_fillMark_eq_none hc hregion) (read?_fillMark_eq_none hc hread),
        ih h.2]

/-! All rounds. -/

theorem iterate_fillMark {s : Text} (hmark : IsFree mark)
    (hfill : ∀ p, Name.IsName p.name → p ≠ ⟨.exclamation, name⟩ →
      f p = (g p).map (Text.fillMark mark (quoteText s)))
    {n : Nat} (h : ∀ r < n, ∀ token ∈ scan ((overPlain (fill g))^[r] t), token.Spares mark name) :
    (overPlain (fill f))^[n] (Text.fillMark mark (quoteText s) t) =
      Text.fillMark mark (quoteText s) ((overPlain (fill g))^[n] t) := by
  induction n with
  | zero => rfl
  | succ n ih =>
    rw [Function.iterate_succ_apply', Function.iterate_succ_apply',
      ih fun r hr => h r (Nat.lt_succ_of_lt hr),
      overPlain_fillMark hmark hfill (h n (Nat.lt_succ_self n))]

/-- What placeholders become where a mark stands for a string. -/
def marked (args : Args) (constants : Dict Text) (name : Text) (mark : Char) (p : Placeholder) :
    Option Text :=
  if p.name = name then some [mark] else resolve (args.insert name (.string [])) constants p

/-- A string is put in between texts that do not depend on it, if no round of the expansion with a
mark in its place finds the mark in a region or is to put the string in without quotes. -/
theorem expand_eq_join_of_spares {args : Args} {constants : Dict Text} {sql : Text}
    (hmark : IsFree mark) (hsql : mark ∉ sql)
    (hothers : ∀ p t, Name.IsName p.name → p.name ≠ name →
      resolve (args.insert name (.string [])) constants p = some t → mark ∉ t)
    (hspares : ∀ r < rounds,
      ∀ token ∈ scan ((overPlain (fill (marked args constants name mark)))^[r] sql),
        token.Spares mark name) :
    ∃ gaps, ∀ s,
      expand (args.insert name (.string s)) constants sql = Text.join (quoteText s) gaps := by
  refine ⟨Text.splitAt mark ((overPlain (fill (marked args constants name mark)))^[rounds] sql),
    fun s => ?_⟩
  have hfill : ∀ p, Name.IsName p.name → p ≠ ⟨.exclamation, name⟩ →
      resolve (args.insert name (.string s)) constants p =
        (marked args constants name mark p).map (Text.fillMark mark (quoteText s)) := by
    intro p hname hp
    rw [marked]
    by_cases hpname : p.name = name
    · have hmarkless : p.mark ≠ .exclamation := by
        rintro hexclamation
        exact hp (by rw [← hexclamation, ← hpname])
      have hlookup : Args.lookup? (args.insert name (.string s)) p.name = some (.string s) := by
        rw [Args.lookup?_eq, Dict.get?_insert, if_pos hpname.symm, Option.some_or]
      rw [resolve, hlookup, if_pos hpname]
      simp [hmarkless, Text.fillMark, Value.literal, Value.scalarLiteral]
    · rw [if_neg hpname, resolve, Args.lookup?_insert_string hname hpname s [], ← resolve]
      cases hother : resolve (args.insert name (.string [])) constants p with
      | none => rfl
      | some t => rw [Option.map_some, Text.fillMark_of_notMem (hothers p t hname hpname hother)]
  rw [Text.join_splitAt, ← iterate_fillMark hmark hfill hspares, Text.fillMark_of_notMem hsql,
    expand, settle_eq_iterate]

/-- A constant brings one more placeholder along, and what stands in a comment stays there. -/
theorem expand_eq_join_of_spares_nested :
    ∃ gaps, ∀ s,
      expand (Dict.insert ∅ "a".toList (.string s))
          (.ofList [("c".toList, "u = $\x7ba\x7d".toList)])
          "$\x7bc\x7d -- $\x7ba\x7d\nand v = $\x7b:a\x7d".toList =
        Text.join (quoteText s) gaps := by
  have hfree : IsFree '★' := ⟨by decide, by decide⟩
  refine expand_eq_join_of_spares hfree (by decide +kernel) (fun p t hname hp ht => ?_)
    (by decide +kernel)
  have hlookup : Args.lookup? (Dict.insert ∅ "a".toList (.string [])) p.name = none := by
    rw [Args.lookup?_eq, Dict.get?_insert, if_neg (Ne.symm hp), Dict.get?_empty, Option.none_or]
    by_cases hdot : '.' ∈ p.name
    · rw [if_pos hdot, Dict.get?_insert]
      split
      · exact Value.walk?_string hname hdot []
      · rfl
    · exact if_neg hdot
  rw [resolve, hlookup] at ht
  have hmem := Dict.mem_of_get?_ofList ht
  obtain ⟨-, rfl⟩ := Prod.mk.inj (List.mem_singleton.1 hmem)
  decide

/-- Behind a dash, the sign of a negative number opens a comment.  The literal is in it up to the
first newline of the string, and what the string has behind that is expanded. -/
theorem expand_dash_ne_join :
    ¬∃ gaps, ∀ s,
      expand (.ofList [("a".toList, .string s), ("n".toList, .number (.integer (-1)))]) ∅
          "-$\x7bn\x7d $\x7ba\x7d".toList =
        Text.join (quoteText s) gaps := by
  rintro ⟨gaps, hgaps⟩
  have hplain : "--1 'y'".toList = Text.join (quoteText "y".toList) gaps := by
    rw [← hgaps]
    decide +kernel
  have hexpanded : "--1 '\n-1'".toList = Text.join (quoteText "\n$\x7bn\x7d".toList) gaps := by
    rw [← hgaps]
    decide +kernel
  match gaps with
  | [] => cases hplain
  | [gap] =>
    rw [Text.join_singleton] at hplain hexpanded
    exact absurd (hplain.trans hexpanded.symm) (by decide)
  | gap :: gap' :: gaps =>
    rw [Text.join_cons_cons] at hexpanded
    have hdollar : '$' ∈ "--1 '\n-1'".toList := by
      rw [hexpanded]
      exact List.mem_append_left _ (List.mem_append_right _ (by decide))
    exact absurd hdollar (by decide)

end Placeholder

end SqlTemplate
