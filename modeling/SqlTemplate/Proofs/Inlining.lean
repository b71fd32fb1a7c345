import SqlTemplate.Proofs.FragmentBody

/-!
Which placeholders stay when parts have been put in.  Parts are put in until nothing changes, and
then no placeholder of a part is left, unless a part holds one of itself.  A part whose name is no
name in placeholders is never put in.
-/
namespace SqlTemplate

/-! Replacing some pieces of a text. -/

section

variable {α : Type} {old new : α → Text} {replaced : α → Prop}

/-- If the pieces that stay end up behind where they were, a piece in front of the end grows around
what it was. -/
theorem exists_infix_of_behind {xs : List α} {u : Text}
    (hkept : ∀ x ∈ xs, new x = old x ∨ replaced x) (hu : u ≠ [])
    (h : u ++ xs.flatMap old = xs.flatMap new) : ∃ x ∈ xs, replaced x ∧ old x <:+: new x := by
  induction xs generalizing u with
  | nil => exact absurd (by simpa using h) hu
  | cons x xs ih =>
    obtain ⟨hx, hxs⟩ := List.forall_mem_cons.1 hkept
    have hgrown {v : Text} (hnew : u ++ old x ++ v = new x) :
        ∃ y ∈ x :: xs, replaced y ∧ old y <:+: new y := by
      refine ⟨x, List.mem_cons_self, hx.resolve_left fun hsame => hu ?_, u, v, hnew⟩
      have hlength := congrArg List.length (hnew.trans hsame)
      simp only [List.length_append] at hlength
      exact List.length_eq_zero_iff.1 (by omega)
    rw [List.flatMap_cons, List.flatMap_cons, ← List.append_assoc] at h
    rcases List.append_eq_append_iff.1 h with ⟨v, hnew, -⟩ | ⟨v, hold, hrest⟩
    · exact hgrown hnew.symm
    · by_cases hv : v = []
      · exact hgrown (v := []) (by rw [hold, hv, List.append_nil, List.append_nil])
      · obtain ⟨y, hy, hheld⟩ := ih hxs hv hrest.symm
        exact ⟨y, List.mem_cons_of_mem x hy, hheld⟩

/-- Where replacing pieces leaves a text as it is, one of them is replaced by something that holds
it. -/
theorem exists_infix_of_flatMap_eq {xs : List α} (hkept : ∀ x ∈ xs, new x = old x ∨ replaced x)
    (h : xs.flatMap old = xs.flatMap new) (hreplaced : ∃ x ∈ xs, replaced x) :
    ∃ x ∈ xs, replaced x ∧ old x <:+: new x := by
  induction xs with
  | nil =>
    obtain ⟨x, hx, -⟩ := hreplaced
    cases hx
  | cons x xs ih =>
    obtain ⟨hx, hxs⟩ := List.forall_mem_cons.1 hkept
    rw [List.flatMap_cons, List.flatMap_cons] at h
    by_cases hfirst : replaced x
    · rcases List.append_eq_append_iff.1 h with ⟨v, hnew, -⟩ | ⟨v, hold, hrest⟩
      · exact ⟨x, List.mem_cons_self, hfirst, [], v, by rw [List.nil_append, hnew]⟩
      · by_cases hv : v = []
        · exact ⟨x, List.mem_cons_self, hfirst, [], [], by rw [hold, hv]; simp⟩
        · obtain ⟨y, hy, hheld⟩ := exists_infix_of_behind hxs hv hrest.symm
          exact ⟨y, List.mem_cons_of_mem x hy, hheld⟩
    · rw [hx.resolve_right hfirst] at h
      obtain ⟨y, hy, hreplaced⟩ := hreplaced
      have hy : y ∈ xs := (List.mem_cons.1 hy).resolve_left fun heq => hfirst (heq ▸ hreplaced)
      obtain ⟨z, hz, hheld⟩ := ih hxs (List.append_cancel_left h) ⟨y, hy, hreplaced⟩
      exact ⟨z, List.mem_cons_of_mem x hz, hheld⟩

end

namespace Placeholder

variable {p : Placeholder} {w t : Text} {f : Placeholder → Option Text}

theorem written_of_mem_scan (h : Token.placeholder w p ∈ scan t) : Written p w := by
  induction t using scan_induction with
  | nil => simp [scan_nil] at h
  | region t run rest hregion ih =>
    rw [scan_region hregion] at h
    exact ih (by simpa using h)
  | placeholder q v t hv ih =>
    rw [scan_written hv, List.mem_cons] at h
    rcases h with h | h
    · cases h
      exact hv
    · exact ih h
  | char c t hregion hread ih =>
    rw [scan_char hregion hread] at h
    exact ih (by simpa using h)

/-- Whether something is put in for a token. -/
def Token.IsFilled (f : Placeholder → Option Text) : Token → Prop
  | placeholder _ p => ∃ r, f p = some r
  | inert _ => False
  | char _ => False

theorem Token.fill_eq_or_isFilled (f : Placeholder → Option Text) (token : Token) :
    token.fill f = token.fill (fun _ => none) ∨ token.IsFilled f := by
  cases token with
  | inert run => exact .inl rfl
  | char c => exact .inl rfl
  | placeholder w p =>
    cases hp : f p with
    | none => exact .inl (by rw [fill, fill, hp])
    | some r => exact .inr ⟨r, hp⟩

/-- A text that a pass leaves as it is has nothing to put in, unless something that is put in holds
its own placeholder. -/
theorem eq_none_of_overPlain_eq (hself : ∀ p w r, f p = some r → Written p w → ¬w <:+: r)
    (hfix : overPlain (fill f) t = t) : ∀ p ∈ placeholders t, f p = none := by
  intro p hp
  refine Option.eq_none_iff_forall_ne_some.2 fun r hr => ?_
  have hsame : (scan t).flatMap (Token.fill fun _ => none) = (scan t).flatMap (Token.fill f) := by
    rw [flatMap_scan_none, ← overPlain_fill, hfix]
  have hfilled : ∃ token ∈ scan t, token.IsFilled f := by
    obtain ⟨token, htoken, hsome⟩ := List.mem_filterMap.1 hp
    cases token with
    | inert run => cases hsome
    | char c => cases hsome
    | placeholder w q =>
      obtain rfl := Option.some.inj hsome
      exact ⟨_, htoken, r, hr⟩
  obtain ⟨token, hmem, hheld, hinside⟩ :=
    exists_infix_of_flatMap_eq (fun token _ => token.fill_eq_or_isFilled f) hsame hfilled
  cases token with
  | inert run => cases hheld
  | char c => cases hheld
  | placeholder w q =>
    obtain ⟨r, hq⟩ := hheld
    rw [Token.fill, Token.fill, hq] at hinside
    exact hself q w r hq (written_of_mem_scan hmem) hinside

/-- Placeholders do not overlap: behind its first character a placeholder has no dollar sign. -/
theorem Written.eq_nil_of_overlap {q : Placeholder} {v a u rest b : Text} {c : Char}
    (hv : Written q v) (hw : Written p w) (hvu : c :: a ++ u = v) (hrest : u ++ rest = w ++ b) :
    u = [] := by
  obtain ⟨x, rfl, -⟩ := hw.mem_tail
  obtain ⟨y, rfl, hy⟩ := hv.mem_tail
  cases u with
  | nil => rfl
  | cons d u =>
    obtain ⟨rfl, -⟩ := List.cons.inj hrest
    cases a with
    | nil => simp at hvu
    | cons e a =>
      simp only [List.cons_append, List.cons.injEq] at hvu
      exact absurd rfl (hy '$' (by simp [← hvu.2.2])).1

/-- Each placeholder in a plain text is a piece of it. -/
theorem mem_split_of_infix (h : Written p w) (hw : w <:+: t) : .placeholder w p ∈ split t := by
  obtain ⟨a, b, rfl⟩ := hw
  rw [List.append_assoc]
  induction hn : a.length using Nat.strong_induction_on generalizing a with
  | _ n ih =>
    subst hn
    cases a with
    | nil =>
      rw [List.nil_append, split_written h]
      exact List.mem_cons_self
    | cons c a =>
      cases hread : read? (c :: a ++ (w ++ b)) with
      | none =>
        rw [List.cons_append] at hread ⊢
        rw [split_char hread]
        exact List.mem_cons_of_mem _ (ih a.length (Nat.lt_succ_self _) a rfl)
      | some found =>
        obtain ⟨q, rest⟩ := found
        obtain ⟨v, heq, hv, -⟩ := read?_change hread
        rw [heq, split_written hv]
        refine List.mem_cons_of_mem _ ?_
        rcases List.append_eq_append_iff.1 heq with ⟨u, hvu, hrest⟩ | ⟨u, hca, rfl⟩
        · obtain rfl := hv.eq_nil_of_overlap h hvu.symm hrest.symm
          obtain rfl : w ++ b = rest := hrest
          exact ih 0 (Nat.succ_pos _) [] rfl
        · refine ih u.length ?_ u rfl
          have hlength := congrArg List.length hca
          have := List.length_pos_iff.2 hv.ne_nil
          simp only [List.length_append] at hlength
          omega

theorem mem_placeholders_of_infix {u : Text} (h : Written p w)
    (hu : u ∈ Segment.plainTexts (segments t)) (hw : w <:+: u) : p ∈ placeholders t := by
  obtain ⟨s, hs, hplain⟩ := List.mem_filterMap.1 hu
  cases s with
  | inert run => cases hplain
  | plain v =>
    obtain rfl := Option.some.inj hplain
    refine List.mem_filterMap.2 ⟨.placeholder w p, List.mem_flatMap.2 ⟨_, hs, ?_⟩, rfl⟩
    exact List.mem_map.2 ⟨_, mem_split_of_infix h hw, rfl⟩

/-- What is put in for other than placeholders makes no difference. -/
theorem overPlain_fill_congr {f g : Placeholder → Option Text}
    (h : ∀ p, Name.IsName p.name → f p = g p) (t : Text) :
    overPlain (fill f) t = overPlain (fill g) t := by
  rw [overPlain_fill, overPlain_fill]
  refine List.flatMap_congr fun token htoken => ?_
  cases token with
  | inert run => rfl
  | char c => rfl
  | placeholder w p => rw [Token.fill, Token.fill, h p (written_of_mem_scan htoken).isName]

end Placeholder

namespace SqlFile

open Placeholder (Written rounds placeholders)

variable {fileAlias terminator name text : Text} {file : SqlFile} {f : Fragment}

/-- One pass of putting parts in. -/
def inlineOnce (parts : Dict Text) : Text → Text := overPlain (Placeholder.fill (partFor parts))

theorem inlineParts_eq_iterate (parts : Dict Text) (sql : Text) :
    inlineParts parts sql = (inlineOnce parts)^[rounds] sql :=
  Placeholder.settle_eq_iterate _ _ _

/-- Only parts whose names are names in placeholders too are put in. -/
theorem inlineParts_congr {parts parts' : Dict Text}
    (h : ∀ q, Name.IsName q → parts'.get? q = parts.get? q) (sql : Text) :
    inlineParts parts' sql = inlineParts parts sql := by
  have hpass : inlineOnce parts' = inlineOnce parts :=
    funext (Placeholder.overPlain_fill_congr fun p hp => by rw [partFor, partFor, h p.name hp])
  rw [inlineParts_eq_iterate, inlineParts_eq_iterate, hpass]

/-- Whether a part holds a placeholder that it is put in for. -/
def HoldsItself (parts : Dict Text) : Prop :=
  ∃ p part w, partFor parts p = some part ∧ Written p w ∧ w <:+: part

theorem not_holdsItself {parts : Dict Text} (h : ∀ e ∈ parts.entries, '$' ∉ e.2) :
    ¬HoldsItself parts := by
  rintro ⟨p, part, w, hpart, hw, hheld⟩
  obtain ⟨t, rfl, -⟩ := hw.mem_tail
  rw [partFor] at hpart
  split at hpart
  · cases hpart
  · exact h _ (Dict.mem_of_get? hpart) (hheld.subset List.mem_cons_self)

/-- A pass that changes nothing is the last one. -/
theorem inlineOnce_inlineParts {parts : Dict Text} {sql : Text} {r : Nat} (hr : r < rounds)
    (hrest : (inlineOnce parts)^[r + 1] sql = (inlineOnce parts)^[r] sql) :
    inlineOnce parts (inlineParts parts sql) = inlineParts parts sql := by
  rw [Function.iterate_succ_apply'] at hrest
  obtain ⟨k, hk⟩ := Nat.exists_eq_add_of_le' hr.le
  rw [inlineParts_eq_iterate, hk, Function.iterate_add_apply, Function.iterate_fixed hrest, hrest]

theorem partFor_of_ne_colon {parts : Dict Text} {p : Placeholder} (h : p.mark ≠ .colon) :
    partFor parts p = parts.get? p.name := if_neg h

/-- Where parts are put in.  A fragment is its body with the parts put in whose names are names in
placeholders; what the other parts are, and whether there are any, makes no difference.  If fewer
passes than the limit were needed and no part holds its own placeholder, no placeholder of a part
with such a name is left in the plain text of the fragment. -/
theorem source_of_parts (h : ofText fileAlias text terminator = .ok file)
    (hf : file.fragments.get? name = some f) :
    ∃ pieces, body? terminator name text = some pieces ∧
      (∀ parts : Dict Text, (∀ q, Name.IsName q → parts.get? q = file.parts.get? q) →
        f.source = inlineParts parts (readText pieces)) ∧
      ∀ r < rounds, (inlineOnce file.parts)^[r + 1] (readText pieces) =
          (inlineOnce file.parts)^[r] (readText pieces) →
        ¬HoldsItself file.parts →
        ∀ part ∈ file.parts.keys, Name.IsName part →
          ∀ t ∈ Segment.plainTexts (segments f.source),
            ¬Placeholder.plain .bare part <:+: t ∧ ¬Placeholder.plain .exclamation part <:+: t := by
  obtain ⟨pieces, hpieces, hsource⟩ := exists_body? h hf
  refine ⟨pieces, hpieces, fun parts hparts => ?_, ?_⟩
  · rw [hsource, inlineParts_congr hparts]
  · intro r hr hrest hself part hpart hname t ht
    have hfix := inlineOnce_inlineParts hr hrest
    rw [← hsource] at hfix
    have hnone := Placeholder.eq_none_of_overPlain_eq
      (fun p w q hq hw hheld => hself ⟨p, q, w, hq, hw, hheld⟩) hfix
    have hleft : ∀ mark : Mark, mark ≠ .colon → ¬Placeholder.plain mark part <:+: t := by
      intro mark hmark hheld
      have hmem := Placeholder.mem_placeholders_of_infix
        (Placeholder.written_plain mark hname) ht hheld
      have habsent : file.parts.get? part = none := by
        rw [← hnone _ hmem, partFor_of_ne_colon hmark]
      obtain ⟨q, hq⟩ := Dict.mem_keys_iff.1 hpart
      cases habsent.symm.trans hq
    exact ⟨hleft .bare (by decide), hleft .exclamation (by decide)⟩

/-- A part that is put in by the first of two passes. -/
theorem source_of_parts_id :
    ∃ file f, ofText "u".toList "/*[f]*/\nselect $\x7ba\x7d;\n/*\x7ba\x7d*/\nid;".toList [';'] =
        .ok file ∧ file.fragments.get? "f".toList = some f ∧ "a".toList ∈ file.parts.keys ∧
      ∀ t ∈ Segment.plainTexts (segments f.source),
        ¬Placeholder.plain .bare "a".toList <:+: t := by
  have hread : ((ofText "u".toList
      "/*[f]*/\nselect $\x7ba\x7d;\n/*\x7ba\x7d*/\nid;".toList [';']).toOption.map fun file =>
      (file.fragments.keys, file.parts.entries)) =
      some (["f".toList], [("a".toList, "id".toList)]) := by decide +kernel
  obtain ⟨file, hfile, hmaps⟩ := Option.map_eq_some_iff.1 hread
  obtain ⟨hfragments, hparts⟩ := Prod.mk.inj hmaps
  obtain ⟨f, hf⟩ := Dict.mem_keys_iff.1 (hfragments ▸ List.mem_singleton_self "f".toList)
  have hfile := eq_ok_of_toOption hfile
  obtain ⟨pieces, hpieces, -, hleft⟩ := source_of_parts hfile hf
  have hkeys : "a".toList ∈ file.parts.keys := by
    rw [Dict.keys, hparts]
    decide
  have hbody : body? [';'] "f".toList
      "/*[f]*/\nselect $\x7ba\x7d;\n/*\x7ba\x7d*/\nid;".toList =
      some [.kept "select $\x7ba\x7d".toList] := by decide +kernel
  have heq := Option.some.inj (hpieces.symm.trans hbody)
  have hdict : file.parts = .ofList [("a".toList, "id".toList)] := Dict.ext_entries hparts
  have hself : ¬HoldsItself file.parts := not_holdsItself (by rw [hparts]; decide)
  have hrest : (inlineOnce file.parts)^[1 + 1] (readText pieces) =
      (inlineOnce file.parts)^[1] (readText pieces) := by
    rw [heq, hdict]
    decide +kernel
  have hname : Name.IsName "a".toList := Name.IsWord.isName ⟨'a', [], rfl, rfl, by simp⟩
  exact ⟨file, f, hfile, hf, hkeys, fun t ht =>
    (hleft 1 (by decide) hrest hself _ hkeys hname t ht).1⟩

/-- A part whose name has a dash. -/
theorem not_forall_notMem_source :
    ¬∀ (fileAlias text terminator name : Text) (file : SqlFile) (f : Fragment)
        (pieces : List BodyPiece) (r : Nat),
      ofText fileAlias text terminator = .ok file → file.fragments.get? name = some f →
      body? terminator name text = some pieces → r < rounds →
      (inlineOnce file.parts)^[r + 1] (readText pieces) =
        (inlineOnce file.parts)^[r] (readText pieces) →
      ∀ part ∈ file.parts.keys, ∀ t ∈ Segment.plainTexts (segments f.source),
        ¬Placeholder.plain .bare part <:+: t := by
  intro h
  have hread : ((ofText "u".toList
      "/*[f]*/\nselect $\x7ba-b\x7d;\n/*\x7ba-b\x7d*/\nid;".toList [';']).toOption.map fun file =>
      (file.fragments.keys, file.parts.entries)) =
      some (["f".toList], [("a-b".toList, "id".toList)]) := by decide +kernel
  obtain ⟨file, hfile, hmaps⟩ := Option.map_eq_some_iff.1 hread
  obtain ⟨hfragments, hparts⟩ := Prod.mk.inj hmaps
  obtain ⟨f, hf⟩ := Dict.mem_keys_iff.1 (hfragments ▸ List.mem_singleton_self "f".toList)
  have hfile := eq_ok_of_toOption hfile
  obtain ⟨pieces, hpieces, hsource⟩ := exists_body? hfile hf
  have hbody : body? [';'] "f".toList
      "/*[f]*/\nselect $\x7ba-b\x7d;\n/*\x7ba-b\x7d*/\nid;".toList =
      some [.kept "select $\x7ba-b\x7d".toList] := by decide +kernel
  have heq := Option.some.inj (hpieces.symm.trans hbody)
  have hplain : readText pieces = "select $\x7ba-b\x7d".toList := by rw [heq]; rfl
  have hnone : Placeholder.placeholders (readText pieces) = [] := by
    rw [hplain]
    decide +kernel
  have hrest : inlineOnce file.parts (readText pieces) = readText pieces :=
    Placeholder.overPlain_fill_of_none (by simp [hnone])
  have hkeys : "a-b".toList ∈ file.parts.keys := by
    rw [Dict.keys, hparts]
    decide
  rw [inlineParts_of_none (by simp [hnone]), hplain] at hsource
  refine h _ _ _ _ file f pieces 0 hfile hf hpieces (by decide) hrest _ hkeys
    "select $\x7ba-b\x7d".toList ?_ ?_
  · rw [hsource]
    decide +kernel
  · decide +kernel

end SqlFile

end SqlTemplate
