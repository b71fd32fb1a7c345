import SqlTemplate.Cleanup
import SqlTemplate.Proofs.Positions
import SqlTemplate.Proofs.Reference

/-!
SQL text as a sequence of tokens.  Where nothing that is read in front of a place runs on behind it,
the tokens of a text are those in front of the place and then those behind it.
-/
namespace SqlTemplate

namespace Cleanup

open Parameter (Straddled placeholderEnd? tokenEnd?)

inductive Token where
  | inert (t : Text)
  | placeholder (written : Text)
  | parameter (name : Text)
  | word (w : Text)
  | mark (c : Char)
  deriving DecidableEq, Repr

/-- The name of the parameter that a text starts with, and what follows it. -/
def parameter? : Text → Option (Text × Text)
  | [] => none
  | c :: cs => if c = ':' then Name.read? cs else none

theorem length_lt_of_parameter? {cs name rest : Text} (h : parameter? cs = some (name, rest)) :
    rest.length < cs.length := by
  cases cs with
  | nil => cases h
  | cons c cs =>
    rw [parameter?] at h
    split at h
    · exact Nat.lt_succ_of_lt (Name.length_lt_of_read? h)
    · cases h

/-- The tokens of a plain text: placeholders, parameters, other words, and single characters that
are no blanks. -/
def plainTokens (cs : Text) : List Token :=
  match h : Placeholder.read? cs with
  | some (_, rest) =>
    have := Placeholder.length_lt_of_read? h
    .placeholder (cs.take (cs.length - rest.length)) :: plainTokens rest
  | none =>
    match h : parameter? cs with
    | some (name, rest) =>
      have := length_lt_of_parameter? h
      .parameter name :: plainTokens rest
    | none =>
      match cs with
      | [] => []
      | c :: rest =>
        if Unicode.isWord c then
          have := (List.dropWhile_sublist Unicode.isWord (l := rest)).length_le
          .word (c :: rest.takeWhile Unicode.isWord) :: plainTokens (rest.dropWhile Unicode.isWord)
        else if Unicode.isBlank c then plainTokens rest
        else .mark c :: plainTokens rest
termination_by cs.length
decreasing_by
  · assumption
  · assumption
  · exact Nat.lt_succ_of_le this
  · simp
  · simp

/-! What stands at the start of a text decides its first token. -/

variable {a b c w cs rest name : Text}

theorem plainTokens_placeholder {p : Placeholder} (h : Placeholder.read? cs = some (p, rest)) :
    plainTokens cs = .placeholder (cs.take (cs.length - rest.length)) :: plainTokens rest := by
  rw [plainTokens]
  split
  · rename_i h'
    obtain ⟨rfl, rfl⟩ := Prod.mk.inj (Option.some.inj (h.symm.trans h'))
    rfl
  · rename_i h'
    simp [h] at h'

theorem plainTokens_written {p : Placeholder} (hw : p.Written w) (rest : Text) :
    plainTokens (w ++ rest) = .placeholder w :: plainTokens rest := by
  rw [plainTokens_placeholder (hw.read? rest)]
  simp

@[simp] theorem plainTokens_nil : plainTokens [] = [] := by
  rw [plainTokens]
  rfl

theorem parameter?_eq_some (h : parameter? cs = some (name, rest)) :
    cs = ':' :: (name ++ rest) ∧ Name.read? (name ++ rest) = some (name, rest) := by
  cases cs with
  | nil => cases h
  | cons d cs =>
    rw [parameter?] at h
    split at h
    · rename_i hd
      rw [hd, (Name.read?_append h).1]
      exact ⟨rfl, h⟩
    · cases h

theorem plainTokens_parameter (h : Name.read? (name ++ rest) = some (name, rest)) :
    plainTokens (':' :: (name ++ rest)) = .parameter name :: plainTokens rest := by
  have hparameter : parameter? (':' :: (name ++ rest)) = some (name, rest) := h
  rw [plainTokens]
  split
  · rename_i h'
    simp [Placeholder.read?] at h'
  · split
    · rename_i h'
      obtain ⟨rfl, rfl⟩ := Prod.mk.inj (Option.some.inj (hparameter.symm.trans h'))
      rfl
    · rename_i h'
      simp [hparameter] at h'

/-- A character that neither a placeholder nor a parameter starts with. -/
theorem plainTokens_cons {d : Char} (hread : Placeholder.read? (d :: rest) = none)
    (hparameter : parameter? (d :: rest) = none) :
    plainTokens (d :: rest) =
      if Unicode.isWord d then
        .word (d :: rest.takeWhile Unicode.isWord) :: plainTokens (rest.dropWhile Unicode.isWord)
      else if Unicode.isBlank d then plainTokens rest
      else .mark d :: plainTokens rest := by
  conv => lhs; rw [plainTokens]
  split
  · rename_i h'
    simp [hread] at h'
  · split
    · rename_i h'
      simp [hparameter] at h'
    · rfl

theorem isWord_ne {d e : Char} (hd : Unicode.isWord d) (he : Unicode.isWord e = false) : d ≠ e := by
  rintro rfl
  simp [hd] at he

theorem isWord_of_isPart {d : Char} (h : Name.isPart d) : Unicode.isWord d := by
  rwa [Template.Reference.isWord_of_ascii (Name.isPart_ascii h)]

theorem isWord_of_isBlank {d : Char} (h : Unicode.isBlank d) : Unicode.isWord d = false :=
  Unicode.eq_false_of_isBlank (by decide +kernel) h

/-- A word is one token, whatever stands in front of it. -/
theorem plainTokens_word (hne : w ≠ []) (hw : ∀ d ∈ w, Unicode.isWord d)
    (hrest : ¬rest.head?.any Unicode.isWord) :
    plainTokens (w ++ rest) = .word w :: plainTokens rest := by
  obtain ⟨d, w, rfl⟩ := List.exists_cons_of_ne_nil hne
  have hd := hw d List.mem_cons_self
  have htail : ∀ e ∈ w, Unicode.isWord e := fun e he => hw e (List.mem_cons_of_mem d he)
  have hread : Placeholder.read? (d :: (w ++ rest)) = none :=
    Placeholder.read?_eq_none (by simpa using isWord_ne hd (by decide))
  have hparameter : parameter? (d :: (w ++ rest)) = none := if_neg (isWord_ne hd (by decide))
  rw [List.cons_append, plainTokens_cons hread hparameter, if_pos hd,
    Text.takeWhile_append_stop htail hrest, Text.dropWhile_append_stop htail hrest]

/-- Blanks are no tokens. -/
theorem plainTokens_blanks (ha : ∀ d ∈ a, Unicode.isBlank d) (rest : Text) :
    plainTokens (a ++ rest) = plainTokens rest := by
  induction a with
  | nil => rfl
  | cons d a ih =>
    have hd := ha d List.mem_cons_self
    have hne : ∀ e, Unicode.isBlank e = false → d ≠ e := by
      rintro e he rfl
      simp [hd] at he
    have hread : Placeholder.read? (d :: (a ++ rest)) = none :=
      Placeholder.read?_eq_none (by simpa using hne '$' (by decide))
    have hparameter : parameter? (d :: (a ++ rest)) = none := if_neg (hne ':' (by decide))
    rw [List.cons_append, plainTokens_cons hread hparameter, isWord_of_isBlank hd,
      if_neg Bool.false_ne_true, if_pos hd, ih fun e he => ha e (List.mem_cons_of_mem d he)]

/-! Where nothing runs on. -/

/-- Whether the tokens of a text are those of the text in front and then those of the text behind:
no placeholder, no parameter and no word of the one runs on in the other. -/
structure Parted (a b : Text) : Prop where
  placeholder : ¬Straddled placeholderEnd? a b
  parameter : ¬Straddled (tokenEnd? ':') a b
  word : a.getLast?.any Unicode.isWord → ¬b.head?.any Unicode.isWord

theorem Parted.suffix (h : Parted a b) (hw : w <:+ a) : Parted w b where
  placeholder := by
    rintro ⟨v, r, hv, hread⟩
    exact h.placeholder ⟨v, r, hv.trans hw, hread⟩
  parameter := by
    rintro ⟨v, r, hv, hread⟩
    exact h.parameter ⟨v, r, hv.trans hw, hread⟩
  word hlast := by
    obtain ⟨u, rfl⟩ := hw
    refine h.word ?_
    cases w with
    | nil => cases hlast
    | cons d w => rwa [List.getLast?_append_of_ne_nil _ (List.cons_ne_nil d w)]

/-- No placeholder opens in front of a place that none runs over. -/
theorem read?_append_eq_none (h : ¬Straddled placeholderEnd? a b) (hne : a ≠ [])
    (hread : Placeholder.read? a = none) : Placeholder.read? (a ++ b) = none := by
  rw [Option.eq_none_iff_forall_ne_some]
  rintro ⟨p, rest⟩ hsome
  obtain ⟨w, hw, hwritten, -⟩ := Placeholder.read?_change hsome
  have hle : b.length ≤ rest.length := by
    by_contra hlt
    refine h ⟨a, rest, List.suffix_refl a, hne, ?_, by omega⟩
    rw [placeholderEnd?, hsome]
    rfl
  obtain ⟨v, rfl, -⟩ := Text.exists_of_append_eq hw.symm hle
  simp [hwritten.read?] at hread

/-- The name of a parameter in front of such a place is the same without what stands behind. -/
theorem Parted.read?_append (h : Parted (':' :: (name ++ rest)) b)
    (hread : Name.read? (name ++ rest) = some (name, rest)) :
    Name.read? (name ++ (rest ++ b)) = some (name, rest ++ b) := by
  obtain ⟨hname, hstops⟩ := Name.read?_spec hread
  obtain ⟨d, ds, hd, hstart⟩ := hname.head
  cases hlong : Name.read? (name ++ (rest ++ b)) with
  | none =>
    rw [Name.read?_eq_none_iff, hd] at hlong
    exact absurd hstart (by simpa using hlong)
  | some found =>
    obtain ⟨name', r⟩ := found
    obtain ⟨hname', hstops'⟩ := Name.read?_spec hlong
    have heq := (Name.read?_append hlong).1
    have hle : b.length ≤ r.length := by
      by_contra hlt
      refine h.parameter ⟨_, r, List.suffix_refl _, List.cons_ne_nil _ _, ?_, by omega⟩
      rw [List.cons_append, List.append_assoc, tokenEnd?, if_pos rfl, hlong]
      rfl
    rw [← List.append_assoc] at heq
    obtain ⟨y, hy, rfl⟩ := Text.exists_of_append_eq heq hle
    -- neither of the two names goes on behind the other one
    rcases List.append_eq_append_iff.1 hy with ⟨x, rfl, rfl⟩ | ⟨x, rfl, rfl⟩
    · obtain rfl := hname'.eq_nil_of_stops hstops
      simp
    · rw [List.append_assoc] at hstops'
      obtain rfl := hname.eq_nil_of_stops hstops'
      simp

theorem Parted.parameter?_eq_none (h : Parted a b) (hne : a ≠ []) (hnone : parameter? a = none) :
    parameter? (a ++ b) = none := by
  obtain ⟨d, a, rfl⟩ := List.exists_cons_of_ne_nil hne
  rw [parameter?, ite_eq_right_iff] at hnone
  rw [List.cons_append, parameter?, ite_eq_right_iff]
  rintro rfl
  have hread := hnone rfl
  cases a with
  | cons e a =>
    rw [Name.read?_eq_none_iff] at hread ⊢
    exact hread
  | nil =>
    rw [Option.eq_none_iff_forall_ne_some]
    rintro ⟨name, rest⟩ hsome
    refine h.parameter ⟨[':'], rest, List.suffix_refl _, List.cons_ne_nil _ _, ?_,
      Name.length_lt_of_read? hsome⟩
    rw [List.singleton_append, tokenEnd?, if_pos rfl]
    exact congrArg (Option.map (·.2)) hsome

/-- Where nothing runs on, the tokens of a text are those in front and then those behind. -/
theorem plainTokens_append (h : Parted a b) :
    plainTokens (a ++ b) = plainTokens a ++ plainTokens b := by
  induction a using plainTokens.induct with
  | case1 a p rest hread _ ih =>
    obtain ⟨w, rfl, hw, -⟩ := Placeholder.read?_change hread
    rw [List.append_assoc, plainTokens_written hw, plainTokens_written hw, List.cons_append,
      ih (h.suffix (List.suffix_append w rest))]
  | case2 a hread name rest hparameter _ ih =>
    obtain ⟨rfl, hname⟩ := parameter?_eq_some hparameter
    rw [List.cons_append, List.append_assoc, plainTokens_parameter (h.read?_append hname),
      plainTokens_parameter hname, List.cons_append,
      ih (h.suffix ((List.suffix_append name rest).trans (List.suffix_cons _ _)))]
  | case3 => rw [plainTokens_nil, List.nil_append, List.nil_append]
  | case4 d rest hread hparameter hd _ ih =>
    have hrun : ∀ e ∈ d :: rest.takeWhile Unicode.isWord, Unicode.isWord e := fun e he =>
      (List.mem_cons.1 he).elim (fun h => h ▸ hd) Text.mem_takeWhile
    have hrest : d :: rest =
        d :: rest.takeWhile Unicode.isWord ++ rest.dropWhile Unicode.isWord := by simp
    have hstop : ¬(rest.dropWhile Unicode.isWord ++ b).head?.any Unicode.isWord := by
      cases hdrop : rest.dropWhile Unicode.isWord with
      | nil =>
        rw [hdrop, List.append_nil] at hrest
        refine h.word ?_
        rw [hrest, List.getLast?_eq_getLast_of_ne_nil (List.cons_ne_nil _ _)]
        exact hrun _ (List.getLast_mem _)
      | cons e es =>
        have hhead := Text.head?_dropWhile Unicode.isWord rest
        rwa [hdrop] at hhead
    rw [hrest, List.append_assoc, plainTokens_word (List.cons_ne_nil _ _) hrun hstop,
      plainTokens_word (List.cons_ne_nil _ _) hrun (Text.head?_dropWhile _ _), List.cons_append,
      ih (h.suffix (hrest ▸ List.suffix_append _ _))]
  | case5 d rest hread hparameter hword hd ih =>
    have hread' : Placeholder.read? (d :: (rest ++ b)) = none :=
      read?_append_eq_none h.placeholder (List.cons_ne_nil _ _) hread
    have hparameter' : parameter? (d :: (rest ++ b)) = none :=
      h.parameter?_eq_none (List.cons_ne_nil _ _) hparameter
    rw [List.cons_append, plainTokens_cons hread' hparameter', plainTokens_cons hread hparameter,
      if_neg hword, if_neg hword, if_pos hd, if_pos hd,
      ih (h.suffix (List.suffix_cons d rest))]
  | case6 d rest hread hparameter hword hd ih =>
    have hread' : Placeholder.read? (d :: (rest ++ b)) = none :=
      read?_append_eq_none h.placeholder (List.cons_ne_nil _ _) hread
    have hparameter' : parameter? (d :: (rest ++ b)) = none :=
      h.parameter?_eq_none (List.cons_ne_nil _ _) hparameter
    rw [List.cons_append, plainTokens_cons hread' hparameter', plainTokens_cons hread hparameter,
      if_neg hword, if_neg hword, if_neg hd, if_neg hd,
      ih (h.suffix (List.suffix_cons d rest)), List.cons_append]

/-! Deleting tokens. -/

/-- The words that cleaning up deletes. -/
def removableWords : List String := ["where", "and", "or"]

/-- Whether cleaning up deletes such tokens: commas, and some words in any case of their letters. -/
def Token.isRemovable : Token → Bool
  | .mark c => c == ','
  | .word w => removableWords.any fun word => w.sameWord word.toList
  | _ => false

/-- `Drops ks ls`: what is left of the tokens `ks` without some that can be removed is `ls`. -/
inductive Drops : List Token → List Token → Prop
  | nil : Drops [] []
  | keep (k : Token) {ks ls : List Token} (h : Drops ks ls) : Drops (k :: ks) (k :: ls)
  | drop {k : Token} {ks ls : List Token} (hk : k.isRemovable) (h : Drops ks ls) :
    Drops (k :: ks) ls

namespace Drops

variable {ks ls ms ns : List Token}

theorem refl (ks : List Token) : Drops ks ks := by
  induction ks with
  | nil => exact .nil
  | cons k ks ih => exact .keep k ih

theorem trans (h : Drops ks ls) (h' : Drops ls ms) : Drops ks ms := by
  induction h generalizing ms with
  | nil => exact h'
  | drop hk _ ih => exact .drop hk (ih h')
  | keep k _ ih =>
    cases h' with
    | keep _ h' => exact .keep k (ih h')
    | drop hk h' => exact .drop hk (ih h')

theorem append (h : Drops ks ls) (h' : Drops ms ns) : Drops (ks ++ ms) (ls ++ ns) := by
  induction h with
  | nil => exact h'
  | keep k _ ih => exact .keep k ih
  | drop hk _ ih => exact .drop hk ih

theorem of_removable (h : ∀ k ∈ ks, k.isRemovable) : Drops ks [] := by
  induction ks with
  | nil => exact .nil
  | cons k ks ih =>
    exact .drop (h k List.mem_cons_self) (ih fun l hl => h l (List.mem_cons_of_mem k hl))

theorem subset (h : Drops ks ls) : ls ⊆ ks := by
  induction h with
  | nil => exact List.Subset.refl _
  | keep k _ ih => exact List.cons_subset_cons k ih
  | drop _ _ ih => exact List.subset_cons_of_subset _ ih

/-- The tokens that cannot be removed are still there, in their order. -/
theorem filter_eq (h : Drops ks ls) {p : Token → Bool} (hp : ∀ k, k.isRemovable → p k = false) :
    ls.filter p = ks.filter p := by
  induction h with
  | nil => rfl
  | keep k _ ih => rw [List.filter_cons, List.filter_cons, ih]
  | drop hk _ ih => rw [List.filter_cons_of_neg (by simp [hp _ hk]), ih]

end Drops

/-- The tokens of a segment: an inert one is a single token. -/
def segmentTokens : Segment → List Token
  | .inert t => [.inert t]
  | .plain t => plainTokens t

/-- The tokens of SQL text. -/
def tokens (sql : Text) : List Token := (segments sql).flatMap segmentTokens

end Cleanup

end SqlTemplate
