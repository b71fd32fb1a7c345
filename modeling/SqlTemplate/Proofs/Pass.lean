import SqlTemplate.Proofs.WholeTokens

/-!
The passes of cleaning up.  An edit of a text applies where a word or a comma stands; a pass goes
over a text word by word, and what it does not edit it copies.
-/
namespace SqlTemplate

namespace Cleanup

/-- Whether a text starts with a keyword, in any case of its letters, that ends at a word
boundary. -/
def Starts (word : String) (t : Text) : Prop :=
  ∃ w b : Text, t = w ++ b ∧ w.sameWord word.toList ∧ ¬b.head?.any Unicode.isWord

/-- Whether a text starts with a closing parenthesis or with a clause that stands behind the
conditions of a query. -/
inductive OpensClause : Text → Prop
  | parenthesis (t : Text) : OpensClause (')' :: t)
  | limit {t : Text} (h : Starts "limit" t) : OpensClause t
  | union {t : Text} (h : Starts "union" t) : OpensClause t
  | ordering {w s t : Text} (hw : w.sameWord "order".toList ∨ w.sameWord "group".toList)
    (hs : ∀ c ∈ s, Unicode.isBlank c) (hne : s ≠ []) (h : Starts "by" t) :
    OpensClause (w ++ (s ++ t))

/-- Whether a text starts with a connective. -/
def Connects (t : Text) : Prop := Starts "and" t ∨ Starts "or" t

/-- Whether a text starts with some characters of a class, and goes on in some way. -/
def Skips (p : Char → Bool) (P : Text → Prop) (cs : Text) : Prop :=
  ∃ s t : Text, cs = s ++ t ∧ (∀ c ∈ s, p c) ∧ s ≠ [] ∧ P t

/-- Whether a text starts with blanks, and goes on in some way. -/
abbrev Spaces : (Text → Prop) → Text → Prop := Skips Unicode.isBlank

/-- Whether a text starts with `where`, and goes on in some way. -/
def Leads (P : Text → Prop) (cs : Text) : Prop :=
  ∃ w t : Text, cs = w ++ t ∧ w.sameWord "where".toList ∧ P t

/-- Whether a text starts with `where`, up to blanks in front of it. -/
def Reaches (cs : Text) : Prop :=
  ∃ s t : Text, cs = s ++ t ∧ (∀ c ∈ s, Unicode.isBlank c) ∧ Starts "where" t

/-- Whether no word runs over the place between two texts. -/
def Bounded (a b : Text) : Prop := a.getLast?.any Unicode.isWord → ¬b.head?.any Unicode.isWord

/-- Whether a text goes on in some way behind a place that no word runs over. -/
def Occurs (P : Text → Prop) (cs : Text) : Prop := ∃ a b, cs = a ++ b ∧ Bounded a b ∧ P b

instance (a b : Text) : Decidable (Bounded a b) :=
  inferInstanceAs (Decidable (a.getLast?.any Unicode.isWord → ¬b.head?.any Unicode.isWord))

section

variable {P : Text → Prop} [DecidablePred P]

instance (p : Char → Bool) (cs : Text) : Decidable (Skips p P cs) :=
  decidable_of_iff (∃ n ∈ List.range cs.length, (cs.take (n + 1)).all p ∧ P (cs.drop (n + 1))) <| by
    constructor
    · rintro ⟨n, hn, hs, hP⟩
      refine ⟨_, _, (List.take_append_drop (n + 1) cs).symm, List.all_eq_true.1 hs, ?_, hP⟩
      have := List.mem_range.1 hn
      rw [← List.length_pos_iff, List.length_take]
      omega
    · rintro ⟨s, t, rfl, hs, hne, hP⟩
      obtain ⟨c, s, rfl⟩ := List.exists_cons_of_ne_nil hne
      refine ⟨s.length, List.mem_range.2 (by simp), ?_, ?_⟩
      · rw [← List.length_cons (a := c), List.take_left]
        exact List.all_eq_true.2 hs
      · rwa [← List.length_cons (a := c), List.drop_left]

instance (cs : Text) : Decidable (Leads P cs) :=
  decidable_of_iff ((Text.dropWord? "where".toList cs).any (P ·)) <| by
    rw [Option.any_eq_true]
    constructor
    · rintro ⟨t, ht, hP⟩
      obtain ⟨w, hw, rfl⟩ := Text.dropWord?_eq_some_iff.1 ht
      exact ⟨w, t, rfl, hw, of_decide_eq_true hP⟩
    · rintro ⟨w, t, rfl, hw, hP⟩
      exact ⟨t, Text.dropWord?_eq_some_iff.2 ⟨w, hw, rfl⟩, decide_eq_true hP⟩

instance (cs : Text) : Decidable (Occurs P cs) :=
  decidable_of_iff (∃ n, n ≤ cs.length ∧ Bounded (cs.take n) (cs.drop n) ∧ P (cs.drop n)) <| by
    constructor
    · rintro ⟨n, -, hbound, hP⟩
      exact ⟨_, _, (List.take_append_drop n cs).symm, hbound, hP⟩
    · rintro ⟨a, b, rfl, hbound, hP⟩
      refine ⟨a.length, by simp, ?_⟩
      rw [List.take_left, List.drop_left]
      exact ⟨hbound, hP⟩

end

/-! What the readers of words find. -/

/-- The words that are looked for. -/
def soughtWords : List String := ["where", "and", "or", "order", "group", "by", "limit", "union"]

theorem isAlpha_of_sought {word : String} {w : Text} (hw : w.sameWord word.toList)
    (hword : word ∈ soughtWords) : w ≠ [] ∧ ∀ c ∈ w, c.isAlpha := by
  have hall : ∀ word ∈ soughtWords,
      word.toList ≠ [] ∧ word.toList.all (·.toLower.isAlpha) := by decide
  obtain ⟨hne, halpha⟩ := hall word hword
  refine ⟨?_, fun c => isAlpha_of_sameWord hw (List.all_eq_true.1 halpha)⟩
  rintro rfl
  exact hne (List.eq_nil_of_length_eq_zero (Text.length_of_sameWord hw).symm)

variable {w s t a b cs : Text} {word : String}

theorem Starts.head (h : Starts word t) (hword : word ∈ soughtWords) :
    ∃ c u, t = c :: u ∧ c.isAlpha := by
  obtain ⟨w, b, rfl, hw, -⟩ := h
  obtain ⟨hne, halpha⟩ := isAlpha_of_sought hw hword
  obtain ⟨c, w, rfl⟩ := List.exists_cons_of_ne_nil hne
  exact ⟨c, w ++ b, rfl, halpha c List.mem_cons_self⟩

theorem isBlank_of_isAlpha {c : Char} (h : c.isAlpha) : Unicode.isBlank c = false :=
  Name.isBlank_of_isStart (isStart_of_isAlpha h)

theorem starts_iff : Starts word t ↔ (dropKeyword? word t).isSome := by
  constructor
  · rintro ⟨w, b, rfl, hw, hb⟩
    have hdrop : Text.dropWord? word.toList (w ++ b) = some b :=
      Text.dropWord?_eq_some_iff.2 ⟨w, hw, rfl⟩
    simp [dropKeyword?, hdrop, hb]
  · intro h
    obtain ⟨rest, hrest⟩ := Option.isSome_iff_exists.1 h
    obtain ⟨w, hw, rfl, hstop⟩ := dropKeyword?_eq_some hrest
    exact ⟨w, rest, rfl, hw, hstop⟩

instance : Decidable (Starts word t) := decidable_of_iff _ starts_iff.symm

instance (t : Text) : Decidable (Connects t) := inferInstanceAs (Decidable (_ ∨ _))

theorem blanks?_append (hs : ∀ c ∈ s, Unicode.isBlank c) (hne : s ≠ [])
    (ht : ∀ c, t.head? = some c → Unicode.isBlank c = false) : blanks? (s ++ t) = some t := by
  obtain ⟨c, s, rfl⟩ := List.exists_cons_of_ne_nil hne
  obtain ⟨hc, hs⟩ := List.forall_mem_cons.1 hs
  rw [List.cons_append, blanks?, if_pos hc, Text.skipBlanks_append hs ht]

theorem OpensClause.head (h : OpensClause t) :
    ∃ c u, t = c :: u ∧ (c.isAlpha ∨ c = ')') := by
  have hstarts : ∀ {word t}, Starts word t → word ∈ soughtWords →
      ∃ c u, t = c :: u ∧ (c.isAlpha ∨ c = ')') := fun h hword =>
    let ⟨c, u, ht, hc⟩ := h.head hword
    ⟨c, u, ht, Or.inl hc⟩
  cases h with
  | parenthesis t => exact ⟨')', t, rfl, Or.inr rfl⟩
  | limit h => exact hstarts h (by decide)
  | union h => exact hstarts h (by decide)
  | @ordering w s t hw =>
    have hword : w ≠ [] ∧ ∀ c ∈ w, c.isAlpha :=
      hw.elim (isAlpha_of_sought · (by decide)) (isAlpha_of_sought · (by decide))
    obtain ⟨c, w, rfl⟩ := List.exists_cons_of_ne_nil hword.1
    exact ⟨c, w ++ (s ++ t), rfl, Or.inl (hword.2 c List.mem_cons_self)⟩

/-- What can stand behind a `where` that is repaired starts with no blank. -/
theorem exists_of_followed (h : Connects t ∨ OpensClause t) :
    ∃ c u, t = c :: u ∧ Unicode.isBlank c = false := by
  have hstarts : ∀ {word}, Starts word t → word ∈ soughtWords →
      ∃ c u, t = c :: u ∧ Unicode.isBlank c = false := fun h hword =>
    let ⟨c, u, ht, hc⟩ := h.head hword
    ⟨c, u, ht, isBlank_of_isAlpha hc⟩
  rcases h with (h | h) | h
  · exact hstarts h (by decide)
  · exact hstarts h (by decide)
  · obtain ⟨c, u, rfl, hc | rfl⟩ := h.head
    · exact ⟨c, u, rfl, isBlank_of_isAlpha hc⟩
    · exact ⟨')', u, rfl, by decide⟩

theorem head_of_followed (h : Connects t ∨ OpensClause t) :
    ∀ c, t.head? = some c → Unicode.isBlank c = false := by
  obtain ⟨c, u, rfl, hc⟩ := exists_of_followed h
  rintro d hd
  obtain rfl := Option.some.inj hd
  exact hc

theorem startsOrdering_iff : startsOrdering word t ↔ ∃ w s u, t = w ++ (s ++ u) ∧
    w.sameWord word.toList ∧ (∀ c ∈ s, Unicode.isBlank c) ∧ s ≠ [] ∧ Starts "by" u := by
  rw [startsOrdering, Option.any_eq_true]
  constructor
  · rintro ⟨rest, hrest, hby⟩
    obtain ⟨r, hr, hblanks⟩ := Option.bind_eq_some_iff.1 hrest
    obtain ⟨w, hw, rfl⟩ := Text.dropWord?_eq_some_iff.1 hr
    obtain ⟨s, hne, hs, rfl⟩ := blanks?_eq_some hblanks
    exact ⟨w, s, rest, rfl, hw, hs, hne, starts_iff.2 hby⟩
  · rintro ⟨w, s, u, rfl, hw, hs, hne, hby⟩
    have hhead : ∀ c, u.head? = some c → Unicode.isBlank c = false := by
      obtain ⟨c, v, rfl, hc⟩ := hby.head (by decide)
      rintro d hd
      obtain rfl := Option.some.inj hd
      exact isBlank_of_isAlpha hc
    exact ⟨u, Option.bind_eq_some_iff.2 ⟨s ++ u, Text.dropWord?_eq_some_iff.2 ⟨w, hw, rfl⟩,
      blanks?_append hs hne hhead⟩, starts_iff.1 hby⟩

theorem startsClause_iff : startsClause t ↔ OpensClause t := by
  have hordering : ∀ {w}, w = "order" ∨ w = "group" → startsOrdering w t → OpensClause t := by
    rintro w hword h
    obtain ⟨v, s, u, rfl, hv, hs, hne, hby⟩ := startsOrdering_iff.1 h
    rcases hword with rfl | rfl
    · exact .ordering (Or.inl hv) hs hne hby
    · exact .ordering (Or.inr hv) hs hne hby
  simp only [startsClause, Bool.or_eq_true]
  constructor
  · rintro ((((h | h) | h) | h) | h)
    · exact hordering (Or.inl rfl) h
    · exact hordering (Or.inr rfl) h
    · exact .limit (starts_iff.2 h)
    · exact .union (starts_iff.2 h)
    · obtain ⟨rest, hrest⟩ := Option.isSome_iff_exists.1 h
      rw [Text.eq_append_of_dropFront? hrest]
      exact .parenthesis rest
  · intro h
    cases h with
    | parenthesis t => exact Or.inr rfl
    | limit h => exact Or.inl (Or.inl (Or.inr (starts_iff.1 h)))
    | union h => exact Or.inl (Or.inr (starts_iff.1 h))
    | @ordering w s u hw hs hne h =>
      refine Or.inl (Or.inl (Or.inl (hw.imp (fun hw => ?_) fun hw => ?_)))
      · exact startsOrdering_iff.2 ⟨w, s, u, rfl, hw, hs, hne, h⟩
      · exact startsOrdering_iff.2 ⟨w, s, u, rfl, hw, hs, hne, h⟩

/-- A `where`, a connective behind it, and the blanks behind each of them. -/
structure Link (w s k s' rest : Text) : Prop where
  keyword : w.sameWord "where".toList
  blanks : ∀ c ∈ s, Unicode.isBlank c
  ne_nil : s ≠ []
  connective : k.sameWord "and".toList ∨ k.sameWord "or".toList
  ends : ¬(s' ++ rest).head?.any Unicode.isWord
  blanksBehind : ∀ c ∈ s', Unicode.isBlank c
  stop : ¬rest.head?.any Unicode.isBlank

theorem take_where (hw : w.sameWord "where".toList) (t : Text) : (w ++ t).take 5 = w := by
  rw [show 5 = w.length from (Text.length_of_sameWord hw).symm, List.take_left]

theorem exists_link {u : Text} {n : Nat} (h : whereConnective cs = some (u, n)) :
    ∃ w s k s' rest, Link w s k s' rest ∧ cs = w ++ (s ++ (k ++ (s' ++ rest))) ∧
      u = w ++ [' '] ∧ n = (w ++ (s ++ (k ++ s'))).length := by
  obtain ⟨cs', hdrop, h⟩ := Option.bind_eq_some_iff.1 h
  obtain ⟨rest, hrest, h⟩ := Option.bind_eq_some_iff.1 h
  obtain ⟨rfl, rfl⟩ := Prod.mk.inj (Option.some.inj h)
  obtain ⟨w, hw, rfl⟩ := Text.dropWord?_eq_some_iff.1 hdrop
  obtain ⟨t, hblanks, hrest⟩ := Option.bind_eq_some_iff.1 hrest
  obtain ⟨r, hr, hrest⟩ := Option.bind_eq_some_iff.1 hrest
  obtain rfl := Option.some.inj hrest
  obtain ⟨s, hne, hs, rfl⟩ := blanks?_eq_some hblanks
  obtain ⟨k, hk, rfl, hends⟩ : ∃ k : Text, (k.sameWord "and".toList ∨ k.sameWord "or".toList) ∧
      t = k ++ r ∧ ¬r.head?.any Unicode.isWord := by
    have hor : dropKeyword? "and" t = some r ∨ dropKeyword? "or" t = some r := by
      cases hand : dropKeyword? "and" t with
      | some r' => exact Or.inl (by simpa [hand] using hr)
      | none => exact Or.inr (by simpa [hand] using hr)
    rcases hor with h | h
    · obtain ⟨k, hk, ht, hends⟩ := dropKeyword?_eq_some h
      exact ⟨k, Or.inl hk, ht, hends⟩
    · obtain ⟨k, hk, ht, hends⟩ := dropKeyword?_eq_some h
      exact ⟨k, Or.inr hk, ht, hends⟩
  obtain ⟨s', hs', hr'⟩ := Text.exists_skipBlanks r
  have hstop : ¬(Text.skipBlanks r).head?.any Unicode.isBlank :=
    Text.head?_dropWhile Unicode.isBlank r
  generalize Text.skipBlanks r = rest at hr' hstop ⊢
  subst hr'
  refine ⟨w, s, k, s', rest, ⟨hw, hs, hne, hk, hends, hs', hstop⟩, rfl, ?_, ?_⟩
  · rw [take_where hw]
  · simp only [List.length_append]
    omega

theorem exists_of_whereClause {u : Text} {n : Nat} (h : whereClause cs = some (u, n)) :
    ∃ w s b, cs = w ++ (s ++ b) ∧ w.sameWord "where".toList ∧ (∀ c ∈ s, Unicode.isBlank c) ∧
      s ≠ [] ∧ OpensClause b ∧ u = [] ∧ n = (w ++ s).length := by
  obtain ⟨cs', hdrop, h⟩ := Option.bind_eq_some_iff.1 h
  obtain ⟨b, hb, h⟩ := Option.bind_eq_some_iff.1 h
  split at h
  · rename_i hclause
    obtain ⟨rfl, rfl⟩ := Prod.mk.inj (Option.some.inj h)
    obtain ⟨w, hw, rfl⟩ := Text.dropWord?_eq_some_iff.1 hdrop
    obtain ⟨s, hne, hs, rfl⟩ := blanks?_eq_some hb
    refine ⟨w, s, b, rfl, hw, hs, hne, startsClause_iff.1 hclause, rfl, ?_⟩
    simp only [List.length_append]
    omega
  · cases h

theorem Link.connects {k s' rest : Text} (h : Link w s k s' rest) :
    Connects (k ++ (s' ++ rest)) :=
  h.connective.imp (fun hk => ⟨k, _, rfl, hk, h.ends⟩) fun hk => ⟨k, _, rfl, hk, h.ends⟩

theorem whereConnective_isSome_iff :
    (whereConnective cs).isSome ↔ Leads (Spaces Connects) cs := by
  constructor
  · intro h
    obtain ⟨⟨put, n⟩, h⟩ := Option.isSome_iff_exists.1 h
    obtain ⟨w, s, k, s', rest, hlink, rfl, -, -⟩ := exists_link h
    exact ⟨w, _, rfl, hlink.keyword, s, _, rfl, hlink.blanks, hlink.ne_nil, hlink.connects⟩
  · rintro ⟨w, _, rfl, hw, s, t, rfl, hs, hne, h⟩
    have hdrop : Text.dropWord? "where".toList (w ++ (s ++ t)) = some (s ++ t) :=
      Text.dropWord?_eq_some_iff.2 ⟨w, hw, rfl⟩
    have hblanks : blanks? (s ++ t) = some t :=
      blanks?_append hs hne (head_of_followed (Or.inl h))
    obtain ⟨r, hr⟩ :
        ∃ r, (dropKeyword? "and" t).orElse (fun _ => dropKeyword? "or" t) = some r := by
      cases hand : dropKeyword? "and" t with
      | some r => exact ⟨r, rfl⟩
      | none =>
        have hor := h.resolve_left fun h => by simpa [hand] using starts_iff.1 h
        exact Option.isSome_iff_exists.1 (starts_iff.1 hor)
    have hconnective : connective? (s ++ t) = some (Text.skipBlanks r) :=
      Option.bind_eq_some_iff.2 ⟨t, hblanks, Option.bind_eq_some_iff.2 ⟨r, hr, rfl⟩⟩
    exact Option.isSome_iff_exists.2
      ⟨_, Option.bind_eq_some_iff.2 ⟨_, hdrop, Option.bind_eq_some_iff.2 ⟨_, hconnective, rfl⟩⟩⟩

theorem whereClause_isSome_iff : (whereClause cs).isSome ↔ Leads (Spaces OpensClause) cs := by
  constructor
  · intro h
    obtain ⟨⟨put, n⟩, h⟩ := Option.isSome_iff_exists.1 h
    obtain ⟨w, s, b, rfl, hw, hs, hne, hb, -, -⟩ := exists_of_whereClause h
    exact ⟨w, _, rfl, hw, s, b, rfl, hs, hne, hb⟩
  · rintro ⟨w, _, rfl, hw, s, t, rfl, hs, hne, h⟩
    have hdrop : Text.dropWord? "where".toList (w ++ (s ++ t)) = some (s ++ t) :=
      Text.dropWord?_eq_some_iff.2 ⟨w, hw, rfl⟩
    have hblanks : blanks? (s ++ t) = some t :=
      blanks?_append hs hne (head_of_followed (Or.inr h))
    exact Option.isSome_iff_exists.2 ⟨_, Option.bind_eq_some_iff.2 ⟨_, hdrop,
      Option.bind_eq_some_iff.2 ⟨_, hblanks, if_pos (startsClause_iff.2 h)⟩⟩⟩

/-- A comma with only blanks between it and a `where` is dropped. -/
def whereComma : Edit
  | [] => none
  | c :: cs =>
    if c = ',' && (dropKeyword? "where" (Text.skipBlanks cs)).isSome then some ([], 1) else none

theorem reaches_iff : Reaches cs ↔ (dropKeyword? "where" (Text.skipBlanks cs)).isSome := by
  rw [← starts_iff]
  constructor
  · rintro ⟨s, t, rfl, hs, h⟩
    obtain ⟨c, u, rfl, hc⟩ := h.head (by decide)
    rwa [Text.skipBlanks_append hs]
    rintro d hd
    obtain rfl := Option.some.inj hd
    exact isBlank_of_isAlpha hc
  · intro h
    obtain ⟨s, hs, hcs⟩ := Text.exists_skipBlanks cs
    exact ⟨s, _, hcs, hs, h⟩

instance (cs : Text) : Decidable (Reaches cs) := decidable_of_iff _ reaches_iff.symm

theorem whereComma_cons (c : Char) (cs : Text) :
    (c = ',' ∧ Reaches cs ∧ whereComma (c :: cs) = some ([], 1)) ∨
      ¬(c = ',' ∧ Reaches cs) ∧ whereComma (c :: cs) = none := by
  by_cases h : c = ',' ∧ Reaches cs
  · exact Or.inl ⟨h.1, h.2, if_pos (by simpa using ⟨h.1, reaches_iff.1 h.2⟩)⟩
  · exact Or.inr ⟨h, if_neg (by simpa [reaches_iff] using h)⟩

theorem whereComma_isSome_iff : (whereComma cs).isSome ↔ ∃ t, cs = ',' :: t ∧ Reaches t := by
  cases cs with
  | nil => simp [whereComma]
  | cons c cs =>
    rcases whereComma_cons c cs with ⟨rfl, h, hedit⟩ | ⟨hnot, hedit⟩
    · simpa [hedit] using h
    · simpa [hedit] using hnot

theorem dropCommas_cons {c : Char} : dropCommas (c :: cs) =
    if (whereComma (c :: cs)).isSome then dropCommas cs else c :: dropCommas cs := by
  rw [dropCommas, whereComma]
  split <;> simp

/-! Where words end. -/

theorem not_blank_of_head? (h : t.head?.any Unicode.isWord) : ¬t.head?.any Unicode.isBlank := by
  intro hblank
  obtain ⟨c, hc, hcblank⟩ := (Option.any_eq_true _ _).1 hblank
  rw [hc, Option.any_some, isWord_of_isBlank hcblank] at h
  cases h

theorem not_head?_isWord_of_blank (hs : ∀ c ∈ s, Unicode.isBlank c) :
    ¬s.head?.any Unicode.isWord := by
  intro hword
  obtain ⟨c, hc, -⟩ := (Option.any_eq_true _ _).1 hword
  refine not_blank_of_head? hword ?_
  rw [hc]
  exact hs c (List.mem_of_head? hc)

theorem bounded_nil (b : Text) : Bounded [] b := fun h => by cases h

theorem bounded_cons {c : Char} (hc : Unicode.isWord c = false) (a b : Text) :
    Bounded a (c :: b) := fun _ => by simp [hc]

theorem Bounded.of_append {x : Text} (h : Bounded (x ++ a) b) : Bounded a b := by
  cases a with
  | nil => exact bounded_nil b
  | cons c a => rwa [Bounded, List.getLast?_append_of_ne_nil _ (List.cons_ne_nil c a)] at h

theorem Bounded.append {x : Text} (h : Bounded a b) (hx : a = [] → Bounded x b) :
    Bounded (x ++ a) b := by
  cases a with
  | nil => simpa using hx rfl
  | cons c a => rwa [Bounded, List.getLast?_append_of_ne_nil _ (List.cons_ne_nil c a)]

theorem bounded_blanks (hs : ∀ c ∈ s, Unicode.isBlank c) (b : Text) : Bounded s b := by
  intro hlast
  obtain ⟨c, hc, hword⟩ := (Option.any_eq_true _ _).1 hlast
  rw [isWord_of_isBlank (hs c (List.mem_of_getLast? hc))] at hword
  cases hword

/-- No word runs over a place inside of a word. -/
theorem not_bounded_word (ha : ∀ c ∈ a, Unicode.isWord c) (hne : a ≠ [])
    (hb : b.head?.any Unicode.isWord) : ¬Bounded a b := by
  intro h
  refine h ?_ hb
  rw [List.getLast?_eq_getLast_of_ne_nil hne]
  exact ha _ (List.getLast_mem hne)

/-! The passes. -/

/-- A pass of an edit over a text, word by word. -/
inductive Pass (edit : Edit) : Text → Text → Prop
  | nil : Pass edit [] []
  | word {w cs out : Text} (hne : w ≠ []) (hw : ∀ c ∈ w, Unicode.isWord c)
    (hstop : ¬cs.head?.any Unicode.isWord) (h : edit (w ++ cs) = none) (more : Pass edit cs out) :
    Pass edit (w ++ cs) (w ++ out)
  | other {c : Char} {cs out : Text} (hc : Unicode.isWord c = false) (h : edit (c :: cs) = none)
    (more : Pass edit cs out) : Pass edit (c :: cs) (c :: out)
  | apply {old rest put out : Text} (hne : old ≠ []) (hbound : Bounded old rest)
    (h : edit (old ++ rest) = some (put, old.length)) (more : Pass edit rest out) :
    Pass edit (old ++ rest) (put ++ out)

/-- Whether an edit takes whole words, the first one from the start of a text. -/
def TakesWords (edit : Edit) : Prop := ∀ cs put n, edit cs = some (put, n) →
  ∃ old rest, cs = old ++ rest ∧ n = old.length ∧ old.head?.any Unicode.isWord ∧ Bounded old rest

theorem exists_word (cs : Text) : ∃ w rest : Text, cs = w ++ rest ∧ (∀ c ∈ w, Unicode.isWord c) ∧
    ¬rest.head?.any Unicode.isWord :=
  ⟨_, _, List.takeWhile_append_dropWhile.symm, fun _ => Text.mem_takeWhile,
    Text.head?_dropWhile Unicode.isWord cs⟩

theorem getLast?_cons_or (c : Char) (a : Text) (last : Option Char) :
    (c :: a).getLast?.or last = a.getLast?.or (some c) := by
  rw [List.getLast?_cons]
  cases a.getLast? <;> rfl

theorem editWords_taken (edit : Edit) (last : Option Char) (old rest : Text) :
    editWords edit last old.length (old ++ rest) =
      editWords edit (old.getLast?.or last) 0 rest := by
  induction old generalizing last with
  | nil => rfl
  | cons c old ih =>
    rw [List.length_cons, List.cons_append, editWords, ih, getLast?_cons_or]

/-- Inside a word nothing is edited. -/
theorem editWords_word {edit : Edit} {last : Option Char} (hlast : last.any Unicode.isWord)
    (hw : ∀ c ∈ w, Unicode.isWord c) (rest : Text) :
    editWords edit last 0 (w ++ rest) = w ++ editWords edit (w.getLast?.or last) 0 rest := by
  induction w generalizing last with
  | nil => rfl
  | cons c w ih =>
    obtain ⟨hc, hw⟩ := List.forall_mem_cons.1 hw
    rw [List.cons_append, editWords, if_pos hlast, getLast?_cons_or]
    exact congrArg (c :: ·) (ih (show (some c).any Unicode.isWord from hc) hw)

/-! What is done at a place that no word runs over. -/

section

variable {edit : Edit} {last : Option Char} {c : Char} {old rest put : Text}

theorem editWords_kept (hfree : ¬last.any Unicode.isWord) (hc : Unicode.isWord c)
    (hw : ∀ c ∈ w, Unicode.isWord c) (hedit : edit (c :: (w ++ rest)) = none) :
    editWords edit last 0 (c :: (w ++ rest)) =
      c :: w ++ editWords edit (w.getLast?.or (some c)) 0 rest := by
  have hlast : (some c).any Unicode.isWord := hc
  rw [editWords, if_neg hfree, hedit]
  exact congrArg (c :: ·) (editWords_word hlast hw rest)

theorem editWords_edited (hfree : ¬last.any Unicode.isWord)
    (hedit : edit (c :: (old ++ rest)) = some (put, (c :: old).length)) :
    editWords edit last 0 (c :: (old ++ rest)) =
      put ++ editWords edit ((c :: old).getLast?.or last) 0 rest := by
  rw [editWords, if_neg hfree, hedit, getLast?_cons_or]
  exact congrArg _ (editWords_taken edit (some c) old rest)

theorem TakesWords.eq_none (htakes : TakesWords edit) (hc : ¬Unicode.isWord c) (cs : Text) :
    edit (c :: cs) = none := by
  cases hedit : edit (c :: cs) with
  | none => rfl
  | some edited =>
    obtain ⟨old, rest, heq, -, hold, -⟩ := htakes _ _ _ hedit
    cases old with
    | nil => cases hold
    | cons d old =>
      obtain ⟨rfl, rfl⟩ := List.cons.inj heq
      exact absurd hold hc

end

/-- Going over a text character by character is a pass over its words. -/
theorem pass_editWords {edit : Edit} (htakes : TakesWords edit) (last : Option Char) (cs : Text)
    (hlast : last.any Unicode.isWord → ¬cs.head?.any Unicode.isWord) :
    Pass edit cs (editWords edit last 0 cs) := by
  induction hn : cs.length using Nat.strong_induction_on generalizing last cs with
  | _ n ih =>
    subst hn
    cases cs with
    | nil =>
      rw [editWords]
      exact .nil
    | cons c cs =>
      by_cases hc : Unicode.isWord c
      · have hfree : ¬last.any Unicode.isWord := fun h => hlast h hc
        cases hedit : edit (c :: cs) with
        | none =>
          obtain ⟨w, rest, rfl, hw, hstop⟩ := exists_word cs
          rw [editWords_kept hfree hc hw hedit]
          refine .word (List.cons_ne_nil c w) (List.forall_mem_cons.2 ⟨hc, hw⟩) hstop hedit ?_
          exact ih _ (by simp) _ rest (fun _ => hstop) rfl
        | some edited =>
          obtain ⟨put, n⟩ := edited
          obtain ⟨old, rest, heq, rfl, hold, hbound⟩ := htakes _ _ _ hedit
          cases old with
          | nil => cases hold
          | cons d old =>
            obtain ⟨rfl, hcs : cs = old ++ rest⟩ := List.cons.inj heq
            subst hcs
            rw [editWords_edited hfree hedit]
            refine .apply (List.cons_ne_nil c old) hbound hedit (ih _ (by simp) _ rest ?_ rfl)
            rw [List.getLast?_cons, Option.some_or, ← List.getLast?_cons]
            exact hbound
      · have hnone := htakes.eq_none hc cs
        rw [editWords, hnone, ite_self]
        exact .other (by simpa using hc) hnone (ih _ (Nat.lt_succ_self _) _ _ (absurd · hc) rfl)

theorem dropCommas_word (hw : ∀ c ∈ w, Unicode.isWord c) (rest : Text) :
    dropCommas (w ++ rest) = w ++ dropCommas rest := by
  induction w with
  | nil => rfl
  | cons c w ih =>
    obtain ⟨hc, hw⟩ := List.forall_mem_cons.1 hw
    have hcomma : c ≠ ',' := by
      rintro rfl
      cases hc
    rw [List.cons_append, dropCommas, if_neg (by simp [hcomma]), ih hw]
    rfl

theorem pass_dropCommas (t : Text) : Pass whereComma t (dropCommas t) := by
  induction hn : t.length using Nat.strong_induction_on generalizing t with
  | _ n ih =>
    subst hn
    cases t with
    | nil => exact .nil
    | cons c cs =>
      rcases whereComma_cons c cs with ⟨rfl, hreaches, hedit⟩ | ⟨hnot, hedit⟩
      · rw [dropCommas_cons, hedit]
        exact .apply (List.cons_ne_nil ',' []) (fun h => by cases h) hedit
          (ih _ (Nat.lt_succ_self _) cs rfl)
      · by_cases hc : Unicode.isWord c
        · obtain ⟨w, rest, rfl, hw, hstop⟩ := exists_word cs
          have hall : ∀ d ∈ c :: w, Unicode.isWord d := List.forall_mem_cons.2 ⟨hc, hw⟩
          rw [← List.cons_append, dropCommas_word hall]
          exact .word (List.cons_ne_nil c w) hall hstop hedit (ih _ (by simp) rest rfl)
        · rw [dropCommas_cons, hedit]
          exact .other (by simpa using hc) hedit (ih _ (Nat.lt_succ_self _) cs rfl)

theorem head?_any_of_sought (hw : w.sameWord word.toList) (hword : word ∈ soughtWords) (t : Text) :
    (w ++ t).head?.any Unicode.isWord := by
  obtain ⟨hne, halpha⟩ := isAlpha_of_sought hw hword
  obtain ⟨c, w, rfl⟩ := List.exists_cons_of_ne_nil hne
  exact isWord_of_isPart (Name.isPart_of_isStart
    (isStart_of_isAlpha (halpha c List.mem_cons_self)))

theorem bounded_word_iff (hw : w.sameWord "where".toList) :
    Bounded a (w ++ b) ↔ ¬a.getLast?.any Unicode.isWord :=
  ⟨fun h hlast => h hlast (head?_any_of_sought hw (by decide) b), fun h hlast => absurd hlast h⟩

theorem takesWords_whereConnective : TakesWords whereConnective := by
  intro cs put n h
  obtain ⟨w, s, k, s', rest, hlink, rfl, -, rfl⟩ := exists_link h
  refine ⟨w ++ (s ++ (k ++ s')), rest, by simp, rfl, ?_, ?_⟩
  · exact head?_any_of_sought hlink.keyword (by decide) _
  · rw [← List.append_assoc, ← List.append_assoc]
    refine (bounded_blanks hlink.blanksBehind rest).append ?_
    rintro rfl -
    exact hlink.ends

theorem takesWords_whereClause : TakesWords whereClause := by
  intro cs put n h
  obtain ⟨w, s, b, rfl, hw, hs, hne, -, -, rfl⟩ := exists_of_whereClause h
  exact ⟨w ++ s, b, by simp, rfl, head?_any_of_sought hw (by decide) s,
    (bounded_blanks hs b).append (absurd · hne)⟩

theorem passes_plain (t : Text) : ∃ u v, Pass whereComma t u ∧ Pass whereConnective u v ∧
    Pass whereClause v (plain t) :=
  ⟨_, _, pass_dropCommas t,
    pass_editWords takesWords_whereConnective none _ (fun h => by cases h),
    pass_editWords takesWords_whereClause none _ (fun h => by cases h)⟩

end Cleanup

end SqlTemplate
