import SqlTemplate.Proofs.Seam
import SqlTemplate.Proofs.Tokens

/-!
Deleting a token from plain text.  The text that is left has the other tokens, if nothing is read in
it over the place where the token stood.
-/
namespace SqlTemplate

open Parameter (Straddled placeholderEnd? tokenEnd?)

namespace Placeholder

variable {p : Placeholder} {a b m s w x z : Text}

/-- Text without an open placeholder has none that ends behind it. -/
theorem Braced.not_straddled (h : Braced a) (hb : b.head? ≠ some '\x7b') :
    ¬Straddled placeholderEnd? a b := by
  rintro ⟨v, rest, hv, hne, hread, hlt⟩
  obtain ⟨⟨p, r⟩, hsome, rfl⟩ := Option.map_eq_some_iff.1 hread
  obtain ⟨w, hw, hwritten, -⟩ := read?_change hsome
  obtain ⟨t, rfl, -⟩ := hwritten.mem_tail
  match v with
  | [] => exact hne rfl
  | [c] =>
    obtain ⟨-, rfl⟩ := List.cons.inj hw
    exact hb rfl
  | c :: d :: v =>
    simp only [List.cons_append, List.cons.injEq] at hw
    obtain ⟨rfl, rfl, -⟩ := hw
    obtain ⟨⟨q, r'⟩, hself⟩ := Option.isSome_iff_exists.1 (h _ hv ⟨v, rfl⟩)
    obtain ⟨u, hu, -, hchange⟩ := read?_change hself
    rw [hu, List.append_assoc, hchange] at hsome
    obtain ⟨-, rfl⟩ := Prod.mk.inj (Option.some.inj hsome)
    simp at hlt

theorem Braced.of_append (h : Braced (a ++ b)) (hover : ¬Straddled placeholderEnd? a b) :
    Braced a := by
  rintro w ⟨u, rfl⟩ hopen
  rw [← Option.ne_none_iff_isSome]
  intro hnone
  have hne : w ≠ [] := by
    rintro rfl
    simp at hopen
  have hsuffix : ¬Straddled placeholderEnd? w b := by
    rintro ⟨v, r, hv, hread⟩
    exact hover ⟨v, r, hv.trans (List.suffix_append u w), hread⟩
  have hsome := h (w ++ b) ⟨u, by simp⟩ (hopen.trans (List.prefix_append w b))
  simp [Cleanup.read?_append_eq_none hsuffix hne hnone] at hsome

theorem Braced.append (ha : Braced a) (hb : Braced b) (hhead : '$' ∈ a → b.head? ≠ some '\x7b') :
    Braced (a ++ b) := by
  intro w hw hopen
  rcases Text.suffix_append_cases hw with hw | ⟨v, hv, hne, rfl⟩
  · exact hb w hw hopen
  match v with
  | [] => exact absurd rfl hne
  | [c] =>
    obtain ⟨t, ht⟩ := hopen
    obtain ⟨rfl, rfl⟩ := List.cons.inj ht
    exact absurd rfl (hhead (hv.subset List.mem_cons_self))
  | c :: d :: v =>
    obtain ⟨t, ht⟩ := hopen
    simp only [List.cons_append, List.cons.injEq] at ht
    obtain ⟨rfl, rfl, -⟩ := ht
    obtain ⟨⟨q, r⟩, hself⟩ := Option.isSome_iff_exists.1 (ha _ hv ⟨v, rfl⟩)
    obtain ⟨u, hu, -, hchange⟩ := read?_change hself
    rw [hu, List.append_assoc, hchange]
    rfl

theorem Written.exists_parts (h : Written p w) :
    ∃ front name back, w = front ++ (name ++ back) ∧ (∀ c ∈ front, Name.isPart c = false) ∧
      Name.IsName name ∧ ∀ c ∈ back, Unicode.isBlank c ∨ c = '\x7d' := by
  cases h with
  | @intro mark name a b c hname ha hb hc =>
    refine ⟨'$' :: '\x7b' :: (a ++ (mark.text ++ b)), name, c ++ ['\x7d'], by simp, ?_, hname, ?_⟩
    · have hblank : ∀ {x}, Unicode.isBlank x → Name.isPart x = false :=
        Unicode.eq_false_of_isBlank (by decide)
      simp only [List.mem_cons, List.mem_append]
      rintro x (rfl | rfl | hx | hx | hx)
      · rfl
      · rfl
      · exact hblank (ha x hx)
      · cases mark <;> simp [Mark.text] at hx <;> subst hx <;> rfl
      · exact hblank (hb x hx)
    · simp only [List.mem_append, List.mem_singleton]
      exact fun x hx => hx.imp_left (hc x)

/-- In a placeholder, only its end stands behind a name and blanks. -/
theorem Written.blank_or_brace {n e : Char} (h : Written p (x ++ n :: (s ++ e :: z)))
    (hn : Name.isPart n) (hne : s ≠ []) (hs : ∀ c ∈ s, Unicode.isBlank c) :
    Unicode.isBlank e ∨ e = '\x7d' := by
  obtain ⟨front, name, back, heq, hfront, hname, hback⟩ := h.exists_parts
  obtain ⟨y, hy⟩ : ∃ y, name ++ back = y ++ n :: (s ++ e :: z) := by
    rcases List.append_eq_append_iff.1 heq with ⟨y, rfl, hy⟩ | ⟨y, -, hy⟩
    · cases y with
      | nil => exact ⟨[], hy.symm⟩
      | cons c y =>
        obtain ⟨rfl, -⟩ := List.cons.inj hy
        simp [hfront n (by simp)] at hn
    · exact ⟨y, hy⟩
  refine hback e ?_
  have hy' : name ++ back = y ++ [n] ++ (s ++ e :: z) := by rw [hy]; simp
  rcases List.append_eq_append_iff.1 hy' with ⟨u, -, rfl⟩ | ⟨u, rfl, hu⟩
  · simp
  · -- the first blank is no character of the name
    obtain ⟨c, s, rfl⟩ := List.exists_cons_of_ne_nil hne
    cases u with
    | nil =>
      obtain rfl : c :: s ++ e :: z = back := hu
      simp
    | cons d u =>
      obtain ⟨rfl, -⟩ := List.cons.inj hu
      have hblank := hs c List.mem_cons_self
      rcases hname.mem (c := c) (by simp) with hpart | rfl
      · rw [Unicode.eq_false_of_isBlank (p := Name.isPart) (by decide) hblank] at hpart
        cases hpart
      · cases hblank

/-- No placeholder runs over a name, blanks, and what is not its end. -/
theorem not_straddled_of_fence {n e : Char} (hm : '}' ∉ m) (hfence : a ++ m = x ++ n :: s)
    (hn : Name.isPart n) (hne : s ≠ []) (hs : ∀ c ∈ s, Unicode.isBlank c)
    (he : Unicode.isBlank e = false) (hbrace : e ≠ '}') (z : Text) :
    ¬Straddled placeholderEnd? a (m ++ e :: z) := by
  intro hover
  obtain ⟨p, v, y, r, hv, heq, hlast, hw⟩ := hover.placeholder
  obtain ⟨z', rfl⟩ : ∃ z', y = m ++ e :: z' := by
    rcases List.append_eq_append_iff.1 heq with ⟨u, rfl, hu⟩ | ⟨u, rfl, -⟩
    · cases u with
      | nil => exact absurd (by simpa using hlast) hm
      | cons d u =>
        obtain ⟨rfl, -⟩ := List.cons.inj hu
        exact ⟨u, rfl⟩
    · exact absurd (List.mem_append_left u hlast) hm
  obtain ⟨x', hx'⟩ : ∃ x', '$' :: v ++ m = x' ++ n :: s := by
    obtain ⟨u, rfl⟩ := hv
    rw [List.append_assoc] at hfence
    rcases List.append_eq_append_iff.1 hfence with ⟨x', -, hx'⟩ | ⟨u', -, hu'⟩
    · exact ⟨x', hx'⟩
    · cases u' with
      | nil => exact ⟨[], hu'.symm⟩
      | cons d u' =>
        -- the placeholder does not start with a blank
        obtain ⟨-, rfl⟩ := List.cons.inj hu'
        exact absurd (by simp) (Text.notMem_of_blank hs (d := '$') (by decide))
  rw [← List.cons_append, ← List.append_assoc, hx', List.append_assoc] at hw
  rcases hw.blank_or_brace hn hne hs with h | h
  · simp [he] at h
  · exact hbrace h

/-- Text without a closing brace ends no placeholder. -/
theorem not_straddled_of_notMem (hb : '\x7d' ∉ b) : ¬Straddled placeholderEnd? a b := by
  intro hover
  obtain ⟨p, x, y, r, -, rfl, hlast, -⟩ := hover.placeholder
  exact hb (List.mem_append_left r hlast)

/-- No placeholder runs over what none can hold. -/
theorem not_straddled_cons {c : Char} (hblank : Unicode.isBlank c = false)
    (hpart : Name.isPart c = false) (hmark : c ∉ ['$', '\x7b', '\x7d', ':', '!', '.']) (b : Text) :
    ¬Straddled placeholderEnd? a (c :: b) := by
  intro hover
  obtain ⟨p, x, y, r, -, heq, hlast, hw⟩ := hover.placeholder
  obtain ⟨d, y, rfl⟩ := List.exists_cons_of_ne_nil (List.ne_nil_of_mem hlast)
  obtain ⟨rfl, -⟩ := List.cons.inj heq
  exact hw.notMem hblank hpart hmark (by simp)

end Placeholder

namespace Parameter

variable {a b u : Text}

/-- Where a name could go on with a name character and does not, it goes on with nothing else. -/
theorem not_straddled_token_change {sigil : Char} (h : ¬Straddled (tokenEnd? sigil) a u)
    (hu : u.head?.any Name.isStart) (b : Text) : ¬Straddled (tokenEnd? sigil) a b := by
  intro hover
  obtain ⟨x, y, r, hx, rfl, hy, hname⟩ := hover.token
  have hhead : (x ++ u).head?.any Name.isStart := by
    cases x with
    | nil => exact hu
    | cons c x =>
      obtain ⟨d, ds, hd, hstart⟩ := hname.head
      obtain ⟨rfl, -⟩ := List.cons.inj hd
      exact hstart
  cases hread : Name.read? (x ++ u) with
  | none => exact absurd hhead (Name.read?_eq_none_iff.1 hread)
  | some found =>
    obtain ⟨name, rest⟩ := found
    have hle : u.length ≤ rest.length := by
      by_contra hlt
      refine h ⟨sigil :: x, rest, hx, List.cons_ne_nil _ _, ?_, by omega⟩
      rw [List.cons_append, tokenEnd?, if_pos rfl, hread]
      rfl
    have hpart : u.head?.any Name.isPart := by
      cases u with
      | nil => cases hu
      | cons c u => exact Name.isPart_of_isStart hu
    obtain ⟨-, hstops⟩ := Name.read?_spec hread
    obtain ⟨v, rfl, rfl⟩ := Text.exists_of_append_eq (Name.read?_append hread).1 hle
    obtain ⟨hchange, hne⟩ := hstops.change hpart (y ++ r)
    rw [List.append_assoc] at hname
    rw [← List.append_assoc] at hchange
    have hnil := hname.eq_nil_of_stops hchange
    exact hne (List.append_eq_nil_iff.1 hnil).1

/-- No name starts behind a colon where none goes on. -/
theorem getLast?_ne_of_not_straddled {sigil : Char} (h : ¬Straddled (tokenEnd? sigil) a u)
    (hu : u.head?.any Name.isStart) : a.getLast? ≠ some sigil := by
  intro hlast
  obtain ⟨v, rfl⟩ := List.getLast?_eq_some_iff.1 hlast
  cases hread : Name.read? u with
  | none => exact absurd hu (Name.read?_eq_none_iff.1 hread)
  | some found =>
    refine h ⟨[sigil], found.2, List.suffix_append v _, List.cons_ne_nil _ _, ?_,
      Name.length_lt_of_read? hread⟩
    rw [List.singleton_append, tokenEnd?, if_pos rfl, hread]
    rfl

end Parameter

namespace Segment

theorem region?_blank {c : Char} (hc : Unicode.isBlank c) (t : Text) : region? (c :: t) = none := by
  rw [← Option.not_isSome_iff_eq_none, region?_isSome_iff]
  rintro ((h | h) | ⟨v, h⟩ | ⟨v, h⟩ | ⟨d, -, v, h⟩)
  · obtain rfl := Option.some.inj h
    cases hc
  · obtain rfl := Option.some.inj h
    cases hc
  · obtain ⟨rfl, -⟩ := List.cons.inj h
    cases hc
  · obtain ⟨rfl, -⟩ := List.cons.inj h
    cases hc
  · obtain ⟨rfl, -⟩ := List.cons.inj h
    cases hc

/-- Blanks in front of plain text open nothing. -/
theorem IsPlain.blanks_append {g t : Text} (ht : IsPlain t) (hg : ∀ c ∈ g, Unicode.isBlank c) :
    IsPlain (g ++ t) := by
  induction g with
  | nil => exact ht
  | cons c g ih =>
    intro w hw
    rcases List.suffix_cons_iff.1 hw with rfl | hw
    · exact region?_blank (hg c List.mem_cons_self) _
    · exact ih (fun d hd => hg d (List.mem_cons_of_mem c hd)) w hw

end Segment

namespace Cleanup

variable {a b g m s w : Text}

/-- Whether a dotted name has `where` as its last part, in any case of its letters. -/
def EndsInWhere (name : Text) : Prop :=
  ∃ x w : Text, name = x ++ w ∧ w.sameWord "where".toList ∧ x.getLast?.all (· == '.')

/-- Whether a plain text closes its placeholders and none of its parameters is named `where`. -/
structure Whole (t : Text) : Prop where
  plain : Segment.IsPlain t
  braced : Placeholder.Braced t
  names : ∀ name, Token.parameter name ∈ plainTokens t → ¬EndsInWhere name

/-- Whether deleting whole tokens of a text leaves another one, which is whole. -/
structure Deletes (t u : Text) : Prop where
  whole : Whole u
  drops : Drops (plainTokens t) (plainTokens u)

theorem Whole.deletes_refl {t : Text} (h : Whole t) : Deletes t t := ⟨h, .refl _⟩

theorem Deletes.trans {t u v : Text} (h : Deletes t u) (h' : Deletes u v) : Deletes t v :=
  ⟨h'.whole, h.drops.trans h'.drops⟩

/-- Characters that what is left behind a deleted token can start with: blanks, letters and closing
parentheses. -/
def isEdge (c : Char) : Bool := Unicode.isBlank c || c.isAlpha || c == ')'

theorem ne_of_isEdge {c d : Char} (h : isEdge c) (hd : isEdge d = false) : c ≠ d := by
  rintro rfl
  simp [h] at hd

/-- Cutting out what has only tokens that can be removed, and putting blanks there, deletes those
tokens and leaves the other ones, if nothing is read over the place. -/
theorem Whole.cut (h : Whole (a ++ (m ++ b))) (ham : Parted a (m ++ b)) (hmb : Parted m b)
    (hm : ∀ k ∈ plainTokens m, k.isRemovable) (hg : ∀ c ∈ g, Unicode.isBlank c)
    (hedge : (g ++ b).head?.all isEdge)
    (hparameter : ¬Straddled (tokenEnd? ':') a (g ++ b))
    (hword : a.getLast?.any Unicode.isWord → ¬(g ++ b).head?.any Unicode.isWord) :
    Deletes (a ++ (m ++ b)) (a ++ (g ++ b)) := by
  have hne : ∀ {d}, isEdge d = false → (g ++ b).head? ≠ some d := by
    intro d hd heq
    rw [heq] at hedge
    exact ne_of_isEdge hedge hd rfl
  have hdollar : '$' ∉ g := Text.notMem_of_blank hg (by decide)
  have ha : Placeholder.Braced a := h.braced.of_append ham.placeholder
  have hb : Placeholder.Braced b :=
    h.braced.suffix ((List.suffix_append m b).trans (List.suffix_append a _))
  have hgb : Placeholder.Braced (g ++ b) :=
    (Placeholder.braced_of_notMem hdollar).append hb fun hmem => absurd hmem hdollar
  have hparted : Parted a (g ++ b) :=
    ⟨ha.not_straddled (hne (by decide)), hparameter, hword⟩
  have hdrops : Drops (plainTokens (a ++ (m ++ b))) (plainTokens (a ++ (g ++ b))) := by
    rw [plainTokens_append ham, plainTokens_append hmb, plainTokens_append hparted,
      plainTokens_blanks hg]
    exact (Drops.refl _).append ((Drops.of_removable hm).append (Drops.refl _))
  refine ⟨⟨?_, ha.append hgb fun _ => hne (by decide), fun name hname =>
    h.names name (hdrops.subset hname)⟩, hdrops⟩
  have hplain : Segment.IsPlain (g ++ b) :=
    (h.plain.suffix ((List.suffix_append m b).trans (List.suffix_append a _))).blanks_append hg
  refine (h.plain.front (List.prefix_append a _)).append hplain fun d hd => ⟨?_, fun hstart => ?_⟩
  · simp only [List.mem_cons, List.not_mem_nil, or_false]
    rintro (rfl | rfl | rfl)
    · exact hne (by decide) hd
    · exact hne (by decide) hd
    · exact hne (by decide) hd
  · exact Parameter.getLast?_ne_of_not_straddled hparameter (by rw [hd]; exact hstart)

/-! What is cut out. -/

theorem stops_of_blank {t : Text} (h : t.head?.all Unicode.isBlank) :
    Name.Stops t ∧ ¬t.head?.any Unicode.isWord := by
  cases t with
  | nil => exact ⟨trivial, by simp⟩
  | cons c t =>
    have hc : Unicode.isBlank c := h
    refine ⟨⟨Unicode.eq_false_of_isBlank (by decide) hc, ?_⟩, by simp [isWord_of_isBlank hc]⟩
    rintro rfl
    cases hc

theorem head?_all_blank {t u : Text} (ht : ∀ c ∈ t, Unicode.isBlank c)
    (hu : t = [] → u.head?.all Unicode.isBlank) : (t ++ u).head?.all Unicode.isBlank := by
  cases t with
  | nil => exact hu rfl
  | cons c t => exact ht c List.mem_cons_self

theorem head?_all_of_blank {t : Text} (ht : ∀ c ∈ t, Unicode.isBlank c) :
    t.head?.all Unicode.isBlank := by
  simpa using head?_all_blank ht (u := []) fun _ => rfl

/-- Nothing is read over a place that is followed by a blank or by nothing. -/
theorem Whole.cut_blank (h : Whole (a ++ (m ++ b))) (ham : Parted a (m ++ b)) (hmb : Parted m b)
    (hm : ∀ k ∈ plainTokens m, k.isRemovable) (hg : ∀ c ∈ g, Unicode.isBlank c)
    (hblank : (g ++ b).head?.all Unicode.isBlank) : Deletes (a ++ (m ++ b)) (a ++ (g ++ b)) := by
  obtain ⟨hstops, hword⟩ := stops_of_blank hblank
  refine h.cut ham hmb hm hg ?_ (Parameter.not_straddled_token_of_stops hstops) fun _ => hword
  cases hhead : (g ++ b).head? with
  | none => rfl
  | some c =>
    have hc : Unicode.isBlank c := by rwa [hhead] at hblank
    simp [isEdge, hc]

theorem parted_of_notMem (hdollar : '$' ∉ a) (hcolon : ':' ∉ a)
    (hword : a.getLast?.any Unicode.isWord → ¬b.head?.any Unicode.isWord) : Parted a b where
  placeholder hover := by
    obtain ⟨p, x, y, r, hx, -⟩ := hover.placeholder
    exact hdollar (hx.subset List.mem_cons_self)
  parameter hover := by
    obtain ⟨x, y, r, hx, -⟩ := hover.token
    exact hcolon (hx.subset List.mem_cons_self)
  word := hword

theorem isAlpha_of_sameWord {word : Text} (h : w.sameWord word)
    (hword : ∀ c ∈ word, c.toLower.isAlpha) {c : Char} (hc : c ∈ w) : c.isAlpha := by
  have hmem : c.toLower ∈ Text.asciiLower word :=
    Text.sameWord_iff.1 h ▸ List.mem_map_of_mem hc
  obtain ⟨d, hd, hlower⟩ := List.mem_map.1 hmem
  have halpha := hlower ▸ hword d hd
  rw [Char.toLower] at halpha
  split at halpha
  · rename_i hupper
    rw [Char.isAlpha, Bool.or_eq_true]
    exact Or.inl (by simpa [Char.isUpper] using hupper)
  · exact halpha

/-- A word that is looked for, in any case of its letters. -/
structure IsKeyword (w : Text) : Prop where
  removable : (Token.word w).isRemovable
  ne_nil : w ≠ []
  isAlpha : ∀ c ∈ w, c.isAlpha

theorem isKeyword_of_sameWord {word : String} (h : w.sameWord word.toList)
    (hword : word ∈ removableWords) : IsKeyword w := by
  have hall : ∀ word ∈ removableWords,
      word.toList ≠ [] ∧ word.toList.all (·.toLower.isAlpha) := by decide
  obtain ⟨hne, halpha⟩ := hall word hword
  refine ⟨List.any_eq_true.2 ⟨word, hword, h⟩, ?_, fun c =>
    isAlpha_of_sameWord h (List.all_eq_true.1 halpha)⟩
  rintro rfl
  have hnil : word.toList = [] := by simpa [Text.sameWord, Text.asciiLower] using h
  exact hne hnil

theorem isStart_of_isAlpha {c : Char} (h : c.isAlpha) : Name.isStart c := by simp [Name.isStart, h]

namespace IsKeyword

variable (h : IsKeyword w)
include h

theorem isPart {c : Char} (hc : c ∈ w) : Name.isPart c :=
  Name.isPart_of_isStart (isStart_of_isAlpha (h.isAlpha c hc))

theorem isWord {c : Char} (hc : c ∈ w) : Unicode.isWord c := isWord_of_isPart (h.isPart hc)

theorem notMem {c : Char} (hc : c.isAlpha = false) : c ∉ w := fun hmem => by
  simp [h.isAlpha c hmem] at hc

theorem exists_cons : ∃ c w', w = c :: w' ∧ c.isAlpha := by
  obtain ⟨c, w', rfl⟩ := List.exists_cons_of_ne_nil h.ne_nil
  exact ⟨c, w', rfl, h.isAlpha c List.mem_cons_self⟩

/-- A keyword between blanks is one token. -/
theorem plainTokens_eq {s r : Text} (hs : ∀ c ∈ s, Unicode.isBlank c)
    (hr : ∀ c ∈ r, Unicode.isBlank c) : plainTokens (s ++ (w ++ r)) = [.word w] := by
  have hstop := (stops_of_blank (head?_all_of_blank hr)).2
  have hnil : plainTokens r = [] := by simpa using plainTokens_blanks hr []
  rw [plainTokens_blanks hs, plainTokens_word h.ne_nil (fun c => h.isWord) hstop, hnil]

/-- A keyword between blanks is parted from what stands behind it and is no word with it. -/
theorem parted {s r : Text} (hs : ∀ c ∈ s, Unicode.isBlank c) (hr : ∀ c ∈ r, Unicode.isBlank c)
    (hstop : r = [] → ¬b.head?.any Unicode.isWord) : Parted (s ++ (w ++ r)) b := by
  have hnot : ∀ {c}, Unicode.isBlank c = false → c.isAlpha = false → c ∉ s ++ (w ++ r) := by
    intro c hblank halpha hc
    rcases List.mem_append.1 hc with hc | hc
    · exact Text.notMem_of_blank hs hblank hc
    rcases List.mem_append.1 hc with hc | hc
    · exact h.notMem halpha hc
    · exact Text.notMem_of_blank hr hblank hc
  refine parted_of_notMem (hnot (by decide) (by decide)) (hnot (by decide) (by decide)) ?_
  intro hlast
  refine hstop ?_
  rcases List.eq_nil_or_concat r with hnil | ⟨t, c, hconcat⟩
  · exact hnil
  · have hc : Unicode.isBlank c := hr c (by simp [hconcat])
    rw [hconcat] at hlast
    simp [List.getLast?_append, isWord_of_isBlank hc] at hlast

/-- No placeholder ends in a keyword and blanks. -/
theorem brace_notMem {r : Text} (hr : ∀ c ∈ r, Unicode.isBlank c) : '\x7d' ∉ w ++ r := by
  intro hmem
  rcases List.mem_append.1 hmem with hmem | hmem
  · exact h.notMem (by decide) hmem
  · exact Text.notMem_of_blank hr (by decide) hmem

end IsKeyword

/-- Deleting a comma with a blank behind it. -/
theorem Whole.comma (h : Whole (a ++ ',' :: b)) (hb : b.head?.any Unicode.isBlank) :
    Deletes (a ++ ',' :: b) (a ++ b) := by
  have hblank : b.head?.all Unicode.isBlank := by
    cases b with
    | nil => cases hb
    | cons c b => exact hb
  have hfront : Parted a ([','] ++ b) :=
    ⟨Placeholder.not_straddled_cons (by decide) rfl (by decide) b,
      Parameter.not_straddled_token_of_stops ⟨rfl, by simp⟩, fun _ => by
        simp [show Unicode.isWord ',' = false from rfl]⟩
  have hbehind : Parted [','] b :=
    parted_of_notMem (by decide) (by decide) fun hlast => by cases hlast
  have htokens : plainTokens [','] = [.mark ','] := by decide +kernel
  refine h.cut_blank (m := [',']) (g := []) hfront hbehind ?_ (by simp) hblank
  rw [htokens]
  simp [Token.isRemovable]

/-- Deleting a connective behind a name character, with blanks between them. -/
theorem Whole.connective {s' : Text} (h : Whole (a ++ (s ++ (w ++ s') ++ b)))
    (ha : a.getLast?.any Name.isPart) (hs : ∀ c ∈ s, Unicode.isBlank c) (hne : s ≠ [])
    (hw : IsKeyword w) (hs' : ∀ c ∈ s', Unicode.isBlank c)
    (hstop : s' = [] → ¬b.head?.any Unicode.isWord) :
    Deletes (a ++ (s ++ (w ++ s') ++ b)) (a ++ ' ' :: b) := by
  have hblank : (s ++ (w ++ s') ++ b).head?.all Unicode.isBlank := by
    rw [List.append_assoc]
    exact head?_all_blank hs fun hnil => absurd hnil hne
  obtain ⟨hstops, hword⟩ := stops_of_blank hblank
  have hover : ¬Straddled placeholderEnd? a (s ++ (w ++ s') ++ b) := by
    obtain ⟨e, w, rfl, he⟩ := hw.exists_cons
    obtain ⟨x, n, rfl⟩ : ∃ x n, a = x ++ [n] := by
      rcases List.eq_nil_or_concat a with rfl | ⟨x, n, rfl⟩
      · cases ha
      · exact ⟨x, n, by simp⟩
    have hbrace : '\x7d' ∉ s := Text.notMem_of_blank hs (by decide)
    rw [List.append_assoc, List.cons_append, List.cons_append]
    refine Placeholder.not_straddled_of_fence hbrace (x := x) (n := n) (by simp)
      (by simpa using ha) hne hs (Name.isBlank_of_isStart (isStart_of_isAlpha he)) ?_ _
    rintro rfl
    cases he
  refine h.cut_blank (g := [' ']) ⟨hover, Parameter.not_straddled_token_of_stops hstops,
    fun _ => hword⟩ (hw.parted hs hs' hstop) ?_ (by simp [show Unicode.isBlank ' ' from rfl]) rfl
  rw [hw.plainTokens_eq hs hs']
  simpa using hw.removable

/-- No placeholder runs over a parameter that none behind it runs over. -/
theorem not_straddled_colon {u x : Text} (hx : '\x7d' ∉ x)
    (hover : ¬Straddled placeholderEnd? (u ++ ':' :: x) b) :
    ¬Straddled placeholderEnd? u (':' :: (x ++ b)) := by
  intro hopen
  obtain ⟨p, v, y, r, ⟨t, rfl⟩, heq, hlast, hw⟩ := hopen.placeholder
  have hcolon : '\x7d' ∉ ':' :: x := by simp [hx]
  rcases List.append_eq_append_iff.1 (show ':' :: x ++ b = y ++ r from heq) with
    ⟨z, rfl, rfl⟩ | ⟨z, hz, -⟩
  · by_cases hz : z = []
    · exact hcolon (by simpa [hz] using hlast)
    · refine hover ⟨'$' :: v ++ ':' :: x, r, ⟨t, by simp⟩, List.cons_ne_nil _ _, ?_, ?_⟩
      · have hread := hw.read? r
        simp only [List.append_assoc, List.cons_append] at hread ⊢
        rw [placeholderEnd?, hread]
        rfl
      · rw [List.length_append]
        have := List.length_pos_iff.2 hz
        omega
  · exact hcolon (hz ▸ List.mem_append_left z hlast)

/-- A parameter that runs over a keyword with a blank behind it is named so. -/
theorem IsKeyword.name_eq (h : IsKeyword w) (hb : b.head?.all Unicode.isBlank)
    {x name rest : Text} (hread : Name.read? (x ++ (w ++ b)) = some (name, rest))
    (hlt : rest.length < (w ++ b).length) : name = x ++ w ∧ rest = b := by
  obtain ⟨hname, hstops⟩ := Name.read?_spec hread
  obtain ⟨y, rfl, hy⟩ :=
    Text.exists_of_append_eq (Name.read?_append hread).1.symm (Nat.le_of_lt hlt)
  rcases List.append_eq_append_iff.1 hy with ⟨u, rfl, rfl⟩ | ⟨u, rfl, rfl⟩
  · cases u with
    | nil => simp
    | cons d u =>
      have hd : Unicode.isBlank d := hb
      rcases hname.mem (c := d) (by simp) with hpart | rfl
      · rw [Unicode.eq_false_of_isBlank (p := Name.isPart) (by decide) hd] at hpart
        cases hpart
      · cases hd
  · cases u with
    | nil => simp
    | cons d u =>
      have hpart := hstops.1
      rw [h.isPart (by simp)] at hpart
      cases hpart

/-- No parameter runs over a `where`, since it would be named so. -/
theorem Whole.parted_where (h : Whole (a ++ (w ++ b))) (hw : w.sameWord "where".toList)
    (ha : ¬a.getLast?.any Unicode.isWord) (hb : b.head?.all Unicode.isBlank)
    (hover : ¬Straddled placeholderEnd? a (w ++ b)) : Parted a (w ++ b) := by
  refine ⟨hover, ?_, fun hlast => absurd hlast ha⟩
  rintro ⟨v, rest, ⟨u, rfl⟩, hne, hread, hlt⟩
  obtain ⟨c, x, rfl⟩ := List.exists_cons_of_ne_nil hne
  rw [List.cons_append, tokenEnd?] at hread
  split at hread
  · rename_i hc
    subst hc
    obtain ⟨⟨name, r⟩, hname, rfl⟩ := Option.map_eq_some_iff.1 hread
    obtain ⟨rfl, hr⟩ := (isKeyword_of_sameWord hw (by decide)).name_eq hb hname hlt
    rw [hr] at hname
    have hx : ∀ d ∈ x, Name.isPart d ∨ d = '.' := fun d hd =>
      (Name.read?_spec hname).1.mem (List.mem_append_left w hd)
    -- the last part of the name starts with the keyword
    have hdot : x.getLast?.all (· == '.') := by
      rcases List.eq_nil_or_concat x with rfl | ⟨x, d, rfl⟩
      · rfl
      · rcases hx d (by simp) with hpart | rfl
        · have hlast : u ++ ':' :: x.concat d = u ++ ':' :: x ++ [d] := by simp
          rw [hlast, List.getLast?_concat] at ha
          exact absurd (isWord_of_isPart hpart) ha
        · simp
    refine h.names (x ++ w) ?_ ⟨x, w, rfl, hw, hdot⟩
    have hbrace : '\x7d' ∉ x := fun hmem => (hx _ hmem).elim (by decide) (by decide)
    have hparted : Parted u (':' :: (x ++ (w ++ b))) :=
      ⟨not_straddled_colon hbrace hover, Parameter.not_straddled_token (by decide) (by decide) _,
        fun _ hword => by cases hword⟩
    rw [List.append_assoc, List.cons_append, plainTokens_append hparted]
    refine List.mem_append_right _ ?_
    rw [← List.append_assoc] at hname ⊢
    rw [plainTokens_parameter hname]
    exact List.mem_cons_self
  · cases hread

/-- Deleting a `where` with a letter or a parenthesis behind it, and the blanks between them. -/
theorem Whole.clause (h : Whole (a ++ (w ++ s ++ b))) (hw : w.sameWord "where".toList)
    (ha : ¬a.getLast?.any Unicode.isWord) (hs : ∀ c ∈ s, Unicode.isBlank c) (hne : s ≠ [])
    (hb : b.head?.any fun c => c.isAlpha || c == ')') :
    Deletes (a ++ (w ++ s ++ b)) (a ++ b) := by
  have hkey : IsKeyword w := isKeyword_of_sameWord hw (by decide)
  obtain ⟨e, z, rfl⟩ : ∃ e z, b = e :: z := by
    cases b with
    | nil => cases hb
    | cons e z => exact ⟨e, z, rfl⟩
  have he : e.isAlpha ∨ e = ')' := by simpa using hb
  have hover : ¬Straddled placeholderEnd? a (w ++ s ++ e :: z) := by
    obtain ⟨x, n, rfl⟩ : ∃ x n, w = x ++ [n] :=
      ⟨_, _, (List.dropLast_concat_getLast hkey.ne_nil).symm⟩
    refine Placeholder.not_straddled_of_fence (x := a ++ x) (n := n) (hkey.brace_notMem hs)
      (by simp) (hkey.isPart (by simp)) hne hs ?_ ?_ z
    · rcases he with he | rfl
      · exact Name.isBlank_of_isStart (isStart_of_isAlpha he)
      · decide
    · rintro rfl
      revert he
      decide
  have hfront : Parted a (w ++ s ++ e :: z) := by
    rw [List.append_assoc] at h hover ⊢
    exact h.parted_where hw ha (head?_all_blank hs fun hnil => absurd hnil hne) hover
  have hstart : (w ++ s ++ e :: z).head?.any Name.isStart := by
    obtain ⟨d, w, rfl, hd⟩ := hkey.exists_cons
    exact isStart_of_isAlpha hd
  have hbehind : Parted (w ++ s) (e :: z) :=
    hkey.parted (s := []) (by simp) hs fun hnil => absurd hnil hne
  have htokens : plainTokens (w ++ s) = [.word w] := hkey.plainTokens_eq (s := []) (by simp) hs
  refine h.cut (g := []) hfront hbehind ?_ (by simp) ?_
    (Parameter.not_straddled_token_change hfront.parameter hstart _) fun hlast => absurd hlast ha
  · rw [htokens]
    simpa using hkey.removable
  · rcases he with he | rfl
    · simp [isEdge, he]
    · rfl

/-- Blanks at the end of a text can be left out. -/
theorem Whole.blanks {s' : Text} (h : Whole (a ++ (s ++ s'))) (hs : ∀ c ∈ s, Unicode.isBlank c)
    (hs' : ∀ c ∈ s', Unicode.isBlank c) : Deletes (a ++ (s ++ s')) (a ++ s') := by
  have hall : ∀ c ∈ s ++ s', Unicode.isBlank c := fun c hc =>
    (List.mem_append.1 hc).elim (hs c) (hs' c)
  obtain ⟨hstops, hword⟩ := stops_of_blank (head?_all_of_blank hall)
  have hfront : Parted a (s ++ s') :=
    ⟨Placeholder.not_straddled_of_notMem (Text.notMem_of_blank hall (by decide)),
      Parameter.not_straddled_token_of_stops hstops, fun _ => hword⟩
  have hbehind : Parted s s' :=
    parted_of_notMem (Text.notMem_of_blank hs (by decide)) (Text.notMem_of_blank hs (by decide))
      fun _ => (stops_of_blank (head?_all_of_blank hs')).2
  have htokens : plainTokens s = [] := by simpa using plainTokens_blanks hs []
  refine h.cut_blank (g := []) hfront hbehind ?_ (by simp) (head?_all_of_blank hs')
  simp [htokens]

/-- Deleting a `where` at the end of a text, and the blanks in front of it. -/
theorem Whole.ending {s' : Text} (h : Whole (a ++ s ++ (w ++ s'))) (hw : w.sameWord "where".toList)
    (ha : ¬(a ++ s).getLast?.any Unicode.isWord) (hs : ∀ c ∈ s, Unicode.isBlank c)
    (hs' : ∀ c ∈ s', Unicode.isBlank c) : Deletes (a ++ s ++ (w ++ s')) (a ++ s') := by
  have hkey : IsKeyword w := isKeyword_of_sameWord hw (by decide)
  have hblank := head?_all_of_blank hs'
  have hfront := h.parted_where hw ha hblank
    (Placeholder.not_straddled_of_notMem (hkey.brace_notMem hs'))
  have hbehind : Parted w s' := by
    simpa using hkey.parted (s := []) (r := []) (by simp) (by simp) fun _ =>
      (stops_of_blank hblank).2
  have htokens : plainTokens w = [.word w] := by
    simpa using hkey.plainTokens_eq (s := []) (r := []) (by simp) (by simp)
  have hcut := h.cut_blank (g := []) hfront hbehind (by simpa [htokens] using hkey.removable)
    (by simp) hblank
  have hassoc : a ++ s ++ s' = a ++ (s ++ s') := List.append_assoc a s s'
  rw [List.nil_append, hassoc] at hcut
  exact hcut.trans (hcut.whole.blanks hs hs')

end Cleanup

end SqlTemplate
