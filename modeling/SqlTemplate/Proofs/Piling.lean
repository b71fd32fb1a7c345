import SqlTemplate.Proofs.Dangling
import SqlTemplate.Proofs.Origin

/-!
What cleaning up once leaves to clean up.  A pass goes over a text once, so what it leaves can be
something it would have looked for: where commas, connectives or the word `where` itself pile up,
and where something joins.  Everywhere else cleaning up a second time changes nothing.
-/
namespace SqlTemplate

namespace Cleanup

/-- Whether a text starts with a connective, and goes on in some way. -/
def Connected (P : Text → Prop) (cs : Text) : Prop :=
  ∃ k t : Text, cs = k ++ t ∧ (k.sameWord "and".toList ∨ k.sameWord "or".toList) ∧ P t

/-- Whether a character is a blank or a comma. -/
def isFiller (c : Char) : Bool := Unicode.isBlank c || c == ','

/-- Whether a text starts with something that piles up: two commas in front of a `where`, two
connectives behind one, or two of them with only blanks, commas and perhaps a connective between
them. -/
inductive Piling : Text → Prop
  | commas {s cs : Text} (hs : ∀ c ∈ s, Unicode.isBlank c) (h : Reaches cs) :
    Piling (',' :: (s ++ ',' :: cs))
  | connectives {cs : Text} (h : Leads (Spaces (Connected (Spaces Connects))) cs) : Piling cs
  | wheres {cs : Text} (h : Leads (Skips isFiller (Starts "where")) cs) : Piling cs
  | connected {cs : Text}
    (h : Leads (Spaces (Connected (Skips isFiller (Starts "where")))) cs) : Piling cs

instance (P : Text → Prop) [DecidablePred P] (cs : Text) : Decidable (Connected P cs) :=
  decidable_of_iff ((Text.dropWord? "and".toList cs).any (P ·) ∨
    (Text.dropWord? "or".toList cs).any (P ·)) <| by
    simp only [Option.any_eq_true, decide_eq_true_eq, Text.dropWord?_eq_some_iff]
    constructor
    · rintro (⟨t, ⟨k, hk, rfl⟩, hP⟩ | ⟨t, ⟨k, hk, rfl⟩, hP⟩)
      · exact ⟨k, t, rfl, Or.inl hk, hP⟩
      · exact ⟨k, t, rfl, Or.inr hk, hP⟩
    · rintro ⟨k, t, rfl, hk | hk, hP⟩
      · exact Or.inl ⟨t, ⟨k, hk, rfl⟩, hP⟩
      · exact Or.inr ⟨t, ⟨k, hk, rfl⟩, hP⟩

theorem piling_iff {cs : Text} : Piling cs ↔
    (cs.head? = some ',' ∧ (Text.skipBlanks cs.tail).head? = some ',' ∧
      Reaches (Text.skipBlanks cs.tail).tail) ∨
    Leads (Spaces (Connected (Spaces Connects))) cs ∨
    Leads (Skips isFiller (Starts "where")) cs ∨
    Leads (Spaces (Connected (Skips isFiller (Starts "where")))) cs := by
  constructor
  · intro h
    cases h with
    | @commas s cs hs h =>
      have hskip : Text.skipBlanks (s ++ ',' :: cs) = ',' :: cs :=
        Text.skipBlanks_append hs (by simp; decide)
      exact Or.inl ⟨rfl, by rw [List.tail_cons, hskip]; rfl, by rwa [List.tail_cons, hskip]⟩
    | connectives h => exact Or.inr (Or.inl h)
    | wheres h => exact Or.inr (Or.inr (Or.inl h))
    | connected h => exact Or.inr (Or.inr (Or.inr h))
  · rintro (⟨hcomma, hcomma', h⟩ | h | h | h)
    · obtain ⟨cs, rfl⟩ := List.head?_eq_some_iff.1 hcomma
      obtain ⟨s, hs, hcs⟩ := Text.exists_skipBlanks cs
      obtain ⟨t, ht⟩ := List.head?_eq_some_iff.1 hcomma'
      rw [List.tail_cons] at ht h
      rw [ht] at h hcs
      rw [hcs]
      exact .commas hs h
    · exact .connectives h
    · exact .wheres h
    · exact .connected h

instance (cs : Text) : Decidable (Piling cs) := decidable_of_iff _ piling_iff.symm

variable {edit : Edit} {w s t u cs out : Text} {P : Text → Prop}

/-- Whether a text starts with a comma that has only blanks between it and a `where`. -/
def CommaFirst (cs : Text) : Prop := ∃ t, cs = ',' :: t ∧ Reaches t

/-- A comma that a pass leaves was there. -/
theorem Pass.comma (htame : Tame edit) (h : Pass edit cs out) (hout : Occurs CommaFirst out) :
    Occurs (fun c => ∃ t b, c = ',' :: t ∧ edit c = none ∧ Pass edit t b ∧ Reaches b) cs := by
  refine (h.occurs htame ?_ hout).imp ?_
  · rintro _ ⟨t, rfl, -⟩ hblank
    cases hblank
  · rintro c ⟨_, ⟨b, rfl, hb⟩, hpass, hput⟩
    rcases hpass.other_cases (by decide) with ⟨t, rfl, hnone, hmore⟩ |
      ⟨old, rest, put, more, rfl, hout, -, -, hedit, -⟩
    · exact ⟨t, b, rfl, hnone, hmore, hb⟩
    · rcases htame.put hedit with rfl | ⟨w, hw, rfl⟩
      · exact absurd hedit (hput _)
      · have hword := head?_any_of_sought hw (by decide) ([' '] ++ more)
        rw [← List.append_assoc, ← hout] at hword
        cases hword

theorem Keyed.comma (hk : Keyed edit) (h : Pass edit cs out) (hout : Occurs CommaFirst out) :
    Occurs CommaFirst cs :=
  (h.comma hk.tame hout).imp fun _ ⟨t, _, ht, _, hpass, hb⟩ => ⟨t, ht, hk.reaches hpass hb⟩

/-! The pass that drops a `where` in front of a clause. -/

/-- A clause that the pass leaves was there, or has a `where` in front of it. -/
theorem Pass.opensClause (h : Pass whereClause cs out) (hout : OpensClause out) :
    OpensClause cs ∨ Starts "where" cs := by
  have hstarts : ∀ {word}, Starts word out → word ∈ soughtWords →
      Starts word cs ∨ Starts "where" cs := fun hs hword =>
    (h.starts_cases tame_whereClause hs hword).imp_right starts_where_of_fired
  cases hout with
  | parenthesis t =>
    rcases h.other_cases (by decide) with ⟨t, rfl, -, -⟩ | hfired
    · exact Or.inl (.parenthesis t)
    · exact Or.inr (starts_where_of_fired hfired)
  | limit hs => exact (hstarts hs (by decide)).imp_left .limit
  | union hs => exact (hstarts hs (by decide)).imp_left .union
  | @ordering w s t hw hs hne hby =>
    obtain ⟨word, hword, hw'⟩ : ∃ word ∈ soughtWords, w.sameWord word.toList :=
      hw.elim (⟨"order", by decide, ·⟩) (⟨"group", by decide, ·⟩)
    rcases h.word_cases tame_whereClause hw' hword (Skips.head? ⟨s, t, rfl, hs, hne, hby⟩) with
      ⟨b, rfl, -, -, hb⟩ | hfired
    · obtain ⟨s', c, rfl, hs', hne', u, hu, hc⟩ :=
        keyed_whereClause.skips hb ⟨s, t, rfl, hs, hne, hby⟩
      refine Or.inl (.ordering hw hs' hne' ?_)
      exact (hc.starts_cases tame_whereClause hu (by decide)).resolve_right
        (not_fired_of_starts hu (by decide))
    · exact Or.inr (starts_where_of_fired hfired)

theorem not_fired_of_connects (h : Connects out) : ¬Fired whereClause cs out :=
  h.elim (not_fired_of_starts · (by decide)) (not_fired_of_starts · (by decide))

/-- What the pass leaves behind a `where` stood behind one. -/
theorem leads_of_whereClause (h : Pass whereClause cs out)
    (hP : ∀ b, P b → ¬b.head?.any Unicode.isWord) (hout : Occurs (Leads P) out) :
    Occurs (fun c => ¬Leads (Spaces OpensClause) c ∧
      Leads (fun t => ∃ b, P b ∧ Pass whereClause t b) c) cs := by
  refine (h.leads tame_whereClause hP hout).imp ?_
  rintro c (⟨hnone, hleads⟩ | ⟨b, -, ⟨old, rest, put, more, rfl, -, -, -, hedit, -⟩, hput⟩)
  · refine ⟨fun h => ?_, hleads⟩
    have hsome := whereClause_isSome_iff.2 h
    rw [hnone] at hsome
    cases hsome
  · obtain ⟨w, s, b, -, -, -, -, -, rfl, -⟩ := exists_of_whereClause hedit
    exact absurd hedit (hput _)

theorem wheres_of_whereClause (h : Pass whereClause cs out)
    (hout : Occurs (Leads (Spaces (Starts "where"))) out) :
    Occurs (Leads (Spaces (Starts "where"))) cs := by
  refine (leads_of_whereClause h (fun _ => Skips.head?) hout).imp fun c ⟨_, hc⟩ => hc.imp ?_
  rintro t ⟨b, hb, hpass⟩
  obtain ⟨s, c, rfl, hs, hne, u, hu, hc⟩ := keyed_whereClause.skips hpass hb
  exact ⟨s, c, rfl, hs, hne, keyed_whereClause.starts_where hc hu⟩

theorem trails_of_whereClause (h : Pass whereClause cs out) (hout : Trails out) : Trails cs := by
  refine (leads_of_whereClause h (fun _ => not_head?_isWord_of_blank) hout).imp
    fun c ⟨_, hc⟩ => hc.imp ?_
  rintro t ⟨b, hb, hpass⟩
  rwa [keyed_whereClause.eq_of_blank hpass hb]

/-- Something dangles in what the pass leaves only if it did in front of it, or if a `where` stands
in front of another one. -/
theorem dangles_of_whereClause (h : Pass whereClause cs out) (hout : Dangles out) :
    Occurs CommaFirst cs ∨
      Occurs (Leads (Spaces fun t => Connects t ∨ Starts "where" t)) cs := by
  obtain ⟨a, b, rfl, hbound, hb⟩ := hout
  cases hb with
  | comma hb => exact Or.inl (keyed_whereClause.comma h ⟨a, _, rfl, hbound, _, rfl, hb⟩)
  | followed hb =>
    right
    refine (leads_of_whereClause h (fun _ => Skips.head?) ⟨a, b, rfl, hbound, hb⟩).imp ?_
    rintro c ⟨hnot, w, t, rfl, hw, o, ho, hpass⟩
    obtain ⟨s, t, rfl, hs, hne, u, hu, hc⟩ := keyed_whereClause.skips hpass ho
    refine ⟨w, _, rfl, hw, s, t, rfl, hs, hne, ?_⟩
    rcases hu with hu | hu
    · exact Or.inl ((hc.connects_cases tame_whereClause hu).resolve_right
        (not_fired_of_connects hu))
    · refine Or.inr ((hc.opensClause hu).resolve_left fun hopens => ?_)
      exact hnot ⟨w, _, rfl, hw, s, t, rfl, hs, hne, hopens⟩

/-! The pass that drops connectives. -/

/-- What the pass leaves behind a `where` stood behind one, perhaps with a connective between
them. -/
theorem leads_of_whereConnective (h : Pass whereConnective cs out)
    (hP : ∀ b, P b → ¬b.head?.any Unicode.isWord) (hout : Occurs (Leads P) out) :
    Occurs (fun c => (¬Leads (Spaces Connects) c ∧
        Leads (fun t => ∃ b, P b ∧ Pass whereConnective t b) c) ∨
      ∃ w s k s' rest more, Link w s k s' rest ∧ c = w ++ (s ++ (k ++ (s' ++ rest))) ∧
        Pass whereConnective rest more ∧ P (' ' :: more)) cs := by
  refine (h.leads tame_whereConnective hP hout).imp ?_
  rintro c (⟨hnone, hleads⟩ | ⟨_, ⟨w, b, rfl, hw, hb⟩, hfired, -⟩)
  · refine Or.inl ⟨fun h => ?_, hleads⟩
    have hsome := whereConnective_isSome_iff.2 h
    rw [hnone] at hsome
    cases hsome
  · obtain ⟨w', s, k, s', rest, more, hlink, hc, heq, hpass⟩ := fired_whereConnective hfired
    have hlength : w.length = w'.length :=
      (Text.length_of_sameWord hw).trans (Text.length_of_sameWord hlink.keyword).symm
    obtain ⟨rfl, rfl⟩ := List.append_inj heq hlength
    exact Or.inr ⟨w, s, k, s', rest, more, hlink, hc, hpass, hb⟩

/-- Only one blank stands behind the `where` that is left, since all of them were taken. -/
theorem Link.spaces {k s' rest : Text} (h : Link w s k s' rest)
    (hpass : Pass whereConnective rest out) (hspaces : Spaces P (' ' :: out)) : P out := by
  obtain ⟨x, u, heq, hx, hne, hu⟩ := hspaces
  obtain ⟨c, x, rfl⟩ := List.exists_cons_of_ne_nil hne
  obtain ⟨rfl, rfl⟩ := List.cons.inj heq
  obtain ⟨t, hrest, -⟩ :=
    keyed_whereConnective.blanks hpass fun c hc => hx c (List.mem_cons_of_mem _ hc)
  cases x with
  | nil => exact hu
  | cons d x =>
    refine absurd ?_ h.stop
    rw [hrest]
    exact hx d (by simp)

theorem Link.connected {k s' rest : Text} (h : Link w s k s' rest) (hP : P rest)
    (hrest : rest.head?.any Unicode.isWord) :
    Leads (Spaces (Connected (Spaces P))) (w ++ (s ++ (k ++ (s' ++ rest)))) := by
  have hne : s' ≠ [] := by
    rintro rfl
    exact h.ends hrest
  exact ⟨w, _, rfl, h.keyword, s, _, rfl, h.blanks, h.ne_nil, k, _, rfl, h.connective, s', rest,
    rfl, h.blanksBehind, hne, hP⟩

theorem not_fired_whereConnective (h : Connects out) : ¬Fired whereConnective cs out := by
  intro hfired
  obtain ⟨w, s, k, s', rest, more, hlink, -, rfl, -⟩ := fired_whereConnective hfired
  have hwhere : Starts "where" (w ++ ' ' :: more) := ⟨w, _, rfl, hlink.keyword, fun h => by cases h⟩
  rcases h with h | h
  · exact absurd (h.sameWord hwhere (by decide) (by decide)) (by decide)
  · exact absurd (h.sameWord hwhere (by decide) (by decide)) (by decide)

theorem connectives_of_whereConnective (h : Pass whereConnective cs out)
    (hout : Occurs (Leads (Spaces Connects)) out) :
    Occurs (Leads (Spaces (Connected (Spaces Connects)))) cs := by
  refine (leads_of_whereConnective h (fun _ => Skips.head?) hout).imp ?_
  rintro c (⟨hnot, w, t, rfl, hw, b, hb, hpass⟩ | ⟨w, s, k, s', rest, more, hlink, rfl, hpass, hb⟩)
  · obtain ⟨s, c, rfl, hs, hne, u, hu, hc⟩ := keyed_whereConnective.skips hpass hb
    refine absurd ⟨w, _, rfl, hw, s, c, rfl, hs, hne, ?_⟩ hnot
    exact (hc.connects_cases tame_whereConnective hu).resolve_right (not_fired_whereConnective hu)
  · have hmore := hlink.spaces hpass hb
    have hrest := (hpass.connects_cases tame_whereConnective hmore).resolve_right
      (not_fired_whereConnective hmore)
    exact hlink.connected hrest (head?_isWord_of_connects hrest)

theorem wheres_of_whereConnective (h : Pass whereConnective cs out)
    (hout : Occurs (Leads (Spaces (Starts "where"))) out) :
    Occurs (fun c => Leads (Spaces (Starts "where")) c ∨
      Leads (Spaces (Connected (Spaces (Starts "where")))) c) cs := by
  refine (leads_of_whereConnective h (fun _ => Skips.head?) hout).imp ?_
  rintro c (⟨-, w, t, rfl, hw, b, hb, hpass⟩ | ⟨w, s, k, s', rest, more, hlink, rfl, hpass, hb⟩)
  · obtain ⟨s, c, rfl, hs, hne, u, hu, hc⟩ := keyed_whereConnective.skips hpass hb
    exact Or.inl ⟨w, _, rfl, hw, s, c, rfl, hs, hne, keyed_whereConnective.starts_where hc hu⟩
  · have hrest := keyed_whereConnective.starts_where hpass (hlink.spaces hpass hb)
    exact Or.inr (hlink.connected hrest (hrest.head?_isWord (by decide)))

/-- Whether a plain text ends in the word `where`, perhaps with a connective behind it. -/
def Hangs (t : Text) : Prop :=
  Occurs (fun c => Leads (fun s => ∀ c ∈ s, Unicode.isBlank c) c ∨
    Leads (Spaces (Connected fun s => ∀ c ∈ s, Unicode.isBlank c)) c) t

theorem hangs_of_whereConnective (h : Pass whereConnective cs out) (hout : Trails out) :
    Hangs cs := by
  refine (leads_of_whereConnective h (fun _ => not_head?_isWord_of_blank) hout).imp ?_
  rintro c (⟨-, w, t, rfl, hw, b, hb, hpass⟩ | ⟨w, s, k, s', rest, more, hlink, rfl, hpass, hb⟩)
  · refine Or.inl ⟨w, t, rfl, hw, ?_⟩
    rwa [keyed_whereConnective.eq_of_blank hpass hb]
  · have hmore : ∀ c ∈ more, Unicode.isBlank c := fun c hc => hb c (List.mem_cons_of_mem _ hc)
    have hrest : rest = [] := by
      rw [keyed_whereConnective.eq_of_blank hpass hmore]
      cases more with
      | nil => rfl
      | cons c more =>
        refine absurd ?_ hlink.stop
        rw [keyed_whereConnective.eq_of_blank hpass hmore]
        exact hmore c List.mem_cons_self
    refine Or.inr ⟨w, _, rfl, hlink.keyword, s, _, rfl, hlink.blanks, hlink.ne_nil, k, _, rfl,
      hlink.connective, ?_⟩
    rw [hrest, List.append_nil]
    exact hlink.blanksBehind

/-! The pass that drops commas. -/

/-- What the pass leaves behind a `where` stood behind one. -/
theorem leads_of_whereComma (h : Pass whereComma cs out)
    (hP : ∀ b, P b → ¬b.head?.any Unicode.isWord) (hout : Occurs (Leads P) out) :
    Occurs (Leads fun t => ∃ b, P b ∧ Pass whereComma t b) cs := by
  refine (h.leads tame_whereComma hP hout).imp ?_
  rintro c (⟨-, hleads⟩ | ⟨b, -, ⟨old, rest, put, more, rfl, -, -, -, hedit, -⟩, hput⟩)
  · exact hleads
  · obtain ⟨t, heq, ht⟩ := whereComma_isSome_iff.1 (by rw [hedit]; rfl)
    rw [heq] at hedit hput
    rcases whereComma_cons ',' t with ⟨-, -, hsome⟩ | ⟨hnot, -⟩
    · exact absurd hsome (hput 1)
    · exact absurd ⟨rfl, ht⟩ hnot

/-- No comma is dropped in front of something else than a `where`. -/
theorem not_fired_whereComma (hs : ∀ c ∈ s, Unicode.isBlank c)
    (hu : ¬u.head?.any Unicode.isBlank) (hbegins : ¬Begins u) : ¬Fired whereComma cs (s ++ u) := by
  intro hfired
  obtain ⟨x, v, heq, hx, hv⟩ := begins_of_fired hfired
  have hhead : ¬v.head?.any Unicode.isBlank := by
    obtain ⟨w, b, rfl, hw⟩ := hv
    exact not_blank_of_head? (head?_any_of_sought hw (by decide) b)
  have hsame : u = v := by
    rw [← Text.dropWhile_append_stop hs hu, heq, Text.dropWhile_append_stop hx hhead]
  exact hbegins (hsame ▸ hv)

/-- Blanks and a connective are there again, since no comma is dropped in front of them. -/
theorem connected_of_whereComma (h : Pass whereComma cs out)
    (hP : ∀ b, P b → ¬b.head?.any Unicode.isWord) (hout : Spaces (Connected P) out) :
    Spaces (Connected fun t =>
      ∃ b, P b ∧ Pass whereComma t b ∧ ¬t.head?.any Unicode.isWord) cs := by
  obtain ⟨s, _, rfl, hs, hne, k, b, rfl, hk, hb⟩ := hout
  obtain ⟨word, hword, hshort, hk'⟩ :
      ∃ word ∈ soughtWords, word.toList.length < 5 ∧ k.sameWord word.toList :=
    hk.elim (⟨"and", by decide, by decide, ·⟩) (⟨"or", by decide, by decide, ·⟩)
  have hbegins : ¬Begins (k ++ b) :=
    not_begins_of_length (by rwa [Text.length_of_sameWord hk']) (hP b hb)
  have hnot : ∀ c v, (∀ c ∈ v, Unicode.isBlank c) → ¬Fired whereComma c (v ++ (k ++ b)) :=
    fun c v hv => not_fired_whereComma hv (not_blank_of_head? (head?_any_of_sought hk' hword b))
      hbegins
  obtain ⟨c, rfl, hc⟩ := h.blanks hs fun c v _ hv => hnot c v fun d hd => hs d (hv.subset hd)
  obtain ⟨t, rfl, hstop, -, ht⟩ :=
    (hc.word_cases tame_whereComma hk' hword (hP b hb)).resolve_right (hnot c [] (by simp))
  exact ⟨s, _, rfl, hs, hne, k, t, rfl, hk, b, hb, ht, hstop⟩

theorem connects_iff : Connects t ↔ Connected (fun b => ¬b.head?.any Unicode.isWord) t := by
  constructor
  · rintro (⟨k, b, rfl, hk, hb⟩ | ⟨k, b, rfl, hk, hb⟩)
    · exact ⟨k, b, rfl, Or.inl hk, hb⟩
    · exact ⟨k, b, rfl, Or.inr hk, hb⟩
  · rintro ⟨k, b, rfl, hk | hk, hb⟩
    · exact Or.inl ⟨k, b, rfl, hk, hb⟩
    · exact Or.inr ⟨k, b, rfl, hk, hb⟩

theorem connects_of_whereComma (h : Pass whereComma cs out) (hout : Spaces Connects out) :
    Spaces Connects cs := by
  obtain ⟨s, b, rfl, hs, hne, hb⟩ := hout
  obtain ⟨s, t, rfl, hs, hne, k, u, rfl, hk, -, -, -, hu⟩ :=
    connected_of_whereComma h (fun _ => id) ⟨s, b, rfl, hs, hne, connects_iff.1 hb⟩
  exact ⟨s, _, rfl, hs, hne, connects_iff.2 ⟨k, u, rfl, hk, hu⟩⟩

theorem eq_of_whereComma (h : Pass whereComma cs out) (hs : ∀ c ∈ out, Unicode.isBlank c) :
    cs = out := by
  have hnot : ∀ c v, (∀ c ∈ v, Unicode.isBlank c) → ¬Fired whereComma c (v ++ []) := fun c v hv =>
    not_fired_whereComma hv (by simp) fun ⟨w, b, hnil, hw⟩ =>
      (isAlpha_of_sought hw (by decide)).1 (List.append_eq_nil_iff.1 hnil.symm).1
  rw [← List.append_nil out] at h
  obtain ⟨c, rfl, hc⟩ := h.blanks hs fun c v _ hv => hnot c v fun d hd => hs d (hv.subset hd)
  rw [hc.nil_cases.resolve_right (hnot c [] (by simp)), List.append_nil]

/-- In front of a `where` that the pass leaves only commas were dropped. -/
theorem fillers_of_whereComma (h : Pass whereComma cs (s ++ u))
    (hs : ∀ c ∈ s, Unicode.isBlank c) (hu : Starts "where" u) :
    ∃ f t, cs = f ++ t ∧ (∀ c ∈ f, isFiller c) ∧ (s ≠ [] → f ≠ []) ∧ Starts "where" t := by
  induction hn : cs.length using Nat.strong_induction_on generalizing cs s with
  | _ n ih =>
    subst hn
    have hfired : Fired whereComma cs (s ++ u) →
        ∃ f t, cs = f ++ t ∧ (∀ c ∈ f, isFiller c) ∧ (s ≠ [] → f ≠ []) ∧ Starts "where" t := by
      intro hfired
      obtain ⟨rest, rfl, -, hrest⟩ := fired_whereComma hfired
      obtain ⟨f, t, rfl, hf, -, ht⟩ := ih _ (Nat.lt_succ_self _) hrest hs rfl
      exact ⟨',' :: f, t, rfl, List.forall_mem_cons.2 ⟨rfl, hf⟩, by simp, ht⟩
    cases s with
    | nil =>
      rcases h.starts_cases tame_whereComma hu (by decide) with hcs | hfire
      · exact ⟨[], cs, rfl, by simp, by simp, hcs⟩
      · exact hfired hfire
    | cons d s =>
      obtain ⟨hd, hs'⟩ := List.forall_mem_cons.1 hs
      rcases h.other_cases (isWord_of_isBlank hd) with ⟨t, rfl, -, ht⟩ | hfire
      · obtain ⟨f, t, rfl, hf, -, ht⟩ := ih _ (Nat.lt_succ_self _) ht hs' rfl
        exact ⟨d :: f, t, rfl, List.forall_mem_cons.2 ⟨by simp [isFiller, hd], hf⟩, by simp, ht⟩
      · exact hfired hfire

theorem skips_of_whereComma (h : Pass whereComma cs out) (hout : Spaces (Starts "where") out) :
    Skips isFiller (Starts "where") cs := by
  obtain ⟨s, u, rfl, hs, hne, hu⟩ := hout
  obtain ⟨f, t, rfl, hf, hfne, ht⟩ := fillers_of_whereComma h hs hu
  exact ⟨f, t, rfl, hf, hfne hne, ht⟩

/-- In front of a `where` that the pass leaves stands a comma, if none is left. -/
theorem comma_of_whereComma (h : Pass whereComma cs (s ++ u)) (hs : ∀ c ∈ s, Unicode.isBlank c)
    (hu : Starts "where" u) (hnot : ¬Reaches cs) :
    ∃ s t, cs = s ++ ',' :: t ∧ (∀ c ∈ s, Unicode.isBlank c) ∧ Reaches t := by
  have hfired : ∀ {cs out}, Fired whereComma cs out →
      ∃ s t, cs = s ++ ',' :: t ∧ (∀ c ∈ s, Unicode.isBlank c) ∧ Reaches t := fun h => by
    obtain ⟨rest, rfl, hrest, -⟩ := fired_whereComma h
    exact ⟨[], rest, rfl, by simp, hrest⟩
  induction s generalizing cs with
  | nil =>
    rcases h.starts_cases tame_whereComma hu (by decide) with hcs | hfire
    · exact absurd ⟨[], cs, rfl, by simp, hcs⟩ hnot
    · exact hfired hfire
  | cons d s ih =>
    obtain ⟨hd, hs⟩ := List.forall_mem_cons.1 hs
    rcases h.other_cases (isWord_of_isBlank hd) with ⟨t, rfl, -, ht⟩ | hfire
    · have hnot' : ¬Reaches t := by
        rintro ⟨x, v, rfl, hx, hv⟩
        exact hnot ⟨d :: x, v, rfl, List.forall_mem_cons.2 ⟨hd, hx⟩, hv⟩
      obtain ⟨x, t, rfl, hx, ht⟩ := ih ht hs hnot'
      exact ⟨d :: x, t, rfl, List.forall_mem_cons.2 ⟨hd, hx⟩, ht⟩
    · exact hfired hfire

/-- A comma that the pass leaves in front of a `where` has another one behind it. -/
theorem commas_of_whereComma (h : Pass whereComma cs out) (hout : Occurs CommaFirst out) :
    Occurs Piling cs := by
  refine (h.comma tame_whereComma hout).imp ?_
  rintro c ⟨t, b, rfl, hnone, hpass, s, u, rfl, hs, hu⟩
  have hnot : ¬Reaches t := fun ht => by
    have hsome := whereComma_isSome_iff.2 ⟨t, rfl, ht⟩
    rw [hnone] at hsome
    cases hsome
  obtain ⟨s, t, rfl, hs, ht⟩ := comma_of_whereComma hpass hs hu hnot
  exact .commas hs ht

theorem wheres_of_whereComma (h : Pass whereComma cs out)
    (hout : Occurs (fun c => Leads (Spaces (Starts "where")) c ∨
      Leads (Spaces (Connected (Spaces (Starts "where")))) c) out) : Occurs Piling cs := by
  obtain ⟨a, b, rfl, hbound, hb | hb⟩ := hout
  · refine (leads_of_whereComma h (fun _ => Skips.head?) ⟨a, b, rfl, hbound, hb⟩).imp fun c hc => ?_
    exact .wheres (hc.imp fun t ⟨b, hb, hpass⟩ => skips_of_whereComma hpass hb)
  · refine (leads_of_whereComma h (fun _ => Skips.head?) ⟨a, b, rfl, hbound, hb⟩).imp fun c hc => ?_
    refine .connected (hc.imp fun t ⟨b, hb, hpass⟩ => ?_)
    obtain ⟨s, _, rfl, hs, hne, k, c, rfl, hk, d, hd, hc, -⟩ :=
      connected_of_whereComma hpass (fun _ => Skips.head?) hb
    exact ⟨s, _, rfl, hs, hne, k, c, rfl, hk, skips_of_whereComma hc hd⟩

theorem connectives_of_whereComma (h : Pass whereComma cs out)
    (hout : Occurs (Leads (Spaces (Connected (Spaces Connects)))) out) : Occurs Piling cs := by
  refine (leads_of_whereComma h (fun _ => Skips.head?) hout).imp fun c hc => ?_
  refine .connectives (hc.imp fun t ⟨b, hb, hpass⟩ => ?_)
  obtain ⟨s, _, rfl, hs, hne, k, c, rfl, hk, d, hd, hc, -⟩ :=
    connected_of_whereComma hpass (fun _ => Skips.head?) hb
  exact ⟨s, _, rfl, hs, hne, k, c, rfl, hk, connects_of_whereComma hc hd⟩

/-! All passes. -/

/-- A `where` that cleaning up leaves in front of another one was one of two that pile up. -/
theorem piles_of_wheres (h : Occurs (Leads (Spaces (Starts "where"))) (plain t)) :
    Occurs Piling t := by
  obtain ⟨u, v, hcommas, hconnectives, hclauses⟩ := passes_plain t
  exact wheres_of_whereComma hcommas
    (wheres_of_whereConnective hconnectives (wheres_of_whereClause hclauses h))

/-- If something dangles in a plain text that was cleaned up, something piled up in it. -/
theorem piles_of_dangles (h : Dangles (plain t)) : Occurs Piling t := by
  obtain ⟨u, v, hcommas, hconnectives, hclauses⟩ := passes_plain t
  rcases dangles_of_whereClause hclauses h with hcomma | ⟨a, _, rfl, hbound, w, _, rfl, hw, hb⟩
  · exact commas_of_whereComma hcommas (keyed_whereConnective.comma hconnectives hcomma)
  · obtain ⟨s, b, rfl, hs, hne, hb | hb⟩ := hb
    · exact connectives_of_whereComma hcommas (connectives_of_whereConnective hconnectives
        ⟨a, _, rfl, hbound, w, _, rfl, hw, s, b, rfl, hs, hne, hb⟩)
    · exact wheres_of_whereComma hcommas (wheres_of_whereConnective hconnectives
        ⟨a, _, rfl, hbound, w, _, rfl, hw, s, b, rfl, hs, hne, hb⟩)

theorem hangs_of_trails (h : Trails (plain t)) : Hangs t := by
  obtain ⟨u, v, hcommas, hconnectives, hclauses⟩ := passes_plain t
  obtain ⟨a, b, rfl, hbound, hb | hb⟩ :=
    hangs_of_whereConnective hconnectives (trails_of_whereClause hclauses h)
  · refine (leads_of_whereComma hcommas ?_ ⟨a, b, rfl, hbound, hb⟩).imp fun c hc => Or.inl ?_
    · exact fun _ => not_head?_isWord_of_blank
    · refine hc.imp ?_
      rintro t ⟨b, hb, hpass⟩
      rwa [eq_of_whereComma hpass hb]
  · refine (leads_of_whereComma hcommas ?_ ⟨a, b, rfl, hbound, hb⟩).imp fun c hc => Or.inr ?_
    · exact fun _ => Skips.head?
    · refine hc.imp ?_
      rintro t ⟨b, hb, hpass⟩
      obtain ⟨s, _, rfl, hs, hne, k, c, rfl, hk, d, hd, hc, -⟩ :=
        connected_of_whereComma hpass (fun _ => not_head?_isWord_of_blank) hb
      refine ⟨s, _, rfl, hs, hne, k, c, rfl, hk, ?_⟩
      rwa [eq_of_whereComma hc hd]

end Cleanup

end SqlTemplate
