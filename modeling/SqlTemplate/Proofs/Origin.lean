import SqlTemplate.Proofs.Pass

/-!
Where what a pass writes comes from.  A word or a blank that a pass leaves at a place was copied
there, or an edit stands at its front; so whatever is found in the text that a pass writes is traced
back to its own text.
-/
namespace SqlTemplate

namespace Cleanup

variable {edit : Edit} {w s t u a b cs out : Text} {word : String} {P Q : Text → Prop}

theorem Occurs.imp (h : Occurs P t) (hPQ : ∀ b, P b → Q b) : Occurs Q t := by
  obtain ⟨a, b, ht, hbound, hb⟩ := h
  exact ⟨a, b, ht, hbound, hPQ b hb⟩

theorem Leads.imp (h : Leads P t) (hPQ : ∀ b, P b → Q b) : Leads Q t := by
  obtain ⟨w, b, ht, hw, hb⟩ := h
  exact ⟨w, b, ht, hw, hPQ b hb⟩

/-- Of two splits of a text, the second one is in the end of the first one or inside its front. -/
theorem append_eq_append_cases {x y : Text} (h : x ++ y = a ++ b) :
    (∃ v, a = x ++ v ∧ y = v ++ b) ∨ ∃ c v, x = a ++ c :: v ∧ b = c :: v ++ y := by
  rcases List.append_eq_append_iff.1 h with ⟨v, hv⟩ | ⟨v, rfl, rfl⟩
  · exact Or.inl ⟨v, hv⟩
  · cases v with
    | nil => exact Or.inl ⟨[], by simp, rfl⟩
    | cons c v => exact Or.inr ⟨c, v, rfl, rfl⟩

/-! What a pass writes comes from its text. -/

/-- Whether a pass edits the front of a text first. -/
def Fired (edit : Edit) (cs out : Text) : Prop :=
  ∃ old rest put more, cs = old ++ rest ∧ out = put ++ more ∧ old ≠ [] ∧ Bounded old rest ∧
    edit cs = some (put, old.length) ∧ Pass edit rest more

/-- Whether a text starts with the letters of `where`. -/
def Begins (t : Text) : Prop := ∃ w b, t = w ++ b ∧ w.sameWord "where".toList

/-- What is known of the edits: they put nothing or a `where` and a blank, and join words only in
front of a `where`. -/
structure Tame (edit : Edit) : Prop where
  nil : edit [] = none
  put : ∀ {cs put n}, edit cs = some (put, n) →
    put = [] ∨ ∃ w, w.sameWord "where".toList ∧ put = w ++ [' ']
  joins : ∀ {cs out}, Fired edit cs out → ¬cs.head?.any Unicode.isWord →
    out.head?.any Unicode.isWord → Begins out

theorem isWord_of_sought (hw : w.sameWord word.toList) (hword : word ∈ soughtWords) :
    ∀ c ∈ w, Unicode.isWord c := by
  intro c hc
  have halpha := (isAlpha_of_sought hw hword).2 c hc
  exact isWord_of_isPart (Name.isPart_of_isStart (isStart_of_isAlpha halpha))

/-- No word with less letters than `where` starts with them. -/
theorem not_begins_of_length (hw : w.length < 5) (hb : ¬b.head?.any Unicode.isWord) :
    ¬Begins (w ++ b) := by
  rintro ⟨x, y, heq, hx⟩
  have hwhere : x.length = 5 := Text.length_of_sameWord hx
  rcases List.append_eq_append_iff.1 heq with ⟨z, rfl, rfl⟩ | ⟨z, rfl, -⟩
  · rw [List.length_append] at hwhere
    cases z with
    | nil =>
      rw [List.length_nil] at hwhere
      omega
    | cons c z => exact hb (isWord_of_sought hx (by decide) c (by simp))
  · rw [List.length_append] at hw
    omega

/-- A pass puts a word where there was none only by an edit. -/
theorem Pass.fired_of_head (h : Pass edit cs out) (hcs : ¬cs.head?.any Unicode.isWord)
    (hout : out.head?.any Unicode.isWord) : Fired edit cs out := by
  cases h with
  | nil => cases hout
  | @word w cs out hne hw hstop h more =>
    obtain ⟨c, w, rfl⟩ := List.exists_cons_of_ne_nil hne
    exact absurd (hw c List.mem_cons_self) hcs
  | other hc h more => exact absurd hout hcs
  | @apply old rest put more hold hbound hedit hmore =>
    exact ⟨old, rest, put, more, rfl, rfl, hold, hbound, hedit, hmore⟩

/-- A word that a pass leaves was there, if the pass edits nothing in front of it. -/
theorem Pass.word_cases (htame : Tame edit) (h : Pass edit cs (w ++ b))
    (hw : w.sameWord word.toList) (hword : word ∈ soughtWords) (hb : ¬b.head?.any Unicode.isWord) :
    (∃ t, cs = w ++ t ∧ ¬t.head?.any Unicode.isWord ∧ edit cs = none ∧ Pass edit t b) ∨
      Fired edit cs (w ++ b) := by
  have hne := (isAlpha_of_sought hw hword).1
  have hwords := isWord_of_sought hw hword
  generalize hout : w ++ b = out at h
  cases h with
  | nil => exact absurd (List.append_eq_nil_iff.1 hout).1 hne
  | @word v t more hv hvs hstop hedit hmore =>
    left
    rcases append_eq_append_cases hout.symm with ⟨x, rfl, rfl⟩ | ⟨c, x, rfl, rfl⟩
    · cases x with
      | nil => exact ⟨t, by simp, hstop, hedit, hmore⟩
      | cons c x =>
        -- the word goes on behind the one that is copied, where a comma was dropped
        have hfired := hmore.fired_of_head hstop (hwords c (by simp))
        refine absurd (htame.joins hfired hstop (hwords c (by simp))) (not_begins_of_length ?_ hb)
        have hshort : ∀ word ∈ soughtWords, word.toList.length ≤ 5 := by decide
        have hle := hshort word hword
        have hlength := Text.length_of_sameWord hw
        have hpos := List.length_pos_iff.2 hv
        rw [List.length_append] at hlength
        omega
    · exact absurd (hvs c (by simp)) hb
  | @other c t more hc hedit hmore =>
    obtain ⟨d, w, rfl⟩ := List.exists_cons_of_ne_nil hne
    obtain ⟨rfl, -⟩ := List.cons.inj hout
    rw [hwords d List.mem_cons_self] at hc
    cases hc
  | @apply old rest put more hold hbound hedit hmore =>
    exact Or.inr ⟨old, rest, put, more, rfl, rfl, hold, hbound, hedit, hmore⟩

theorem Pass.other_cases {c : Char} (h : Pass edit cs (c :: out)) (hc : Unicode.isWord c = false) :
    (∃ t, cs = c :: t ∧ edit cs = none ∧ Pass edit t out) ∨ Fired edit cs (c :: out) := by
  generalize hout : c :: out = out' at h
  cases h with
  | nil => cases hout
  | @word w t more hne hw hstop hedit hmore =>
    obtain ⟨d, w, rfl⟩ := List.exists_cons_of_ne_nil hne
    obtain ⟨rfl, -⟩ := List.cons.inj hout
    rw [hw c List.mem_cons_self] at hc
    cases hc
  | @other d t more hd hedit hmore =>
    obtain ⟨rfl, rfl⟩ := List.cons.inj hout
    exact Or.inl ⟨t, rfl, hedit, hmore⟩
  | @apply old rest put more hold hbound hedit hmore =>
    exact Or.inr ⟨old, rest, put, more, rfl, rfl, hold, hbound, hedit, hmore⟩

/-- What a pass leaves behind a place comes from what stands behind one. -/
theorem Pass.occurs (htame : Tame edit) (h : Pass edit cs out)
    (hP : ∀ b, P b → ¬b.head?.any Unicode.isBlank) (hout : Occurs P out) :
    Occurs (fun c => ∃ b, P b ∧ Pass edit c b ∧ ∀ n, edit c ≠ some ([], n)) cs := by
  obtain ⟨a, b, heq, hbound, hb⟩ := hout
  induction h generalizing a with
  | nil =>
    obtain ⟨rfl, rfl⟩ := List.append_eq_nil_iff.1 heq.symm
    exact ⟨[], [], rfl, bounded_nil _, [], hb, .nil, by simp [htame.nil]⟩
  | @word w cs out hne hw hstop h more ih =>
    rcases append_eq_append_cases heq with ⟨v, rfl, rfl⟩ | ⟨c, v, rfl, rfl⟩
    · obtain ⟨x, c, rfl, hbound', hc⟩ := ih v rfl hbound.of_append
      refine ⟨w ++ x, c, by simp, hbound'.append ?_, hc⟩
      rintro rfl -
      exact hstop
    · by_cases ha : a = []
      · subst ha
        have hnone : edit (c :: v ++ cs) = none := h
        exact ⟨[], _, rfl, bounded_nil _, _, hb, .word hne hw hstop hnone more,
          fun n hn => by cases hnone.symm.trans hn⟩
      · obtain ⟨hwa, hwv⟩ := List.forall_mem_append.1 hw
        exact absurd hbound (not_bounded_word hwa ha (hwv c List.mem_cons_self))
  | @other c cs out hc h more ih =>
    cases a with
    | nil =>
      obtain rfl : c :: out = b := heq
      exact ⟨[], c :: cs, rfl, bounded_nil _, c :: out, hb, .other hc h more, by simp [h]⟩
    | cons d a =>
      obtain ⟨rfl, rfl⟩ := List.cons.inj heq
      obtain ⟨x, t, rfl, hbound', ht⟩ := ih a rfl (@Bounded.of_append a b [c] hbound)
      exact ⟨[c] ++ x, t, rfl, hbound'.append fun _ hlast => by simp [hc] at hlast, ht⟩
  | @apply old rest put out hold hboundOld hedit more ih =>
    rcases append_eq_append_cases heq with ⟨v, rfl, rfl⟩ | ⟨c, v, rfl, rfl⟩
    · obtain ⟨x, c, rfl, hbound', hc⟩ := ih v rfl hbound.of_append
      exact ⟨old ++ x, c, by simp, hbound'.append fun hx => by simpa [hx] using hboundOld, hc⟩
    · -- the place is inside of what is put
      obtain ⟨w, hw, hput⟩ := (htame.put hedit).resolve_left (by simp)
      by_cases ha : a = []
      · subst ha
        exact ⟨[], _, rfl, bounded_nil _, _, hb, .apply hold hboundOld hedit more, by simp [hedit]⟩
      · rcases append_eq_append_cases hput.symm with ⟨x, rfl, hx⟩ | ⟨d, x, rfl, hx⟩
        · have hnil : x = [] := by
            cases x with
            | nil => rfl
            | cons d x => simp at hx
          subst hnil
          obtain ⟨rfl, -⟩ := List.cons.inj hx
          exact absurd rfl (hP _ hb)
        · obtain ⟨rfl, -⟩ := List.cons.inj hx
          obtain ⟨hwa, hwx⟩ := List.forall_mem_append.1 (isWord_of_sought hw (by decide))
          exact absurd hbound (not_bounded_word hwa ha (hwx c List.mem_cons_self))

/-- What a pass leaves behind a `where` comes from what stands behind one that it copies, or from
an edit. -/
theorem Pass.leads (htame : Tame edit) (h : Pass edit cs out)
    (hP : ∀ b, P b → ¬b.head?.any Unicode.isWord) (hout : Occurs (Leads P) out) :
    Occurs (fun c => (edit c = none ∧ Leads (fun t => ∃ b, P b ∧ Pass edit t b) c) ∨
      ∃ b, Leads P b ∧ Fired edit c b ∧ ∀ n, edit c ≠ some ([], n)) cs := by
  refine (h.occurs htame ?_ hout).imp ?_
  · rintro _ ⟨w, b, rfl, hw, -⟩
    exact not_blank_of_head? (head?_any_of_sought hw (by decide) b)
  · rintro c ⟨_, ⟨w, b, rfl, hw, hb⟩, hpass, hput⟩
    rcases hpass.word_cases htame hw (by decide) (hP b hb) with ⟨t, rfl, -, hnone, hmore⟩ | hfired
    · exact Or.inl ⟨hnone, w, t, rfl, hw, b, hb, hmore⟩
    · exact Or.inr ⟨_, ⟨w, b, rfl, hw, hb⟩, hfired, hput⟩

/-- Blanks that a pass leaves were there, if the pass edits nothing among them. -/
theorem Pass.blanks (h : Pass edit cs (s ++ u)) (hs : ∀ c ∈ s, Unicode.isBlank c)
    (hfired : ∀ c v, v ≠ [] → v <:+ s → ¬Fired edit c (v ++ u)) :
    ∃ c, cs = s ++ c ∧ Pass edit c u := by
  induction s generalizing cs with
  | nil => exact ⟨cs, rfl, h⟩
  | cons d s ih =>
    obtain ⟨hd, hs⟩ := List.forall_mem_cons.1 hs
    rcases h.other_cases (isWord_of_isBlank hd) with ⟨t, rfl, -, hmore⟩ | hfire
    · obtain ⟨c, rfl, hc⟩ := ih hmore hs fun c v hne hv =>
        hfired c v hne (hv.trans (List.suffix_cons d s))
      exact ⟨c, rfl, hc⟩
    · exact absurd hfire (hfired _ (d :: s) (List.cons_ne_nil d s) (List.suffix_refl _))

theorem Pass.nil_cases (h : Pass edit cs []) : cs = [] ∨ Fired edit cs [] := by
  generalize hnil : ([] : Text) = o at h
  cases h with
  | nil => exact Or.inl rfl
  | @word w cs out hne => exact absurd (List.append_eq_nil_iff.1 hnil.symm).1 hne
  | other => cases hnil
  | @apply old rest put out hold hbound hedit more =>
    exact Or.inr ⟨old, rest, put, out, rfl, rfl, hold, hbound, hedit, more⟩

/-! What a pass makes of the front of its text. -/

theorem Pass.word_front (h : Pass edit (w ++ b) out) (hne : w ≠ [])
    (hw : ∀ c ∈ w, Unicode.isWord c) (hb : ¬b.head?.any Unicode.isWord) :
    (∃ more, out = w ++ more ∧ Pass edit b more) ∨ Fired edit (w ++ b) out := by
  generalize hcs : w ++ b = cs at h
  cases h with
  | nil => exact absurd (List.append_eq_nil_iff.1 hcs).1 hne
  | @word v t more hv hvs hstop hedit hmore =>
    have hsame : w = v := by
      have hleft := Text.takeWhile_append_stop hw hb
      have hright := Text.takeWhile_append_stop hvs hstop
      rw [← hleft, hcs, hright]
    subst hsame
    exact Or.inl ⟨more, rfl, List.append_cancel_left hcs ▸ hmore⟩
  | @other c t more hc hedit hmore =>
    obtain ⟨d, w, rfl⟩ := List.exists_cons_of_ne_nil hne
    obtain ⟨rfl, -⟩ := List.cons.inj hcs
    rw [hw d List.mem_cons_self] at hc
    cases hc
  | @apply old rest put more hold hbound hedit hmore =>
    exact Or.inr ⟨old, rest, put, more, rfl, rfl, hold, hbound, hedit, hmore⟩

theorem Pass.other_front {c : Char} (h : Pass edit (c :: cs) out) (hc : Unicode.isWord c = false) :
    (∃ more, out = c :: more ∧ Pass edit cs more) ∨ Fired edit (c :: cs) out := by
  generalize hcs : c :: cs = cs' at h
  cases h with
  | nil => cases hcs
  | @word w t more hne hw hstop hedit hmore =>
    obtain ⟨d, w, rfl⟩ := List.exists_cons_of_ne_nil hne
    obtain ⟨rfl, -⟩ := List.cons.inj hcs
    rw [hw c List.mem_cons_self] at hc
    cases hc
  | @other d t more hd hedit hmore =>
    obtain ⟨rfl, rfl⟩ := List.cons.inj hcs
    exact Or.inl ⟨more, rfl, hmore⟩
  | @apply old rest put more hold hbound hedit hmore =>
    exact Or.inr ⟨old, rest, put, more, rfl, rfl, hold, hbound, hedit, hmore⟩

/-! What the edits put. -/

theorem Starts.sameWord {word' : String} (h : Starts word t) (h' : Starts word' t)
    (hword : word ∈ soughtWords) (hword' : word' ∈ soughtWords) :
    Text.sameWord word.toList word'.toList := by
  obtain ⟨w, b, rfl, hw, hb⟩ := h
  obtain ⟨v, c, heq, hv, hc⟩ := h'
  have hsame : w = v := by
    have hleft := Text.takeWhile_append_stop (isWord_of_sought hw hword) hb
    have hright := Text.takeWhile_append_stop (isWord_of_sought hv hword') hc
    rw [← hleft, heq, hright]
  rw [Text.sameWord_iff] at hw hv ⊢
  rw [← hw, hsame, hv]

theorem Starts.head?_isWord (h : Starts word t) (hword : word ∈ soughtWords) :
    t.head?.any Unicode.isWord := by
  obtain ⟨w, b, rfl, hw, -⟩ := h
  exact head?_any_of_sought hw hword b

theorem head?_isWord_of_connects (h : Connects t) : t.head?.any Unicode.isWord :=
  h.elim (·.head?_isWord (by decide)) (·.head?_isWord (by decide))

/-- Blanks that are not empty start with no word. -/
theorem Skips.head? (h : Spaces P t) : ¬t.head?.any Unicode.isWord := by
  obtain ⟨s, t, rfl, hs, hne, -⟩ := h
  obtain ⟨c, s, rfl⟩ := List.exists_cons_of_ne_nil hne
  have hc := isWord_of_isBlank (hs c List.mem_cons_self)
  simp [hc]

theorem starts_of_leads (h : Leads (Spaces P) t) : Starts "where" t := by
  obtain ⟨w, t, rfl, hw, ht⟩ := h
  exact ⟨w, t, rfl, hw, ht.head?⟩

theorem head?_isWord_of_fired (htakes : TakesWords edit) (h : Fired edit cs out) :
    cs.head?.any Unicode.isWord := by
  obtain ⟨old, rest, put, more, rfl, -, -, -, hedit, -⟩ := h
  obtain ⟨old', rest', heq, -, hold, -⟩ := htakes _ _ _ hedit
  rw [heq]
  cases old' with
  | nil => cases hold
  | cons c old' => exact hold

/-- A pass that edits words leaves a word as it is that it does not edit. -/
theorem Pass.starts (h : Pass edit cs out) (htakes : TakesWords edit) (hs : Starts word cs)
    (hword : word ∈ soughtWords) (hfired : ¬Fired edit cs out) : Starts word out := by
  obtain ⟨w, b, rfl, hw, hb⟩ := hs
  obtain ⟨more, rfl, hmore⟩ := (h.word_front (isAlpha_of_sought hw hword).1
    (isWord_of_sought hw hword) hb).resolve_right hfired
  refine ⟨w, more, rfl, hw, fun hout => hb ?_⟩
  exact head?_isWord_of_fired htakes (hmore.fired_of_head hb hout)

/-- The words that clauses start with. -/
def clauseWords : List String := ["order", "group", "limit", "union"]

theorem starts_where_of_fired (h : Fired whereClause cs out) : Starts "where" cs := by
  obtain ⟨old, rest, put, more, rfl, -, -, -, hedit, -⟩ := h
  exact starts_of_leads (whereClause_isSome_iff.1 (by rw [hedit]; rfl))

/-- A clause is left as it is. -/
theorem Pass.head_of_opensClause (h : Pass whereClause cs out) (hcs : OpensClause cs) :
    out.head? = some ')' ∨ ∃ word ∈ clauseWords, Starts word out := by
  have hsought : ∀ word ∈ clauseWords, word ∈ soughtWords := by decide
  have hdiffer : ∀ word ∈ clauseWords, ¬Text.sameWord word.toList "where".toList := by decide
  have hstarts : ∀ word ∈ clauseWords, Starts word cs → Starts word out := by
    intro word hword hs
    refine h.starts takesWords_whereClause hs (hsought word hword) fun hfired => ?_
    have hwhere := starts_where_of_fired hfired
    exact hdiffer word hword (hs.sameWord hwhere (hsought word hword) (by decide))
  cases hcs with
  | parenthesis t =>
    rcases h.other_front (by decide) with ⟨more, rfl, -⟩ | hfired
    · exact Or.inl rfl
    · cases head?_isWord_of_fired takesWords_whereClause hfired
  | limit h => exact Or.inr ⟨"limit", by decide, hstarts _ (by decide) h⟩
  | union h => exact Or.inr ⟨"union", by decide, hstarts _ (by decide) h⟩
  | @ordering w s t hw hs hne hby =>
    have hstop : ¬(s ++ t).head?.any Unicode.isWord := Skips.head? ⟨s, t, rfl, hs, hne, hby⟩
    rcases hw with hw | hw
    · exact Or.inr ⟨"order", by decide, hstarts _ (by decide) ⟨w, _, rfl, hw, hstop⟩⟩
    · exact Or.inr ⟨"group", by decide, hstarts _ (by decide) ⟨w, _, rfl, hw, hstop⟩⟩

/-- Behind a `where` that is dropped stands a clause. -/
theorem head_of_fired (h : Fired whereClause cs out) :
    out.head? = some ')' ∨ ∃ word ∈ clauseWords, Starts word out := by
  obtain ⟨old, rest, put, more, rfl, rfl, -, -, hedit, hpass⟩ := h
  obtain ⟨w, s, b, heq, -, -, -, hb, rfl, hlength⟩ := exists_of_whereClause hedit
  obtain ⟨-, rfl⟩ : old = w ++ s ∧ rest = b :=
    List.append_inj (by rw [heq, List.append_assoc]) hlength
  exact hpass.head_of_opensClause hb

theorem not_fired_of_other (h : ¬out.head?.any Unicode.isWord) (hne : out.head? ≠ some ')') :
    ¬Fired whereClause cs out := by
  intro hfired
  rcases head_of_fired hfired with hhead | ⟨word, hword, hs⟩
  · exact hne hhead
  · have hsought : ∀ word ∈ clauseWords, word ∈ soughtWords := by decide
    exact h (hs.head?_isWord (hsought word hword))

theorem not_fired_of_starts (h : Starts word out) (hword : word ∈ ["where", "and", "or", "by"]) :
    ¬Fired whereClause cs out := by
  have hsought : ∀ word ∈ ["where", "and", "or", "by"], word ∈ soughtWords := by decide
  intro hfired
  rcases head_of_fired hfired with hhead | ⟨word', hword', hs⟩
  · have hw := h.head?_isWord (hsought word hword)
    rw [hhead] at hw
    cases hw
  · have hsought' : ∀ word ∈ clauseWords, word ∈ soughtWords := by decide
    have hdiffer : ∀ word ∈ ["where", "and", "or", "by"], ∀ word' ∈ clauseWords,
        ¬Text.sameWord word.toList word'.toList := by decide
    have hsame := h.sameWord hs (hsought word hword) (hsought' word' hword')
    exact hdiffer word hword word' hword' hsame

/-- What is left of a `where` that loses its connective. -/
theorem fired_whereConnective (h : Fired whereConnective cs out) : ∃ w s k s' rest more,
    Link w s k s' rest ∧ cs = w ++ (s ++ (k ++ (s' ++ rest))) ∧ out = w ++ ' ' :: more ∧
      Pass whereConnective rest more := by
  obtain ⟨old, rest, put, more, rfl, rfl, -, -, hedit, hpass⟩ := h
  obtain ⟨w, s, k, s', rest', hlink, heq, rfl, hlength⟩ := exists_link hedit
  obtain ⟨-, rfl⟩ : old = w ++ (s ++ (k ++ s')) ∧ rest = rest' :=
    List.append_inj (by rw [heq]; simp) hlength
  exact ⟨w, s, k, s', rest, more, hlink, heq, by simp, hpass⟩

/-- What is left of a comma in front of a `where`. -/
theorem fired_whereComma (h : Fired whereComma cs out) :
    ∃ rest, cs = ',' :: rest ∧ Reaches rest ∧ Pass whereComma rest out := by
  obtain ⟨old, rest, put, more, rfl, rfl, -, -, hedit, hpass⟩ := h
  obtain ⟨t, heq, ht⟩ := whereComma_isSome_iff.1 (by rw [hedit]; rfl)
  rw [heq] at hedit
  rcases whereComma_cons ',' t with ⟨-, -, hsome⟩ | ⟨hnot, -⟩
  · rw [hsome] at hedit
    obtain ⟨rfl, hlength⟩ := Prod.mk.inj (Option.some.inj hedit)
    obtain ⟨-, rfl⟩ : old = [','] ∧ rest = t := List.append_inj heq hlength.symm
    exact ⟨rest, heq, ht, hpass⟩
  · exact absurd ⟨rfl, ht⟩ hnot

/-- In front of a `where` only commas are dropped. -/
theorem Pass.begins (h : Pass whereComma (s ++ t) out) (hs : ∀ c ∈ s, Unicode.isBlank c)
    (ht : Starts "where" t) :
    ∃ s v, out = s ++ v ∧ (∀ c ∈ s, Unicode.isBlank c) ∧ Begins v := by
  have hcomma : ∀ {cs out}, Fired whereComma cs out → cs.head? = some ',' := fun h => by
    obtain ⟨rest, rfl, -⟩ := fired_whereComma h
    rfl
  induction s generalizing out with
  | nil =>
    obtain ⟨w, b, rfl, hw, hb⟩ := ht
    have hword := head?_any_of_sought hw (by decide) b
    rw [List.nil_append] at h
    rcases h.word_front (isAlpha_of_sought hw (by decide)).1 (isWord_of_sought hw (by decide)) hb
      with ⟨more, rfl, -⟩ | hfired
    · exact ⟨[], _, rfl, by simp, w, more, rfl, hw⟩
    · rw [hcomma hfired] at hword
      cases hword
  | cons c s ih =>
    obtain ⟨hc, hs⟩ := List.forall_mem_cons.1 hs
    rcases h.other_front (isWord_of_isBlank hc) with ⟨more, rfl, hmore⟩ | hfired
    · obtain ⟨s', v, rfl, hs', hv⟩ := ih hmore hs
      exact ⟨c :: s', v, rfl, List.forall_mem_cons.2 ⟨hc, hs'⟩, hv⟩
    · obtain rfl := Option.some.inj (hcomma hfired)
      cases hc

theorem begins_of_fired (h : Fired whereComma cs out) :
    ∃ s v, out = s ++ v ∧ (∀ c ∈ s, Unicode.isBlank c) ∧ Begins v := by
  obtain ⟨rest, -, ⟨s, t, rfl, hs, ht⟩, hpass⟩ := fired_whereComma h
  exact hpass.begins hs ht

theorem tame_whereComma : Tame whereComma where
  nil := rfl
  put := by
    intro cs put n h
    obtain ⟨t, rfl, ht⟩ := whereComma_isSome_iff.1 (by rw [h]; rfl)
    rcases whereComma_cons ',' t with ⟨-, -, hsome⟩ | ⟨hnot, -⟩
    · rw [hsome] at h
      exact Or.inl (Prod.mk.inj (Option.some.inj h)).1.symm
    · exact absurd ⟨rfl, ht⟩ hnot
  joins := by
    intro cs out h _ hout
    obtain ⟨s, v, rfl, hs, hv⟩ := begins_of_fired h
    cases s with
    | nil => exact hv
    | cons c s => exact absurd (isWord_of_isBlank (hs c List.mem_cons_self)) (by simpa using hout)

theorem tame_whereConnective : Tame whereConnective where
  nil := rfl
  put := by
    intro cs put n h
    obtain ⟨w, s, k, s', rest, hlink, -, rfl, -⟩ := exists_link h
    exact Or.inr ⟨w, hlink.keyword, rfl⟩
  joins h hcs _ := absurd (head?_isWord_of_fired takesWords_whereConnective h) hcs

theorem tame_whereClause : Tame whereClause where
  nil := rfl
  put := by
    intro cs put n h
    obtain ⟨w, s, b, -, -, -, -, -, rfl, -⟩ := exists_of_whereClause h
    exact Or.inl rfl
  joins h hcs _ := absurd (head?_isWord_of_fired takesWords_whereClause h) hcs

/-! What holds of the edits that start with a `where`. -/

/-- What is known of an edit of a `where`: that it starts with one, and that a text is left that
starts with no blank. -/
structure Keyed (edit : Edit) : Prop where
  tame : Tame edit
  starts : ∀ {cs out}, Fired edit cs out → Starts "where" cs
  shows : ∀ {cs out}, Fired edit cs out → out ≠ [] ∧ ¬out.head?.any Unicode.isBlank

theorem keyed_whereConnective : Keyed whereConnective where
  tame := tame_whereConnective
  starts h := by
    obtain ⟨old, rest, put, more, rfl, -, -, -, hedit, -⟩ := h
    exact starts_of_leads (whereConnective_isSome_iff.1 (by rw [hedit]; rfl))
  shows h := by
    obtain ⟨w, s, k, s', rest, more, hlink, -, rfl, -⟩ := fired_whereConnective h
    have hword := head?_any_of_sought hlink.keyword (by decide) (' ' :: more)
    exact ⟨by simp, not_blank_of_head? hword⟩

theorem keyed_whereClause : Keyed whereClause where
  tame := tame_whereClause
  starts := starts_where_of_fired
  shows {cs out} h := by
    refine ⟨?_, fun hblank => ?_⟩
    · rintro rfl
      exact not_fired_of_other (by simp) (by simp) h
    · refine not_fired_of_other (fun hword => not_blank_of_head? hword hblank) (fun hhead => ?_) h
      rw [hhead] at hblank
      cases hblank

/-- A word that a pass leaves at the front was there, if the pass does not edit there. -/
theorem Pass.starts_cases (htame : Tame edit) (h : Pass edit cs out) (hs : Starts word out)
    (hword : word ∈ soughtWords) : Starts word cs ∨ Fired edit cs out := by
  obtain ⟨w, b, rfl, hw, hb⟩ := hs
  rcases h.word_cases htame hw hword hb with ⟨t, rfl, ht, -, -⟩ | hfired
  · exact Or.inl ⟨w, t, rfl, hw, ht⟩
  · exact Or.inr hfired

theorem Pass.connects_cases (htame : Tame edit) (h : Pass edit cs out) (hs : Connects out) :
    Connects cs ∨ Fired edit cs out := by
  rcases hs with hs | hs
  · exact (h.starts_cases htame hs (by decide)).imp_left Or.inl
  · exact (h.starts_cases htame hs (by decide)).imp_left Or.inr

namespace Keyed

variable (hk : Keyed edit)
include hk

theorem blanks (h : Pass edit cs (s ++ u)) (hs : ∀ c ∈ s, Unicode.isBlank c) :
    ∃ c, cs = s ++ c ∧ Pass edit c u := by
  refine h.blanks hs fun c v hne hsuffix hfired => (hk.shows hfired).2 ?_
  obtain ⟨d, v, rfl⟩ := List.exists_cons_of_ne_nil hne
  exact hs d (hsuffix.subset List.mem_cons_self)

theorem skips (h : Pass edit cs out) (hs : Spaces P out) :
    Spaces (fun c => ∃ b, P b ∧ Pass edit c b) cs := by
  obtain ⟨s, b, rfl, hs, hne, hb⟩ := hs
  obtain ⟨c, rfl, hc⟩ := hk.blanks h hs
  exact ⟨s, c, rfl, hs, hne, b, hb, hc⟩

theorem eq_of_blank (h : Pass edit cs out) (hs : ∀ c ∈ out, Unicode.isBlank c) : cs = out := by
  rw [← List.append_nil out] at h
  obtain ⟨c, rfl, hc⟩ := hk.blanks h hs
  rw [hc.nil_cases.resolve_right fun hfired => (hk.shows hfired).1 rfl, List.append_nil]

theorem starts_where (h : Pass edit cs out) (hs : Starts "where" out) : Starts "where" cs :=
  (h.starts_cases hk.tame hs (by decide)).elim id hk.starts

theorem reaches (h : Pass edit cs out) (hs : Reaches out) : Reaches cs := by
  obtain ⟨s, b, rfl, hs, hb⟩ := hs
  obtain ⟨c, rfl, hc⟩ := hk.blanks h hs
  exact ⟨s, c, rfl, hs, hk.starts_where hc hb⟩

end Keyed

end Cleanup

end SqlTemplate
