import SqlTemplate.Placeholder
import SqlTemplate.Proofs.Name

/-!
The ways to write a placeholder.  One is read where a text starts with one of them, whatever stands
behind it; so placeholders can neither overlap nor depend on what follows.
-/
namespace SqlTemplate.Placeholder

/-- How a placeholder may be written: blanks may stand around its mark and behind its name. -/
inductive Written : Placeholder → Text → Prop
  | intro (mark : Mark) {name a b c : Text} (hname : Name.IsName name)
    (ha : ∀ x ∈ a, Unicode.isBlank x) (hb : ∀ x ∈ b, Unicode.isBlank x)
    (hc : ∀ x ∈ c, Unicode.isBlank x) :
    Written ⟨mark, name⟩ ('$' :: '{' :: (a ++ (mark.text ++ (b ++ (name ++ (c ++ ['}']))))))

theorem head_name {name : Text} (h : Name.IsName name) (t : Text) (c : Char)
    (hc : (name ++ t).head? = some c) : Name.isStart c := by
  obtain ⟨d, ds, rfl, hd⟩ := h.head
  obtain rfl : d = c := by simpa using hc
  exact hd

/-- The blanks, the mark and the blanks in front of a name are what reading up to it skips. -/
theorem skipBlanks_mark (mark : Mark) {a b t : Text} (ha : ∀ x ∈ a, Unicode.isBlank x)
    (hb : ∀ x ∈ b, Unicode.isBlank x) (ht : ∀ c, t.head? = some c → Name.isStart c) :
    (Mark.read (Text.skipBlanks (a ++ (mark.text ++ (b ++ t))))).1 = mark ∧
      Text.skipBlanks (Mark.read (Text.skipBlanks (a ++ (mark.text ++ (b ++ t))))).2 = t := by
  have hblank : ∀ c, t.head? = some c → Unicode.isBlank c = false :=
    fun c hc => Name.isBlank_of_isStart (ht c hc)
  cases mark with
  | colon =>
    have hskip : Text.skipBlanks (a ++ (Mark.colon.text ++ (b ++ t))) = ':' :: (b ++ t) :=
      Text.skipBlanks_append ha (by rintro c ⟨⟩; decide)
    rw [hskip]
    exact ⟨rfl, Text.skipBlanks_append hb hblank⟩
  | exclamation =>
    have hskip : Text.skipBlanks (a ++ (Mark.exclamation.text ++ (b ++ t))) = '!' :: (b ++ t) :=
      Text.skipBlanks_append ha (by rintro c ⟨⟩; decide)
    rw [hskip]
    exact ⟨rfl, Text.skipBlanks_append hb hblank⟩
  | bare =>
    have hskip : Text.skipBlanks (a ++ (Mark.bare.text ++ (b ++ t))) = t := by
      rw [Mark.text, List.nil_append, ← List.append_assoc]
      refine Text.skipBlanks_append (fun x hx => ?_) hblank
      exact (List.mem_append.1 hx).elim (ha x) (hb x)
    have hread : Mark.read t = (.bare, t) := by
      unfold Mark.read
      split
      · cases ht ':' rfl
      · cases ht '!' rfl
      · rfl
    rw [hskip, hread]
    exact ⟨rfl, Text.skipBlanks_of_head hblank⟩

theorem stops_blanks {c : Text} (hc : ∀ x ∈ c, Unicode.isBlank x) (rest : Text) :
    Name.Stops (c ++ '}' :: rest) := by
  cases c with
  | nil => exact ⟨rfl, by simp⟩
  | cons x c =>
    have hx := hc x List.mem_cons_self
    have hpart : Name.isPart x = false := Unicode.eq_false_of_isBlank (by decide) hx
    have hdot : (x == '.') = false :=
      Unicode.eq_false_of_isBlank (p := (· == '.')) (by decide) hx
    exact ⟨hpart, fun h => by simp [h] at hdot⟩

/-- What is written is read, whatever follows. -/
theorem Written.read? {p : Placeholder} {w : Text} (h : Written p w) (rest : Text) :
    read? (w ++ rest) = some (p, rest) := by
  cases h with
  | @intro mark name a b c hname ha hb hc =>
    obtain ⟨hmark, hskip⟩ := skipBlanks_mark mark ha hb (head_name hname (c ++ '}' :: rest))
    have hclose : Text.skipBlanks (c ++ '}' :: rest) = '}' :: rest :=
      Text.skipBlanks_append hc (by rintro x ⟨⟩; decide)
    simp only [List.cons_append, List.append_assoc, List.nil_append]
    rw [Placeholder.read?]
    dsimp only
    rw [hskip, Name.read?_of_isName hname (stops_blanks hc rest)]
    dsimp only
    rw [hclose, hmark]
    rfl

theorem exists_mark (t : Text) :
    ∃ b, (∀ x ∈ b, Unicode.isBlank x) ∧
      t = (Mark.read t).1.text ++ (b ++ Text.skipBlanks (Mark.read t).2) := by
  obtain ⟨b, hb, hskip⟩ := Text.exists_skipBlanks (Mark.read t).2
  refine ⟨b, hb, ?_⟩
  rw [← hskip]
  unfold Mark.read
  split <;> rfl

/-- What is read was written. -/
theorem exists_written {cs rest : Text} {p : Placeholder} (h : read? cs = some (p, rest)) :
    ∃ w, Written p w ∧ cs = w ++ rest := by
  unfold read? at h
  split at h
  · rename_i cs
    dsimp only at h
    split at h
    · rename_i name tail hname
      split at h
      · rename_i rest' hrest
        obtain ⟨rfl, rfl⟩ := Prod.mk.inj (Option.some.inj h)
        obtain ⟨a, ha, hcs⟩ := Text.exists_skipBlanks cs
        obtain ⟨b, hb, hmark⟩ := exists_mark (Text.skipBlanks cs)
        obtain ⟨c, hc, htail⟩ := Text.exists_skipBlanks tail
        rw [← (Name.read?_append hname).1] at hmark
        rw [hrest] at htail
        refine ⟨_, .intro _ (Name.read?_spec hname).1 ha hb hc, ?_⟩
        conv => lhs; rw [hcs, hmark, htail]
        simp
      · cases h
    · cases h
  · cases h

/-- A placeholder in front of one text is one in front of every other text. -/
theorem read?_change {cs rest : Text} {p : Placeholder} (h : read? cs = some (p, rest)) :
    ∃ w, cs = w ++ rest ∧ Written p w ∧ ∀ rest', read? (w ++ rest') = some (p, rest') := by
  obtain ⟨w, hw, hcs⟩ := exists_written h
  exact ⟨w, hcs, hw, hw.read?⟩

/-- Behind its first character a placeholder has none of the characters that could start another
one, and none that is a question mark. -/
theorem Written.mem_tail {p : Placeholder} {w : Text} (h : Written p w) :
    ∃ t, w = '$' :: '{' :: t ∧ ∀ c ∈ t, c ≠ '$' ∧ c ≠ '?' := by
  cases h with
  | @intro mark name a b c hname ha hb hc =>
    refine ⟨_, rfl, ?_⟩
    have hblank : ∀ {x : Char}, Unicode.isBlank x → x ≠ '$' ∧ x ≠ '?' := by
      intro x hx
      constructor <;> rintro rfl <;> revert hx <;> decide
    intro x hx
    simp only [List.mem_append, List.mem_singleton] at hx
    rcases hx with hx | hx | hx | hx | hx | rfl
    · exact hblank (ha x hx)
    · cases mark <;> simp [Mark.text] at hx <;> subst hx <;> decide
    · exact hblank (hb x hx)
    · rcases hname.mem hx with hpart | rfl
      · exact ⟨Name.ne_of_isPart hpart rfl, Name.ne_of_isPart hpart rfl⟩
      · decide
    · exact hblank (hc x hx)
    · decide

theorem Written.getLast? {p : Placeholder} {w : Text} (h : Written p w) : w.getLast? = some '}' := by
  cases h
  simp [List.getLast?_cons]

theorem read?_eq_none {t : Text} (h : t.head? ≠ some '$') : read? t = none := by
  unfold read?
  split
  · simp at h
  · rfl

/-- A placeholder without blanks in it. -/
def plain (mark : Mark) (name : Text) : Text := '$' :: '{' :: (mark.text ++ (name ++ ['}']))

theorem written_plain (mark : Mark) {name : Text} (h : Name.IsName name) :
    Written ⟨mark, name⟩ (plain mark name) := by
  have hnone : ∀ c ∈ ([] : Text), Unicode.isBlank c := fun c hc => by cases hc
  exact .intro mark h hnone hnone hnone

end SqlTemplate.Placeholder
