import SqlTemplate.Unicode.Class

/-!
What a class of characters takes from the front of a text, and which characters the parts of a
text can have.
-/
namespace SqlTemplate

/-- The codes of the blanks. -/
def Unicode.blankCodes : List Nat :=
  [9, 10, 11, 12, 13, 32, 133, 160, 5760, 8192, 8193, 8194, 8195, 8196, 8197, 8198, 8199, 8200,
    8201, 8202, 8232, 8233, 8239, 8287, 12288]

/-- Whether no blank is in a class of characters can be checked one by one. -/
theorem Unicode.eq_false_of_isBlank {p : Char → Bool}
    (hp : ∀ n ∈ blankCodes, p (Char.ofNat n) = false) {c : Char} (h : isBlank c) : p c = false := by
  have hmem : c.toNat ∈ blankCodes := by
    simp only [isBlank, inRanges, List.any_cons, List.any_nil, Bool.or_false, Bool.or_eq_true,
      Bool.and_eq_true, decide_eq_true_eq] at h
    simp only [blankCodes, List.mem_cons, List.not_mem_nil, or_false]
    omega
  have hfalse := hp c.toNat hmem
  rwa [Char.ofNat_toNat] at hfalse

namespace Text

variable {p : Char → Bool} {a b : Text}

/-- Characters of a class with none of them behind are exactly what the class takes. -/
theorem takeWhile_append_stop (ha : ∀ c ∈ a, p c) (hb : ¬b.head?.any p) :
    (a ++ b).takeWhile p = a := by
  rw [List.takeWhile_append_of_pos ha]
  cases b with
  | nil => simp
  | cons c cs =>
    have hc : p c = false := by simpa using hb
    simp [hc]

theorem dropWhile_append_stop (ha : ∀ c ∈ a, p c) (hb : ¬b.head?.any p) :
    (a ++ b).dropWhile p = b := by
  rw [List.dropWhile_append_of_pos ha]
  cases b with
  | nil => rfl
  | cons c cs =>
    have hc : p c = false := by simpa using hb
    simp [hc]

theorem head?_dropWhile (p : Char → Bool) (t : Text) : ¬(t.dropWhile p).head?.any p := by
  have h := List.head?_dropWhile_not p t
  cases hd : (t.dropWhile p).head? with
  | none => simp
  | some c => simpa [hd] using h

theorem mem_takeWhile {c : Char} {t : Text} (h : c ∈ t.takeWhile p) : p c :=
  List.all_eq_true.1 List.all_takeWhile c h

/-- What holds of all characters of a text can be checked one by one. -/
theorem forall_mem_of_all {q : Char → Prop} [DecidablePred q] {t : Text}
    (h : t.all (fun c => decide (q c)) = true) : ∀ c ∈ t, q c := fun c hc =>
  of_decide_eq_true (List.all_eq_true.1 h c hc)

/-- The end of two texts side by side is one of the text behind, or starts in the one in front. -/
theorem suffix_append_cases {w : Text} (h : w <:+ a ++ b) :
    w <:+ b ∨ ∃ v, v <:+ a ∧ v ≠ [] ∧ w = v ++ b := by
  obtain ⟨x, hx⟩ := h
  rcases List.append_eq_append_iff.1 hx with ⟨v, rfl, rfl⟩ | ⟨v, rfl, rfl⟩
  · by_cases hv : v = []
    · exact Or.inl (by simp [hv])
    · exact Or.inr ⟨v, List.suffix_append x v, hv, rfl⟩
  · exact Or.inl (List.suffix_append v w)

/-- Of two splits of a text, the one with the longer end has the other end in its own. -/
theorem exists_of_append_eq {c d : Text} (h : a ++ b = c ++ d) (hle : d.length ≤ b.length) :
    ∃ v, c = a ++ v ∧ b = v ++ d := by
  rcases List.append_eq_append_iff.1 h with ⟨v, hv, hb⟩ | ⟨v, rfl, rfl⟩
  · exact ⟨v, hv, hb⟩
  · have hnil : v = [] := by
      rw [List.length_append] at hle
      exact List.eq_nil_of_length_eq_zero (by omega)
    exact ⟨[], by simp [hnil], by simp [hnil]⟩

theorem skipBlanks_suffix (cs : Text) : skipBlanks cs <:+ cs := List.dropWhile_suffix _

theorem skipBlanks_of_head {t : Text} (h : ∀ c, t.head? = some c → Unicode.isBlank c = false) :
    skipBlanks t = t := by
  cases t with
  | nil => rfl
  | cons c cs => rw [skipBlanks, List.dropWhile_cons_of_neg (by simp [h c rfl])]

theorem head_skipBlanks (t : Text) (c : Char) (h : (skipBlanks t).head? = some c) :
    Unicode.isBlank c = false := by
  have hnot := head?_dropWhile Unicode.isBlank t
  have hhead : (t.dropWhile Unicode.isBlank).head? = some c := h
  simpa [hhead] using hnot

theorem skipBlanks_append {a t : Text} (ha : ∀ x ∈ a, Unicode.isBlank x)
    (ht : ∀ c, t.head? = some c → Unicode.isBlank c = false) : skipBlanks (a ++ t) = t := by
  refine dropWhile_append_stop ha ?_
  cases t with
  | nil => simp
  | cons c cs => simpa using ht c rfl

theorem notMem_of_blank {t : Text} (ht : ∀ c ∈ t, Unicode.isBlank c) {d : Char}
    (hd : Unicode.isBlank d = false) : d ∉ t := fun hmem => by
  simp [ht d hmem] at hd

/-- The blanks that are skipped. -/
theorem exists_skipBlanks (t : Text) :
    ∃ a, (∀ c ∈ a, Unicode.isBlank c) ∧ t = a ++ skipBlanks t :=
  ⟨t.takeWhile Unicode.isBlank, fun _ => mem_takeWhile, List.takeWhile_append_dropWhile.symm⟩

/-- The blanks that are trimmed at an end. -/
theorem exists_trimEnd (t : Text) : ∃ bs, (∀ c ∈ bs, Unicode.isBlank c) ∧ t = trimEnd t ++ bs := by
  obtain ⟨bs, hbs, hskip⟩ := exists_skipBlanks t.reverse
  refine ⟨bs.reverse, by simpa using hbs, ?_⟩
  rw [← List.reverse_inj, List.reverse_append, List.reverse_reverse]
  conv => lhs; rw [hskip]
  rw [trimEnd, List.reverse_reverse, skipBlanks]

theorem trimEnd_of_getLast? {t : Text}
    (h : ∀ c, t.getLast? = some c → Unicode.isBlank c = false) : trimEnd t = t := by
  have hreverse : skipBlanks t.reverse = t.reverse :=
    skipBlanks_of_head fun c hc => h c (by rwa [List.head?_reverse] at hc)
  exact (congrArg List.reverse hreverse).trans t.reverse_reverse

theorem getLast?_trimEnd (t : Text) (c : Char) (h : (trimEnd t).getLast? = some c) :
    Unicode.isBlank c = false := by
  rw [trimEnd, List.getLast?_reverse] at h
  exact head_skipBlanks t.reverse c h

theorem trimEnd_subset (cs : Text) : trimEnd cs ⊆ cs := by
  intro c hc
  have := (List.dropWhile_suffix Unicode.isBlank).subset (List.mem_reverse.1 hc)
  exact List.mem_reverse.1 this

theorem trim_subset (cs : Text) : trim cs ⊆ cs := fun _ hc =>
  (skipBlanks_suffix cs).subset (trimEnd_subset _ hc)

theorem dropFront?_suffix {front cs rest : Text} (h : dropFront? front cs = some rest) :
    rest <:+ cs :=
  ⟨front, (eq_append_of_dropFront? h).symm⟩

theorem dropBack?_append (t back : Text) : dropBack? back (t ++ back) = some t := by
  rw [dropBack?, List.reverse_append, dropFront?_append, Option.map_some, List.reverse_reverse]

theorem eq_append_of_dropBack? {back cs rest : Text} (h : dropBack? back cs = some rest) :
    cs = rest ++ back := by
  obtain ⟨front, hfront, rfl⟩ := Option.map_eq_some_iff.1 h
  rw [← List.reverse_inj, eq_append_of_dropFront? hfront, List.reverse_append,
    List.reverse_reverse]

theorem sameWord_iff {a b : Text} : sameWord a b ↔ asciiLower a = asciiLower b := beq_iff_eq

theorem length_of_sameWord {a b : Text} (h : sameWord a b) : a.length = b.length := by
  simpa [asciiLower] using congrArg List.length (sameWord_iff.1 h)

theorem sameWord_reverse {a b : Text} : sameWord a.reverse b.reverse ↔ sameWord a b := by
  simp [sameWord_iff, asciiLower]

/-- A word is dropped where it stands in any case of its letters. -/
theorem dropWord?_eq_some_iff {word cs rest : Text} :
    dropWord? word cs = some rest ↔ ∃ w, sameWord w word ∧ cs = w ++ rest := by
  induction word generalizing cs with
  | nil =>
    have hnil : ∀ w : Text, sameWord w [] ↔ w = [] := by simp [sameWord, asciiLower]
    simp [dropWord?, hnil]
  | cons p ps ih =>
    have hcons : ∀ (c : Char) (w : Text),
        sameWord (c :: w) (p :: ps) ↔ c.toLower = p.toLower ∧ sameWord w ps := by
      simp [sameWord, asciiLower]
    cases cs with
    | nil =>
      constructor
      · intro h
        cases h
      · rintro ⟨w, hw, hnil⟩
        obtain ⟨rfl, -⟩ := List.append_eq_nil_iff.1 hnil.symm
        cases hw
    | cons c cs =>
      rw [dropWord?]
      constructor
      · intro h
        split at h
        · rename_i hc
          obtain ⟨w, hw, rfl⟩ := ih.1 h
          exact ⟨c :: w, (hcons c w).2 ⟨hc.symm, hw⟩, rfl⟩
        · cases h
      · rintro ⟨w, hw, hcs⟩
        cases w with
        | nil => cases hw
        | cons d w =>
          obtain ⟨rfl, rfl⟩ := List.cons.inj hcs
          obtain ⟨hc, hw⟩ := (hcons c w).1 hw
          rw [if_pos hc.symm]
          exact ih.2 ⟨w, hw, rfl⟩

theorem dropWord?_suffix {word cs rest : Text} (h : dropWord? word cs = some rest) :
    rest <:+ cs := by
  obtain ⟨w, -, rfl⟩ := dropWord?_eq_some_iff.1 h
  exact List.suffix_append w rest

theorem subset_of_mem_lines {t l : Text} (h : l ∈ t.lines) : l ⊆ t := by
  induction t using lines.induct generalizing l with
  | case1 => simp [lines] at h
  | case2 cs ih =>
    rw [lines] at h
    rcases List.mem_cons.1 h with rfl | h
    · simp
    · exact List.Subset.trans (ih h) (by simp)
  | case3 cs hcs ih =>
    rw [lines, if_pos rfl] at h
    · rcases List.mem_cons.1 h with rfl | h
      · simp
      · exact List.Subset.trans (ih h) (by simp)
    · exact hcs
  | case4 c cs hcs hc hls ih =>
    rw [lines, if_neg hc, hls] at h
    · obtain rfl := List.mem_singleton.1 h
      simp
    · exact hcs
  | case5 c cs hcs hc l' ls hls ih =>
    rw [lines, if_neg hc, hls] at h
    · rcases List.mem_cons.1 h with rfl | h
      · exact List.cons_subset_cons c (ih (hls ▸ List.mem_cons_self))
      · exact List.Subset.trans (ih (hls ▸ List.mem_cons_of_mem _ h)) (by simp)
    · exact hcs

/-- A text is cut at the first occurrence. -/
theorem cut?_eq_some_iff {c : Char} {cs a b : Text} :
    cut? c cs = some (a, b) ↔ cs = a ++ c :: b ∧ c ∉ a := by
  refine ⟨fun h => ⟨eq_append_of_cut? h, ?_⟩, ?_⟩
  · induction cs generalizing a with
    | nil => cases h
    | cons d cs ih =>
      rw [cut?] at h
      split at h
      · obtain ⟨rfl, -⟩ := Prod.mk.inj (Option.some.inj h)
        exact List.not_mem_nil
      · rename_i hd
        obtain ⟨⟨a', b'⟩, ha', heq⟩ := Option.map_eq_some_iff.1 h
        obtain ⟨rfl, rfl⟩ := Prod.mk.inj heq
        exact mt List.mem_cons.1 (not_or.2 ⟨Ne.symm hd, ih ha'⟩)
  · rintro ⟨rfl, hc⟩
    induction a with
    | nil => exact if_pos rfl
    | cons d a ih =>
      obtain ⟨hd, ha⟩ := not_or.1 (mt List.mem_cons.2 hc)
      rw [List.cons_append, cut?, if_neg (Ne.symm hd), ih ha]
      rfl

theorem cut?_eq_none_iff {c : Char} {cs : Text} : cut? c cs = none ↔ c ∉ cs := by
  induction cs with
  | nil => simp [cut?]
  | cons d cs ih =>
    rw [cut?]
    split
    · rename_i hd
      simp [hd]
    · rename_i hd
      simp [ih, Ne.symm hd]

@[simp] theorem join_nil (sep : Text) : join sep [] = [] := rfl

@[simp] theorem join_singleton (sep t : Text) : join sep [t] = t := by simp [join]

@[simp] theorem join_cons_cons (sep t u : Text) (ts : List Text) :
    join sep (t :: u :: ts) = t ++ sep ++ join sep (u :: ts) := by simp [join]

end Text

end SqlTemplate
