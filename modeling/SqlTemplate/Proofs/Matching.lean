import Mathlib
import SqlTemplate.Pattern

/-!
What patterns match.  The positions that a search tracks are just those where a match can end: each
round of a repetition adds those that one more time leads to, and the rounds suffice, since a round
that adds no position is the last one and a text has no more positions than there are rounds.
-/
namespace SqlTemplate.Pattern

/-- `n` steps of a relation between positions. -/
def Steps (r : Nat → Nat → Prop) : Nat → Nat → Nat → Prop
  | 0, i, j => i = j
  | n + 1, i, j => ∃ k, r i k ∧ Steps r n k j

/-- Whether a match that begins at position `i` can end at position `j`.  An upper bound on how
often something is repeated counts only if it is not below the lower one. -/
def Matches (text : Array Char) : Pattern → Nat → Nat → Prop
  | empty, i, j => i = j
  | set s, i, j => text[i]?.any s.contains ∧ i + 1 = j
  | anchor a, i, j => a.holds (if i = 0 then none else text[i - 1]?) text[i]? ∧ i = j
  | seq p q, i, j => ∃ k, p.Matches text i k ∧ q.Matches text k j
  | alt p q, i, j => p.Matches text i j ∨ q.Matches text i j
  | repeated p least most, i, j =>
    ∃ n, least ≤ n ∧ (∀ m ∈ most, n ≤ max least m) ∧ Steps (p.Matches text) n i j

section

variable {r : Nat → Nat → Prop} {step : Positions → Positions} {i j m n : Nat} {ps : Positions}

theorem steps_add : Steps r (m + n) i j ↔ ∃ k, Steps r m i k ∧ Steps r n k j := by
  induction m generalizing i with
  | zero => simp [Steps]
  | succ m ih =>
    rw [Nat.add_right_comm, Steps]
    simp only [ih, Steps]
    constructor
    · rintro ⟨k, hk, l, hl, hj⟩
      exact ⟨l, ⟨k, hk, hl⟩, hj⟩
    · rintro ⟨l, ⟨k, hk, hl⟩, hj⟩
      exact ⟨k, hk, l, hl, hj⟩

/-- Steps do not leave what single steps do not leave. -/
theorem Steps.mem {ps : Positions} (hclosed : ∀ i ∈ ps, ∀ j, r i j → j ∈ ps) (hi : i ∈ ps)
    (h : Steps r n i j) : j ∈ ps := by
  induction n generalizing i with
  | zero =>
    obtain rfl : i = j := h
    exact hi
  | succ n ih =>
    obtain ⟨k, hk, hj⟩ := h
    exact ih (hclosed i hi k hk) hj

/-! Searching by rounds, where one round leads as the relation does. -/

variable (hstep : ∀ ps j, j ∈ step ps ↔ ∃ i ∈ ps, r i j)
include hstep

theorem mem_stepN : j ∈ stepN step n ps ↔ ∃ i ∈ ps, Steps r n i j := by
  induction n generalizing ps with
  | zero => simp [stepN, Steps]
  | succ n ih =>
    simp only [stepN, ih, hstep, Steps]
    constructor
    · rintro ⟨k, ⟨i, hi, hk⟩, hj⟩
      exact ⟨i, hi, k, hk, hj⟩
    · rintro ⟨i, hi, k, hk, hj⟩
      exact ⟨k, ⟨i, hi, hk⟩, hj⟩

/-- The positions that a round adds. -/
theorem mem_new {frontier seen : Positions} :
    j ∈ (step frontier).filter (!seen.contains ·) ↔ (∃ i ∈ frontier, r i j) ∧ j ∉ seen := by
  simp [hstep]

theorem exists_of_mem_spread {frontier seen : Positions} (h : j ∈ spread step n frontier seen) :
    j ∈ seen ∨ ∃ k ≤ n, ∃ i ∈ frontier, Steps r k i j := by
  induction n generalizing frontier seen with
  | zero => exact Or.inl h
  | succ n ih =>
    rw [spread] at h
    split at h
    · exact Or.inl h
    · have hadded : ∀ k ∈ (step frontier).filter (!seen.contains ·), ∃ i ∈ frontier, r i k :=
        fun k hk => ((mem_new hstep).1 hk).1
      rcases ih h with hj | ⟨k, hk, i, hi, hj⟩
      · rcases List.mem_append.1 hj with hj | hj
        · exact Or.inl hj
        · obtain ⟨i, hi, hij⟩ := hadded j hj
          exact Or.inr ⟨1, by omega, i, hi, j, hij, rfl⟩
      · obtain ⟨i', hi', hstep'⟩ := hadded i hi
        exact Or.inr ⟨k + 1, by omega, i', hi', i, hstep', hj⟩

omit hstep in
theorem subset_spread (n : Nat) (frontier seen : Positions) :
    seen ⊆ spread step n frontier seen := by
  induction n generalizing frontier seen with
  | zero => exact List.Subset.refl _
  | succ n ih =>
    rw [spread]
    split
    · exact List.Subset.refl _
    · exact List.Subset.trans (List.subset_append_left _ _) (ih _ _)

/-- Whether all positions that have been seen have been left, those of the frontier apart. -/
def Explored (r : Nat → Nat → Prop) (frontier seen : Positions) : Prop :=
  frontier ⊆ seen ∧ ∀ i ∈ seen, i ∉ frontier → ∀ j, r i j → j ∈ seen

omit hstep in
theorem explored_self (ps : Positions) : Explored r ps ps :=
  ⟨List.Subset.refl _, fun _ hi hnot => absurd hi hnot⟩

/-- A round adds what single steps lead to. -/
theorem Explored.leads {frontier seen : Positions} (h : Explored r frontier seen) (hi : i ∈ seen)
    (hij : r i j) : j ∈ seen ++ (step frontier).filter (!seen.contains ·) := by
  by_cases hj : j ∈ seen
  · exact List.mem_append_left _ hj
  · by_cases hfrontier : i ∈ frontier
    · exact List.mem_append_right _ ((mem_new hstep).2 ⟨⟨i, hfrontier, hij⟩, hj⟩)
    · exact absurd (h.2 i hi hfrontier j hij) hj

theorem Explored.next {frontier seen : Positions} (h : Explored r frontier seen) :
    Explored r ((step frontier).filter (!seen.contains ·))
      (seen ++ (step frontier).filter (!seen.contains ·)) :=
  ⟨List.subset_append_right _ _, fun _ hi hnot _ hij =>
    h.leads hstep ((List.mem_append.1 hi).resolve_right hnot) hij⟩

/-- A round that adds nothing has found all. -/
theorem Explored.closed {frontier seen : Positions} (h : Explored r frontier seen)
    (hnew : (step frontier).filter (!seen.contains ·) = []) :
    ∀ i ∈ seen, ∀ j, r i j → j ∈ seen := by
  intro i hi j hij
  have hj := h.leads hstep hi hij
  rwa [hnew, List.append_nil] at hj

/-- As many steps as there are rounds lead to what has been seen in the end. -/
theorem Explored.mem_spread {frontier seen : Positions} (h : Explored r frontier seen) {k : Nat}
    (hk : k ≤ n) (hi : i ∈ seen) (hj : Steps r k i j) : j ∈ spread step n frontier seen := by
  induction n generalizing frontier seen i k with
  | zero =>
    obtain rfl : k = 0 := by omega
    obtain rfl : i = j := hj
    exact hi
  | succ n ih =>
    rw [spread]
    split
    · rename_i hnew
      exact hj.mem (h.closed hstep (List.isEmpty_iff.1 hnew)) hi
    · cases k with
      | zero => exact ih (h.next hstep) (Nat.zero_le n) (List.mem_append_left _ hi) hj
      | succ k =>
        obtain ⟨l, hl, hj⟩ := hj
        exact ih (h.next hstep) (by omega) (h.leads hstep hi hl) hj

/-- With more rounds than there are positions that have not been seen, all are found. -/
theorem Explored.closed_spread {frontier seen : Positions} (h : Explored r frontier seen)
    {size : Nat} (hbound : ∀ i j, r i j → i = j ∨ i < j ∧ j ≤ size)
    (hn : (Finset.range (size + 1) \ seen.toFinset).card < n) :
    ∀ i ∈ spread step n frontier seen, ∀ j, r i j → j ∈ spread step n frontier seen := by
  induction n generalizing frontier seen with
  | zero => omega
  | succ n ih =>
    rw [spread]
    split
    · rename_i hnew
      exact h.closed hstep (List.isEmpty_iff.1 hnew)
    · rename_i hnew
      refine ih (h.next hstep) (Nat.lt_of_lt_of_le (Finset.card_lt_card ?_) (Nat.lt_succ_iff.1 hn))
      -- one of the positions that the round adds is no longer missing
      obtain ⟨k, hk⟩ := List.exists_mem_of_ne_nil _ (mt List.isEmpty_iff.2 hnew)
      obtain ⟨⟨i, hi, hik⟩, hseen⟩ := (mem_new hstep).1 hk
      have hne : i ≠ k := by
        rintro rfl
        exact hseen (h.1 hi)
      have hle : k ≤ size := ((hbound i k hik).resolve_left hne).2
      refine (Finset.ssubset_iff_of_subset ?_).2 ⟨k, ?_, ?_⟩
      · refine Finset.sdiff_subset_sdiff (Finset.Subset.refl _) fun x hx => ?_
        exact List.mem_toFinset.2 (List.mem_append_left _ (List.mem_toFinset.1 hx))
      · simp [hseen, Nat.lt_succ_of_le hle]
      · rw [Finset.mem_sdiff, List.mem_toFinset]
        exact fun h => h.2 (List.mem_append_right _ hk)

/-- A search by rounds from positions on, over at most `n` rounds. -/
theorem mem_spread_self : j ∈ spread step n ps ps ↔ ∃ k ≤ n, ∃ i ∈ ps, Steps r k i j := by
  constructor
  · intro h
    rcases exists_of_mem_spread hstep h with hj | h
    · exact ⟨0, Nat.zero_le n, j, hj, rfl⟩
    · exact h
  · rintro ⟨k, hk, i, hi, hj⟩
    exact (explored_self ps).mem_spread hstep hk hi hj

/-- With as many rounds as a text has positions, their number does not matter. -/
theorem mem_spread_size {size : Nat} (hbound : ∀ i j, r i j → i = j ∨ i < j ∧ j ≤ size) :
    j ∈ spread step (size + 1) ps ps ↔ ∃ k, ∃ i ∈ ps, Steps r k i j := by
  constructor
  · intro h
    obtain ⟨k, -, h⟩ := (mem_spread_self hstep).1 h
    exact ⟨k, h⟩
  · rintro ⟨k, i, hi, hj⟩
    by_cases hps : ∃ i ∈ ps, i ≤ size
    · obtain ⟨i', hi', hle⟩ := hps
      refine hj.mem ((explored_self ps).closed_spread hstep hbound ?_) (subset_spread _ _ _ hi)
      -- the first positions are not missing
      have hlt : (Finset.range (size + 1) \ ps.toFinset).card < (Finset.range (size + 1)).card := by
        refine Finset.card_lt_card ((Finset.ssubset_iff_of_subset Finset.sdiff_subset).2 ⟨i', ?_, ?_⟩)
        · simp [Nat.lt_succ_of_le hle]
        · simp [hi']
      rwa [Finset.card_range] at hlt
    · -- behind the end of a text, no step leads on
      refine subset_spread _ _ _ (hj.mem (fun i hi j hij => ?_) hi)
      rcases hbound i j hij with rfl | ⟨hlt, hle⟩
      · exact hi
      · exact absurd ⟨i, hi, by omega⟩ hps

end

theorem mem_unite {a b : Positions} {j : Nat} : j ∈ unite a b ↔ j ∈ a ∨ j ∈ b := by
  by_cases hj : j ∈ a <;> simp [unite, hj]

variable {text : Array Char} {p : Pattern} {i j : Nat} {ps : Positions}

theorem Steps.le {r : Nat → Nat → Prop} {n size : Nat}
    (hbound : ∀ i j, r i j → i = j ∨ i < j ∧ j ≤ size) (h : Steps r n i j) :
    i = j ∨ i < j ∧ j ≤ size := by
  induction n generalizing i with
  | zero => exact Or.inl h
  | succ n ih =>
    obtain ⟨k, hk, hj⟩ := h
    have := hbound i k hk
    have := ih hj
    omega

/-- A match ends where it begins, or behind that and in the text. -/
theorem Matches.le (h : p.Matches text i j) : i = j ∨ i < j ∧ j ≤ text.size := by
  induction p generalizing i j with
  | empty => exact Or.inl h
  | set s =>
    obtain ⟨hc, rfl⟩ := h
    obtain ⟨c, hget, -⟩ := (Option.any_eq_true _ _).1 hc
    have := (Array.getElem?_eq_some_iff.1 hget).1
    omega
  | anchor a => exact Or.inl h.2
  | seq p q ihp ihq =>
    obtain ⟨k, hp, hq⟩ := h
    have := ihp hp
    have := ihq hq
    omega
  | alt p q ihp ihq => exact h.elim ihp ihq
  | repeated p least most ih =>
    obtain ⟨n, -, -, hsteps⟩ := h
    exact hsteps.le fun i j => ih

/-- The positions that a search tracks are just those where a match can end. -/
theorem mem_ends_iff : j ∈ p.ends text ps ↔ ∃ i ∈ ps, p.Matches text i j := by
  induction p generalizing ps j with
  | empty => simp [ends, Matches]
  | set s => simp [ends, Matches, and_assoc]
  | anchor a =>
    simp only [ends, List.mem_filter, Matches]
    constructor
    · rintro ⟨hj, ha⟩
      exact ⟨j, hj, ha, rfl⟩
    · rintro ⟨i, hi, ha, rfl⟩
      exact ⟨hi, ha⟩
  | seq p q ihp ihq =>
    simp only [ends, ihq, ihp, Matches]
    constructor
    · rintro ⟨k, ⟨i, hi, hp⟩, hq⟩
      exact ⟨i, hi, k, hp, hq⟩
    · rintro ⟨i, hi, k, hp, hq⟩
      exact ⟨k, ⟨i, hi, hp⟩, hq⟩
  | alt p q ihp ihq =>
    simp only [ends, mem_unite, ihp, ihq, Matches]
    constructor
    · rintro (⟨i, hi, h⟩ | ⟨i, hi, h⟩)
      · exact ⟨i, hi, .inl h⟩
      · exact ⟨i, hi, .inr h⟩
    · rintro ⟨i, hi, h | h⟩
      · exact .inl ⟨i, hi, h⟩
      · exact .inr ⟨i, hi, h⟩
  | repeated p least most ih =>
    have hstep : ∀ ps j, j ∈ p.ends text ps ↔ ∃ i ∈ ps, p.Matches text i j := fun ps j => ih
    have hfirst (k : Nat) : (∃ i ∈ stepN (p.ends text) least ps, Steps (p.Matches text) k i j) ↔
        ∃ i ∈ ps, Steps (p.Matches text) (least + k) i j := by
      simp only [mem_stepN hstep, steps_add]
      constructor
      · rintro ⟨l, ⟨i, hi, hl⟩, hj⟩
        exact ⟨i, hi, l, hl, hj⟩
      · rintro ⟨i, hi, l, hl, hj⟩
        exact ⟨l, ⟨i, hi, hl⟩, hj⟩
    cases most with
    | none =>
      simp only [ends, mem_spread_size hstep fun i j => Matches.le, hfirst, Matches]
      constructor
      · rintro ⟨k, i, hi, hj⟩
        exact ⟨i, hi, least + k, Nat.le_add_right _ _, by simp, hj⟩
      · rintro ⟨i, hi, n, hn, -, hj⟩
        exact ⟨n - least, i, hi, by rwa [Nat.add_sub_cancel' hn]⟩
    | some m =>
      simp only [ends, mem_spread_self hstep, hfirst, Matches]
      constructor
      · rintro ⟨k, hk, i, hi, hj⟩
        refine ⟨i, hi, least + k, Nat.le_add_right _ _, fun m' hm => ?_, hj⟩
        obtain rfl := Option.some.inj hm
        omega
      · rintro ⟨i, hi, n, hn, hmost, hj⟩
        have := hmost m rfl
        exact ⟨n - least, by omega, i, hi, by rwa [Nat.add_sub_cancel' hn]⟩

/-! Patterns without anchors, by the texts that they match. -/

/-- Whether a relation between the positions of texts has just the texts with a property between
them, wherever they stand. -/
def Describes (m : Array Char → Nat → Nat → Prop) (P : Text → Prop) : Prop :=
  ∀ (front cs : Text) (j : Nat), m (front ++ cs).toArray front.length j ↔
    ∃ t rest, cs = t ++ rest ∧ j = front.length + t.length ∧ P t

section

variable {m m' : Array Char → Nat → Nat → Prop} {P Q : Text → Prop}

theorem Describes.congr (h : Describes m P) (hPQ : ∀ t, P t ↔ Q t) : Describes m Q := by
  intro front cs j
  simp only [h front cs j, hPQ]

theorem Describes.comp (h : Describes m P) (h' : Describes m' Q) :
    Describes (fun text i j => ∃ k, m text i k ∧ m' text k j)
      fun t => ∃ u v, t = u ++ v ∧ P u ∧ Q v := by
  intro front cs j
  -- the first part stands in front of the second one
  have hsecond (u rest : Text) : m' (front ++ (u ++ rest)).toArray (front.length + u.length) j ↔
      ∃ v rest', rest = v ++ rest' ∧ j = front.length + u.length + v.length ∧ Q v := by
    rw [← List.append_assoc, ← List.length_append]
    exact h' (front ++ u) rest j
  constructor
  · rintro ⟨k, hk, hj⟩
    obtain ⟨u, rest, rfl, rfl, hu⟩ := (h front cs k).1 hk
    obtain ⟨v, rest', rfl, rfl, hv⟩ := (hsecond u rest).1 hj
    exact ⟨u ++ v, rest', by simp, by simp [Nat.add_assoc], u, v, rfl, hu, hv⟩
  · rintro ⟨t, rest, rfl, rfl, u, v, rfl, hu, hv⟩
    refine ⟨front.length + u.length, (h front _ _).2 ⟨u, v ++ rest, by simp, rfl, hu⟩, ?_⟩
    rw [List.append_assoc, hsecond]
    exact ⟨v, rest, rfl, by simp [Nat.add_assoc], hv⟩

theorem describes_eq : Describes (fun _ i j => i = j) fun t => t = [] := by
  intro front cs j
  constructor
  · rintro rfl
    exact ⟨[], cs, rfl, rfl, rfl⟩
  · rintro ⟨t, rest, rfl, rfl, rfl⟩
    rfl

theorem Describes.steps (h : Describes m P) (n : Nat) :
    Describes (fun text => Steps (m text) n)
      fun t => ∃ ts : List Text, t = ts.flatten ∧ ts.length = n ∧ ∀ u ∈ ts, P u := by
  induction n with
  | zero =>
    refine describes_eq.congr fun t => ?_
    constructor
    · rintro rfl
      exact ⟨[], rfl, rfl, by simp⟩
    · rintro ⟨ts, rfl, hnil, -⟩
      rw [List.length_eq_zero_iff.1 hnil, List.flatten_nil]
  | succ n ih =>
    refine (h.comp ih).congr fun t => ?_
    constructor
    · rintro ⟨u, v, rfl, hu, ts, rfl, rfl, hts⟩
      exact ⟨u :: ts, rfl, rfl, List.forall_mem_cons.2 ⟨hu, hts⟩⟩
    · rintro ⟨ts, rfl, hlength, hts⟩
      obtain ⟨u, ts, rfl⟩ := List.exists_cons_of_length_eq_add_one hlength
      obtain ⟨hu, hts⟩ := List.forall_mem_cons.1 hts
      exact ⟨u, ts.flatten, rfl, hu, ts, rfl, by simpa using hlength, hts⟩

/-- What is repeated matches texts side by side. -/
theorem Describes.repeated (h : Describes (fun text => p.Matches text) P) (least : Nat) :
    Describes (fun text => (p.repeated least none).Matches text)
      fun t => ∃ ts : List Text, t = ts.flatten ∧ least ≤ ts.length ∧ ∀ u ∈ ts, P u := by
  intro front cs j
  simp only [Matches, h.steps _ front cs j]
  constructor
  · rintro ⟨n, hn, -, t, rest, rfl, rfl, ts, rfl, rfl, hts⟩
    exact ⟨ts.flatten, rest, rfl, rfl, ts, rfl, hn, hts⟩
  · rintro ⟨t, rest, rfl, rfl, ts, rfl, hleast, hts⟩
    exact ⟨ts.length, hleast, by simp, ts.flatten, rest, rfl, rfl, ts, rfl, rfl, hts⟩

theorem describes_set (s : CharSet) :
    Describes (fun text => (set s).Matches text) fun t => ∃ c, t = [c] ∧ s.contains c := by
  intro front cs j
  have hget : (front ++ cs).toArray[front.length]? = cs.head? := by
    rw [List.getElem?_toArray, List.getElem?_append_right (Nat.le_refl _), Nat.sub_self,
      List.head?_eq_getElem?]
  simp only [Matches, hget]
  constructor
  · rintro ⟨hc, rfl⟩
    cases cs with
    | nil => cases hc
    | cons c cs => exact ⟨[c], cs, rfl, rfl, c, rfl, hc⟩
  · rintro ⟨t, rest, rfl, rfl, c, rfl, hc⟩
    exact ⟨hc, rfl⟩

/-- A repeated set matches the texts of its characters. -/
theorem describes_repeated_set (s : CharSet) (least : Nat) :
    Describes (fun text => ((set s).repeated least none).Matches text)
      fun t => least ≤ t.length ∧ ∀ c ∈ t, s.contains c := by
  refine ((describes_set s).repeated least).congr fun t => ?_
  constructor
  · rintro ⟨ts, rfl, hleast, hts⟩
    -- each of the texts is one character
    have hmap : ts = ts.flatten.map fun c => [c] := by
      clear hleast
      induction ts with
      | nil => rfl
      | cons u ts ih =>
        obtain ⟨⟨c, rfl, -⟩, hrest⟩ := List.forall_mem_cons.1 hts
        exact congrArg ([c] :: ·) (ih hrest)
    refine ⟨?_, fun c hc => ?_⟩
    · rwa [hmap, List.length_map] at hleast
    · obtain ⟨d, hd, hcontains⟩ := hts [c] (hmap ▸ List.mem_map.2 ⟨c, hc, rfl⟩)
      rwa [List.singleton_inj.1 hd]
  · rintro ⟨hleast, ht⟩
    refine ⟨t.map ([·]), ?_, by rwa [List.length_map], fun u hu => ?_⟩
    · rw [← List.flatMap_def, List.flatMap_singleton']
    · obtain ⟨c, hc, rfl⟩ := List.mem_map.1 hu
      exact ⟨c, rfl, ht c hc⟩

end

end SqlTemplate.Pattern
