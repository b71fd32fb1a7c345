import SqlTemplate.Proofs.Text
import SqlTemplate.Segment

/-!
The regions of SQL text by themselves.  Where a region ends is decided by the region and by the
one character behind it: what else follows plays no part, and neither does what stands before.
-/
namespace SqlTemplate.Segment

@[simp] theorem quotedRun_nil (mark : Char) : quotedRun mark [] = ([], []) := rfl

theorem quotedRun_cons_of_ne {mark c : Char} (h : c ≠ mark) (cs : Text) :
    quotedRun mark (c :: cs) = (c :: (quotedRun mark cs).1, (quotedRun mark cs).2) := by
  cases cs with
  | nil => rfl
  | cons d ds => rw [quotedRun, if_neg h]

theorem quotedRun_mark_mark (mark : Char) (cs : Text) :
    quotedRun mark (mark :: mark :: cs) =
      (mark :: mark :: (quotedRun mark cs).1, (quotedRun mark cs).2) := by
  rw [quotedRun, if_pos rfl, if_pos rfl]

theorem quotedRun_mark {mark : Char} {cs : Text} (h : cs.head? ≠ some mark) :
    quotedRun mark (mark :: cs) = ([mark], cs) := by
  cases cs with
  | nil => rfl
  | cons d ds =>
    have hd : d ≠ mark := by simpa using h
    rw [quotedRun, if_pos rfl, if_neg hd]

/-- A quoted run that ends before the text does is not followed by its mark. -/
theorem head?_quotedRun (mark : Char) (cs : Text) :
    (quotedRun mark cs).2.head? ≠ some mark := by
  induction cs using quotedRun.induct mark with
  | case1 => simp
  | case2 c => simp [quotedRun]
  | case3 cs run rest hr ih => simpa [quotedRun_mark_mark] using ih
  | case4 d cs hd => simp [quotedRun, hd]
  | case5 c d cs hc run rest hr ih => simpa [quotedRun_cons_of_ne hc] using ih

/-- A quoted run that ends before the text does ends there in front of every other text, too. -/
theorem quotedRun_change {mark : Char} {cs rest : Text} (hne : (quotedRun mark cs).2 ≠ [])
    (hrest : rest.head? ≠ some mark) :
    quotedRun mark ((quotedRun mark cs).1 ++ rest) = ((quotedRun mark cs).1, rest) := by
  induction cs using quotedRun.induct mark with
  | case1 => simp at hne
  | case2 c => simp [quotedRun] at hne
  | case3 cs run rest' hr ih =>
    rw [quotedRun_mark_mark] at hne ⊢
    simp [quotedRun_mark_mark, ih hne]
  | case4 d cs hd => simpa [quotedRun, hd] using quotedRun_mark hrest
  | case5 c d cs hc run rest' hr ih =>
    rw [quotedRun_cons_of_ne hc] at hne ⊢
    simp [quotedRun_cons_of_ne hc, ih hne]

theorem blockRun_open (depth : Nat) (cs : Text) :
    blockRun depth ('/' :: '*' :: cs) =
      ('/' :: '*' :: (blockRun (depth + 1) cs).1, (blockRun (depth + 1) cs).2) := by
  rw [blockRun, if_pos ⟨rfl, rfl⟩]

theorem blockRun_last {depth : Nat} (h : depth ≤ 1) (cs : Text) :
    blockRun depth ('*' :: '/' :: cs) = (['*', '/'], cs) := by
  rw [blockRun, if_neg (by decide), if_pos ⟨rfl, rfl⟩, if_pos h]

theorem blockRun_close {depth : Nat} (h : ¬depth ≤ 1) (cs : Text) :
    blockRun depth ('*' :: '/' :: cs) =
      ('*' :: '/' :: (blockRun (depth - 1) cs).1, (blockRun (depth - 1) cs).2) := by
  rw [blockRun, if_neg (by decide), if_pos ⟨rfl, rfl⟩, if_neg h]

theorem blockRun_cons {depth : Nat} {c d : Char} (hopen : ¬(c = '/' ∧ d = '*'))
    (hclose : ¬(c = '*' ∧ d = '/')) (cs : Text) :
    blockRun depth (c :: d :: cs) =
      (c :: (blockRun depth (d :: cs)).1, (blockRun depth (d :: cs)).2) := by
  rw [blockRun, if_neg hopen, if_neg hclose]

theorem head?_blockRun (depth : Nat) (d : Char) (cs : Text) :
    (blockRun depth (d :: cs)).1.head? = some d := by
  have h := congrArg List.head? (blockRun_append depth (d :: cs))
  rw [List.head?_append, List.head?_cons] at h
  cases hr : (blockRun depth (d :: cs)).1 with
  | cons e es => simpa [hr] using h
  | nil =>
    unfold blockRun at hr
    split at hr
    · simp_all
    · simp_all
    · split at hr
      · simp at hr
      · split at hr
        · split at hr <;> simp at hr
        · simp at hr

/-- A block comment that ends before the text does ends there whatever follows. -/
theorem blockRun_change {depth : Nat} {cs : Text} (rest : Text)
    (hne : (blockRun depth cs).2 ≠ []) :
    blockRun depth ((blockRun depth cs).1 ++ rest) = ((blockRun depth cs).1, rest) := by
  induction depth, cs using blockRun.induct with
  | case1 depth => simp [blockRun] at hne
  | case2 depth c => simp [blockRun] at hne
  | case3 depth c d cs h run rest' hr ih =>
    obtain ⟨rfl, rfl⟩ := h
    rw [blockRun_open] at hne ⊢
    simp [blockRun_open, ih hne]
  | case4 depth c d cs hopen h hd =>
    obtain ⟨rfl, rfl⟩ := h
    rw [blockRun_last hd]
    exact blockRun_last hd rest
  | case5 depth c d cs hopen h hd run rest' hr ih =>
    obtain ⟨rfl, rfl⟩ := h
    rw [blockRun_close hd] at hne ⊢
    simp [blockRun_close hd, ih hne]
  | case6 depth c d cs hopen hclose run rest' hr ih =>
    rw [blockRun_cons hopen hclose] at hne ⊢
    have hhead := head?_blockRun depth d cs
    cases hb : (blockRun depth (d :: cs)).1 with
    | nil => simp [hb] at hhead
    | cons e es =>
      obtain rfl : e = d := by simpa [hb] using hhead
      have := ih hne
      rw [hb] at this
      simp only [List.cons_append] at this ⊢
      rw [blockRun_cons hopen hclose, this]

/-! The four kinds of regions. -/

theorem region?_quoted {mark : Char} (hm : mark = '\x27' ∨ mark = '\x22') (t : Text) :
    region? (mark :: t) = some (mark :: (quotedRun mark t).1, (quotedRun mark t).2) := by
  rcases hm with rfl | rfl <;> rfl

theorem region?_comment (t : Text) :
    region? ('-' :: '-' :: t) =
      some ('-' :: '-' :: t.takeWhile (· != '\n'), t.dropWhile (· != '\n')) := rfl

theorem region?_block (t : Text) :
    region? ('/' :: '*' :: t) = some ('/' :: '*' :: (blockRun 1 t).1, (blockRun 1 t).2) := rfl

theorem region?_cast {c : Char} (hc : Name.isStart c) (t : Text) :
    region? (':' :: ':' :: c :: t) =
      some (':' :: ':' :: c :: t.takeWhile Name.isPart, t.dropWhile Name.isPart) := by
  rw [region?, if_pos hc]

/-- How a text can start with a region. -/
inductive Opening : Text → Text → Text → Prop
  | quoted {mark : Char} (hm : mark = '\x27' ∨ mark = '\x22') (t : Text) :
    Opening (mark :: t) (mark :: (quotedRun mark t).1) (quotedRun mark t).2
  | comment (t : Text) :
    Opening ('-' :: '-' :: t) ('-' :: '-' :: t.takeWhile (· != '\n')) (t.dropWhile (· != '\n'))
  | block (t : Text) :
    Opening ('/' :: '*' :: t) ('/' :: '*' :: (blockRun 1 t).1) (blockRun 1 t).2
  | cast {c : Char} (hc : Name.isStart c) (t : Text) :
    Opening (':' :: ':' :: c :: t) (':' :: ':' :: c :: t.takeWhile Name.isPart)
      (t.dropWhile Name.isPart)

theorem opening_of_region? {cs run rest : Text} (h : region? cs = some (run, rest)) :
    Opening cs run rest := by
  unfold region? at h
  split at h
  · obtain ⟨rfl, rfl⟩ := Prod.mk.inj (Option.some.inj h)
    exact .quoted (Or.inl rfl) _
  · obtain ⟨rfl, rfl⟩ := Prod.mk.inj (Option.some.inj h)
    exact .quoted (Or.inr rfl) _
  · obtain ⟨rfl, rfl⟩ := Prod.mk.inj (Option.some.inj h)
    exact .comment _
  · obtain ⟨rfl, rfl⟩ := Prod.mk.inj (Option.some.inj h)
    exact .block _
  · split at h
    · rename_i hc
      obtain ⟨rfl, rfl⟩ := Prod.mk.inj (Option.some.inj h)
      exact .cast hc _
    · simp at h
  · simp at h

/-- Whether `rest` leaves a region in front of it as it is: no mark directly behind a quoted run,
no name character directly behind a cast, and a line comment ends with its line. -/
def Follows (run rest : Text) : Prop :=
  (run.head? = some '\x27' ∨ run.head? = some '\x22' → rest.head? ≠ run.head?) ∧
  (run.head? = some '-' → rest = [] ∨ rest.head? = some '\n') ∧
  (run.head? = some ':' → ¬rest.head?.any Name.isPart)

theorem follows_of_region? {cs run rest : Text} (h : region? cs = some (run, rest)) :
    Follows run rest := by
  cases opening_of_region? h with
  | quoted hm t =>
    refine ⟨fun _ => head?_quotedRun _ t, ?_, ?_⟩
    · rcases hm with rfl | rfl <;> simp
    · rcases hm with rfl | rfl <;> simp
  | comment t =>
    refine ⟨by simp, fun _ => ?_, by simp⟩
    have hstop := Text.head?_dropWhile (· != '\n') t
    cases hd : t.dropWhile (· != '\n') with
    | nil => exact Or.inl rfl
    | cons d ds => exact Or.inr (by simpa [hd] using hstop)
  | block t => exact ⟨by simp, by simp, by simp⟩
  | cast hc t => exact ⟨by simp, by simp, fun _ => Text.head?_dropWhile Name.isPart t⟩

/-- A region that ends before the text does is the same in front of every text that may follow. -/
theorem region?_change {cs run rest rest' : Text} (h : region? cs = some (run, rest))
    (hne : rest ≠ []) (hf : Follows run rest') : region? (run ++ rest') = some (run, rest') := by
  cases opening_of_region? h with
  | @quoted mark hm t =>
    have hrest : rest'.head? ≠ some mark := hf.1 (hm.imp (by simp_all) (by simp_all))
    rw [List.cons_append, region?_quoted hm, quotedRun_change hne hrest]
  | comment t =>
    have hstop : ¬rest'.head?.any (· != '\n') := by
      rcases hf.2.1 rfl with rfl | hhead
      · simp
      · simp [hhead]
    have hall : ∀ c ∈ t.takeWhile (· != '\n'), (c != '\n') = true := fun c => Text.mem_takeWhile
    rw [List.cons_append, List.cons_append, region?_comment,
      Text.takeWhile_append_stop hall hstop, Text.dropWhile_append_stop hall hstop]
  | block t =>
    rw [List.cons_append, List.cons_append, region?_block, blockRun_change rest' hne]
  | cast hc t =>
    have hall : ∀ c ∈ t.takeWhile Name.isPart, Name.isPart c = true := fun c => Text.mem_takeWhile
    rw [List.cons_append, List.cons_append, List.cons_append, region?_cast hc,
      Text.takeWhile_append_stop hall (hf.2.2 rfl), Text.dropWhile_append_stop hall (hf.2.2 rfl)]

/-- Where a region opens, it opens in front of every other text as well. -/
theorem region?_append_isSome {cs : Text} (h : (region? cs).isSome) (rest : Text) :
    (region? (cs ++ rest)).isSome := by
  obtain ⟨⟨run, tail⟩, hr⟩ := Option.isSome_iff_exists.1 h
  cases opening_of_region? hr with
  | quoted hm t => rw [List.cons_append, region?_quoted hm]; rfl
  | comment t => rfl
  | block t => rfl
  | cast hc t => simp only [List.cons_append]; rw [region?_cast hc]; rfl

/-- What opens a region: a quote, two dashes, a slash with a star, or two colons with a name. -/
theorem region?_isSome_iff (cs : Text) :
    (region? cs).isSome ↔
      (cs.head? = some '\x27' ∨ cs.head? = some '\x22') ∨ ['-', '-'] <+: cs ∨ ['/', '*'] <+: cs ∨
        ∃ c, Name.isStart c ∧ [':', ':', c] <+: cs := by
  constructor
  · intro h
    obtain ⟨⟨run, rest⟩, hr⟩ := Option.isSome_iff_exists.1 h
    cases opening_of_region? hr with
    | quoted hm t => exact Or.inl (by simpa using hm)
    | comment t => exact Or.inr (Or.inl (by simp))
    | block t => exact Or.inr (Or.inr (Or.inl (by simp)))
    | @cast c hc t => exact Or.inr (Or.inr (Or.inr ⟨c, hc, by simp⟩))
  · rintro (h | ⟨t, rfl⟩ | ⟨t, rfl⟩ | ⟨c, hc, t, rfl⟩)
    · cases cs with
      | nil => simp at h
      | cons mark t => rw [region?_quoted (by simpa using h)]; rfl
    · rfl
    · rfl
    · simp only [List.cons_append, List.nil_append]
      rw [region?_cast hc]
      rfl

/-- A text in which no region starts. -/
def IsPlain (t : Text) : Prop := ∀ w, w <:+ t → region? w = none

end SqlTemplate.Segment
