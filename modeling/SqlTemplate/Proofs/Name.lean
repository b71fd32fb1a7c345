import Mathlib
import SqlTemplate.Name
import SqlTemplate.Proofs.Text

/-!
Names by themselves.  A name is a root, the part before the first dot, and a path behind it; where
a name ends is decided by at most two characters behind it.
-/
namespace SqlTemplate.Name

/-- The part of a name before its first dot. -/
def root (name : Text) : Text := name.takeWhile (· != '.')

/-- The part of a name from its first dot on. -/
def afterRoot (name : Text) : Text := name.dropWhile (· != '.')

theorem root_append_afterRoot (name : Text) : root name ++ afterRoot name = name :=
  List.takeWhile_append_dropWhile

theorem root_eq_self {name : Text} (h : '.' ∉ name) : root name = name := by
  refine List.takeWhile_eq_self_iff.2 fun c hc => ?_
  rw [bne_iff_ne]
  rintro rfl
  exact h hc

/-- A name starts with its root, which a part without a dot in front of a path is. -/
theorem root_append {var path : Text} (hvar : '.' ∉ var) (hpath : path.head?.all (· == '.')) :
    root (var ++ path) = var := by
  rw [root, List.takeWhile_append_of_pos]
  · cases path with
    | nil => simp
    | cons c path =>
      obtain rfl : c = '.' := by simpa using hpath
      simp
  · intro c hc
    rw [bne_iff_ne]
    rintro rfl
    exact hvar hc

theorem afterRoot_append {var path : Text} (hvar : '.' ∉ var) (hpath : path.head?.all (· == '.')) :
    afterRoot (var ++ path) = path := by
  have h := root_append_afterRoot (var ++ path)
  rw [root_append hvar hpath] at h
  exact List.append_cancel_left h

/-- A segment of a path: some name characters. -/
def IsSegment (s : Text) : Prop := s ≠ [] ∧ ∀ c ∈ s, isPart c

/-- A word: a letter or an underscore with name characters behind it. -/
def IsWord (w : Text) : Prop := ∃ c cs, w = c :: cs ∧ isStart c ∧ ∀ d ∈ cs, isPart d

/-- A name: a word and any number of segments, each with a dot in front. -/
def IsName (name : Text) : Prop :=
  ∃ w segments, name = w ++ dotted segments ∧ IsWord w ∧ ∀ s ∈ segments, IsSegment s

/-- Whether a name in front of a text ends there: no name character follows, and no dot with one
behind it. -/
def Stops : Text → Prop
  | [] => True
  | c :: cs => isPart c = false ∧ (c = '.' → ¬cs.head?.any isPart)

theorem isPart_of_isStart {c : Char} (h : isStart c) : isPart c := by
  rw [isStart, Bool.or_eq_true] at h
  rw [isPart, Bool.or_eq_true, Char.isAlphanum, Bool.or_eq_true]
  exact h.imp_left Or.inl

theorem isBlank_of_isStart {c : Char} (h : isStart c) : Unicode.isBlank c = false := by
  cases hc : Unicode.isBlank c with
  | false => rfl
  | true =>
    have hstart : isStart c = false := Unicode.eq_false_of_isBlank (by decide) hc
    rw [hstart] at h
    cases h

theorem isPart_ascii {c : Char} (h : isPart c) : c.toNat < 128 := by
  have hle : c.val ≤ 122 := by
    simp only [isPart, Char.isAlphanum, Char.isAlpha, Char.isUpper, Char.isLower, Char.isDigit,
      Bool.or_eq_true, Bool.and_eq_true, decide_eq_true_eq, beq_iff_eq] at h
    rcases h with ((h | h) | h) | rfl
    · exact UInt32.le_trans h.2 (by decide)
    · exact h.2
    · exact UInt32.le_trans h.2 (by decide)
    · decide
  exact Nat.lt_of_le_of_lt (UInt32.le_iff_toNat_le.1 hle) (by decide)

theorem ne_of_isPart {c d : Char} (h : isPart c) (hd : isPart d = false) : c ≠ d := by
  rintro rfl
  simp [h] at hd

theorem IsWord.isPart {w : Text} (h : IsWord w) {c : Char} (hc : c ∈ w) : Name.isPart c := by
  obtain ⟨d, ds, rfl, hd, hds⟩ := h
  rcases List.mem_cons.1 hc with rfl | hc
  · exact isPart_of_isStart hd
  · exact hds c hc

theorem IsWord.dot_notMem {w : Text} (h : IsWord w) : '.' ∉ w := by
  intro hc
  cases h.isPart hc

theorem IsWord.isName {w : Text} (h : IsWord w) : IsName w := ⟨w, [], by simp [dotted], h, by simp⟩

theorem Stops.head {cs : Text} (h : Stops cs) : ¬cs.head?.any Name.isPart := by
  cases cs with
  | nil => simp
  | cons c cs => simpa using h.1

/-- A name that stops in front of a name character stops earlier, whatever follows instead. -/
theorem Stops.change {x u : Text} (h : Stops (x ++ u)) (hu : u.head?.any Name.isPart) (v : Text) :
    Stops (x ++ v) ∧ x ≠ [] := by
  cases x with
  | nil => exact absurd hu h.head
  | cons c x =>
    refine ⟨⟨h.1, fun hc => ?_⟩, List.cons_ne_nil c x⟩
    cases x with
    | nil => exact absurd hu (h.2 hc)
    | cons d x => exact h.2 hc

theorem IsName.mem {name : Text} (h : IsName name) {c : Char} (hc : c ∈ name) :
    Name.isPart c ∨ c = '.' := by
  obtain ⟨w, segments, rfl, hw, hsegments⟩ := h
  rcases List.mem_append.1 hc with hc | hc
  · exact Or.inl (hw.isPart hc)
  · obtain ⟨s, hs, hc⟩ := List.mem_flatMap.1 hc
    rcases List.mem_cons.1 hc with rfl | hc
    · exact Or.inr rfl
    · exact Or.inl ((hsegments s hs).2 c hc)

theorem IsName.head {name : Text} (h : IsName name) : ∃ c cs, name = c :: cs ∧ isStart c := by
  obtain ⟨w, segments, rfl, ⟨c, cs, rfl, hc, -⟩, -⟩ := h
  exact ⟨c, cs ++ dotted segments, rfl, hc⟩

/-- The last character of a name is no dot. -/
theorem IsName.getLast {name : Text} (h : IsName name) {c : Char} (hc : name.getLast? = some c) :
    Name.isPart c := by
  obtain ⟨w, segments, rfl, hw, hsegments⟩ := h
  rcases List.eq_nil_or_concat segments with rfl | ⟨ss, s, hconcat⟩
  · exact hw.isPart (List.mem_of_getLast? (by simpa [dotted] using hc))
  · obtain rfl : segments = ss ++ [s] := by rw [hconcat, List.concat_eq_append]
    obtain ⟨hne, hpart⟩ := hsegments s (by simp)
    refine hpart c (List.mem_of_getLast? ?_)
    have heq : w ++ dotted (ss ++ [s]) = (w ++ dotted ss ++ ['.']) ++ s := by simp [dotted]
    rwa [heq, List.getLast?_append_of_ne_nil _ hne] at hc

theorem path_of_stops {cs : Text} (h : Stops cs) : path cs = ([], cs) := by
  unfold path
  split
  · rename_i rest
    have hrest : ¬rest.head?.any Name.isPart := h.2 rfl
    have hnil : rest.takeWhile Name.isPart = [] := by
      cases rest with
      | nil => rfl
      | cons c cs => simpa using hrest
    simp [hnil]
  · rfl

/-- Behind a name character stands no path. -/
theorem path_of_isPart {cs : Text} (h : cs.head?.any Name.isPart) : path cs = ([], cs) := by
  unfold path
  split
  · cases h
  · rfl

theorem dotted_head?_all (segments : List Text) : (dotted segments).head?.all (· == '.') := by
  cases segments <;> simp [dotted]

/-- The root of a name is its word. -/
theorem root_word {w : Text} (h : IsWord w) (segments : List Text) :
    root (w ++ dotted segments) = w :=
  root_append h.dot_notMem (dotted_head?_all segments)

theorem afterRoot_word {w : Text} (h : IsWord w) (segments : List Text) :
    afterRoot (w ++ dotted segments) = dotted segments :=
  afterRoot_append h.dot_notMem (dotted_head?_all segments)

theorem dotted_head (segments : List Text) {rest : Text} (h : ¬rest.head?.any Name.isPart) :
    ¬(dotted segments ++ rest).head?.any Name.isPart := by
  cases segments with
  | nil => exact h
  | cons s ss => simp [dotted, show Name.isPart '.' = false from rfl]

/-- A path is read whole where it stops. -/
theorem path_dotted {segments : List Text} (h : ∀ s ∈ segments, IsSegment s) {rest : Text}
    (hrest : Stops rest) : path (dotted segments ++ rest) = (segments, rest) := by
  induction segments with
  | nil => exact path_of_stops hrest
  | cons s ss ih =>
    obtain ⟨hs, hpart⟩ := h s List.mem_cons_self
    have hstop := dotted_head ss hrest.head
    have heq : dotted (s :: ss) ++ rest = '.' :: (s ++ (dotted ss ++ rest)) := by simp [dotted]
    rw [heq, path, Text.takeWhile_append_stop hpart hstop, Text.dropWhile_append_stop hpart hstop,
      ih fun t ht => h t (List.mem_cons_of_mem _ ht)]
    simp [hs]

theorem path_spec {cs : Text} (h : ¬cs.head?.any Name.isPart) :
    (∀ s ∈ (path cs).1, IsSegment s) ∧ Stops (path cs).2 := by
  induction cs using path.induct with
  | case1 rest hnil =>
    rw [path, if_pos hnil]
    refine ⟨by simp, rfl, fun _ => ?_⟩
    cases rest with
    | nil => simp
    | cons c cs => simpa using hnil
  | case2 rest hne more left hp ih =>
    have hstop := Text.head?_dropWhile Name.isPart rest
    obtain ⟨hsegments, hstops⟩ := ih hstop
    rw [path, if_neg hne]
    refine ⟨fun s hs => ?_, hstops⟩
    rcases List.mem_cons.1 hs with rfl | hs
    · exact ⟨by simpa using hne, fun c => Text.mem_takeWhile⟩
    · exact hsegments s hs
  | case3 cs hcs =>
    have hpath : path cs = ([], cs) := by
      unfold path
      split
      · exact absurd rfl (hcs _)
      · rfl
    rw [hpath]
    refine ⟨by simp, ?_⟩
    cases cs with
    | nil => trivial
    | cons c cs => exact ⟨by simpa using h, fun hc => absurd (by rw [hc]) (hcs cs)⟩

/-- What is read is a name, and it stops where the rest starts. -/
theorem read?_spec {cs name rest : Text} (h : read? cs = some (name, rest)) :
    IsName name ∧ Stops rest := by
  cases cs with
  | nil => cases h
  | cons c cs =>
    rw [read?] at h
    split at h
    · rename_i hc
      obtain ⟨rfl, rfl⟩ := Prod.mk.inj (Option.some.inj h)
      obtain ⟨hsegments, hstops⟩ := path_spec (Text.head?_dropWhile Name.isPart cs)
      have hword : IsWord (c :: cs.takeWhile Name.isPart) :=
        ⟨c, _, rfl, hc, fun d => Text.mem_takeWhile⟩
      exact ⟨⟨_, _, rfl, hword, hsegments⟩, hstops⟩
    · cases h

/-- A name is read whole where it stops. -/
theorem read?_of_isName {name rest : Text} (h : IsName name) (hrest : Stops rest) :
    read? (name ++ rest) = some (name, rest) := by
  obtain ⟨w, segments, rfl, ⟨c, cs, rfl, hc, hcs⟩, hsegments⟩ := h
  have hstop := dotted_head segments hrest.head
  rw [List.append_assoc, List.cons_append, read?, if_pos hc, Text.takeWhile_append_stop hcs hstop,
    Text.dropWhile_append_stop hcs hstop, path_dotted hsegments hrest]

theorem read?_eq_none_iff {cs : Text} : read? cs = none ↔ ¬cs.head?.any isStart := by
  cases cs with
  | nil => simp [read?]
  | cons c cs =>
    rw [read?]
    by_cases hc : isStart c <;> simp [hc]

/-- Where a name stops, no other one starts. -/
theorem Stops.read?_eq_none {t : Text} (h : Stops t) : read? t = none := by
  rw [read?_eq_none_iff]
  cases t with
  | nil => simp
  | cons c t =>
    intro hstart
    have hpart := isPart_of_isStart (by simpa using hstart)
    rw [h.1] at hpart
    cases hpart

/-- Behind a dot of a name stands a name character. -/
theorem IsName.after_dot {u v : Text} (h : IsName (u ++ '.' :: v)) : v.head?.any Name.isPart := by
  -- what stands in front of the dot and has none itself can be left out
  have hskip : ∀ {w cs as : Text}, '.' ∉ w → w ++ cs = as ++ '.' :: v →
      ∃ as', cs = as' ++ '.' :: v := by
    intro w cs as hw heq
    rcases List.append_eq_append_iff.1 heq with ⟨bs, -, rfl⟩ | ⟨bs, rfl, hcs⟩
    · exact ⟨bs, rfl⟩
    · cases bs with
      | nil => exact ⟨[], hcs.symm⟩
      | cons d bs =>
        obtain ⟨rfl, -⟩ := List.cons.inj hcs
        exact absurd (by simp) hw
  obtain ⟨w, segments, heq, hw, hsegments⟩ := h
  obtain ⟨as, has⟩ := hskip hw.dot_notMem heq.symm
  clear heq
  induction segments generalizing as with
  | nil => simp [dotted] at has
  | cons s ss ih =>
    obtain ⟨hs, hpart⟩ := hsegments s List.mem_cons_self
    have hdot : '.' ∉ s := fun hc => by cases hpart '.' hc
    cases as with
    | nil =>
      cases s with
      | nil => exact absurd rfl hs
      | cons c s =>
        obtain ⟨-, rfl⟩ := List.cons.inj has
        exact hpart c List.mem_cons_self
    | cons d as =>
      obtain ⟨-, htail⟩ := List.cons.inj has
      obtain ⟨as', has'⟩ := hskip hdot htail
      exact ih (fun t ht => hsegments t (List.mem_cons_of_mem s ht)) as' has'

/-- No name runs on into a text where names stop. -/
theorem IsName.eq_nil_of_stops {u v rest : Text} (h : IsName (u ++ v)) (hstops : Stops (v ++ rest)) :
    v = [] := by
  cases v with
  | nil => rfl
  | cons c v =>
    rcases h.mem (List.mem_append_right u List.mem_cons_self) with hpart | rfl
    · rw [hstops.1] at hpart
      cases hpart
    · have hafter := h.after_dot
      cases v with
      | nil => cases hafter
      | cons d v => exact absurd hafter (hstops.2 rfl)

end SqlTemplate.Name
