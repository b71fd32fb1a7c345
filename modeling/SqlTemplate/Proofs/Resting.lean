import Mathlib
import SqlTemplate.Proofs.Args
import SqlTemplate.Proofs.Scan

/-!
Expanding again.  What has been expanded is its own expansion where the rounds have come to rest.
Each round that changes a text uses up placeholders, so that they do come to rest in time where not
too many can be formed.
-/
namespace SqlTemplate.Placeholder

/-! Rounds that make a text smaller by some measure unless they leave it as it is. -/

section

variable {f : Text → Text} {weight : Text → Nat} {t : Text}

theorem weight_iterate_le (hf : ∀ t, f t = t ∨ weight (f t) < weight t) (n : Nat) (t : Text) :
    weight (f^[n] t) ≤ weight t := by
  induction n with
  | zero => exact le_rfl
  | succ n ih =>
    rw [Function.iterate_succ_apply']
    rcases hf (f^[n] t) with heq | hlt
    · rwa [heq]
    · exact hlt.le.trans ih

/-- A text to which rounds return is not changed by them. -/
theorem eq_of_iterate_eq (hf : ∀ t, f t = t ∨ weight (f t) < weight t) {n : Nat}
    (h : f^[n + 1] t = t) : f t = t := by
  refine (hf t).resolve_right fun hlt => ?_
  have hle := weight_iterate_le hf n (f t)
  rw [← Function.iterate_succ_apply, h] at hle
  omega

/-- Every round up to the last that changes a text takes something of its weight. -/
theorem iterate_eq_or_weight_add_le (hf : ∀ t, f t = t ∨ weight (f t) < weight t) (n : Nat)
    (t : Text) : f^[n + 1] t = f^[n] t ∨ weight (f^[n + 1] t) + (n + 1) ≤ weight t := by
  induction n with
  | zero => exact hf t
  | succ n ih =>
    rw [Function.iterate_succ_apply' f (n + 1)]
    rcases ih with hrest | hle
    · refine .inl ?_
      conv => lhs; rw [hrest]
      rw [Function.iterate_succ_apply']
    · exact (hf _).imp_right fun hlt => by omega

end

/-! Rounds of placeholders. -/

/-- The characters that each placeholder has. -/
def brackets : Text := ['$', '\x7b', '\x7d']

theorem Written.mem_of_mem_brackets {p : Placeholder} {w : Text} (h : Written p w) {d : Char}
    (hd : d ∈ brackets) : d ∈ w := by
  cases h
  simp only [brackets, List.mem_cons, List.not_mem_nil, or_false] at hd
  rcases hd with rfl | rfl | rfl <;> simp

/-- A round that brings in no bracket of a kind leaves fewer of these, or the text as it is. -/
theorem overPlain_eq_or_count_lt {f : Placeholder → Option Text} {d : Char} (hd : d ∈ brackets)
    (hf : ∀ p u, f p = some u → d ∉ u) (t : Text) :
    overPlain (fill f) t = t ∨ (overPlain (fill f) t).count d < t.count d := by
  induction t using scan_induction with
  | nil => exact .inl overPlain_nil
  | region t run rest hregion ih =>
    obtain ⟨rfl, -⟩ := Segment.region?_append hregion
    rw [overPlain_region hregion, List.count_append, List.count_append]
    exact ih.imp (congrArg (run ++ ·)) fun hlt => by omega
  | char c t hregion hread ih =>
    rw [overPlain_char hregion hread, List.count_cons, List.count_cons]
    exact ih.imp (congrArg (c :: ·)) fun hlt => by omega
  | placeholder p w t hw ih =>
    rw [overPlain_written hw, List.count_append, List.count_append]
    cases hp : f p with
    | none => exact ih.imp (congrArg (w ++ ·)) fun hlt => Nat.add_lt_add_left hlt _
    | some u =>
      have hu : u.count d = 0 := List.count_eq_zero.2 (hf p u hp)
      have hw : 0 < w.count d := List.count_pos_iff.2 (hw.mem_of_mem_brackets hd)
      have hle : (overPlain (fill f) t).count d ≤ t.count d :=
        ih.elim (fun heq => (congrArg (List.count d) heq).le) Nat.le_of_lt
      rw [Option.getD_some]
      exact .inr (by omega)

/-- One round of expanding. -/
def round (args : Args) (constants : Dict Text) (sql : Text) : Text :=
  overPlain (fill (resolve args constants)) sql

theorem expand_eq_iterate (args : Args) (constants : Dict Text) (sql : Text) :
    expand args constants sql = (round args constants)^[rounds] sql :=
  settle_eq_iterate (round args constants) rounds sql

/-- Whether one more round would leave what has been expanded as it is. -/
def Rests (args : Args) (constants : Dict Text) (sql : Text) : Prop :=
  round args constants (expand args constants sql) = expand args constants sql

theorem Rests.expand_again {args : Args} {constants : Dict Text} {sql : Text}
    (h : Rests args constants sql) :
    expand args constants (expand args constants sql) = expand args constants sql := by
  rw [expand_eq_iterate args constants (expand args constants sql)]
  exact Function.iterate_fixed h rounds

/-- Expanding again changes nothing where the rounds have come to rest.  If nothing that is put in
has a bracket of some kind, then that is the only case; and it is the case whenever, after some of
the eight rounds, the text has at most as many of these brackets as there are rounds left. -/
theorem expand_expand (args : Args) (constants : Dict Text) (sql : Text) :
    (Rests args constants sql →
      expand args constants (expand args constants sql) = expand args constants sql) ∧
    ∀ d ∈ brackets, (∀ p t, resolve args constants p = some t → d ∉ t) →
      (expand args constants (expand args constants sql) = expand args constants sql →
        Rests args constants sql) ∧
      ((∃ r, ((round args constants)^[r] sql).count d + r ≤ rounds) →
        Rests args constants sql) := by
  refine ⟨Rests.expand_again, fun d hd hforeign => ⟨fun hagain => ?_, ?_⟩⟩
  · rw [expand_eq_iterate args constants (expand args constants sql)] at hagain
    exact eq_of_iterate_eq (overPlain_eq_or_count_lt hd hforeign) hagain
  · rintro ⟨r, hcount⟩
    obtain ⟨n, hn⟩ := Nat.exists_eq_add_of_le (Nat.le_of_add_left_le hcount)
    have hrounds : expand args constants sql =
        (round args constants)^[n] ((round args constants)^[r] sql) := by
      rw [expand_eq_iterate, hn, Nat.add_comm, Function.iterate_add_apply]
    have hrest := iterate_eq_or_weight_add_le (overPlain_eq_or_count_lt hd hforeign) n
      ((round args constants)^[r] sql)
    rw [Function.iterate_succ_apply'] at hrest
    rw [Rests, hrounds]
    refine hrest.resolve_right fun hle => ?_
    omega

/-- The constant `x` is its own name. -/
def ownName : Dict Text := .ofList [(['x'], ['x'])]

/-- The name `x` in so many placeholders, one inside the other. -/
def enclosed : Nat → Text
  | 0 => ['x']
  | n + 1 => '$' :: '{' :: enclosed n ++ ['}']

/-- Eight placeholders one inside the other are as many as there are rounds. -/
theorem expand_expand_enclosed :
    (∀ p t, resolve ∅ ownName p = some t → '$' ∉ t) ∧
      ((round ∅ ownName)^[0] (enclosed 8)).count '$' + 0 ≤ rounds ∧
      Rests ∅ ownName (enclosed 8) ∧
      expand ∅ ownName (expand ∅ ownName (enclosed 8)) = expand ∅ ownName (enclosed 8) := by
  have hforeign : ∀ p t, resolve ∅ ownName p = some t → '$' ∉ t := by
    intro p t ht
    rw [resolve, Args.lookup?_empty] at ht
    obtain ⟨-, rfl⟩ := Prod.mk.inj (List.mem_singleton.1 (Dict.mem_of_get?_ofList ht))
    decide
  have hcount : ((round ∅ ownName)^[0] (enclosed 8)).count '$' + 0 ≤ rounds := by decide
  obtain ⟨hagain, hrests⟩ := expand_expand ∅ ownName (enclosed 8)
  have hrest : Rests ∅ ownName (enclosed 8) := (hrests '$' (by decide) hforeign).2 ⟨0, hcount⟩
  exact ⟨hforeign, hcount, hrest, hagain hrest⟩

/-- With one more around them, the first of nine placeholders is left for the second time. -/
theorem expand_expand_enclosed_ne :
    (∀ e ∈ ownName.entries, ¬['$', '{'] <:+: e.2) ∧
      expand ∅ ownName (expand ∅ ownName (enclosed 9)) ≠ expand ∅ ownName (enclosed 9) := by
  decide +kernel

end SqlTemplate.Placeholder
