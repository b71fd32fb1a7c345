import SqlTemplate.Args
import SqlTemplate.Proofs.Dict
import SqlTemplate.Proofs.Name

/-!
The arguments that names reach: one of exactly this name, or a part of the one that the name's root
names.
-/
namespace SqlTemplate

open Name

theorem Text.cut?_dot (name : Text) :
    Text.cut? '.' name =
      if '.' ∈ name then some (root name, (afterRoot name).tail) else none := by
  induction name with
  | nil => rfl
  | cons c cs ih =>
    by_cases hc : c = '.'
    · simp [Text.cut?, hc, root, afterRoot]
    · rw [Text.cut?, if_neg hc, ih]
      by_cases hmem : '.' ∈ cs
      · simp [hmem, hc, root, afterRoot]
      · simp [hmem, Ne.symm hc]

theorem Value.walk?_dot (v : Value) (path : Text) : v.walk? ('.' :: path) = v.walk? path := rfl

theorem Value.walk?_afterRoot_tail (v : Value) (name : Text) :
    v.walk? (afterRoot name).tail = v.walk? (afterRoot name) := by
  cases h : afterRoot name with
  | nil => rfl
  | cons c path =>
    have hc := List.head?_dropWhile_not (· != '.') name
    obtain rfl : c = '.' := by
      have : name.dropWhile (· != '.') = c :: path := h
      simpa [this] using hc
    exact (walk?_dot v path).symm

theorem Value.walk?_nil (v : Value) : v.walk? [] = some v := rfl

/-- A path into a value without members leads nowhere. -/
theorem Value.walk?_eq_none {v : Value} (hv : ∀ s, v.member? s = none) {segments : List Text}
    (h : ∀ s ∈ segments, IsSegment s) (hne : segments ≠ []) : v.walk? (dotted segments) = none := by
  obtain ⟨segment, segments, rfl⟩ := List.exists_cons_of_ne_nil hne
  obtain ⟨hne, hpart⟩ := h segment List.mem_cons_self
  obtain ⟨c, segment, rfl⟩ := List.exists_cons_of_ne_nil hne
  have hc : c ≠ '.' := ne_of_isPart (hpart c List.mem_cons_self) rfl
  have hpath : dotted ((c :: segment) :: segments) =
      '.' :: c :: (segment ++ dotted segments) := by simp [dotted]
  have hsplit : ∃ first more, Text.splitAt '.' (c :: (segment ++ dotted segments)) =
      (c :: first) :: more := by
    rw [Text.splitAt, if_neg hc]
    split
    · exact ⟨[], [], rfl⟩
    · exact ⟨_, _, rfl⟩
  obtain ⟨first, more, hsplit⟩ := hsplit
  have hfilter : List.filter (fun segment : Text => !segment.isEmpty) ((c :: first) :: more) =
      (c :: first) :: more.filter (!·.isEmpty) := rfl
  rw [hpath, walk?_dot, walk?, hsplit, hfilter, List.foldlM_cons, hv]
  rfl

/-- A path into a string leads nowhere. -/
theorem Value.walk?_string {name : Text} (h : IsName name) (hdot : '.' ∈ name) (s : Text) :
    (string s).walk? (afterRoot name) = none := by
  obtain ⟨w, segments, rfl, hw, hsegments⟩ := h
  rw [afterRoot_word hw]
  refine walk?_eq_none (fun _ => rfl) hsegments ?_
  rintro rfl
  exact absurd hdot (by simpa [dotted] using hw.dot_notMem)

namespace Args

variable {args : Args} {name : Text}

/-- A name stands for an argument of exactly this name, or for a part of its root's argument. -/
theorem lookup?_eq (args : Args) (name : Text) :
    args.lookup? name =
      (args.get? name).or
        (if '.' ∈ name then (args.get? (root name)).bind (·.walk? (afterRoot name)) else none) := by
  rw [lookup?]
  cases args.get? name with
  | some v => rfl
  | none =>
    rw [Text.cut?_dot]
    by_cases hmem : '.' ∈ name
    · rw [if_pos hmem, if_pos hmem]
      change (args.get? (root name)).bind (fun v => v.walk? (afterRoot name).tail) = _
      simp only [Value.walk?_afterRoot_tail, Option.none_or]
    · rw [if_neg hmem, if_neg hmem]
      rfl

theorem lookup?_empty (name : Text) : lookup? ∅ name = none := by
  rw [lookup?_eq, Dict.get?_empty, Dict.get?_empty, Option.bind_none, ite_self, Option.none_or]

theorem afterRoot_eq_nil {name : Text} (h : '.' ∉ name) : afterRoot name = [] := by
  have happend := root_append_afterRoot name
  rw [root_eq_self h] at happend
  exact List.append_right_eq_self.1 happend

/-- A name stands for a part of its root's argument, unless it has dots and an argument has it. -/
theorem lookup?_eq_bind (h : '.' ∈ name → args.get? name = none) :
    args.lookup? name = (args.get? (root name)).bind (·.walk? (afterRoot name)) := by
  rw [lookup?_eq]
  by_cases hdot : '.' ∈ name
  · rw [h hdot, Option.none_or, if_pos hdot]
  · rw [if_neg hdot, Option.or_none, root_eq_self hdot, afterRoot_eq_nil hdot]
    cases args.get? name <;> rfl

/-- An argument without a dot in its name reaches only names that start with it. -/
theorem lookup?_insert_of_root_ne {var : Text} (hvar : '.' ∉ var) (h : root name ≠ var)
    (v : Value) : lookup? (args.insert var v) name = args.lookup? name := by
  have hname : var ≠ name := by
    rintro rfl
    exact h (root_eq_self hvar)
  rw [lookup?_eq, lookup?_eq, Dict.get?_insert, if_neg hname, Dict.get?_insert,
    if_neg (Ne.symm h)]

/-- What a string is makes no difference to other names than its own. -/
theorem lookup?_insert_string {var : Text} (hname : IsName name) (h : name ≠ var) (s s' : Text) :
    lookup? (args.insert var (.string s)) name = lookup? (args.insert var (.string s')) name := by
  simp only [lookup?_eq, Dict.get?_insert, if_neg (Ne.symm h)]
  by_cases hdot : '.' ∈ name
  · by_cases hroot : var = root name
    · simp [hroot, Value.walk?_string hname hdot]
    · simp [hroot]
  · simp [hdot]

/-- More arguments change no name that stands for something, if none of the new ones has a dot in
its name. -/
theorem lookup?_mono {args' : Args} {v : Value}
    (h : ∀ key w, args.get? key = some w → args'.get? key = some w)
    (hdot : ∀ key, '.' ∈ key → args.get? key = none → args'.get? key = none)
    (hv : args.lookup? name = some v) : args'.lookup? name = some v := by
  rw [lookup?_eq] at hv ⊢
  cases hname : args.get? name with
  | some w =>
    rw [hname] at hv
    rw [h name w hname]
    exact hv
  | none =>
    rw [hname, Option.none_or] at hv
    split at hv
    · rename_i hmem
      rw [hdot name hmem hname, Option.none_or, if_pos hmem]
      obtain ⟨w, hw, hwalk⟩ := Option.bind_eq_some_iff.1 hv
      exact Option.bind_eq_some_iff.2 ⟨w, h _ w hw, hwalk⟩
    · cases hv

end Args

end SqlTemplate
