import SqlTemplate.Text

/-!
Names of parameters and placeholders: an identifier of ASCII letters, digits and underscores, and
behind it any number of segments, each with a dot in front.
-/
namespace SqlTemplate.Name

def isStart (c : Char) : Bool := c.isAlpha || c == '_'

def isPart (c : Char) : Bool := c.isAlphanum || c == '_'

/-- The dotted segments that a text starts with, without their dots, and what follows them. -/
def path (cs : Text) : List Text × Text :=
  match cs with
  | '.' :: rest =>
    if (rest.takeWhile isPart).isEmpty then ([], cs)
    else
      let (more, left) := path (rest.dropWhile isPart)
      (rest.takeWhile isPart :: more, left)
  | _ => ([], cs)
termination_by cs.length
decreasing_by exact Nat.lt_succ_of_le (List.dropWhile_sublist _).length_le

/-- Segments with their dots. -/
def dotted (segments : List Text) : Text := segments.flatMap ('.' :: ·)

/-- The longest name that a text starts with, and what follows it. -/
def read? : Text → Option (Text × Text)
  | [] => none
  | c :: cs =>
    if isStart c then
      let (segments, rest) := path (cs.dropWhile isPart)
      some (c :: cs.takeWhile isPart ++ dotted segments, rest)
    else none

theorem path_append (cs : Text) : dotted (path cs).1 ++ (path cs).2 = cs := by
  fun_induction path cs with
  | case1 => rfl
  | case2 rest h more left hp ih =>
    rw [hp] at ih
    simp only [dotted, List.flatMap_cons, List.cons_append, List.append_assoc] at ih ⊢
    rw [ih, List.takeWhile_append_dropWhile]
  | case3 => rfl

/-- Segments with a last one are those before it, a dot and the last one. -/
theorem dotted_dropLast {segments : List Text} {last : Text}
    (h : segments.getLast? = some last) :
    dotted segments.dropLast ++ '.' :: last = dotted segments := by
  obtain ⟨init, rfl⟩ := List.getLast?_eq_some_iff.1 h
  simp [dotted]

theorem read?_append {cs name rest : Text} (h : read? cs = some (name, rest)) :
    name ++ rest = cs ∧ name ≠ [] := by
  cases cs with
  | nil => simp [read?] at h
  | cons c cs =>
    simp only [read?] at h
    split at h
    · obtain ⟨rfl, rfl⟩ := Prod.mk.inj (Option.some.inj h)
      simp [path_append, List.takeWhile_append_dropWhile]
    · simp at h

theorem length_lt_of_read? {cs name rest : Text} (h : read? cs = some (name, rest)) :
    rest.length < cs.length := by
  obtain ⟨happ, hne⟩ := read?_append h
  have := List.length_pos_iff.2 hne
  have := congrArg List.length happ
  simp only [List.length_append] at this
  omega

end SqlTemplate.Name
