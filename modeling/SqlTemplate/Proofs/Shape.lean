import SqlTemplate.Proofs.Args
import SqlTemplate.Template.Render

/-!
The shape of values: what they are apart from the numbers, truth values and strings in them.
Values of one shape have the same parts in the same places.
-/
namespace SqlTemplate

/-- Two options with the same image are both absent, or present with the same image. -/
theorem eq_none_or_eq_some_of_map {α β : Type} {f : α → β} {x y : Option α}
    (h : x.map f = y.map f) :
    x = none ∧ y = none ∨ ∃ v w, x = some v ∧ y = some w ∧ f v = f w := by
  cases x with
  | none =>
    cases y with
    | none => exact Or.inl ⟨rfl, rfl⟩
    | some w => cases h
  | some v =>
    cases y with
    | none => cases h
    | some w => exact Or.inr ⟨v, w, rfl, rfl, Option.some.inj h⟩

inductive Shape where
  | null
  | scalar
  | array (items : List Shape)
  | object (fields : List (Text × Shape))

namespace Value

mutual

/-- A value with all scalars alike: null, a scalar, or a container of shapes. -/
def shape : Value → Shape
  | null => .null
  | bool _ => .scalar
  | number _ => .scalar
  | string _ => .scalar
  | array items => .array (itemShapes items)
  | object fields => .object (fieldShapes fields)

def itemShapes : List Value → List Shape
  | [] => []
  | v :: vs => v.shape :: itemShapes vs

def fieldShapes : List (Text × Value) → List (Text × Shape)
  | [] => []
  | (key, v) :: fields => (key, v.shape) :: fieldShapes fields

end

theorem itemShapes_eq (items : List Value) : itemShapes items = items.map shape := by
  induction items with
  | nil => rw [itemShapes]; rfl
  | cons v vs ih => rw [itemShapes, ih]; rfl

theorem fieldShapes_eq (fields : List (Text × Value)) :
    fieldShapes fields = fields.map fun e => (e.1, shape e.2) := by
  induction fields with
  | nil => rw [fieldShapes]; rfl
  | cons e fields ih => rw [fieldShapes, ih]; rfl

/-- Members in one place of two values of one shape have one shape. -/
theorem shape_member? {v w : Value} (h : v.shape = w.shape) (segment : Text) :
    (v.member? segment).map shape = (w.member? segment).map shape := by
  cases v <;> cases w <;> simp only [shape, reduceCtorEq, Shape.array.injEq, Shape.object.injEq] at h
  case array.array items items' =>
    rw [itemShapes_eq, itemShapes_eq] at h
    rw [member?, member?]
    cases index? segment with
    | none => rfl
    | some i => simpa using congrArg (·[i]?) h
  case object.object fields fields' =>
    rw [fieldShapes_eq, fieldShapes_eq] at h
    rw [member?, member?, ← Entries.map_get?, ← Entries.map_get?, h]
  all_goals rfl

theorem shape_walk? {v w : Value} (h : v.shape = w.shape) (path : Text) :
    (v.walk? path).map shape = (w.walk? path).map shape := by
  rw [walk?, walk?]
  induction (path.splitAt '.').filter (!·.isEmpty) generalizing v w with
  | nil => simpa [pure] using h
  | cons segment segments ih =>
    rw [List.foldlM_cons, List.foldlM_cons]
    rcases eq_none_or_eq_some_of_map (shape_member? h segment) with
      ⟨hv, hw⟩ | ⟨v', w', hv, hw, hmember⟩
    · rw [hv, hw]
    · rw [hv, hw]
      exact ih hmember

end Value

namespace Args

/-- Arguments with all scalars alike. -/
def shape (args : Args) : Dict Shape := args.map fun _ => Value.shape

variable {args args' : Args}

theorem shape_get? (h : args.shape = args'.shape) (key : Text) :
    (args.get? key).map Value.shape = (args'.get? key).map Value.shape := by
  rw [← Dict.get?_map, ← Dict.get?_map]
  exact congrArg (·.get? key) h

theorem contains_of_shape (h : args.shape = args'.shape) (key : Text) :
    args.contains key = args'.contains key := by
  have hget := congrArg Option.isSome (shape_get? h key)
  simpa [Dict.contains] using hget

theorem size_of_shape (h : args.shape = args'.shape) : args.size = args'.size := by
  have hkeys := congrArg Dict.keys h
  rw [shape, shape, Dict.keys_map, Dict.keys_map] at hkeys
  exact Dict.size_eq_of_keys hkeys

theorem shape_insert (h : args.shape = args'.shape) {v w : Value} (hv : v.shape = w.shape)
    (key : Text) : shape (args.insert key v) = shape (args'.insert key w) := by
  rw [shape, shape, Dict.map_insert, Dict.map_insert, hv]
  exact congrArg (·.insert key w.shape) h

theorem shape_lookup? (h : args.shape = args'.shape) (name : Text) :
    (args.lookup? name).map Value.shape = (args'.lookup? name).map Value.shape := by
  rw [lookup?_eq, lookup?_eq]
  rcases eq_none_or_eq_some_of_map (shape_get? h name) with ⟨hv, hw⟩ | ⟨v, w, hv, hw, hname⟩
  · rw [hv, hw, Option.none_or, Option.none_or]
    split
    · rcases eq_none_or_eq_some_of_map (shape_get? h (Name.root name)) with
        ⟨hv, hw⟩ | ⟨v, w, hv, hw, hroot⟩
      · rw [hv, hw]
      · rw [hv, hw]
        exact Value.shape_walk? hroot _
    · rfl
  · rw [hv, hw]
    exact congrArg some hname

end Args

end SqlTemplate
