import Mathlib
import SqlTemplate.Proofs.Positions
import SqlTemplate.Query

/-!
What a database is sent.  A query of a statement with its own arguments is made only if each name
has a value, and then every execution sends the statement with one value for each question mark,
that of the name which the question mark stands for.
-/
namespace SqlTemplate

/-- Whether a bound value is the SQL form of a value. -/
inductive Bound.Represents : Bound → Value → Prop
  | null : Represents .null .null
  | bool (b : Bool) : Represents (.bool b) (.bool b)
  | signed {n : Int} (hmin : -2 ^ 63 ≤ n) (hmax : n < 2 ^ 63) :
    Represents (.signed n) (.number (.integer n))
  | unsigned {n : Int} (hmin : 2 ^ 63 ≤ n) (hmax : n < 2 ^ 64) :
    Represents (.unsigned n) (.number (.integer n))
  | double (x : Double) : Represents (.double x) (.number (.double x))
  | string (s : Text) : Represents (.text s) (.string s)
  | array (items : List Value) : Represents (.text (Value.array items).json) (.array items)
  | object (fields : List (Text × Value)) :
    Represents (.text (Value.object fields).json) (.object fields)

/-- Integers are bound as they are, signed where they fit a signed word. -/
theorem Bound.represents_integer {n : Int} (h : Number.fits n) :
    Represents (ofValue (some (.number (.integer n)))) (.number (.integer n)) := by
  have hrange : -2 ^ 63 ≤ n ∧ n < 2 ^ 64 := by simpa [Number.fits] using h
  rw [ofValue]
  split
  · rename_i hlt
    exact .signed hrange.1 hlt
  · rename_i hge
    exact .unsigned (not_lt.1 hge) hrange.2

theorem Bound.represents_ofValue {v : Value} (h : ∀ n, v = .number (.integer n) → Number.fits n) :
    Represents (ofValue (some v)) v := by
  cases v with
  | null => exact .null
  | bool b => exact .bool b
  | number n =>
    cases n with
    | integer n => exact represents_integer (h n rfl)
    | double x => exact .double x
  | string s => exact .string s
  | array items => exact .array items
  | object fields => exact .object fields

namespace Query

/-- The values that are bound for the names of a statement, in their order. -/
def boundValues (s : Statement) : List Bound :=
  s.names.map fun name => Bound.ofValue (s.args.lookup? name)

theorem length_boundValues (s : Statement) : (boundValues s).length = s.names.length :=
  List.length_map _

theorem getElem?_boundValues {s : Statement} {k : Nat} {name : Text}
    (h : s.names[k]? = some name) :
    (boundValues s)[k]? = some (Bound.ofValue (s.args.lookup? name)) := by
  rw [boundValues, List.getElem?_map, h, Option.map_some]

/-- A query that is made binds a value for every name of its statement. -/
theorem sent_of_ofArgs {s : Statement} {q : Query} (h : ofArgs s = .ok q) :
    q.sent = ⟨s.sql, boundValues s⟩ := by
  rw [ofArgs] at h
  split at h
  · cases h
  · obtain rfl := Except.ok.inj h
    simp [sent, ofStatement, boundValues]

/-- A query is refused for the first name without a value, and only for such a name. -/
theorem ofArgs_cases (s : Statement) :
    (∃ before name after, s.names = before ++ name :: after ∧
      (∀ n ∈ before, s.args.lookup? n ≠ none) ∧ s.args.lookup? name = none ∧
      ofArgs s = .error (.unboundParameter name)) ∨
    (∀ name ∈ s.names, s.args.lookup? name ≠ none) ∧ ∃ q, ofArgs s = .ok q := by
  rw [ofArgs]
  cases hfind : s.names.find? fun name => (s.args.lookup? name).isNone with
  | some name =>
    obtain ⟨hnone, before, after, hnames, hbefore⟩ := List.find?_eq_some_iff_append.1 hfind
    have hvalue : ∀ n ∈ before, s.args.lookup? n ≠ none := fun n hn =>
      Option.isSome_iff_ne_none.1 (by simpa using hbefore n hn)
    exact Or.inl ⟨before, name, after, hnames, hvalue, by simpa using hnone, rfl⟩
  | none =>
    exact Or.inr ⟨fun name hname => by simpa using List.find?_eq_none.1 hfind name hname, _, rfl⟩

/-- Each execution sends what its query sends, one after another. -/
theorem sent_runAll (steps : List (Query × Run)) (db : Recorder) :
    (runAll steps db).2.sent = db.sent ++ steps.map fun step => step.1.sent := by
  induction steps generalizing db with
  | nil => simp [runAll]
  | cons step steps ih =>
    obtain ⟨q, r⟩ := step
    have hone : (q.run r db).2.sent = db.sent ++ [q.sent] := by cases r <;> rfl
    rw [runAll]
    dsimp only
    rw [ih, hone, List.append_assoc, List.map_cons, List.singleton_append]

/-- The positions of a name are places of the name. -/
theorem names_of_mem_ordinals {s : Statement} (hs : s.Numbered) {name : Text} {is : List Nat}
    (h : s.ordinalMap.get? name = some is) {i : Nat} (hi : i ∈ is) :
    s.names[i - 1]? = some name := ((hs.positions name is h i).1 hi).2

/-- Bound values reach their own question marks.  However often a statement's arguments are made
into a query, either each attempt is refused for the first name without a value, or none is; and
then all executions of these queries, in whatever order and of whatever kind, send the statement
with one value for each name: the SQL form of the name's argument, the same at all of its
positions. -/
theorem runAll_ofArgs (sigil : Char) (sql : Text) (args : Args) :
    let s := Statement.ofSql sigil sql args
    (∃ before name after, s.names = before ++ name :: after ∧
      (∀ n ∈ before, args.lookup? n ≠ none) ∧ args.lookup? name = none ∧
      ofArgs s = .error (.unboundParameter name)) ∨
    (∀ name ∈ s.names, args.lookup? name ≠ none) ∧ (∃ q, ofArgs s = .ok q) ∧
      ∃ bound : List Bound, bound.length = s.names.length ∧
        (∀ (steps : List (Query × Run)) (db : Recorder),
          (∀ step ∈ steps, ofArgs s = .ok step.1) →
          (runAll steps db).2.sent = db.sent ++ List.replicate steps.length ⟨s.sql, bound⟩) ∧
        (∀ (k : Nat) (name : Text) (v : Value), s.names[k]? = some name →
          args.lookup? name = some v → (∀ n, v = .number (.integer n) → Number.fits n) →
          ∃ b, bound[k]? = some b ∧ b.Represents v) ∧
        ∀ name is, s.ordinalMap.get? name = some is → ∃ b, ∀ i ∈ is, bound[i - 1]? = some b := by
  intro s
  have hargs : s.args = args := Statement.args_ofSql sigil sql args
  have hcases := ofArgs_cases s
  rw [hargs] at hcases
  rcases hcases with hrefused | ⟨hvalues, hmade⟩
  · exact Or.inl hrefused
  · refine Or.inr ⟨hvalues, hmade, boundValues s, length_boundValues s, fun steps db hsteps => ?_,
      fun k name v hname hv hfits => ?_, fun name is his => ?_⟩
    · have hsent : ∀ step ∈ steps, step.1.sent = ⟨s.sql, boundValues s⟩ :=
        fun step hstep => sent_of_ofArgs (hsteps step hstep)
      rw [sent_runAll, List.map_congr_left hsent, List.map_const']
    · refine ⟨_, getElem?_boundValues hname, ?_⟩
      rw [hargs, hv]
      exact Bound.represents_ofValue hfits
    · have hs : s.Numbered := Statement.numbered_ofSql sigil sql args
      exact ⟨_, fun i hi => getElem?_boundValues (names_of_mem_ordinals hs his hi)⟩

end Query

end SqlTemplate
