import SqlTemplate.Text

/-!
Finite maps from texts, kept as lists of entries in strictly ascending order of their keys.  The
order is that of code points, so the entries of a map are a function of what it maps to what.
-/
namespace SqlTemplate

/-! Operations on a list of entries in ascending order. -/
namespace Entries

variable {α β : Type}

def get? (key : Text) : List (Text × α) → Option α
  | [] => none
  | (k, v) :: rest => if k = key then some v else get? key rest

/-- Enters a value, in place of the one that `key` had. -/
def insert (key : Text) (value : α) : List (Text × α) → List (Text × α)
  | [] => [(key, value)]
  | (k, v) :: rest =>
    if key < k then (key, value) :: (k, v) :: rest
    else if key = k then (key, value) :: rest
    else (k, v) :: insert key value rest

def Ascending (entries : List (Text × α)) : Prop := entries.Pairwise fun a b => a.1 < b.1

theorem mem_insert {key : Text} {value : α} {entries : List (Text × α)} {e : Text × α}
    (h : e ∈ insert key value entries) : e = (key, value) ∨ e ∈ entries := by
  induction entries with
  | nil => simpa [insert] using h
  | cons kv rest ih =>
    obtain ⟨k, v⟩ := kv
    simp only [insert] at h
    split at h
    · simpa using h
    · split at h
      · simp only [List.mem_cons] at h ⊢
        exact h.imp_right Or.inr
      · simp only [List.mem_cons] at h ⊢
        rcases h with h | h
        · exact Or.inr (Or.inl h)
        · exact (ih h).imp_right Or.inr

theorem ascending_insert (key : Text) (value : α) {entries : List (Text × α)}
    (h : Ascending entries) : Ascending (insert key value entries) := by
  induction entries with
  | nil => simp [insert, Ascending]
  | cons kv rest ih =>
    obtain ⟨k, v⟩ := kv
    obtain ⟨hk, hrest⟩ := List.pairwise_cons.1 h
    simp only [insert]
    split
    case isTrue hlt =>
      refine List.pairwise_cons.2 ⟨fun e he => ?_, h⟩
      rcases List.mem_cons.1 he with rfl | he
      · exact hlt
      · exact List.lt_trans hlt (hk e he)
    case isFalse hlt =>
      split
      case isTrue heq =>
        refine List.pairwise_cons.2 ⟨fun e he => ?_, hrest⟩
        exact heq ▸ hk e he
      case isFalse hne =>
        refine List.pairwise_cons.2 ⟨fun e he => ?_, ih hrest⟩
        rcases mem_insert he with rfl | he
        · exact Std.lt_of_le_of_ne (Std.not_lt.1 hlt) (Ne.symm hne)
        · exact hk e he

end Entries

/-- A finite map from texts. -/
structure Dict (α : Type) where
  entries : List (Text × α)
  ascending : Entries.Ascending entries

namespace Dict

variable {α β : Type}

def empty : Dict α := ⟨[], List.Pairwise.nil⟩

instance : Inhabited (Dict α) := ⟨empty⟩

instance : EmptyCollection (Dict α) := ⟨empty⟩

def get? (d : Dict α) (key : Text) : Option α := Entries.get? key d.entries

def contains (d : Dict α) (key : Text) : Bool := (d.get? key).isSome

def insert (d : Dict α) (key : Text) (value : α) : Dict α :=
  ⟨Entries.insert key value d.entries, Entries.ascending_insert key value d.ascending⟩

def erase (d : Dict α) (key : Text) : Dict α :=
  ⟨d.entries.filter fun e => e.1 != key, d.ascending.filter _⟩

/-- Enters a value unless `key` has one. -/
def insertNew (d : Dict α) (key : Text) (value : α) : Dict α :=
  if d.contains key then d else d.insert key value

/-- Of two entries with one key the later counts. -/
def ofList (entries : List (Text × α)) : Dict α :=
  entries.foldl (fun d e => d.insert e.1 e.2) empty

def keys (d : Dict α) : List Text := d.entries.map Prod.fst

def size (d : Dict α) : Nat := d.entries.length

/-- The entries in the order of their keys. -/
def values (d : Dict α) : List α := d.entries.map Prod.snd

def map (f : Text → α → β) (d : Dict α) : Dict β :=
  ⟨d.entries.map fun e => (e.1, f e.1 e.2), by
    simpa [Entries.Ascending, List.pairwise_map] using d.ascending⟩

/-- The entries of `d`, and those of `e` whose keys `d` has not. -/
def union (d e : Dict α) : Dict α := e.entries.foldl (fun d kv => d.insertNew kv.1 kv.2) d

end Dict

end SqlTemplate
