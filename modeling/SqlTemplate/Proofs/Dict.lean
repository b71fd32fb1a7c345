import Mathlib.Data.List.Induction
import Mathlib.Data.List.Perm.Subperm
import Mathlib.Data.List.Sort
import SqlTemplate.Dict

/-!
What is found in a map after entries have been put into it, and how many keys a map has.
-/
namespace SqlTemplate

namespace Entries

variable {α : Type}

theorem get?_cons (k : Text) (v : α) (rest : List (Text × α)) (key : Text) :
    get? key ((k, v) :: rest) = if k = key then some v else get? key rest := rfl

theorem get?_insert (key : Text) (value : α) (entries : List (Text × α)) (k : Text) :
    get? k (insert key value entries) = if key = k then some value else get? k entries := by
  induction entries with
  | nil => rfl
  | cons e rest ih =>
    obtain ⟨k', v⟩ := e
    rw [insert]
    split
    · rfl
    · split
      · rename_i heq
        rw [get?_cons, get?_cons, ← heq]
        split <;> rfl
      · rename_i hne
        rw [get?_cons, get?_cons, ih]
        by_cases hk : k' = k
        · rw [if_pos hk, if_neg (by rw [← hk]; exact hne), if_pos hk]
        · rw [if_neg hk, if_neg hk]

theorem isSome_get?_iff (key : Text) (entries : List (Text × α)) :
    (get? key entries).isSome ↔ key ∈ entries.map Prod.fst := by
  induction entries with
  | nil => simp [get?]
  | cons e rest ih =>
    obtain ⟨k, v⟩ := e
    rw [get?_cons, List.map_cons, List.mem_cons]
    by_cases hk : k = key
    · simp [hk]
    · rw [if_neg hk, ih]
      simp [Ne.symm hk]

theorem get?_of_mem {key : Text} {v : α} {entries : List (Text × α)} (ha : Ascending entries)
    (h : (key, v) ∈ entries) : get? key entries = some v := by
  induction entries with
  | nil => cases h
  | cons e rest ih =>
    obtain ⟨k, w⟩ := e
    obtain ⟨hk, hrest⟩ := List.pairwise_cons.1 ha
    rw [get?_cons]
    rcases List.mem_cons.1 h with heq | h
    · obtain ⟨rfl, rfl⟩ := Prod.mk.inj heq
      rw [if_pos rfl]
    · have hlt : k < key := hk _ h
      rw [if_neg (Std.ne_of_lt hlt), ih hrest h]

theorem mem_of_get? {key : Text} {v : α} {entries : List (Text × α)}
    (h : get? key entries = some v) : (key, v) ∈ entries := by
  induction entries with
  | nil => cases h
  | cons e rest ih =>
    obtain ⟨k, w⟩ := e
    rw [get?_cons] at h
    split at h
    · rename_i hk
      obtain rfl := Option.some.inj h
      exact hk ▸ List.mem_cons_self
    · exact List.mem_cons_of_mem _ (ih h)

theorem map_get? {β : Type} (f : α → β) (key : Text) (entries : List (Text × α)) :
    get? key (entries.map fun e => (e.1, f e.2)) = (get? key entries).map f := by
  induction entries with
  | nil => rfl
  | cons e rest ih =>
    obtain ⟨k, v⟩ := e
    rw [List.map_cons, get?_cons, get?_cons, ih]
    split <;> rfl

/-- A key behind all others is entered at the end. -/
theorem insert_of_lt {key : Text} {entries : List (Text × α)} (h : ∀ e ∈ entries, e.1 < key)
    (value : α) : insert key value entries = entries ++ [(key, value)] := by
  induction entries with
  | nil => rfl
  | cons e rest ih =>
    obtain ⟨k, v⟩ := e
    obtain ⟨hk, hrest⟩ := List.forall_mem_cons.1 h
    have hlt : ¬key < k := fun hc => List.lt_irrefl k (List.lt_trans hk hc)
    have hne : key ≠ k := (Std.ne_of_lt hk).symm
    rw [insert, if_neg hlt, if_neg hne, ih hrest, List.cons_append]

theorem insert_map {β : Type} (f : α → β) (key : Text) (value : α) (entries : List (Text × α)) :
    (insert key value entries).map (fun e => (e.1, f e.2)) =
      insert key (f value) (entries.map fun e => (e.1, f e.2)) := by
  induction entries with
  | nil => rfl
  | cons e rest ih =>
    obtain ⟨k, v⟩ := e
    simp only [insert, List.map_cons]
    split
    · rfl
    · split
      · rfl
      · rw [List.map_cons, ih]

/-- In an ascending list, the earlier of two entries is the one with the smaller key. -/
theorem Ascending.pairwise_iff {entries : List (Text × α)} (h : Ascending entries)
    {R : Text × α → Text × α → Prop} :
    entries.Pairwise R ↔ ∀ d ∈ entries, ∀ e ∈ entries, d.1 < e.1 → R d e := by
  refine ⟨fun hR => ?_, fun hR => ?_⟩
  · induction entries with
    | nil => simp
    | cons entry rest ih =>
      obtain ⟨hentry, hrest⟩ := List.pairwise_cons.1 h
      obtain ⟨hRentry, hRrest⟩ := List.pairwise_cons.1 hR
      intro d hd e he hlt
      rcases List.mem_cons.1 he with rfl | he'
      · -- nothing is before the head
        rcases List.mem_cons.1 hd with rfl | hd'
        · exact absurd hlt (List.lt_irrefl _)
        · exact absurd (List.lt_trans hlt (hentry d hd')) (List.lt_irrefl _)
      · rcases List.mem_cons.1 hd with rfl | hd'
        · exact hRentry e he'
        · exact ih hrest hRrest d hd' e he' hlt
  · exact h.imp_of_mem fun hd he hlt => hR _ hd _ he hlt

end Entries

namespace Dict

variable {α β : Type}

theorem ext_entries {d e : Dict α} (h : d.entries = e.entries) : d = e := by
  cases d
  cases e
  congr

@[simp] theorem get?_empty (key : Text) : (∅ : Dict α).get? key = none := rfl

theorem get?_insert (d : Dict α) (key : Text) (value : α) (k : Text) :
    (d.insert key value).get? k = if key = k then some value else d.get? k :=
  Entries.get?_insert key value d.entries k

theorem get?_insertNew (d : Dict α) (key : Text) (value : α) (k : Text) :
    (d.insertNew key value).get? k = (d.get? k).or (if key = k then some value else none) := by
  rw [insertNew, contains]
  by_cases hk : key = k
  · subst hk
    cases hd : d.get? key with
    | some v => simp [hd]
    | none => simp [get?_insert]
  · by_cases hd : (d.get? key).isSome
    · simp [hd, hk]
    · simp [hd, hk, get?_insert]

/-- Entries that both maps have are those of the first. -/
theorem get?_union (d e : Dict α) (k : Text) : (d.union e).get? k = (d.get? k).or (e.get? k) := by
  have h : ∀ entries : List (Text × α),
      (entries.foldl (fun d kv => d.insertNew kv.1 kv.2) d).get? k =
        (d.get? k).or (Entries.get? k entries) := by
    intro entries
    induction entries generalizing d with
    | nil => simp [Entries.get?]
    | cons kv rest ih =>
      rw [List.foldl_cons, ih, get?_insertNew, Option.or_assoc, Entries.get?_cons]
      split <;> simp
  exact h e.entries

theorem get?_of_mem {d : Dict α} {key : Text} {v : α} (h : (key, v) ∈ d.entries) :
    d.get? key = some v := Entries.get?_of_mem d.ascending h

theorem mem_of_get? {d : Dict α} {key : Text} {v : α} (h : d.get? key = some v) :
    (key, v) ∈ d.entries := Entries.mem_of_get? h

/-- A map is determined by what is found in it. -/
theorem ext_get? {d e : Dict α} (h : ∀ key, d.get? key = e.get? key) : d = e := by
  have hmem : ∀ entry, entry ∈ d.entries ↔ entry ∈ e.entries := fun ⟨key, v⟩ =>
    ⟨fun hd => mem_of_get? (h key ▸ get?_of_mem hd), fun he => mem_of_get? (h key ▸ get?_of_mem he)⟩
  exact ext_entries (d.ascending.eq_of_mem_iff e.ascending fun {entry} => hmem entry)

/-- What is found in a map made of a list is an entry of the list. -/
theorem mem_of_get?_ofList {entries : List (Text × α)} {key : Text} {v : α}
    (h : (ofList entries).get? key = some v) : (key, v) ∈ entries := by
  have hfold : ∀ (d : Dict α), (entries.foldl (fun d e => d.insert e.1 e.2) d).get? key = some v →
      (key, v) ∈ entries ∨ d.get? key = some v := by
    clear h
    intro d h
    induction entries generalizing d with
    | nil => exact Or.inr h
    | cons e rest ih =>
      rcases ih _ h with hmem | hget
      · exact Or.inl (List.mem_cons_of_mem e hmem)
      · rw [get?_insert] at hget
        split at hget
        · rename_i hkey
          obtain rfl := Option.some.inj hget
          exact Or.inl (hkey ▸ List.mem_cons_self)
        · exact Or.inr hget
  exact (hfold empty h).resolve_right (by simp [get?, empty, Entries.get?])

theorem ofList_concat (entries : List (Text × α)) (entry : Text × α) :
    ofList (entries ++ [entry]) = (ofList entries).insert entry.1 entry.2 :=
  List.foldl_concat ..

/-- In a map made of entries whose keys are different, exactly these are found. -/
theorem get?_ofList {entries : List (Text × α)} (hnodup : (entries.map Prod.fst).Nodup)
    {key : Text} {v : α} : (ofList entries).get? key = some v ↔ (key, v) ∈ entries := by
  refine ⟨mem_of_get?_ofList, ?_⟩
  induction entries using List.reverseRecOn with
  | nil => exact fun h => absurd h List.not_mem_nil
  | append_singleton entries entry ih =>
    rw [List.map_append, List.nodup_append] at hnodup
    obtain ⟨hentries, -, hapart⟩ := hnodup
    intro h
    rw [ofList_concat, get?_insert]
    rcases List.mem_append.1 h with h | h
    · have hne : entry.1 ≠ key :=
        (hapart key (List.mem_map_of_mem h) entry.1 (by simp)).symm
      rw [if_neg hne, ih hentries h]
    · obtain rfl := List.mem_singleton.1 h
      exact if_pos rfl

theorem ofList_perm {entries entries' : List (Text × α)} (h : entries.Perm entries')
    (hnodup : (entries.map Prod.fst).Nodup) : ofList entries = ofList entries' := by
  have hnodup' : (entries'.map Prod.fst).Nodup := (h.map Prod.fst).nodup_iff.1 hnodup
  refine ext_get? fun key => Option.ext fun v => ?_
  rw [get?_ofList hnodup, get?_ofList hnodup', h.mem_iff]

theorem nodup_keys (d : Dict α) : d.keys.Nodup :=
  List.pairwise_map.2 (d.ascending.imp fun h => Std.ne_of_lt h)

theorem mem_entries_ofList {entries : List (Text × α)} (hnodup : (entries.map Prod.fst).Nodup)
    {entry : Text × α} : entry ∈ (ofList entries).entries ↔ entry ∈ entries := by
  rw [← get?_ofList hnodup]
  exact ⟨get?_of_mem, mem_of_get?⟩

theorem size_ofList {entries : List (Text × α)} (hnodup : (entries.map Prod.fst).Nodup) :
    (ofList entries).size = entries.length :=
  ((List.perm_ext_iff_of_nodup ((nodup_keys _).of_map Prod.fst) (hnodup.of_map Prod.fst)).2
    fun _ => mem_entries_ofList hnodup).length_eq

/-- The entries of a map made of entries in ascending order are these. -/
theorem entries_ofList {entries : List (Text × α)} (h : Entries.Ascending entries) :
    (ofList entries).entries = entries := by
  have hfold : ∀ d : Dict α, Entries.Ascending (d.entries ++ entries) →
      (entries.foldl (fun d e => d.insert e.1 e.2) d).entries = d.entries ++ entries := by
    clear h
    induction entries with
    | nil => simp
    | cons e rest ih =>
      intro d h
      have hlt : ∀ e' ∈ d.entries, e'.1 < e.1 := fun e' he' =>
        (List.pairwise_append.1 h).2.2 e' he' e List.mem_cons_self
      have hinsert : (d.insert e.1 e.2).entries = d.entries ++ [e] := Entries.insert_of_lt hlt e.2
      have heq : d.entries ++ e :: rest = (d.insert e.1 e.2).entries ++ rest := by simp [hinsert]
      rw [heq] at h ⊢
      exact ih _ h
  exact hfold ∅ h

theorem contains_iff (d : Dict α) (key : Text) : d.contains key ↔ key ∈ d.keys :=
  Entries.isSome_get?_iff key d.entries

theorem mem_keys_iff {d : Dict α} {key : Text} : key ∈ d.keys ↔ ∃ v, d.get? key = some v := by
  rw [← contains_iff, contains, Option.isSome_iff_exists]

theorem contains_insert (d : Dict α) (key : Text) (value : α) (k : Text) :
    (d.insert key value).contains k = (key == k || d.contains k) := by
  rw [contains, get?_insert, contains]
  by_cases hk : key = k
  · simp [hk]
  · simp [hk]

theorem length_keys (d : Dict α) : d.keys.length = d.size := List.length_map _

/-- A list without repetitions that has more names than two maps have keys has one that is a key
of neither. -/
theorem exists_not_contains {names : List Text} (hnodup : names.Nodup) (d e : Dict α)
    (h : d.size + e.size < names.length) :
    ∃ name ∈ names, d.contains name = false ∧ e.contains name = false := by
  by_contra hall
  push Not at hall
  have hsub : names ⊆ d.keys ++ e.keys := by
    intro name hname
    rw [List.mem_append, ← contains_iff, ← contains_iff]
    by_cases hd : d.contains name
    · exact Or.inl hd
    · exact Or.inr (by simpa using hall name hname (by simpa using hd))
  have hlen := (List.subperm_of_subset hnodup hsub).length_le
  rw [List.length_append, length_keys, length_keys] at hlen
  omega

theorem size_eq_of_keys {d : Dict α} {e : Dict β} (h : d.keys = e.keys) : d.size = e.size := by
  rw [← length_keys, ← length_keys, h]

theorem keys_map (f : α → β) (d : Dict α) : (d.map fun _ => f).keys = d.keys := by
  simp [keys, map]

theorem get?_map (f : α → β) (d : Dict α) (key : Text) :
    (d.map fun _ => f).get? key = (d.get? key).map f :=
  Entries.map_get? f key d.entries

theorem map_insert (f : α → β) (d : Dict α) (key : Text) (value : α) :
    (d.insert key value).map (fun _ => f) = (d.map fun _ => f).insert key (f value) :=
  ext_entries (Entries.insert_map f key value d.entries)

end Dict

end SqlTemplate
