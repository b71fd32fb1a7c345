import Mathlib.Data.List.Nodup
import SqlTemplate.Proofs.Args
import SqlTemplate.Proofs.Reference

/-!
The names that references get.  A new name is taken nowhere, it is a single word, and it stands for
the value of its reference; equal references of one element share it.
-/
namespace SqlTemplate

namespace Dict

variable {α : Type}

/-- Whether `e` has all entries of `d`. -/
def Extends (d e : Dict α) : Prop := ∀ key v, d.get? key = some v → e.get? key = some v

theorem Extends.refl (d : Dict α) : d.Extends d := fun _ _ h => h

theorem Extends.trans {d e f : Dict α} (h : d.Extends e) (h' : e.Extends f) : d.Extends f :=
  fun key v hv => h' key v (h key v hv)

theorem extends_insert {d : Dict α} {key : Text} (h : d.get? key = none) (v : α) :
    d.Extends (d.insert key v) := by
  intro k w hw
  have hne : key ≠ k := by
    rintro rfl
    simp [h] at hw
  rw [get?_insert, if_neg hne, hw]

/-- Whether no key has a dot in it. -/
def Dotless (d : Dict α) : Prop := ∀ key, d.contains key → '.' ∉ key

end Dict

namespace Template.Naming

theorem toString_injective {i j : Nat} (h : (toString i).toList = (toString j).toList) : i = j := by
  have hvalue : ∀ k : Nat, Nat.ofDigitChars 10 (toString k).toList 0 = k := by
    intro k
    simp [Nat.ofDigitChars_ten_toDigits]
  rw [← hvalue i, h, hvalue j]

theorem numbered_injective (base : Text) {i j : Nat} (h : numbered base i = numbered base j) :
    i = j := by
  cases i with
  | zero =>
    cases j with
    | zero => rfl
    | succ j => simp [numbered] at h
  | succ i =>
    cases j with
    | zero => simp [numbered] at h
    | succ j =>
      simp only [numbered, List.append_cancel_left_eq, List.cons.injEq, true_and] at h
      exact toString_injective h

/-- A new name is one of the numbered ones and is not taken. -/
theorem freshName_spec (base : Text) (scope bound : Args) :
    (∃ i, freshName base scope bound = numbered base i) ∧
      scope.contains (freshName base scope bound) = false ∧
      bound.contains (freshName base scope bound) = false := by
  have hnodup : ((List.range (scope.size + bound.size + 1)).map (numbered base)).Nodup :=
    List.Nodup.map (fun i j => numbered_injective base) List.nodup_range
  obtain ⟨name, hmem, hscope, hbound⟩ :=
    Dict.exists_not_contains hnodup scope bound (by simp)
  rw [freshName]
  cases hfind : ((List.range (scope.size + bound.size + 1)).map (numbered base)).find? fun name =>
      !scope.contains name && !bound.contains name with
  | none => simpa [hscope, hbound] using List.find?_eq_none.1 hfind name hmem
  | some found =>
    obtain ⟨i, -, hi⟩ := List.mem_map.1 (List.mem_of_find?_eq_some hfind)
    have hfree := List.find?_some hfind
    rw [Bool.and_eq_true, Bool.not_eq_true', Bool.not_eq_true'] at hfree
    exact ⟨⟨i, hi.symm⟩, hfree⟩

variable {header : LoopHeader} {e : Element}

/-- A reference has the name it had before, or gets a new one. -/
theorem nameOf_cases (header : LoopHeader) (e : Element) (r : Reference) (n : Naming) :
    (∃ name, n.given.get? r.text = some name ∧ nameOf header e r n = (name, n)) ∨
      n.given.get? r.text = none ∧
        nameOf header e r n =
          (freshName (baseName e r) e.scope n.bound,
            ⟨n.given.insert r.text (freshName (baseName e r) e.scope n.bound),
              n.bound.insert (freshName (baseName e r) e.scope n.bound) (value header e r)⟩) := by
  rw [nameOf]
  cases hg : n.given.get? r.text with
  | some name => exact Or.inl ⟨name, rfl, rfl⟩
  | none => exact Or.inr ⟨rfl, rfl⟩

theorem isPart_of_mem_toString {i : Nat} {c : Char} (h : c ∈ (toString i).toList) :
    Name.isPart c := by
  have hdigit : c.isDigit := by
    rw [Nat.toString_eq_ofList_toDigits, String.toList_ofList] at h
    exact Nat.isDigit_of_mem_toDigits (by decide) (by decide) h
  simp [Name.isPart, Char.isAlphanum, hdigit]

/-- A character of a candidate is a name character or comes from the reference. -/
theorem mem_numbered {r : Reference} {i : Nat} {c : Char} (h : c ∈ numbered (baseName e r) i) :
    Name.isPart c ∨ c ∈ r.var ∨ c ∈ r.path ∧ c ≠ '.' := by
  have hbase : c ∈ baseName e r → Name.isPart c ∨ c ∈ r.var ∨ c ∈ r.path ∧ c ≠ '.' := by
    intro hc
    simp only [baseName, List.cons_append, List.mem_cons, List.mem_append, List.mem_map] at hc
    rcases hc with rfl | ((hc | ⟨d, hd, rfl⟩) | rfl | hc) | rfl | hc
    · exact Or.inl rfl
    · exact Or.inr (Or.inl hc)
    · split
      · exact Or.inl rfl
      · rename_i hdot
        exact Or.inr (Or.inr ⟨hd, hdot⟩)
    · exact Or.inl rfl
    · exact Or.inl (isPart_of_mem_toString hc)
    · exact Or.inl rfl
    · exact Or.inl (isPart_of_mem_toString hc)
  cases i with
  | zero => exact hbase h
  | succ i =>
    simp only [numbered, List.mem_append, List.mem_cons] at h
    rcases h with hc | rfl | hc
    · exact hbase hc
    · exact Or.inl rfl
    · exact Or.inl (isPart_of_mem_toString hc)

/-- Every candidate for the name of a reference is a word. -/
theorem isWord_numbered {r : Reference} (hvar : ∀ c ∈ r.var, Name.isPart c)
    (hpath : ∀ c ∈ r.path, Name.isPart c ∨ c = '.') (e : Element) (i : Nat) :
    Name.IsWord (numbered (baseName e r) i) := by
  obtain ⟨cs, hcs⟩ : ∃ cs, numbered (baseName e r) i = '_' :: cs := by
    cases i <;> exact ⟨_, rfl⟩
  refine ⟨'_', cs, hcs, rfl, fun d hd => ?_⟩
  have hmem : d ∈ numbered (baseName e r) i := by
    rw [hcs]
    exact List.mem_cons_of_mem _ hd
  rcases mem_numbered hmem with h | h | ⟨h, hdot⟩
  · exact h
  · exact hvar d h
  · exact (hpath d h).resolve_right hdot

/-- Names given in an element: each is a word that is new to the scope, and stands for the value
of its reference. -/
structure Named (header : LoopHeader) (e : Element) (n : Naming) : Prop where
  given : ∀ t name, n.given.get? t = some name → Name.IsWord name ∧ e.scope.contains name = false ∧
    n.bound.get? name = some (value header e (.ofName t))

theorem isWord_freshName {name : Text} (hname : Name.IsName name) (scope bound : Args) :
    Name.IsWord (freshName (baseName e (.ofName name)) scope bound) := by
  obtain ⟨⟨i, hi⟩, -, -⟩ := freshName_spec (baseName e (.ofName name)) scope bound
  obtain ⟨w, segments, rfl, hw, hsegments⟩ := hname
  rw [hi]
  refine isWord_numbered ?_ ?_ e i
  · simpa [Reference.ofName, Name.root_word hw] using fun c => hw.isPart
  · intro c hc
    rw [Reference.ofName, Name.afterRoot_word hw] at hc
    exact Name.IsName.mem ⟨w, segments, rfl, hw, hsegments⟩ (List.mem_append_right w hc)

/-- What giving names to the references among `names` does: those given before and the arguments
made before stay. -/
structure Gives (header : LoopHeader) (e : Element) (names : List Text) (n n' : Naming) : Prop where
  named : Named header e n'
  given : n.given.Extends n'.given
  bound : n.bound.Extends n'.bound
  dotless : n.bound.Dotless → n'.bound.Dotless
  all : ∀ name ∈ names, Name.root name ∈ header.vars → ∃ new, n'.given.get? name = some new

theorem Gives.nil {n : Naming} (h : Named header e n) : Gives header e [] n n :=
  ⟨h, .refl _, .refl _, id, fun name hname => by cases hname⟩

theorem Gives.other {n : Naming} {name : Text} (h : Named header e n)
    (hname : Name.root name ∉ header.vars) : Gives header e [name] n n := by
  refine ⟨h, .refl _, .refl _, id, fun name' hmem hroot => ?_⟩
  obtain rfl := List.mem_singleton.1 hmem
  exact absurd hroot hname

theorem Gives.append {names names' : List Text} {n n' n'' : Naming}
    (h : Gives header e names n n') (h' : Gives header e names' n' n'') :
    Gives header e (names ++ names') n n'' := by
  refine ⟨h'.named, h.given.trans h'.given, h.bound.trans h'.bound, h'.dotless ∘ h.dotless,
    fun name hname hroot => ?_⟩
  rcases List.mem_append.1 hname with hname | hname
  · obtain ⟨new, hnew⟩ := h.all name hname hroot
    exact ⟨new, h'.given _ _ hnew⟩
  · exact h'.all name hname hroot

/-- A new word may be given to a reference that has no name. -/
theorem Named.gives {n : Naming} {name new : Text} (h : Named header e n)
    (hgiven : n.given.get? name = none) (hword : Name.IsWord new)
    (hscope : e.scope.contains new = false) (hbound : n.bound.contains new = false) :
    Gives header e [name] n
      ⟨n.given.insert name new, n.bound.insert new (value header e (.ofName name))⟩ := by
  have hnone : n.bound.get? new = none := by simpa [Dict.contains] using hbound
  refine ⟨⟨fun t given ht => ?_⟩, Dict.extends_insert hgiven _, Dict.extends_insert hnone _,
    fun hdotless key hkey => ?_, fun name' hmem _ => ?_⟩
  · rw [Dict.get?_insert] at ht
    split at ht
    · rename_i hname
      obtain rfl := Option.some.inj ht
      subst hname
      exact ⟨hword, hscope, by rw [Dict.get?_insert, if_pos rfl]⟩
    · obtain ⟨hw, hs, hb⟩ := h.given t given ht
      exact ⟨hw, hs, Dict.extends_insert hnone _ _ _ hb⟩
  · rw [Dict.contains_insert] at hkey
    rcases Bool.or_eq_true_iff.1 hkey with hkey | hkey
    · obtain rfl : new = key := by simpa using hkey
      exact hword.dot_notMem
    · exact hdotless key hkey
  · obtain rfl := List.mem_singleton.1 hmem
    exact ⟨new, by rw [Dict.get?_insert, if_pos rfl]⟩

/-- Giving a name to a reference that is a name with a variable as its root. -/
theorem gives_nameOf {n : Naming} {name : Text} (h : Named header e n)
    (hname : Name.IsName name) :
    Gives header e [name] n (nameOf header e (.ofName name) n).2 ∧
      (nameOf header e (.ofName name) n).2.given.get? name =
        some (nameOf header e (.ofName name) n).1 := by
  rcases nameOf_cases header e (.ofName name) n with ⟨new, hgiven, heq⟩ | ⟨hgiven, heq⟩
  · rw [Reference.text_ofName] at hgiven
    rw [heq]
    refine ⟨⟨h, .refl _, .refl _, id, fun name' hmem _ => ?_⟩, hgiven⟩
    obtain rfl := List.mem_singleton.1 hmem
    exact ⟨new, hgiven⟩
  · rw [Reference.text_ofName] at hgiven
    obtain ⟨-, hscope, hbound⟩ := freshName_spec (baseName e (.ofName name)) e.scope n.bound
    rw [heq, Reference.text_ofName]
    exact ⟨h.gives hgiven (isWord_freshName hname _ _) hscope hbound,
      by rw [Dict.get?_insert, if_pos rfl]⟩

theorem writeAll_cons (sigil : Char) (p : Reference.Piece) (ps : List Reference.Piece)
    (n : Naming) :
    writeAll header sigil e (p :: ps) n =
      ((write header sigil e p n).1 ++ (writeAll header sigil e ps (write header sigil e p n).2).1,
        (writeAll header sigil e ps (write header sigil e p n).2).2) := rfl

theorem write_char (sigil c : Char) (n : Naming) :
    write header sigil e (.char c) n = ([c], n) := rfl

theorem write_parameter (sigil : Char) (r : Reference) (n : Naming) :
    write header sigil e (.parameter r) n =
      (sigil :: (nameOf header e r n).1, (nameOf header e r n).2) := rfl

theorem write_placeholder (sigil : Char) (mark : Mark) (r : Reference) (n : Naming) :
    write header sigil e (.placeholder mark r) n =
      (Placeholder.plain mark (nameOf header e r n).1, (nameOf header e r n).2) := by
  change ('$' :: '\x7b' :: mark.text ++ (nameOf header e r n).1 ++ ['\x7d'], _) = _
  rw [Placeholder.plain, List.append_assoc]
  rfl

theorem writeAll_text_append (sigil : Char) (s : Text) (ps : List Reference.Piece) (n : Naming) :
    writeAll header sigil e (s.map .char ++ ps) n =
      (s ++ (writeAll header sigil e ps n).1, (writeAll header sigil e ps n).2) := by
  induction s with
  | nil => rfl
  | cons c s ih =>
    rw [List.map_cons, List.cons_append, writeAll_cons, write_char, ih]
    rfl

/-- What a name in the text of an element becomes: a variable's reference is a new word with the
reference's value, and every other name is kept. -/
inductive Outcome (header : LoopHeader) (e : Element) (bound : Args) : Text → Text → Prop
  | other {name : Text} (h : Name.root name ∉ header.vars) : Outcome header e bound name name
  | own {name new : Text} (h : Name.root name ∈ header.vars) (word : Name.IsWord new)
    (fresh : e.scope.contains new = false)
    (stands : bound.get? new = some (value header e (.ofName name))) :
    Outcome header e bound name new

/-- Text without dollar signs has no placeholders to rename. -/
theorem renamePlain_of_notMem {t : Text} (h : '$' ∉ t) (sigil : Char) (n : Naming) :
    renamePlain header sigil e t n =
      writeAll header sigil e (Reference.splitParameters sigil header.vars none t) n := by
  have htext := @writeAll_text_append header e sigil t [] n
  rw [List.append_nil] at htext
  change writeAll header sigil e (Reference.splitParameters sigil header.vars none
    (writeAll header sigil e (Reference.splitPlaceholders header.vars t) n).1)
    (writeAll header sigil e (Reference.splitPlaceholders header.vars t) n).2 = _
  rw [Reference.splitPlaceholders_of_notMem h, htext]
  simp [writeAll, pure, StateT.pure]

theorem renameSegments_plain (sigil : Char) (t : Text) (n : Naming) :
    renameSegments header sigil e [.plain t] n = renamePlain header sigil e t n := by
  change ((renamePlain header sigil e t n).1 ++ [], (renamePlain header sigil e t n).2) = _
  rw [List.append_nil]
  rfl

/-- Plain text is renamed in one piece. -/
theorem renameSegments_of_isPlain {sigil : Char} {t : Text} (h : Segment.IsPlain t) {n : Naming} :
    renameSegments header sigil e (segments t) n = renamePlain header sigil e t n := by
  rw [Segment.segments_of_isPlain h]
  cases t with
  | nil =>
    rw [renamePlain_of_notMem (by simp), Reference.splitParameters_nil]
    rfl
  | cons c t =>
    have hplain : Segment.merge [.plain (c :: t)] = [.plain (c :: t)] := rfl
    rw [hplain, renameSegments_plain]

theorem rename_run (sigil : Char) (t : Text) (bound : Args) :
    rename header sigil e t bound =
      ((renameSegments header sigil e (segments t) ⟨∅, bound⟩).1,
        (renameSegments header sigil e (segments t) ⟨∅, bound⟩).2.bound) := rfl

end Template.Naming

end SqlTemplate
