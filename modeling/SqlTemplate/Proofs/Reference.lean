import SqlTemplate.Proofs.Calm
import SqlTemplate.Template.Rename

/-!
References to loop variables.  In ASCII text a reference is a parameter whose root is a variable,
so that splitting at references and splitting at parameters find the same names.
-/
namespace SqlTemplate.Template.Reference

open Name (root afterRoot)

/-- The reference that a name is: its root and the path behind it. -/
def ofName (name : Text) : Reference := ⟨root name, afterRoot name⟩

@[simp] theorem text_ofName (name : Text) : (ofName name).text = name :=
  Name.root_append_afterRoot name

theorem isWord_of_ascii {c : Char} (h : c.toNat < 128) : Unicode.isWord c = Name.isPart c := by
  rw [Unicode.isWord, if_pos h]
  rfl

/-- A reference that is read is the start of the text, and its variable is one of those given. -/
theorem readParameter?_spec {vars : List Text} {cs rest : Text} {r : Reference}
    (h : readParameter? vars cs = some (r, rest)) : cs = r.text ++ rest ∧ r.var ∈ vars := by
  obtain ⟨v, hv, h⟩ := List.exists_of_findSome?_eq_some h
  split at h
  · rename_i tail htail
    have hpath := Name.path_append tail
    have hcs := Text.eq_append_of_dropFront? htail
    dsimp only at h
    split at h
    · obtain ⟨rfl, rfl⟩ := Prod.mk.inj (Option.some.inj h)
      exact ⟨by rw [text, List.append_assoc, hpath, hcs], hv⟩
    · split at h
      · rename_i last hlast
        obtain ⟨rfl, rfl⟩ := Prod.mk.inj (Option.some.inj h)
        refine ⟨?_, hv⟩
        have hdotted := Name.dotted_dropLast hlast
        have htail' : Name.dotted (Name.path tail).1.dropLast ++
            ('.' :: last ++ (Name.path tail).2) = tail := by
          rw [← List.append_assoc, hdotted, hpath]
        rw [text, List.append_assoc, htail', hcs]
      · cases h
  · cases h

/-- What one variable finds at the start of a text. -/
def readVariable? (v : Text) (cs : Text) : Option (Reference × Text) :=
  match Text.dropFront? v cs with
  | some rest =>
    let (segments, rest') := Name.path rest
    if !rest'.head?.any Unicode.isWord then some (⟨v, Name.dotted segments⟩, rest')
    else
      match segments.getLast? with
      | some last => some (⟨v, Name.dotted segments.dropLast⟩, '.' :: last ++ rest')
      | none => none
  | none => none

theorem readParameter?_eq (vars : List Text) (cs : Text) :
    readParameter? vars cs = vars.findSome? fun v => readVariable? v cs := rfl

/-- A word at the start of a text is the whole root of the name there, or name characters follow. -/
theorem root_eq_or_isPart {v w tail rest : Text} (hv : Name.IsWord v) (hw : Name.IsWord w)
    (hrest : ¬rest.head?.any Name.isPart) (h : v ++ tail = w ++ rest) :
    v = w ∧ tail = rest ∨ v ≠ w ∧ tail.head?.any Name.isPart := by
  rcases List.append_eq_append_iff.1 h with ⟨x, rfl, rfl⟩ | ⟨x, rfl, rfl⟩
  · cases x with
    | nil => exact Or.inl ⟨by simp, by simp⟩
    | cons c cs => exact Or.inr ⟨by simp, by simpa using hw.isPart (c := c) (by simp)⟩
  · cases x with
    | nil => exact Or.inl ⟨by simp, by simp⟩
    | cons c cs => exact absurd (by simpa using hv.isPart (c := c) (by simp)) hrest

theorem readVariable?_of_name {v cs name rest : Text} (hv : Name.IsWord v)
    (hascii : ∀ c ∈ cs, c.toNat < 128) (h : Name.read? cs = some (name, rest)) :
    readVariable? v cs = if root name = v then some (ofName name, rest) else none := by
  obtain ⟨⟨w, segments, rfl, hw, hsegments⟩, hstops⟩ := Name.read?_spec h
  have hcs : cs = w ++ (Name.dotted segments ++ rest) := by
    rw [← (Name.read?_append h).1, List.append_assoc]
  have hstop := Name.dotted_head segments hstops.head
  rw [readVariable?, Name.root_word hw]
  cases hd : Text.dropFront? v cs with
  | none =>
    have hne : w ≠ v := by
      rintro rfl
      rw [hcs, Text.dropFront?_append] at hd
      cases hd
    rw [if_neg hne]
  | some tail =>
    have htail := Text.eq_append_of_dropFront? hd
    rcases root_eq_or_isPart hv hw hstop (htail.symm.trans hcs) with ⟨rfl, rfl⟩ | ⟨hne, hpart⟩
    · have hword : ¬rest.head?.any Unicode.isWord := by
        cases rest with
        | nil => simp
        | cons c rest =>
          have hc : c.toNat < 128 := hascii c (by simp [hcs])
          simpa [isWord_of_ascii hc] using hstops.1
      simp only [Name.path_dotted hsegments hstops]
      rw [if_pos (by simpa using hword), if_pos trivial, ofName, Name.root_word hw,
        Name.afterRoot_word hw]
    · cases tail with
      | nil => cases hpart
      | cons c tail =>
        have hc : c.toNat < 128 := hascii c (by simp [htail])
        have hcPart : Name.isPart c := hpart
        simp only [Name.path_of_isPart hpart]
        rw [if_neg (by simpa [isWord_of_ascii hc] using hcPart), if_neg (Ne.symm hne)]
        rfl

theorem readVariable?_of_none {v cs : Text} (hv : Name.IsWord v) (h : Name.read? cs = none) :
    readVariable? v cs = none := by
  obtain ⟨c, ds, rfl, hc, -⟩ := hv
  rw [Name.read?_eq_none_iff] at h
  rw [readVariable?]
  cases hd : Text.dropFront? (c :: ds) cs with
  | none => rfl
  | some tail => exact absurd (by simp [Text.eq_append_of_dropFront? hd, hc]) h

variable {vars : List Text}

/-- A search that only one variable ends succeeds if that is one of those given. -/
theorem findSome?_eq_ite {β : Type} {f : Text → Option β} {w : Text} {x : β}
    (h : ∀ v ∈ vars, f v = if w = v then some x else none) :
    vars.findSome? f = if w ∈ vars then some x else none := by
  induction vars with
  | nil => simp
  | cons v vars ih =>
    rw [List.findSome?_cons, h v List.mem_cons_self,
      ih fun u hu => h u (List.mem_cons_of_mem v hu)]
    by_cases hv : w = v
    · simp [hv]
    · simp [hv]

/-- In ASCII text a reference is a name whose root is a variable. -/
theorem readParameter?_of_name (hvars : ∀ v ∈ vars, Name.IsWord v) {cs name rest : Text}
    (hascii : ∀ c ∈ cs, c.toNat < 128) (h : Name.read? cs = some (name, rest)) :
    readParameter? vars cs = if root name ∈ vars then some (ofName name, rest) else none := by
  rw [readParameter?_eq]
  exact findSome?_eq_ite fun v hv => readVariable?_of_name (hvars v hv) hascii h

theorem readParameter?_of_none (hvars : ∀ v ∈ vars, Name.IsWord v) {cs : Text}
    (h : Name.read? cs = none) : readParameter? vars cs = none := by
  rw [readParameter?_eq, List.findSome?_eq_none_iff]
  exact fun v hv => readVariable?_of_none (hvars v hv) h

/-! What stands at the start of a text decides its first piece. -/

variable {sigil : Char} {last : Option Char}

@[simp] theorem splitParameters_nil : splitParameters sigil vars last [] = [] := by
  rw [splitParameters]

theorem splitParameters_reference {rest rest' : Text} {r : Reference}
    (h : readParameter? vars rest = some (r, rest')) :
    splitParameters sigil vars last (sigil :: rest) =
      (if last = some sigil then [.char sigil, .kept r] else [.parameter r]) ++
        splitParameters sigil vars r.text.getLast? rest' := by
  rw [splitParameters, if_pos rfl]
  split
  · rename_i h'
    obtain ⟨rfl, rfl⟩ := Prod.mk.inj (Option.some.inj (h.symm.trans h'))
    rfl
  · rename_i h'
    simp [h] at h'

theorem splitParameters_char {c : Char} {rest : Text}
    (h : c = sigil → readParameter? vars rest = none) :
    splitParameters sigil vars last (c :: rest) =
      .char c :: splitParameters sigil vars (some c) rest := by
  rw [splitParameters]
  by_cases hc : c = sigil
  · rw [if_pos hc]
    split
    · rename_i h'
      simp [h hc] at h'
    · rfl
  · rw [if_neg hc]

/-- The character in front matters only to a sigil. -/
theorem splitParameters_last {t : Text} (h : last = some sigil → t.head? ≠ some sigil) :
    splitParameters sigil vars last t = splitParameters sigil vars none t := by
  cases t with
  | nil => simp
  | cons c rest =>
    by_cases hc : c = sigil
    · subst hc
      have hlast : last ≠ some c := fun hl => h hl rfl
      cases hr : readParameter? vars rest with
      | none => rw [splitParameters_char fun _ => hr, splitParameters_char fun _ => hr]
      | some found =>
        obtain ⟨r, rest'⟩ := found
        rw [splitParameters_reference hr, splitParameters_reference hr, if_neg hlast,
          if_neg (by simp)]
    · rw [splitParameters_char fun h => absurd h hc, splitParameters_char fun h => absurd h hc]

theorem splitParameters_text_append {s : Text} (h : sigil ∉ s) (hlast : last ≠ some sigil)
    (b : Text) :
    splitParameters sigil vars last (s ++ b) =
      s.map .char ++ splitParameters sigil vars none b := by
  induction s generalizing last with
  | nil => exact splitParameters_last fun hl => absurd hl hlast
  | cons c s ih =>
    have hc : c ≠ sigil := by
      rintro rfl
      simp at h
    rw [List.cons_append, splitParameters_char fun h => absurd h hc,
      ih (fun hd => h (List.mem_cons_of_mem c hd)) (by simpa using hc)]
    rfl

theorem splitParameters_append_of_ne_nil {s : Text} (h : sigil ∉ s) (hne : s ≠ []) (b : Text) :
    splitParameters sigil vars last (s ++ b) =
      s.map .char ++ splitParameters sigil vars none b := by
  have hhead : (s ++ b).head? ≠ some sigil := by
    rw [List.head?_append_of_ne_nil s hne]
    exact fun hs => h (List.mem_of_head? hs)
  rw [splitParameters_last fun _ => hhead, splitParameters_text_append h (by simp)]

/-- A name that is no reference is passed over. -/
theorem splitParameters_name {name rest : Text} (hname : Name.IsName name)
    (h : readParameter? vars (name ++ rest) = none) :
    splitParameters ':' vars last (':' :: (name ++ rest)) =
      (':' :: name).map .char ++ splitParameters ':' vars name.getLast? rest := by
  have hcolon : ':' ∉ name := fun hc =>
    Text.ne_of_isMute (Text.isMute_of_isName hname hc) rfl rfl
  have hne : name ≠ [] := by
    obtain ⟨c, cs, rfl, -⟩ := hname.head
    simp
  rw [splitParameters_char fun _ => h, splitParameters_append_of_ne_nil hcolon hne,
    splitParameters_last fun hl => absurd hl (Parameter.getLast?_ne_colon hname)]
  rfl

@[simp] theorem splitPlaceholders_nil : splitPlaceholders vars [] = [] := by
  rw [splitPlaceholders]
  rfl

theorem splitPlaceholders_reference {cs rest : Text} {mark : Mark} {r : Reference}
    (h : readPlaceholder? vars cs = some (mark, r, rest)) :
    splitPlaceholders vars cs = .placeholder mark r :: splitPlaceholders vars rest := by
  rw [splitPlaceholders]
  split
  · rename_i h'
    obtain ⟨rfl, hr⟩ := Prod.mk.inj (Option.some.inj (h.symm.trans h'))
    obtain ⟨rfl, rfl⟩ := Prod.mk.inj hr
    rfl
  · rename_i h'
    simp [h] at h'

theorem splitPlaceholders_char {c : Char} {t : Text} (h : readPlaceholder? vars (c :: t) = none) :
    splitPlaceholders vars (c :: t) = .char c :: splitPlaceholders vars t := by
  rw [splitPlaceholders]
  split
  · rename_i h'
    simp [h] at h'
  · rfl

theorem splitPlaceholders_text_append {s : Text} (h : '$' ∉ s) (t : Text) :
    splitPlaceholders vars (s ++ t) = s.map .char ++ splitPlaceholders vars t := by
  induction s with
  | nil => rfl
  | cons c s ih =>
    obtain ⟨hc, hs⟩ := not_or.1 (mt List.mem_cons.2 h)
    have hread : readPlaceholder? vars (c :: (s ++ t)) = none := by
      unfold readPlaceholder?
      split
      · rename_i heq
        exact absurd (List.cons.inj heq).1.symm hc
      · rfl
    rw [List.cons_append, splitPlaceholders_char hread, ih hs]
    rfl

theorem splitPlaceholders_of_notMem {t : Text} (h : '$' ∉ t) :
    splitPlaceholders vars t = t.map .char := by
  have happend := @splitPlaceholders_text_append vars t h []
  rwa [splitPlaceholders_nil, List.append_nil, List.append_nil] at happend

end SqlTemplate.Template.Reference
