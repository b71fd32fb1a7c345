import SqlTemplate.Proofs.Calm

/-!
Plain text with other names in its parameters and placeholders.  A name ends where it did, whatever
stands in front of it, and neither a parameter, a placeholder nor a region arises anew: the text is
read piece by piece as what was put into it.
-/
namespace SqlTemplate

namespace Segment

/-- The characters of names open no region. -/
theorem isPlain_name_append {name t : Text} (hname : Name.IsName name) (ht : IsPlain t) :
    IsPlain (name ++ t) := by
  have hchars : ∀ c ∈ name, Name.isPart c ∨ c = '.' := fun _ => hname.mem
  clear hname
  induction name with
  | nil => exact ht
  | cons c name ih =>
    obtain ⟨hc, hname⟩ := List.forall_mem_cons.1 hchars
    refine isPlain_cons ?_ (ih hname)
    have hother : ∀ d, Name.isPart d = false → d ≠ '.' → c ≠ d := by
      rintro d hpart hdot rfl
      rcases hc with hc | hc
      · rw [hc] at hpart
        cases hpart
      · exact hdot hc
    rw [← Option.not_isSome_iff_eq_none, region?_isSome_iff]
    rintro ((h | h) | ⟨s, h⟩ | ⟨s, h⟩ | ⟨d, -, s, h⟩)
    · exact hother _ rfl (by decide) (Option.some.inj h)
    · exact hother _ rfl (by decide) (Option.some.inj h)
    · exact hother _ rfl (by decide) (List.cons.inj h).1.symm
    · exact hother _ rfl (by decide) (List.cons.inj h).1.symm
    · exact hother _ rfl (by decide) (List.cons.inj h).1.symm

/-- A character in front of a name opens no region unless it is a quote. -/
theorem isPlain_parameter {sigil : Char} {name t : Text} (hsigil : sigil ≠ '\x27' ∧ sigil ≠ '\x22')
    (hname : Name.IsName name) (ht : IsPlain t) : IsPlain (sigil :: (name ++ t)) := by
  refine isPlain_cons ?_ (isPlain_name_append hname ht)
  obtain ⟨c, cs, rfl, hc⟩ := hname.head
  have hpart := Name.isPart_of_isStart hc
  have hsecond {d : Char} {s : Text} (h : d :: s = c :: cs ++ t) (hd : Name.isPart d = false) :
      False := by
    obtain ⟨rfl, -⟩ := List.cons.inj h
    rw [hpart] at hd
    cases hd
  rw [← Option.not_isSome_iff_eq_none, region?_isSome_iff]
  rintro ((h | h) | ⟨s, h⟩ | ⟨s, h⟩ | ⟨d, -, s, h⟩)
  · exact hsigil.1 (Option.some.inj h)
  · exact hsigil.2 (Option.some.inj h)
  · exact hsecond (d := '-') (s := s) (List.cons.inj h).2 rfl
  · exact hsecond (d := '*') (s := s) (List.cons.inj h).2 rfl
  · exact hsecond (d := ':') (s := d :: s) (List.cons.inj h).2 rfl

end Segment

namespace Placeholder

variable {f : Placeholder → Option Text} {p : Placeholder} {w t : Text}

/-- What a piece is filled with. -/
def Piece.fill (f : Placeholder → Option Text) : Piece → Text
  | .char c => [c]
  | .placeholder w p => (f p).getD w

theorem fill_eq (f : Placeholder → Option Text) (t : Text) :
    fill f t = (split t).flatMap (Piece.fill f) := by
  rw [fill]
  refine List.flatMap_congr fun piece _ => ?_
  cases piece <;> rfl

theorem fill_written (h : Written p w) (t : Text) :
    fill f (w ++ t) = (f p).getD w ++ fill f t := by
  rw [fill_eq, fill_eq, split_written h]
  rfl

theorem fill_char {c : Char} (h : read? (c :: t) = none) : fill f (c :: t) = c :: fill f t := by
  rw [fill_eq, fill_eq, split_char h]
  rfl

theorem fill_text_append {s : Text} (h : '$' ∉ s) (t : Text) :
    fill f (s ++ t) = s ++ fill f t := by
  rw [fill_eq, fill_eq, split_text_append h, List.flatMap_append, List.flatMap_map]
  simp [Piece.fill]

/-- The placeholders of a plain text. -/
def found (t : Text) : List Placeholder :=
  (split t).filterMap fun
    | .char _ => none
    | .placeholder _ p => some p

@[simp] theorem found_nil : found [] = [] := by
  rw [found, split_nil]
  rfl

theorem found_written (h : Written p w) (t : Text) : found (w ++ t) = p :: found t := by
  rw [found, split_written h]
  rfl

theorem found_char {c : Char} (h : read? (c :: t) = none) : found (c :: t) = found t := by
  rw [found, split_char h]
  rfl

theorem found_text_append {s : Text} (h : '$' ∉ s) (t : Text) : found (s ++ t) = found t := by
  rw [found, split_text_append h, List.filterMap_append, List.filterMap_map]
  simp [found]

theorem placeholders_of_isPlain (h : Segment.IsPlain t) : placeholders t = found t := by
  rw [placeholders, scan, Segment.flatMap_segments (by simp [split_nil]) h,
    List.filterMap_map, found]
  refine List.filterMap_congr fun piece _ => ?_
  cases piece <;> rfl

/-- What is made of a text comes from the text or from what a placeholder is filled with. -/
theorem mem_fill {c : Char} (h : c ∈ fill f t) :
    c ∈ t ∨ ∃ p v, Name.IsName p.name ∧ f p = some v ∧ c ∈ v := by
  induction t using split.induct with
  | case1 t p rest hread _ ih =>
    obtain ⟨w, rfl, hw, -⟩ := read?_change hread
    rw [fill_written hw, List.mem_append] at h
    rcases h with h | h
    · cases hp : f p with
      | none =>
        rw [hp] at h
        exact .inl (List.mem_append_left rest h)
      | some v =>
        rw [hp] at h
        exact .inr ⟨p, v, hw.isName, hp, h⟩
    · exact (ih h).imp_left (List.mem_append_right w)
  | case2 => exact .inl (by rwa [fill_of_notMem _ (by simp)] at h)
  | case3 d rest hread ih =>
    rw [fill_char hread, List.mem_cons] at h
    rcases h with rfl | h
    · exact .inl List.mem_cons_self
    · exact (ih h).imp_left (List.mem_cons_of_mem d)

theorem fill_none (t : Text) : fill (fun _ => none) t = t := by
  induction t using split.induct with
  | case1 t p rest hread _ ih =>
    obtain ⟨w, rfl, hw, -⟩ := read?_change hread
    rw [fill_written hw, ih]
    rfl
  | case2 => exact fill_of_notMem _ (by simp)
  | case3 d rest hread ih => rw [fill_char hread, ih]

theorem fill_singleton (f : Placeholder → Option Text) (c : Char) : fill f [c] = [c] := by
  have hread : read? [c] = none := by
    rw [Option.eq_none_iff_forall_ne_some]
    rintro ⟨p, rest⟩ h
    obtain ⟨w, hw, heq⟩ := exists_written h
    obtain ⟨v, rfl, -⟩ := hw.mem_tail
    cases heq
  rw [fill_char hread, fill_of_notMem _ (by simp)]

theorem fill_of_written (f : Placeholder → Option Text) (h : Written p w) :
    fill f w = (f p).getD w := by
  have hnil := fill_of_notMem f (t := []) (by simp)
  have happend := fill_written (f := f) h []
  rwa [hnil, List.append_nil, List.append_nil] at happend

end Placeholder

namespace Parameter

open Segment (region? IsPlain)

theorem ne_of_isBlank {x : Char} (h : Unicode.isBlank x) : x ≠ ':' ∧ x ≠ '$' := by
  constructor <;> rintro rfl <;> revert h <;> decide

theorem ne_of_mem_name {name : Text} (h : Name.IsName name) {x : Char} (hx : x ∈ name) :
    x ≠ ':' ∧ x ≠ '$' := by
  rcases h.mem hx with hpart | rfl
  · exact ⟨Name.ne_of_isPart hpart rfl, Name.ne_of_isPart hpart rfl⟩
  · decide

theorem dollar_notMem_parameter {name : Text} (h : Name.IsName name) : '$' ∉ ':' :: name := by
  intro hmem
  rcases List.mem_cons.1 hmem with hd | hd
  · cases hd
  · exact (ne_of_mem_name h hd).2 rfl

theorem read?_colon (t : Text) : Placeholder.read? (':' :: t) = none :=
  Placeholder.read?_eq_none (by simp)

/-! ### What becomes of a text -/

/-- `Reworded t u`: in `u` other names stand in parameters and placeholders of `t`. -/
inductive Reworded : Text → Text → Prop
  | nil : Reworded [] []
  | char (c : Char) {t u : Text} (h : Reworded t u) : Reworded (c :: t) (c :: u)
  | parameter {name new t u : Text} (hname : Name.IsName name) (hnew : Name.IsName new)
    (hstops : Name.Stops t) (h : Reworded t u) : Reworded (':' :: (name ++ t)) (':' :: (new ++ u))
  | placeholder {p q : Placeholder} {w v t u : Text} (hw : p.Written w) (hv : q.Written v)
    (h : Reworded t u) : Reworded (w ++ t) (v ++ u)

namespace Reworded

variable {t u : Text}

theorem head? (h : Reworded t u) : u.head? = t.head? := by
  cases h with
  | nil => rfl
  | char c h => rfl
  | parameter hname hnew hstops h => rfl
  | placeholder hw hv h =>
    obtain ⟨x, rfl, -⟩ := hw.mem_tail
    obtain ⟨y, rfl, -⟩ := hv.mem_tail
    rfl

theorem stops (h : Reworded t u) (ht : Name.Stops t) : Name.Stops u := by
  cases h with
  | nil => trivial
  | char c h => exact ⟨ht.1, by rw [h.head?]; exact ht.2⟩
  | parameter hname hnew hstops h => exact ⟨rfl, by rintro ⟨⟩⟩
  | placeholder hw hv h =>
    obtain ⟨y, rfl, -⟩ := hv.mem_tail
    exact ⟨rfl, by rintro ⟨⟩⟩

theorem read?_name_eq_none (h : Reworded t u) (ht : Name.read? t = none) :
    Name.read? u = none := by
  rw [Name.read?_eq_none_iff] at ht ⊢
  rwa [h.head?]

/-- A character that opens neither a parameter nor a placeholder stood there before. -/
theorem exists_of_cons {c : Char} (h : Reworded t (c :: u)) (hc : c ≠ ':' ∧ c ≠ '$') :
    ∃ t', t = c :: t' ∧ Reworded t' u := by
  generalize hx : c :: u = x at h
  cases h with
  | nil => cases hx
  | char d h =>
    obtain ⟨rfl, rfl⟩ := List.cons.inj hx
    exact ⟨_, rfl, h⟩
  | parameter hname hnew hstops h => exact absurd (List.cons.inj hx).1 hc.1
  | placeholder hw hv h =>
    obtain ⟨y, rfl, -⟩ := hv.mem_tail
    exact absurd (List.cons.inj hx).1 hc.2

theorem exists_of_append {s : Text} (h : Reworded t (s ++ u)) (hs : ∀ c ∈ s, c ≠ ':' ∧ c ≠ '$') :
    ∃ t', t = s ++ t' ∧ Reworded t' u := by
  induction s generalizing t with
  | nil => exact ⟨t, rfl, h⟩
  | cons c s ih =>
    obtain ⟨hc, hs⟩ := List.forall_mem_cons.1 hs
    obtain ⟨t', rfl, h'⟩ := h.exists_of_cons hc
    obtain ⟨t'', rfl, h''⟩ := ih h' hs
    exact ⟨t'', rfl, h''⟩

/-- A colon stood there before, with what is behind it or, if a parameter starts there, with
another name behind it. -/
theorem exists_of_colon (h : Reworded t (':' :: u)) :
    (∃ t', t = ':' :: t' ∧ Reworded t' u) ∨
      ∃ name new t' u', t = ':' :: (name ++ t') ∧ u = new ++ u' ∧ Name.IsName name ∧
        Name.IsName new ∧ Name.Stops t' ∧ Reworded t' u' := by
  generalize hx : ':' :: u = x at h
  cases h with
  | nil => cases hx
  | char d h =>
    obtain ⟨rfl, rfl⟩ := List.cons.inj hx
    exact .inl ⟨_, rfl, h⟩
  | parameter hname hnew hstops h =>
    obtain ⟨-, rfl⟩ := List.cons.inj hx
    exact .inr ⟨_, _, _, _, rfl, rfl, hname, hnew, hstops, h⟩
  | placeholder hw hv h =>
    obtain ⟨y, rfl, -⟩ := hv.mem_tail
    cases (List.cons.inj hx).1

/-- No placeholder arises.  One that the new text starts with has at most one other token in it,
the parameter at its mark, and that was a parameter before. -/
theorem read?_eq_none {c : Char} (h : Reworded t u) (ht : Placeholder.read? (c :: t) = none) :
    Placeholder.read? (c :: u) = none := by
  rw [Option.eq_none_iff_forall_ne_some] at ht ⊢
  rintro ⟨p, rest⟩ hread
  obtain ⟨w, hw, hu⟩ := Placeholder.exists_written hread
  -- it is enough to find a placeholder in front of the text that was
  suffices hfront : ∃ p' w' t', Placeholder.Written p' w' ∧ c :: t = w' ++ t' by
    obtain ⟨p', w', t', hw', heq⟩ := hfront
    exact ht (p', t') (heq ▸ hw'.read? t')
  cases hw with
  | @intro mark name a b d hname ha hb hd =>
    simp only [List.cons_append, List.append_assoc, List.nil_append] at hu
    obtain ⟨rfl, rfl⟩ := List.cons.inj hu
    have hplain (m : Text) (hm : ∀ x ∈ m, x ≠ ':' ∧ x ≠ '$') :
        ∀ x ∈ '\x7b' :: (a ++ m), x ≠ ':' ∧ x ≠ '$' := by
      intro x hx
      simp only [List.mem_cons, List.mem_append] at hx
      rcases hx with rfl | hx | hx
      · decide
      · exact ne_of_isBlank (ha x hx)
      · exact hm x hx
    have hbehind : ∀ x ∈ b ++ (name ++ (d ++ ['\x7d'])), x ≠ ':' ∧ x ≠ '$' := by
      intro x hx
      simp only [List.mem_append, List.mem_singleton] at hx
      rcases hx with hx | hx | hx | rfl
      · exact ne_of_isBlank (hb x hx)
      · exact ne_of_mem_name hname hx
      · exact ne_of_isBlank (hd x hx)
      · decide
    have hall (m : Mark) (hm : ∀ x ∈ m.text, x ≠ ':' ∧ x ≠ '$')
        (h : Reworded t ('\x7b' :: (a ++ (m.text ++ (b ++ (name ++ (d ++ '\x7d' :: rest))))))) :
        ∃ p' w' t', Placeholder.Written p' w' ∧ '$' :: t = w' ++ t' := by
      have hsplit : '\x7b' :: (a ++ (m.text ++ (b ++ (name ++ (d ++ '\x7d' :: rest))))) =
          ('\x7b' :: (a ++ (m.text ++ (b ++ (name ++ (d ++ ['\x7d'])))))) ++ rest := by simp
      rw [hsplit] at h
      obtain ⟨t', rfl, -⟩ := h.exists_of_append <| hplain _ fun x hx =>
        (List.mem_append.1 hx).elim (hm x) (hbehind x)
      exact ⟨_, _, t', .intro m hname ha hb hd, rfl⟩
    cases mark with
    | bare => exact hall .bare (by simp [Mark.text]) h
    | exclamation => exact hall .exclamation (by simp [Mark.text]) h
    | colon =>
      have hsplit : '\x7b' :: (a ++ (Mark.colon.text ++ (b ++ (name ++ (d ++ '\x7d' :: rest))))) =
          ('\x7b' :: (a ++ [])) ++ ':' :: (b ++ (name ++ (d ++ '\x7d' :: rest))) := by
        simp [Mark.text]
      rw [hsplit] at h
      obtain ⟨t₁, rfl, h₁⟩ := h.exists_of_append (hplain [] (by simp))
      obtain ⟨t₂, rfl, h₂⟩ | ⟨old, new, t₂, u₂, rfl, hnew, hold, hnewName, hstops, h₂⟩ :=
        h₁.exists_of_colon
      · have hsplit : b ++ (name ++ (d ++ '\x7d' :: rest)) =
            (b ++ (name ++ (d ++ ['\x7d']))) ++ rest := by simp
        rw [hsplit] at h₂
        obtain ⟨t₃, rfl, -⟩ := h₂.exists_of_append hbehind
        exact ⟨_, _, t₃, .intro .colon hname ha hb hd, by simp [Mark.text]⟩
      · have hwhole := Name.read?_of_isName hnewName (h₂.stops hstops)
        cases b with
        | cons x b =>
          obtain ⟨e, es, rfl, he⟩ := hnewName.head
          obtain ⟨rfl, -⟩ := List.cons.inj hnew
          have hblank := hb x List.mem_cons_self
          rw [Name.isBlank_of_isStart he] at hblank
          cases hblank
        | nil =>
          rw [← hnew, List.nil_append,
            Name.read?_of_isName hname (Placeholder.stops_blanks hd rest)] at hwhole
          obtain ⟨rfl, rfl⟩ := Prod.mk.inj (Option.some.inj hwhole)
          have hsplit : d ++ '\x7d' :: rest = (d ++ ['\x7d']) ++ rest := by simp
          rw [hsplit] at h₂
          obtain ⟨t₃, rfl, -⟩ := h₂.exists_of_append fun x hx => hbehind x (by
            rw [List.nil_append]
            exact List.mem_append_right name hx)
          exact ⟨_, _, t₃, .intro .colon hold ha hb hd, by simp [Mark.text]⟩

/-! ### Regions -/

theorem region?_cons_eq_none {c : Char} (h : Reworded t u) (ht : region? (c :: t) = none) :
    region? (c :: u) = none := by
  rw [← Option.not_isSome_iff_eq_none, Segment.region?_isSome_iff] at ht ⊢
  refine mt (fun hopen => ?_) ht
  have hsecond {x : Char} {v : Text} (hv : u = x :: v) : ∃ v', t = x :: v' := by
    have hhead := h.head?
    rw [hv] at hhead
    exact ⟨_, List.eq_cons_of_mem_head? hhead.symm⟩
  rcases hopen with hq | ⟨s, hs⟩ | ⟨s, hs⟩ | ⟨d, hd, s, hs⟩
  · exact .inl hq
  · obtain ⟨rfl, hu⟩ := List.cons.inj hs
    obtain ⟨v, rfl⟩ := hsecond (x := '-') (v := s) hu.symm
    exact .inr (.inl ⟨v, rfl⟩)
  · obtain ⟨rfl, hu⟩ := List.cons.inj hs
    obtain ⟨v, rfl⟩ := hsecond (x := '*') (v := s) hu.symm
    exact .inr (.inr (.inl ⟨v, rfl⟩))
  · -- the name of a cast was there before, or it is the new name of a parameter
    obtain ⟨rfl, hu⟩ := List.cons.inj hs
    obtain rfl : ':' :: (d :: s) = u := hu
    obtain ⟨t₁, rfl, h₁⟩ | ⟨old, new, t₁, u₁, rfl, -, hold, -⟩ := h.exists_of_colon
    · have hne : d ≠ ':' ∧ d ≠ '$' :=
        ⟨Name.ne_of_isPart (Name.isPart_of_isStart hd) rfl,
          Name.ne_of_isPart (Name.isPart_of_isStart hd) rfl⟩
      obtain ⟨t₂, rfl, -⟩ := h₁.exists_of_cons hne
      exact .inr (.inr (.inr ⟨d, hd, t₂, rfl⟩))
    · obtain ⟨e, es, rfl, he⟩ := hold.head
      exact .inr (.inr (.inr ⟨e, he, es ++ t₁, rfl⟩))

/-- Plain text stays plain. -/
theorem isPlain (h : Reworded t u) (ht : IsPlain t) : IsPlain u := by
  induction h with
  | nil => exact ht
  | @char c t u h ih =>
    exact Segment.isPlain_cons (h.region?_cons_eq_none (ht _ List.suffix_rfl))
      (ih (ht.suffix (List.suffix_cons c t)))
  | @parameter name new t u hname hnew hstops h ih =>
    exact Segment.isPlain_parameter (by decide) hnew (ih (ht.suffix ⟨':' :: name, rfl⟩))
  | @placeholder p q w v t u hw hv h ih =>
    intro x hx
    rcases Text.suffix_append_cases hx with hx | ⟨y, hy, hne, rfl⟩
    · exact ih (ht.suffix (List.suffix_append w t)) x hx
    · exact hv.region?_eq_none hy hne u

/-- Calm text stays calm. -/
theorem calm (h : Reworded t u) (ht : Text.Calm t) : Text.Calm u := by
  induction h with
  | nil => exact ht
  | char c h ih => exact ht.cons (ih ht.tail) h.head?
  | @parameter name new t u hname hnew hstops h ih =>
    exact (ih (ht.suffix ⟨':' :: name, rfl⟩)).parameter hnew
  | placeholder hw hv h ih =>
    obtain ⟨x, rfl, -⟩ := hw.mem_tail
    exact absurd List.mem_cons_self ht.dollar_notMem

end Reworded

/-! ### Rewording -/

/-- Other names for parameters, and other placeholders, written in some way, for placeholders. -/
structure Rewording where
  name : Text → Text
  placeholder : Placeholder → Placeholder
  written : Placeholder → Option Text
  isName : ∀ n, Name.IsName n → Name.IsName (name n)
  changed : ∀ p v, Name.IsName p.name → written p = some v → (placeholder p).Written v
  kept : ∀ p, written p = none → placeholder p = p

namespace Rewording

variable (ρ : Rewording) {last last' : Option Char} {t : Text}

def piece : Piece → Piece
  | .text t => .text (Placeholder.fill ρ.written t)
  | .parameter n => .parameter (ρ.name n)

/-- A plain text with the other names and placeholders. -/
def text (last : Option Char) (t : Text) : Text :=
  ((splitPlain ':' last t).map ρ.piece).flatMap (Piece.source ':')

theorem written_getD {p : Placeholder} {w : Text} (hw : p.Written w) :
    (ρ.placeholder p).Written ((ρ.written p).getD w) := by
  cases hwritten : ρ.written p with
  | none =>
    rw [ρ.kept p hwritten]
    exact hw
  | some v => exact ρ.changed p v hw.isName hwritten

@[simp] theorem text_nil : ρ.text last [] = [] := by rw [text, splitPlain_nil]; rfl

theorem text_written {p : Placeholder} {w : Text} (hw : p.Written w) (t : Text) :
    ρ.text last (w ++ t) = (ρ.written p).getD w ++ ρ.text (some '}') t := by
  rw [text, splitPlain_written hw, List.map_cons, List.flatMap_cons, piece,
    Placeholder.fill_of_written _ hw]
  rfl

theorem text_name {name : Text} (hname : Name.read? (name ++ t) = some (name, t)) :
    ρ.text last (':' :: (name ++ t)) =
      ':' :: ((if last = some ':' then name else ρ.name name) ++ ρ.text name.getLast? t) := by
  rw [text, splitPlain_name (read?_colon _) hname, List.map_cons, List.flatMap_cons]
  by_cases hlast : last = some ':'
  · rw [if_pos hlast, if_pos hlast, piece,
      Placeholder.fill_of_notMem _ (dollar_notMem_parameter (Name.read?_spec hname).1)]
    rfl
  · rw [if_neg hlast, if_neg hlast]
    rfl

theorem text_char {c : Char} (hread : Placeholder.read? (c :: t) = none)
    (hname : c = ':' → Name.read? t = none) :
    ρ.text last (c :: t) = c :: ρ.text (some c) t := by
  rw [text, splitPlain_char hread hname, List.map_cons, List.flatMap_cons, piece,
    Placeholder.fill_singleton]
  rfl

theorem reworded_text (last : Option Char) (t : Text) : Reworded t (ρ.text last t) := by
  induction last, t using splitPlain.induct ':' with
  | case1 last t p rest h _ ih =>
    obtain ⟨w, rfl, hw, -⟩ := Placeholder.read?_change h
    rw [ρ.text_written hw]
    exact ih.placeholder hw (ρ.written_getD hw)
  | case2 last =>
    rw [text_nil]
    exact .nil
  | case3 last rest name rest' hname _ h ih =>
    obtain ⟨rfl, -⟩ := Name.read?_append hname
    obtain ⟨hisname, hstops⟩ := Name.read?_spec hname
    rw [ρ.text_name hname]
    by_cases hlast : last = some ':'
    · rw [if_pos hlast]
      exact ih.parameter hisname hisname hstops
    · rw [if_neg hlast]
      exact ih.parameter hisname (ρ.isName name hisname) hstops
  | case4 last rest hname h ih =>
    rw [ρ.text_char h fun _ => hname]
    exact ih.char ':'
  | case5 last c rest h hc ih =>
    rw [ρ.text_char h fun h => absurd h hc]
    exact ih.char c

theorem isPlain_text (h : IsPlain t) (last : Option Char) : IsPlain (ρ.text last t) :=
  (ρ.reworded_text last t).isPlain h

/-- What has been put in is what is read. -/
theorem splitPlain_text (t : Text) (hlast : last = some ':' ↔ last' = some ':') :
    splitPlain ':' last' (ρ.text last t) = (splitPlain ':' last t).map ρ.piece := by
  induction last, t using splitPlain.induct ':' generalizing last' with
  | case1 last t p rest h _ ih =>
    obtain ⟨w, rfl, hw, -⟩ := Placeholder.read?_change h
    rw [ρ.text_written hw, splitPlain_written (ρ.written_getD hw), splitPlain_written hw, ih .rfl,
      List.map_cons, piece, Placeholder.fill_of_written _ hw]
  | case2 last => rw [text_nil, splitPlain_nil, splitPlain_nil, List.map_nil]
  | case3 last rest name rest' hname _ h ih =>
    obtain ⟨rfl, -⟩ := Name.read?_append hname
    obtain ⟨hisname, hstops⟩ := Name.read?_spec hname
    have hstops' := (ρ.reworded_text name.getLast? rest').stops hstops
    rw [ρ.text_name hname, splitPlain_name h hname, List.map_cons]
    by_cases hescape : last = some ':'
    · rw [if_pos hescape, if_pos hescape,
        splitPlain_name (read?_colon _) (Name.read?_of_isName hisname hstops'),
        if_pos (hlast.1 hescape), ih .rfl, piece,
        Placeholder.fill_of_notMem _ (dollar_notMem_parameter hisname)]
    · have hnew := ρ.isName name hisname
      rw [if_neg hescape, if_neg hescape,
        splitPlain_name (read?_colon _) (Name.read?_of_isName hnew hstops'),
        if_neg (mt hlast.2 hescape), ih, piece]
      exact iff_of_false (getLast?_ne_colon hisname) (getLast?_ne_colon hnew)
  | case4 last rest hname h ih =>
    have hreworded := ρ.reworded_text (some ':') rest
    rw [ρ.text_char h fun _ => hname, splitPlain_char (hreworded.read?_eq_none h) fun _ =>
      hreworded.read?_name_eq_none hname, ih .rfl, splitPlain_char h fun _ => hname,
      List.map_cons, piece, Placeholder.fill_singleton]
  | case5 last c rest h hc ih =>
    have hreworded := ρ.reworded_text (some c) rest
    rw [ρ.text_char h fun h => absurd h hc, splitPlain_char (hreworded.read?_eq_none h) fun h =>
      absurd h hc, ih .rfl, splitPlain_char h fun h => absurd h hc, List.map_cons, piece,
      Placeholder.fill_singleton]

/-- So it is with the placeholders. -/
theorem found_text (last : Option Char) (t : Text) :
    Placeholder.found (ρ.text last t) = (Placeholder.found t).map ρ.placeholder := by
  induction last, t using splitPlain.induct ':' with
  | case1 last t p rest h _ ih =>
    obtain ⟨w, rfl, hw, -⟩ := Placeholder.read?_change h
    rw [ρ.text_written hw, Placeholder.found_written (ρ.written_getD hw), ih,
      Placeholder.found_written hw, List.map_cons]
  | case2 last => rw [text_nil, Placeholder.found_nil, List.map_nil]
  | case3 last rest name rest' hname _ h ih =>
    obtain ⟨rfl, -⟩ := Name.read?_append hname
    have hisname := (Name.read?_spec hname).1
    have hnew : Name.IsName (if last = some ':' then name else ρ.name name) := by
      split
      · exact hisname
      · exact ρ.isName name hisname
    rw [ρ.text_name hname, ← List.cons_append, ← List.cons_append,
      Placeholder.found_text_append (dollar_notMem_parameter hnew), ih,
      Placeholder.found_text_append (dollar_notMem_parameter hisname)]
  | case4 last rest hname h ih =>
    rw [ρ.text_char h fun _ => hname,
      Placeholder.found_char ((ρ.reworded_text _ rest).read?_eq_none h), ih,
      Placeholder.found_char h]
  | case5 last c rest h hc ih =>
    rw [ρ.text_char h fun h => absurd h hc,
      Placeholder.found_char ((ρ.reworded_text _ rest).read?_eq_none h), ih,
      Placeholder.found_char h]

/-- The same for placeholders only. -/
def onPlaceholders : Rewording := { ρ with name := id, isName := fun _ h => h }

/-- The same for parameters only. -/
def onParameters : Rewording :=
  { ρ with
    placeholder := id
    written := fun _ => none
    changed := fun _ _ _ h => by cases h
    kept := fun _ _ => rfl }

/-- For placeholders, rewording is filling in. -/
theorem text_onPlaceholders (last : Option Char) (t : Text) :
    ρ.onPlaceholders.text last t = Placeholder.fill ρ.written t := by
  induction last, t using splitPlain.induct ':' with
  | case1 last t p rest h _ ih =>
    obtain ⟨w, rfl, hw, -⟩ := Placeholder.read?_change h
    rw [text_written _ hw, ih, Placeholder.fill_written hw]
    rfl
  | case2 last => rw [text_nil, Placeholder.fill_of_notMem _ (by simp)]
  | case3 last rest name rest' hread _ h ih =>
    obtain ⟨rfl, -⟩ := Name.read?_append hread
    have hname : ρ.onPlaceholders.name name = name := rfl
    rw [text_name _ hread, hname, ite_self, ih, ← List.cons_append, ← List.cons_append,
      Placeholder.fill_text_append (dollar_notMem_parameter (Name.read?_spec hread).1)]
  | case4 last rest hread h ih => rw [text_char _ h fun _ => hread, ih, Placeholder.fill_char h]
  | case5 last c rest h hc ih =>
    rw [text_char _ h fun h => absurd h hc, ih, Placeholder.fill_char h]

/-- First the placeholders and then the parameters is both at once. -/
theorem text_onParameters (last : Option Char) (t : Text) :
    ρ.onParameters.text last (ρ.onPlaceholders.text last t) = ρ.text last t := by
  rw [text, ρ.onPlaceholders.splitPlain_text t .rfl, List.map_map, text]
  congr 1
  refine List.map_congr_left fun p _ => ?_
  cases p with
  | parameter n => rfl
  | text s => exact congrArg Piece.text (Placeholder.fill_none _)

/-- The parameters of the new text are those of the old one under their new names. -/
theorem names_text (h : IsPlain t) :
    names ':' (ρ.text none t) = (names ':' t).map ρ.name := by
  rw [names, names, split_of_isPlain (ρ.isPlain_text h none), split_of_isPlain h,
    ρ.splitPlain_text t .rfl, List.filterMap_map, List.map_filterMap]
  refine List.filterMap_congr fun p _ => ?_
  cases p <;> rfl

theorem placeholders_text (h : IsPlain t) :
    Placeholder.placeholders (ρ.text none t) =
      (Placeholder.placeholders t).map ρ.placeholder := by
  rw [Placeholder.placeholders_of_isPlain (ρ.isPlain_text h none),
    Placeholder.placeholders_of_isPlain h, ρ.found_text]

end Rewording

end Parameter

end SqlTemplate
