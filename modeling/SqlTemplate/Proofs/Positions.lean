import Mathlib
import SqlTemplate.Proofs.Dict
import SqlTemplate.Proofs.Placeholder
import SqlTemplate.Proofs.Weave

/-!
Where the parameters of SQL text stand, said of the text alone: which sigils introduce one is decided
by the plain text around them, and each of those is found once, in its order.
-/
namespace SqlTemplate

namespace Parameter

/-! What is read in front of a place may run on behind it. -/

/-- Something that is read in the text in front ends in the text behind. -/
def Straddled (read? : Text → Option Text) (front behind : Text) : Prop :=
  ∃ v rest, v <:+ front ∧ v ≠ [] ∧ read? (v ++ behind) = some rest ∧ rest.length < behind.length

/-- What follows the placeholder that a text starts with. -/
def placeholderEnd? (cs : Text) : Option Text := (Placeholder.read? cs).map (·.2)

/-- What follows the token that a text starts with: a sigil and the longest name behind it. -/
def tokenEnd? (sigil : Char) : Text → Option Text
  | [] => none
  | c :: cs => if c = sigil then (Name.read? cs).map (·.2) else none

/-- A sigil between `a` and `b`, with the name directly behind it, introduces a parameter: no sigil
stands in front of it, and it stands neither in a placeholder nor in a token. -/
structure Introduces (sigil : Char) (a name b : Text) : Prop where
  longest : Name.read? (name ++ b) = some (name, b)
  single : a.getLast? ≠ some sigil
  outside : ¬Straddled placeholderEnd? a (sigil :: (name ++ b))
  first : ¬Straddled (tokenEnd? sigil) a (sigil :: (name ++ b))

variable {sigil : Char} {name a front w rest : Text} {read? : Text → Option Text}

theorem not_straddled_nil (behind : Text) : ¬Straddled read? [] behind := by
  rintro ⟨v, r, hv, hne, -⟩
  exact hne (List.suffix_nil.1 hv)

/-- Behind two texts nothing runs on, if nothing does behind the first one and nothing read in the
second one does. -/
theorem not_straddled_append (h : ¬Straddled read? front (w ++ rest))
    (hw : ¬Straddled read? w rest) : ¬Straddled read? (front ++ w) rest := by
  rintro ⟨v, r, ⟨u, hfront⟩, hne, hread, hlt⟩
  rcases List.append_eq_append_iff.1 hfront with ⟨x, rfl, rfl⟩ | ⟨x, -, rfl⟩
  · by_cases hx : x = []
    · exact hw ⟨w, r, List.suffix_refl w, by simpa [hx] using hne, by simpa [hx] using hread, hlt⟩
    · refine h ⟨x, r, List.suffix_append u x, hx, by simpa using hread, ?_⟩
      rw [List.length_append]
      omega
  · exact hw ⟨v, r, List.suffix_append x v, hne, hread, hlt⟩

theorem tokenEnd?_eq_some {cs : Text} (h : tokenEnd? sigil cs = some rest) :
    ∃ name, cs = sigil :: (name ++ rest) ∧ Name.IsName name := by
  cases cs with
  | nil => cases h
  | cons c cs =>
    rw [tokenEnd?] at h
    split at h
    · rename_i hc
      subst hc
      cases hread : Name.read? cs with
      | none => simp [hread] at h
      | some found =>
        obtain ⟨name, r⟩ := found
        obtain rfl : r = rest := by simpa [hread] using h
        exact ⟨name, by rw [(Name.read?_append hread).1], (Name.read?_spec hread).1⟩
    · cases h

/-- A token that runs on starts with its sigil, and its name goes on behind. -/
theorem Straddled.token (h : Straddled (tokenEnd? sigil) front rest) :
    ∃ x y r, sigil :: x <:+ front ∧ rest = y ++ r ∧ y ≠ [] ∧ Name.IsName (x ++ y) := by
  obtain ⟨v, r, hv, hne, hread, hlt⟩ := h
  obtain ⟨name, hcs, hname⟩ := tokenEnd?_eq_some hread
  cases v with
  | nil => exact absurd rfl hne
  | cons c x =>
    obtain ⟨rfl, htail⟩ := List.cons.inj hcs
    rcases List.append_eq_append_iff.1 htail with ⟨y, rfl, hrest⟩ | ⟨y, rfl, rfl⟩
    · refine ⟨x, y, r, hv, hrest, ?_, hname⟩
      rintro rfl
      obtain rfl : rest = r := hrest
      omega
    · rw [List.length_append] at hlt
      omega

/-- A placeholder that runs on starts with its dollar sign in front, and ends with its brace
behind. -/
theorem Straddled.placeholder (h : Straddled placeholderEnd? front rest) :
    ∃ p x y r, '$' :: x <:+ front ∧ rest = y ++ r ∧ '\x7d' ∈ y ∧
      Placeholder.Written p ('$' :: (x ++ y)) := by
  obtain ⟨v, r, hv, hne, hread, hlt⟩ := h
  obtain ⟨⟨p, r'⟩, hsome, rfl⟩ := Option.map_eq_some_iff.1 hread
  obtain ⟨w, hw, hwritten, -⟩ := Placeholder.read?_change hsome
  obtain ⟨y, rfl, rfl⟩ := Text.exists_of_append_eq hw (Nat.le_of_lt hlt)
  obtain ⟨c, x, rfl⟩ := List.exists_cons_of_ne_nil hne
  have hy : y ≠ [] := by
    rintro rfl
    simp at hlt
  have hlast := hwritten.getLast?
  rw [List.getLast?_append_of_ne_nil _ hy] at hlast
  obtain ⟨t, ht, -⟩ := hwritten.mem_tail
  obtain ⟨rfl, -⟩ := List.cons.inj ht
  exact ⟨p, x, y, r', hv, rfl, List.mem_of_getLast? hlast, hwritten⟩

/-- Only a dot can be a sigil and stand in a token. -/
theorem not_straddled_token (hsigil : Name.isPart sigil = false) (hdot : sigil ≠ '.') (cs : Text) :
    ¬Straddled (tokenEnd? sigil) front (sigil :: cs) := by
  intro h
  obtain ⟨x, y, r, -, hrest, hy, hname⟩ := h.token
  cases y with
  | nil => exact hy rfl
  | cons c y =>
    obtain ⟨rfl, -⟩ := List.cons.inj hrest
    rcases hname.mem (List.mem_append_right x List.mem_cons_self) with hpart | hc
    · rw [hsigil] at hpart
      cases hpart
    · exact hdot hc

/-! The pieces that a plain text is split into do not run on. -/

theorem placeholderEnd?_eq_none {c : Char} {cs : Text} (hc : c ≠ '$') :
    placeholderEnd? (c :: cs) = none := by
  rw [placeholderEnd?, Placeholder.read?_eq_none (by simpa using hc)]
  rfl

/-- Without a dollar sign, no placeholder starts behind the first character. -/
theorem not_straddled_placeholder {c : Char} (hw : '$' ∉ w)
    (hc : ∀ r, placeholderEnd? (c :: (w ++ rest)) = some r → rest.length ≤ r.length) :
    ¬Straddled placeholderEnd? (c :: w) rest := by
  rintro ⟨v, r, hv, hne, hread, hlt⟩
  rcases List.suffix_cons_iff.1 hv with rfl | hv
  · have := hc r hread
    omega
  · cases v with
    | nil => exact hne rfl
    | cons d v =>
      have hd : d ≠ '$' := by
        rintro rfl
        exact hw (hv.subset List.mem_cons_self)
      rw [List.cons_append, placeholderEnd?_eq_none hd] at hread
      cases hread

theorem not_straddled_placeholder_of_none {c : Char} (hw : '$' ∉ w)
    (h : Placeholder.read? (c :: (w ++ rest)) = none) :
    ¬Straddled placeholderEnd? (c :: w) rest :=
  not_straddled_placeholder hw fun r hr => by simp [placeholderEnd?, h] at hr

theorem not_straddled_placeholder_of_written {p : Placeholder} (hw : Placeholder.Written p w) :
    ¬Straddled placeholderEnd? w rest := by
  obtain ⟨t, rfl, ht⟩ := hw.mem_tail
  refine not_straddled_placeholder (fun hmem => ?_) fun r hr => ?_
  · rcases List.mem_cons.1 hmem with hbrace | hmem
    · cases hbrace
    · exact (ht '$' hmem).1 rfl
  · rw [← List.cons_append, placeholderEnd?, hw.read?] at hr
    exact Nat.le_of_eq (congrArg List.length (Option.some.inj hr))

/-- No token runs on where names stop. -/
theorem not_straddled_token_of_stops (hstops : Name.Stops rest) :
    ¬Straddled (tokenEnd? sigil) w rest := by
  intro h
  obtain ⟨x, y, r, -, rfl, hy, hname⟩ := h.token
  exact hy (hname.eq_nil_of_stops hstops)

/-- No token runs on behind the brace that a placeholder ends with. -/
theorem not_straddled_token_of_written {p : Placeholder} (hw : Placeholder.Written p w)
    (hbrace : sigil ≠ '}') : ¬Straddled (tokenEnd? sigil) w rest := by
  intro h
  obtain ⟨x, y, r, ⟨u, rfl⟩, -, -, hname⟩ := h.token
  have hlast : (sigil :: x).getLast? = some '}' := by
    rw [← hw.getLast?, List.getLast?_append_of_ne_nil _ (by simp)]
  have hmem := (List.mem_cons.1 (List.mem_of_getLast? hlast)).resolve_left hbrace.symm
  rcases hname.mem (List.mem_append_left y hmem) with hpart | hdot
  · cases hpart
  · cases hdot

theorem not_straddled_token_of_none {c : Char} (hc : c = sigil → Name.read? rest = none) :
    ¬Straddled (tokenEnd? sigil) [c] rest := by
  rintro ⟨v, r, hv, hne, hread, -⟩
  obtain rfl : v = [c] := by
    rcases List.suffix_cons_iff.1 hv with rfl | hnil
    · rfl
    · exact absurd (List.suffix_nil.1 hnil) hne
  rw [List.singleton_append, tokenEnd?] at hread
  split at hread
  · rename_i hsigil
    simp [hc hsigil] at hread
  · cases hread

/-- Nothing that is read in the text in front ends in the text behind.  Tokens count where they can
hold a sigil. -/
structure Boundary (sigil : Char) (front behind : Text) : Prop where
  placeholder : ¬Straddled placeholderEnd? front behind
  token : sigil = '.' → ¬Straddled (tokenEnd? sigil) front behind

theorem boundary_nil (sigil : Char) (behind : Text) : Boundary sigil [] behind :=
  ⟨not_straddled_nil behind, fun _ => not_straddled_nil behind⟩

theorem Boundary.append_written {p : Placeholder} (h : Boundary sigil front (w ++ rest))
    (hw : Placeholder.Written p w) : Boundary sigil (front ++ w) rest where
  placeholder := not_straddled_append h.placeholder (not_straddled_placeholder_of_written hw)
  token hdot := not_straddled_append (h.token hdot)
    (not_straddled_token_of_written hw (by rw [hdot]; decide))

theorem Boundary.append_token (h : Boundary sigil front (sigil :: (name ++ rest)))
    (hnone : Placeholder.read? (sigil :: (name ++ rest)) = none) (hname : Name.IsName name)
    (hstops : Name.Stops rest) : Boundary sigil (front ++ sigil :: name) rest where
  placeholder := by
    refine not_straddled_append h.placeholder
      (not_straddled_placeholder_of_none (fun hmem => ?_) hnone)
    rcases hname.mem hmem with hpart | hdot
    · cases hpart
    · cases hdot
  token hdot := not_straddled_append (h.token hdot) (not_straddled_token_of_stops hstops)

theorem Boundary.append_char {c : Char} (h : Boundary sigil front (c :: rest))
    (hnone : Placeholder.read? (c :: rest) = none) (hname : c = sigil → Name.read? rest = none) :
    Boundary sigil (front ++ [c]) rest where
  placeholder := not_straddled_append (w := [c]) h.placeholder
    (not_straddled_placeholder_of_none (by simp) hnone)
  token hdot := not_straddled_append (w := [c]) (h.token hdot) (not_straddled_token_of_none hname)

/-! The parameters among the pieces are those that the text introduces. -/

/-- `Behind sigil name a ps`: the pieces have the parameter `name` directly behind the text `a`. -/
inductive Behind (sigil : Char) (name : Text) : Text → List Piece → Prop
  | here (ps : List Piece) : Behind sigil name [] (.parameter name :: ps)
  | there (p : Piece) {a : Text} {ps : List Piece} (h : Behind sigil name a ps) :
    Behind sigil name (p.source sigil ++ a) (p :: ps)

variable {ps qs : List Piece}

theorem not_behind_nil : ¬Behind sigil name a [] := by
  intro h
  cases h

theorem behind_text : Behind sigil name a (.text w :: ps) ↔
    ∃ a', a = w ++ a' ∧ Behind sigil name a' ps := by
  constructor
  · intro h
    cases h with
    | there _ h => exact ⟨_, rfl, h⟩
  · rintro ⟨a', rfl, h⟩
    exact h.there (.text w)

theorem behind_parameter {found : Text} : Behind sigil name a (.parameter found :: ps) ↔
    found = name ∧ a = [] ∨ ∃ a', a = sigil :: (found ++ a') ∧ Behind sigil name a' ps := by
  constructor
  · intro h
    cases h with
    | here => exact Or.inl ⟨rfl, rfl⟩
    | there _ h => exact Or.inr ⟨_, rfl, h⟩
  · rintro (⟨rfl, rfl⟩ | ⟨a', rfl, h⟩)
    · exact .here ps
    · exact h.there (.parameter found)

theorem behind_append : Behind sigil name a (ps ++ qs) ↔
    Behind sigil name a ps ∨
      ∃ a', a = ps.flatMap (Piece.source sigil) ++ a' ∧ Behind sigil name a' qs := by
  induction ps generalizing a with
  | nil => simp [not_behind_nil]
  | cons p ps ih =>
    constructor
    · intro h
      cases h with
      | here => exact Or.inl (.here ps)
      | there _ h =>
        rcases ih.1 h with hps | ⟨a', rfl, hqs⟩
        · exact Or.inl (hps.there p)
        · exact Or.inr ⟨a', by simp, hqs⟩
    · rintro (h | ⟨a', rfl, h⟩)
      · cases h with
        | here => exact .here _
        | there _ h => exact (ih.2 (Or.inl h)).there p
      · rw [List.flatMap_cons, List.append_assoc]
        exact (ih.2 (Or.inr ⟨a', rfl, h⟩)).there p

/-- `cs` goes on with `a` and with a sigil that introduces `name`; `front` is in front of it. -/
def Continues (sigil : Char) (name front a cs : Text) : Prop :=
  ∃ b, cs = a ++ sigil :: (name ++ b) ∧ Introduces sigil (front ++ a) name b

/-- A text in which no sigil introduces anything can be left out. -/
theorem continues_append (hskip : ∀ b, w ++ rest = a ++ sigil :: (name ++ b) →
      Introduces sigil (front ++ a) name b → w.length ≤ a.length) :
    Continues sigil name front a (w ++ rest) ↔
      ∃ a', a = w ++ a' ∧ Continues sigil name (front ++ w) a' rest := by
  constructor
  · rintro ⟨b, heq, h⟩
    have hlength := hskip b heq h
    rcases List.append_eq_append_iff.1 heq with ⟨a', rfl, hrest⟩ | ⟨x, rfl, hx⟩
    · exact ⟨a', rfl, b, hrest, by rwa [List.append_assoc]⟩
    · obtain rfl : x = [] := by
        rw [List.length_append] at hlength
        exact List.eq_nil_of_length_eq_zero (by omega)
      exact ⟨[], by simp, b, by simpa using hx.symm, by simpa using h⟩
  · rintro ⟨a', rfl, b, rfl, h⟩
    exact ⟨b, by simp, by rwa [List.append_assoc] at h⟩

/-- A sigil inside a placeholder introduces nothing. -/
theorem length_le_of_written {p : Placeholder} {b : Text} (hw : Placeholder.Written p w)
    (heq : w ++ rest = a ++ sigil :: (name ++ b)) (h : Introduces sigil (front ++ a) name b) :
    w.length ≤ a.length := by
  by_contra hlt
  have hread := hw.read? rest
  cases a with
  | nil =>
    -- a brace stands behind the dollar sign, and no name starts with one
    obtain ⟨t, rfl, -⟩ := hw.mem_tail
    obtain ⟨c, cs, rfl, hc⟩ := (Name.read?_spec h.longest).1.head
    obtain ⟨-, htail⟩ := List.cons.inj heq
    obtain ⟨rfl, -⟩ := List.cons.inj htail
    cases hc
  | cons c a =>
    refine h.outside ⟨c :: a, rest, List.suffix_append front _, by simp, ?_, ?_⟩
    · rw [placeholderEnd?, ← heq, hread]
      rfl
    · have hlength := congrArg List.length heq
      simp only [List.length_append] at hlength
      omega

/-- A sigil inside a token introduces nothing. -/
theorem length_le_of_token {found b : Text} (hread : Name.read? (found ++ rest) = some (found, rest))
    (heq : sigil :: found ++ rest = a ++ sigil :: (name ++ b))
    (h : Introduces sigil (front ++ a) name b) (hne : a ≠ []) :
    (sigil :: found).length ≤ a.length := by
  by_contra hlt
  refine h.first ⟨a, rest, List.suffix_append front a, hne, ?_, ?_⟩
  · rw [← heq, List.cons_append, tokenEnd?, if_pos rfl, hread]
    rfl
  · have hlength := congrArg List.length heq
    simp only [List.length_append] at hlength
    omega

theorem continues_cons {c : Char} (hname : c = sigil → Name.read? rest = none) :
    Continues sigil name front a (c :: rest) ↔
      ∃ a', a = c :: a' ∧ Continues sigil name (front ++ [c]) a' rest := by
  refine continues_append (w := [c]) fun b heq h => ?_
  cases a with
  | nil =>
    obtain ⟨rfl, rfl⟩ := List.cons.inj heq
    have hread := h.longest
    rw [hname rfl] at hread
    cases hread
  | cons d a => simp

/-- A sigil behind another one introduces nothing, and nothing in its token does. -/
theorem continues_escaped {found : Text} (hfound : Name.read? (found ++ rest) = some (found, rest))
    (hlast : front.getLast? = some sigil) :
    Continues sigil name front a (sigil :: (found ++ rest)) ↔
      ∃ a', a = sigil :: found ++ a' ∧ Continues sigil name (front ++ sigil :: found) a' rest := by
  refine continues_append (w := sigil :: found) fun b heq h => ?_
  by_cases hne : a = []
  · subst hne
    exact absurd (by simpa using hlast) h.single
  · exact length_le_of_token hfound heq h hne

/-- A sigil at a boundary introduces the name behind it, and nothing else in its token does. -/
theorem continues_name (hsigil : Name.isPart sigil = false) {found : Text}
    (hfound : Name.read? (found ++ rest) = some (found, rest)) (hlast : front.getLast? ≠ some sigil)
    (hboundary : Boundary sigil front (sigil :: (found ++ rest))) :
    Continues sigil name front a (sigil :: (found ++ rest)) ↔ found = name ∧ a = [] ∨
      ∃ a', a = sigil :: (found ++ a') ∧
        Continues sigil name (front ++ sigil :: found) a' rest := by
  cases a with
  | nil =>
    constructor
    · rintro ⟨b, heq, h⟩
      obtain ⟨-, htail⟩ := List.cons.inj heq
      have hread := h.longest
      rw [← htail, hfound] at hread
      exact Or.inl ⟨(Prod.mk.inj (Option.some.inj hread)).1, rfl⟩
    · rintro (⟨rfl, -⟩ | ⟨a', ha', -⟩)
      · refine ⟨rest, rfl, hfound, by simpa using hlast, ?_, ?_⟩
        · simpa using hboundary.placeholder
        · by_cases hdot : sigil = '.'
          · simpa using hboundary.token hdot
          · exact not_straddled_token hsigil hdot _
      · cases ha'
  | cons c a =>
    have hskip : Continues sigil name front (c :: a) (sigil :: found ++ rest) ↔
        ∃ a', c :: a = sigil :: found ++ a' ∧
          Continues sigil name (front ++ sigil :: found) a' rest :=
      continues_append fun b heq h => length_le_of_token hfound heq h (by simp)
    simpa using hskip

/-- Of the sigils in plain text, splitting finds those that introduce a parameter. -/
theorem behind_splitPlain (hsigil : Name.isPart sigil = false) (last : Option Char) (cs : Text)
    (hlast : last = front.getLast?) (hboundary : Boundary sigil front cs) :
    Behind sigil name a (splitPlain sigil last cs) ↔ Continues sigil name front a cs := by
  induction last, cs using splitPlain.induct sigil generalizing front a with
  | case1 last cs p rest h _ ih =>
    obtain ⟨w, rfl, hw, -⟩ := Placeholder.read?_change h
    have hlast' : some '}' = (front ++ w).getLast? := by
      rw [List.getLast?_append, hw.getLast?]
      rfl
    rw [splitPlain_written hw, behind_text, continues_append fun b => length_le_of_written hw]
    exact exists_congr fun a' => and_congr_right fun _ => ih hlast' (hboundary.append_written hw)
  | case2 last =>
    refine ⟨fun h => absurd (by simpa using h) not_behind_nil, ?_⟩
    rintro ⟨b, heq, -⟩
    simp at heq
  | case3 last rest found rest' hfound _ h ih =>
    obtain ⟨hname, hstops⟩ := Name.read?_spec hfound
    obtain ⟨rfl, hne⟩ := Name.read?_append hfound
    have hlast' : found.getLast? = (front ++ sigil :: found).getLast? := by
      rw [List.append_cons, List.getLast?_append_of_ne_nil _ hne]
    have hboundary' := hboundary.append_token h hname hstops
    rw [splitPlain_name h hfound]
    by_cases hescape : last = some sigil
    · rw [if_pos hescape, behind_text, continues_escaped hfound (hlast ▸ hescape)]
      exact exists_congr fun a' => and_congr_right fun _ => ih hlast' hboundary'
    · rw [if_neg hescape, behind_parameter,
        continues_name hsigil hfound (hlast ▸ hescape) hboundary]
      exact or_congr_right
        (exists_congr fun a' => and_congr_right fun _ => ih hlast' hboundary')
  | case4 last rest hnone h ih =>
    rw [splitPlain_char h fun _ => hnone, behind_text, continues_cons fun _ => hnone]
    exact exists_congr fun a' => and_congr_right fun _ =>
      ih (by simp) (hboundary.append_char h fun _ => hnone)
  | case5 last c rest h hc ih =>
    have hname : c = sigil → Name.read? rest = none := fun hc' => absurd hc' hc
    rw [splitPlain_char h hname, behind_text, continues_cons hname]
    exact exists_congr fun a' => and_congr_right fun _ => ih (by simp) (hboundary.append_char h hname)

open Segment

/-- `name` is a parameter of SQL with `front` in front of its sigil: they stand in one plain segment,
and the text around them in that segment makes the sigil introduce the name. -/
def IsParameter (sigil : Char) (sql front name : Text) : Prop :=
  ∃ before a b after, segments sql = before ++ .plain (a ++ sigil :: (name ++ b)) :: after ∧
    front = unsplit before ++ a ∧ Introduces sigil a name b

theorem behind_pieces (hsigil : Name.isPart sigil = false) (s : Segment) :
    Behind sigil name front (pieces sigil s) ↔
      ∃ b, s = .plain (front ++ sigil :: (name ++ b)) ∧ Introduces sigil front name b := by
  cases s with
  | inert t => simp [pieces, behind_text, not_behind_nil]
  | plain t =>
    rw [pieces, behind_splitPlain hsigil none t rfl (boundary_nil sigil t), Continues]
    simp

theorem behind_split (hsigil : Name.isPart sigil = false) (sql : Text) :
    Behind sigil name front (split sigil sql) ↔ IsParameter sigil sql front name := by
  rw [split_eq, IsParameter]
  induction segments sql generalizing front with
  | nil => simp [not_behind_nil]
  | cons s ss ih =>
    rw [List.flatMap_cons, behind_append, flatMap_source_pieces, behind_pieces hsigil]
    constructor
    · rintro (⟨b, rfl, h⟩ | ⟨a', rfl, h⟩)
      · exact ⟨[], front, b, ss, rfl, rfl, h⟩
      · obtain ⟨before, a, b, after, rfl, rfl, hin⟩ := ih.1 h
        exact ⟨s :: before, a, b, after, rfl, by simp, hin⟩
    · rintro ⟨before, a, b, after, heq, rfl, h⟩
      cases before with
      | nil =>
        obtain ⟨rfl, rfl⟩ := List.cons.inj heq
        exact Or.inl ⟨b, rfl, h⟩
      | cons r before =>
        obtain ⟨rfl, rfl⟩ := List.cons.inj heq
        exact Or.inr ⟨unsplit before ++ a, by simp, ih.2 ⟨before, a, b, after, rfl, rfl, h⟩⟩

theorem weave_take_modifyHead (t : Text) {gaps : List Text} (h : gaps ≠ []) (j : Nat)
    (ts : List Text) :
    weave ((gaps.modifyHead (t ++ ·)).take (j + 1)) ts = t ++ weave (gaps.take (j + 1)) ts := by
  cases gaps with
  | nil => exact absurd rfl h
  | cons gap gaps =>
    have hne : gap :: gaps.take j ≠ [] := by simp
    exact weave_modifyHead t hne ts

/-- In front of a parameter stand the gaps and the parameters before it. -/
theorem behind_iff (ps : List Piece) : Behind sigil name front ps ↔
    ∃ j : Nat, (namesOf ps)[j]? = some name ∧
      front = weave ((gaps ps).take (j + 1)) (((namesOf ps).take j).map (sigil :: ·)) := by
  induction ps generalizing front with
  | nil => simp [not_behind_nil, namesOf]
  | cons p ps ih =>
    cases p with
    | text t =>
      have hne : gaps ps ≠ [] := fun hnil => by simpa [hnil] using length_gaps ps
      have hnames : namesOf (.text t :: ps) = namesOf ps := rfl
      rw [behind_text, hnames]
      constructor
      · rintro ⟨a', rfl, h⟩
        obtain ⟨j, hj, rfl⟩ := ih.1 h
        exact ⟨j, hj, (weave_take_modifyHead t hne j _).symm⟩
      · rintro ⟨j, hj, rfl⟩
        exact ⟨_, weave_take_modifyHead t hne j _, ih.2 ⟨j, hj, rfl⟩⟩
    | parameter found =>
      have hnames : namesOf (.parameter found :: ps) = found :: namesOf ps := rfl
      rw [behind_parameter, hnames]
      constructor
      · rintro (⟨rfl, rfl⟩ | ⟨a', rfl, h⟩)
        · exact ⟨0, rfl, rfl⟩
        · obtain ⟨j, hj, rfl⟩ := ih.1 h
          exact ⟨j + 1, hj, rfl⟩
      · rintro ⟨j, hj, rfl⟩
        cases j with
        | zero => exact Or.inl ⟨Option.some.inj hj, rfl⟩
        | succ j => exact Or.inr ⟨_, rfl, ih.2 ⟨j, hj, rfl⟩⟩

end Parameter

namespace Statement

open Parameter Segment

/-- Each name has the list of its positions, in strictly ascending order, and the lists divide up
the positions of all names. -/
structure Numbered (s : Statement) : Prop where
  absent : ∀ name, s.ordinalMap.get? name = none ↔ name ∉ s.names
  ascending : ∀ name is, s.ordinalMap.get? name = some is → is.Pairwise (· < ·)
  positions : ∀ name is, s.ordinalMap.get? name = some is →
    ∀ i, i ∈ is ↔ 0 < i ∧ s.names[i - 1]? = some name
  division : ∀ i, 0 < i ∧ i ≤ s.names.length ↔
    ∃! name, ∃ is, s.ordinalMap.get? name = some is ∧ i ∈ is

/-- The positions of a name among the names, counted from one. -/
def ordinals (s : Statement) (name : Text) : List Nat :=
  (s.names.zipIdx 1).filterMap fun (n, i) => if n = name then some i else none

/-- Whether just the names have been entered, each with its positions. -/
def Recorded (s : Statement) : Prop :=
  ∀ name is, s.ordinalMap.get? name = some is ↔ name ∈ s.names ∧ s.ordinals name = is

theorem mem_ordinals (s : Statement) (name : Text) (i : Nat) :
    i ∈ s.ordinals name ↔ 0 < i ∧ s.names[i - 1]? = some name := by
  simp only [ordinals, List.mem_filterMap, Prod.exists]
  constructor
  · rintro ⟨n, j, hmem, h⟩
    split at h
    · rename_i hn
      obtain rfl := Option.some.inj h
      rw [List.mk_mem_zipIdx_iff_le_and_getElem?_sub] at hmem
      exact ⟨hmem.1, hn ▸ hmem.2⟩
    · cases h
  · rintro ⟨hi, hname⟩
    exact ⟨name, i, List.mk_mem_zipIdx_iff_le_and_getElem?_sub.2 ⟨hi, hname⟩, by simp⟩

theorem ordinals_eq_nil {s : Statement} {name : Text} (h : name ∉ s.names) :
    s.ordinals name = [] := by
  refine List.eq_nil_iff_forall_not_mem.2 fun i hi => h ?_
  exact List.mem_of_getElem? ((mem_ordinals s name i).1 hi).2

theorem pairwise_ordinals (s : Statement) (name : Text) : (s.ordinals name).Pairwise (· < ·) := by
  have hzip : (s.names.zipIdx 1).Pairwise fun a b => a.2 < b.2 := by
    rw [← List.pairwise_map (f := Prod.snd) (R := (· < ·)), List.zipIdx_map_snd]
    exact List.pairwise_lt_range'
  rw [ordinals, List.pairwise_filterMap]
  refine hzip.imp fun {a b} hab i hi j hj => ?_
  simp only [Option.ite_none_right_eq_some, Option.some.injEq] at hi hj
  rw [← hi.2, ← hj.2]
  exact hab

/-! The positions that are pushed while names are collected. -/

theorem ordinals_collect (s : Statement) (name other : Text) :
    (s.collect name).ordinals other =
      s.ordinals other ++ if name = other then [s.names.length + 1] else [] := by
  rw [ordinals, collect, List.zipIdx_append, List.filterMap_append, Nat.add_comm 1]
  by_cases h : name = other <;> simp [ordinals, h]

/-- What a name has been entered with so far, if anything. -/
theorem Recorded.getD_get? {s : Statement} (h : s.Recorded) (name : Text) :
    (s.ordinalMap.get? name).getD [] = s.ordinals name := by
  cases hget : s.ordinalMap.get? name with
  | some is => exact ((h name is).1 hget).2.symm
  | none =>
    refine (ordinals_eq_nil fun hmem => ?_).symm
    rw [(h name _).2 ⟨hmem, rfl⟩] at hget
    cases hget

theorem Recorded.collect {s : Statement} (h : s.Recorded) (name : Text) :
    (s.collect name).Recorded := by
  intro other is
  have hnames : (s.collect name).names = s.names ++ [name] := rfl
  rw [ordinals_collect, hnames, Statement.collect, Dict.get?_insert, h.getD_get?]
  by_cases heq : name = other
  · subst heq
    simp
  · simp [heq, Ne.symm heq, h other is]

theorem Recorded.write {s : Statement} (h : s.Recorded) (p : Piece) : (s.write p).Recorded := by
  cases p with
  | text t => exact h
  | parameter name => exact Recorded.collect (s := { s with sql := s.sql ++ ['?'] }) h name

theorem recorded_foldl_write (ps : List Piece) {s : Statement} (h : s.Recorded) :
    (ps.foldl Statement.write s).Recorded := by
  induction ps generalizing s with
  | nil => exact h
  | cons p ps ih => exact ih (h.write p)

/-- Each name has been entered with its positions among all names. -/
theorem recorded_ofSql (sigil : Char) (sql : Text) (args : Args) :
    (ofSql sigil sql args).Recorded :=
  recorded_foldl_write _ fun name is => by simp [Dict.get?_empty]

theorem Recorded.numbered {s : Statement} (hs : s.Recorded) : Numbered s where
  absent name := by simp [Option.eq_none_iff_forall_ne_some, hs name]
  ascending name is h := by
    obtain ⟨-, rfl⟩ := (hs _ _).1 h
    exact pairwise_ordinals s name
  positions name is h := by
    obtain ⟨-, rfl⟩ := (hs _ _).1 h
    exact mem_ordinals s name
  division i := by
    constructor
    · rintro ⟨hi, hle⟩
      have hname : s.names[i - 1]? = some s.names[i - 1] := List.getElem?_eq_getElem (by omega)
      refine ⟨s.names[i - 1], ⟨_, (hs _ _).2 ⟨List.getElem_mem _, rfl⟩,
        (mem_ordinals s _ i).2 ⟨hi, hname⟩⟩, ?_⟩
      rintro name ⟨is, h, hmem⟩
      obtain ⟨-, rfl⟩ := (hs _ _).1 h
      exact Option.some.inj (((mem_ordinals s name i).1 hmem).2.symm.trans hname)
    · rintro ⟨name, ⟨is, h, hmem⟩, -⟩
      obtain ⟨-, rfl⟩ := (hs _ _).1 h
      obtain ⟨hi, hname⟩ := (mem_ordinals s name i).1 hmem
      obtain ⟨hlt, -⟩ := List.getElem?_eq_some_iff.1 hname
      exact ⟨hi, by omega⟩

theorem numbered_ofSql (sigil : Char) (sql : Text) (args : Args) :
    Numbered (ofSql sigil sql args) := (recorded_ofSql sigil sql args).numbered

/-- Translation is exact.  There are gaps into which the source writes tokens and the statement
question marks; the tokens are those that introduce a parameter, and the positions are theirs. -/
theorem exists_gaps_of_ofSql {sigil : Char} (hsigil : isSigil sigil) (sql : Text) (args : Args) :
    ∃ gaps : List Text, gaps.length = (ofSql sigil sql args).names.length + 1 ∧
      sql = weave gaps ((ofSql sigil sql args).names.map (sigil :: ·)) ∧
      (ofSql sigil sql args).sql = weave gaps ((ofSql sigil sql args).names.map fun _ => ['?']) ∧
      (∀ front name, IsParameter sigil sql front name ↔
        ∃ j : Nat, (ofSql sigil sql args).names[j]? = some name ∧
          front = weave (gaps.take (j + 1))
            (((ofSql sigil sql args).names.take j).map (sigil :: ·))) ∧
      (ofSql sigil sql args).names = Parameter.names sigil sql ∧ Numbered (ofSql sigil sql args) := by
  have hnumbered := numbered_ofSql sigil sql args
  rw [names_ofSql]
  exact ⟨gaps (split sigil sql), length_gaps _, source_eq_weave sigil sql,
    sql_eq_weave sigil sql args,
    fun _ _ => (behind_split (isPart_of_isSigil hsigil) sql).symm.trans (behind_iff _), rfl,
    hnumbered⟩

theorem exists_gaps_of_ofSql_repeated :
    isSigil ':' = true ∧ (ofSql ':' "a = :x ::y or ? = :x".toList ∅).names = ["x".toList, "x".toList] ∧
      ∃ gaps : List Text, gaps.length = 3 ∧
        "a = :x ::y or ? = :x".toList = weave gaps [":x".toList, ":x".toList] ∧
        (ofSql ':' "a = :x ::y or ? = :x".toList ∅).sql = weave gaps ["?".toList, "?".toList] ∧
        Numbered (ofSql ':' "a = :x ::y or ? = :x".toList ∅) := by
  have hsigil : isSigil ':' = true := by cbv
  have hnames : (ofSql ':' "a = :x ::y or ? = :x".toList ∅).names = ["x".toList, "x".toList] := by
    cbv
  obtain ⟨gaps, hlength, hsource, hsql, -, -, hnumbered⟩ :=
    exists_gaps_of_ofSql hsigil "a = :x ::y or ? = :x".toList ∅
  rw [hnames] at hlength hsource hsql
  exact ⟨hsigil, hnames, gaps, hlength, hsource, hsql, hnumbered⟩

/-- Behind a comment, a slash introduces a parameter although the comment ends with one. -/
theorem not_forall_getLast?_ne_sigil :
    ¬∀ (sigil : Char) (sql : Text) (args : Args), isSigil sigil →
      ∃ gaps : List Text, gaps.length = (ofSql sigil sql args).names.length + 1 ∧
        sql = weave gaps ((ofSql sigil sql args).names.map (sigil :: ·)) ∧
        (ofSql sigil sql args).sql = weave gaps ((ofSql sigil sql args).names.map fun _ => ['?']) ∧
        ∀ j : Nat, j < (ofSql sigil sql args).names.length →
          (weave (gaps.take (j + 1))
            (((ofSql sigil sql args).names.take j).map (sigil :: ·))).getLast? ≠ some sigil := by
  intro h
  have hnames : (ofSql '/' "/**//x".toList ∅).names = ["x".toList] := by cbv
  have hsql : (ofSql '/' "/**//x".toList ∅).sql = "/**/?".toList := by cbv
  obtain ⟨gaps, hlength, -, hprepared, hfront⟩ := h '/' "/**//x".toList ∅ (by cbv)
  rw [hnames] at hlength hprepared hfront
  rw [hsql] at hprepared
  have hfirst := hfront 0 (by simp)
  obtain ⟨t, u, rfl⟩ := List.length_eq_two.1 hlength
  -- the only question mark tells where the first gap ends
  have hparts : "/**/".toList ++ '?' :: [] = t ++ '?' :: u := by simpa [weave] using hprepared
  obtain ⟨rfl, -, -⟩ := (List.append_cons_inj_of_notMem (by decide) (by simp)).1 hparts
  exact hfirst rfl

end Statement

end SqlTemplate
