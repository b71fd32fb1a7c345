import SqlTemplate.Proofs.Parameter
import SqlTemplate.Proofs.Scan

/-!
Seams between plain texts.  A neutral character on either side of a seam keeps what is read in front
of it from running on behind it: no region and no placeholder opens over it, and no name goes on.
-/
namespace SqlTemplate

open Segment (region?)

/-- Whether a text opens no placeholder that it does not close. -/
def Placeholder.Braced (t : Text) : Prop :=
  ∀ w, w <:+ t → ['$', '\x7b'] <+: w → (Placeholder.read? w).isSome

/-- Whether a character ends and continues nothing: no name, region or placeholder. -/
def Text.isNeutral (sigil c : Char) : Bool :=
  !Name.isPart c && c ∉ ['.', '$', '\x7b', '-', '/', '*', ':', sigil]

theorem Placeholder.Braced.suffix {t w : Text} (h : Braced t) (hw : w <:+ t) : Braced w :=
  fun v hv => h v (hv.trans hw)

theorem Placeholder.braced_of_notMem {t : Text} (h : '$' ∉ t) : Braced t := by
  intro w hw hopen
  exact absurd (hw.subset (hopen.subset List.mem_cons_self)) h

namespace Text

variable {sigil c : Char}

theorem isNeutral_iff : isNeutral sigil c ↔ Name.isPart c = false ∧ c ≠ '.' ∧ c ≠ '$' ∧
    c ≠ '\x7b' ∧ c ≠ '-' ∧ c ≠ '/' ∧ c ≠ '*' ∧ c ≠ ':' ∧ c ≠ sigil := by
  simp [isNeutral]

/-- A name in front of a neutral character stops there. -/
theorem stops_of_isNeutral {b : Text} (h : b.head?.any (isNeutral sigil)) : Name.Stops b := by
  cases b with
  | nil => cases h
  | cons c b =>
    obtain ⟨hpart, hdot, -⟩ := isNeutral_iff.1 (show isNeutral sigil c from h)
    exact ⟨hpart, fun hc => absurd hc hdot⟩

end Text

namespace Parameter

variable {sigil : Char} {u b : Text}

/-- What stands at a seam: a neutral character behind it or in front of it. -/
def Seam (sigil : Char) (u b : Text) : Prop :=
  u.getLast?.any (Text.isNeutral sigil) ∨ b.head?.any (Text.isNeutral sigil)

/-- No two characters on both sides of a seam are other than neutral. -/
theorem Seam.exists_isNeutral {c d : Char} (h : Seam sigil u b) (hc : u.getLast? = some c)
    (hd : b.head? = some d) : Text.isNeutral sigil c ∨ Text.isNeutral sigil d := by
  rw [Seam, hc, hd] at h
  simpa using h

theorem Seam.suffix {w : Text} (h : Seam sigil u b) (hw : w <:+ u) (hne : w ≠ []) :
    Seam sigil w b := by
  obtain ⟨v, rfl⟩ := hw
  rwa [Seam, List.getLast?_append_of_ne_nil _ hne] at h

/-- No region opens in plain text over a seam. -/
theorem Seam.region?_append_eq_none (h : Seam sigil u b) (hne : u ≠ [])
    (hplain : Segment.IsPlain u) : region? (u ++ b) = none := by
  rw [← Option.not_isSome_iff_eq_none]
  intro hsome
  obtain ⟨c, d, hc, hd, hopen⟩ := Segment.exists_of_region?_append hne hplain hsome
  rcases h.exists_isNeutral hc hd with hneutral | hneutral
  · obtain ⟨-, -, -, -, hdash, hslash, -, hcolon, -⟩ := Text.isNeutral_iff.1 hneutral
    rcases hopen with ⟨h, -⟩ | ⟨h, -⟩ | ⟨h, -⟩
    · exact hdash h
    · exact hslash h
    · exact hcolon h
  · obtain ⟨hpart, -, -, -, hdash, -, hstar, hcolon, -⟩ := Text.isNeutral_iff.1 hneutral
    rcases hopen with ⟨-, h⟩ | ⟨-, h⟩ | ⟨-, ⟨h, -⟩ | h⟩
    · exact hdash h
    · exact hstar h
    · exact hcolon h
    · simp [Name.isPart_of_isStart h] at hpart

/-- No placeholder opens over a seam. -/
theorem Seam.read?_append_eq_none (h : Seam sigil u b) (hne : u ≠ [])
    (hbraced : Placeholder.Braced u) (hread : Placeholder.read? u = none) :
    Placeholder.read? (u ++ b) = none := by
  rw [Option.eq_none_iff_forall_ne_some]
  rintro ⟨p, rest⟩ hsome
  obtain ⟨w, hw, hwritten, -⟩ := Placeholder.read?_change hsome
  obtain ⟨t, rfl, -⟩ := hwritten.mem_tail
  match u, hw with
  | [], _ => exact hne rfl
  | [a], hw =>
    obtain ⟨rfl, rfl⟩ := List.cons.inj hw
    rcases h.exists_isNeutral rfl rfl with hneutral | hneutral
    · exact (Text.isNeutral_iff.1 hneutral).2.2.1 rfl
    · exact (Text.isNeutral_iff.1 hneutral).2.2.2.1 rfl
  | a :: d :: u, hw =>
    simp only [List.cons_append, List.cons.injEq] at hw
    obtain ⟨rfl, rfl, -⟩ := hw
    have hsome := hbraced _ (List.suffix_refl _) ⟨u, rfl⟩
    simp [hread] at hsome

/-- What stops a name stops it over a seam, too. -/
theorem Seam.stops_append {c : Char} {rest : Text} (hstops : Name.Stops rest)
    (h : Seam sigil (c :: rest) b) (hc : Text.isNeutral sigil c = false) :
    Name.Stops (rest ++ b) := by
  cases rest with
  | nil =>
    have hb : b.head?.any (Text.isNeutral sigil) :=
      h.resolve_left (by simpa using hc)
    exact Text.stops_of_isNeutral hb
  | cons d rest =>
    refine ⟨hstops.1, fun hd => ?_⟩
    cases rest with
    | cons e rest => exact hstops.2 hd
    | nil =>
      subst hd
      have hb : b.head?.any (Text.isNeutral sigil) := h.resolve_left (by simp [Text.isNeutral])
      exact (Text.stops_of_isNeutral hb).head

/-- No two sigils stand at a seam. -/
theorem Seam.head?_ne (h : Seam sigil u b) (hlast : u.getLast? = some sigil) :
    b.head? ≠ some sigil := by
  intro hhead
  rcases h.exists_isNeutral hlast hhead with hneutral | hneutral <;>
    simp [Text.isNeutral] at hneutral

/-- The character in front matters only to a sigil. -/
theorem splitPlain_last {last : Option Char} {t : Text}
    (h : last = some sigil → t.head? ≠ some sigil) :
    splitPlain sigil last t = splitPlain sigil none t := by
  cases t using splitPlain.fun_cases sigil last with
  | case1 cs p rest hread _ => rw [splitPlain_placeholder hread, splitPlain_placeholder hread]
  | case2 => rw [splitPlain_nil, splitPlain_nil]
  | case3 rest name rest' hname _ hread _ =>
    have hlast : last ≠ some sigil := fun hl => h hl rfl
    rw [splitPlain_name hread hname, splitPlain_name hread hname, if_neg hlast, if_neg (by simp)]
  | case4 rest hname hread _ =>
    rw [splitPlain_char hread fun _ => hname, splitPlain_char hread fun _ => hname]
  | case5 c rest hread hc _ =>
    rw [splitPlain_char hread fun h => absurd h hc, splitPlain_char hread fun h => absurd h hc]

/-- A plain text with a seam behind it is split by itself. -/
theorem splitPlain_append_of_seam (hbraced : Placeholder.Braced u) (h : u ≠ [] → Seam sigil u b)
    {last : Option Char} (hlast : u = [] → last = some sigil → b.head? ≠ some sigil) :
    splitPlain sigil last (u ++ b) = splitPlain sigil last u ++ splitPlain sigil none b := by
  induction last, u using splitPlain.induct sigil with
  | case1 last cs p rest hread _ ih =>
    obtain ⟨w, rfl, hw, -⟩ := Placeholder.read?_change hread
    have hseam : Seam sigil (w ++ rest) b := h (by simp [hw.ne_nil])
    have hend : rest = [] → some '\x7d' = some sigil → b.head? ≠ some sigil := by
      rintro rfl hsigil
      exact hseam.head?_ne (by rw [List.append_nil, hw.getLast?, hsigil])
    rw [List.append_assoc, splitPlain_written hw, splitPlain_written hw, List.cons_append,
      ih (hbraced.suffix (List.suffix_append w rest))
        (fun hne => hseam.suffix (List.suffix_append w rest) hne) hend]
  | case2 last =>
    rw [List.nil_append, splitPlain_nil, List.nil_append]
    exact splitPlain_last (hlast rfl)
  | case3 last rest name rest' hname _ hread ih =>
    have hseam : Seam sigil (sigil :: rest) b := h (List.cons_ne_nil _ _)
    obtain ⟨hn, hstops⟩ := Name.read?_spec hname
    obtain ⟨heq, hne⟩ := Name.read?_append hname
    -- the last character of the name is at the seam if nothing follows the name
    obtain ⟨front, c, hfront⟩ : ∃ front c, name = front ++ [c] :=
      ⟨_, _, (List.dropLast_concat_getLast hne).symm⟩
    have hc : Text.isNeutral sigil c = false := by
      have hpart : Name.isPart c := hn.getLast (by simp [hfront])
      simp [Text.isNeutral, hpart]
    have hsuffix : c :: rest' <:+ sigil :: rest :=
      ⟨sigil :: front, by rw [← heq, hfront]; simp⟩
    have hname' : Name.read? (rest ++ b) = some (name, rest' ++ b) := by
      rw [← heq, List.append_assoc]
      exact Name.read?_of_isName hn
        (Seam.stops_append hstops (hseam.suffix hsuffix (List.cons_ne_nil _ _)) hc)
    have hend : rest' = [] → name.getLast? = some sigil → b.head? ≠ some sigil := by
      rintro rfl hsigil
      rw [List.append_nil] at heq
      exact hseam.head?_ne (by rw [List.getLast?_cons, ← heq, hsigil]; rfl)
    have hrest : rest' <:+ sigil :: rest := (List.suffix_cons c rest').trans hsuffix
    have hread' : Placeholder.read? (sigil :: (rest ++ b)) = none :=
      hseam.read?_append_eq_none (List.cons_ne_nil _ _) hbraced hread
    rw [List.cons_append, splitPlain_name hread' hname', splitPlain_name hread hname,
      List.cons_append,
      ih (hbraced.suffix hrest) (fun hne => hseam.suffix hrest hne) hend]
  | case4 last rest hname hread ih =>
    have hseam : Seam sigil (sigil :: rest) b := h (List.cons_ne_nil _ _)
    have hname' : Name.read? (rest ++ b) = none := by
      cases rest with
      | nil =>
        have hb : b.head?.any (Text.isNeutral sigil) :=
          hseam.resolve_left (by simp [Text.isNeutral])
        exact (Text.stops_of_isNeutral hb).read?_eq_none
      | cons c rest =>
        rw [Name.read?_eq_none_iff] at hname ⊢
        exact hname
    have hend : rest = [] → some sigil = some sigil → b.head? ≠ some sigil := by
      rintro rfl -
      exact hseam.head?_ne rfl
    have hread' : Placeholder.read? (sigil :: (rest ++ b)) = none :=
      hseam.read?_append_eq_none (List.cons_ne_nil _ _) hbraced hread
    rw [List.cons_append, splitPlain_char hread' fun _ => hname',
      splitPlain_char hread fun _ => hname, List.cons_append,
      ih (hbraced.suffix (List.suffix_cons _ rest))
        (fun hne => hseam.suffix (List.suffix_cons _ rest) hne) hend]
  | case5 last c rest hread hc ih =>
    have hseam : Seam sigil (c :: rest) b := h (List.cons_ne_nil _ _)
    have hread' : Placeholder.read? (c :: (rest ++ b)) = none :=
      hseam.read?_append_eq_none (List.cons_ne_nil _ _) hbraced hread
    rw [List.cons_append, splitPlain_char hread' fun h => absurd h hc,
      splitPlain_char hread fun h => absurd h hc, List.cons_append,
      ih (hbraced.suffix (List.suffix_cons _ rest))
        (fun hne => hseam.suffix (List.suffix_cons _ rest) hne)
        fun _ h => absurd (Option.some.inj h) hc]

end Parameter

end SqlTemplate
