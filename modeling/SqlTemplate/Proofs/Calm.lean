import Mathlib.Data.List.Chain
import SqlTemplate.Proofs.Name
import SqlTemplate.Proofs.Seam
import SqlTemplate.Proofs.Weave

/-!
Calm texts: SQL in which no inert segment and no placeholder can start.  Such a text is a sequence
of parameters and other characters, which texts put side by side leave as it is.
-/
namespace SqlTemplate

namespace Text

/-- Whether two characters side by side open nothing. -/
def Loose (c d : Char) : Prop :=
  ¬(c = '-' ∧ d = '-') ∧ ¬(c = '/' ∧ d = '*') ∧ ¬(c = ':' ∧ d = ':')

instance (c d : Char) : Decidable (Loose c d) := inferInstanceAs (Decidable (_ ∧ _ ∧ _))

/-- An ASCII text without quotes and dollar signs and without `--`, `/*` and `::`. -/
structure Calm (t : Text) : Prop where
  ascii : ∀ c ∈ t, c.toNat < 128
  unmarked : ∀ c ∈ t, c ≠ '\x27' ∧ c ≠ '\x22' ∧ c ≠ '$'
  apart : t.IsChain Loose

theorem calm_nil : Calm [] := ⟨by simp, by simp, .nil⟩

theorem calm_append {a b : Text} :
    Calm (a ++ b) ↔ Calm a ∧ Calm b ∧ ∀ c ∈ a.getLast?, ∀ d ∈ b.head?, Loose c d := by
  constructor
  · rintro ⟨hascii, hunmarked, hapart⟩
    obtain ⟨ha, hb, hab⟩ := List.isChain_append.1 hapart
    exact ⟨⟨fun c hc => hascii c (by simp [hc]), fun c hc => hunmarked c (by simp [hc]), ha⟩,
      ⟨fun c hc => hascii c (by simp [hc]), fun c hc => hunmarked c (by simp [hc]), hb⟩, hab⟩
  · rintro ⟨ha, hb, hab⟩
    refine ⟨fun c hc => ?_, fun c hc => ?_, List.isChain_append.2 ⟨ha.apart, hb.apart, hab⟩⟩
    · exact (List.mem_append.1 hc).elim (ha.ascii c) (hb.ascii c)
    · exact (List.mem_append.1 hc).elim (ha.unmarked c) (hb.unmarked c)

theorem Calm.suffix {t w : Text} (h : Calm t) (hw : w <:+ t) : Calm w := by
  obtain ⟨v, rfl⟩ := hw
  exact (calm_append.1 h).2.1

theorem Calm.tail {c : Char} {t : Text} (h : Calm (c :: t)) : Calm t :=
  h.suffix (List.suffix_cons c t)

theorem Calm.dollar_notMem {t : Text} (h : Calm t) : '$' ∉ t :=
  fun hc => (h.unmarked '$' hc).2.2 rfl

theorem Calm.cons {c : Char} {t u : Text} (h : Calm (c :: t)) (hu : Calm u)
    (hhead : u.head? = t.head?) : Calm (c :: u) := by
  obtain ⟨hc, -, hloose⟩ := (calm_append (a := [c]) (b := t)).1 h
  exact (calm_append (a := [c]) (b := u)).2 ⟨hc, hu, by rwa [hhead]⟩

theorem Calm.isPlain {t : Text} (h : Calm t) : Segment.IsPlain t := by
  intro w hw
  have hcalm := h.suffix hw
  rw [← Option.not_isSome_iff_eq_none, Segment.region?_isSome_iff]
  rintro (hquote | ⟨s, rfl⟩ | ⟨s, rfl⟩ | ⟨c, -, s, rfl⟩)
  · have hmem : ∀ d, w.head? = some d → d ∈ w := fun d => List.mem_of_head?
    rcases hquote with hd | hd
    · exact (hcalm.unmarked _ (hmem _ hd)).1 rfl
    · exact (hcalm.unmarked _ (hmem _ hd)).2.1 rfl
  · exact ((List.isChain_cons.1 hcalm.apart).1 '-' rfl).1 ⟨rfl, rfl⟩
  · exact ((List.isChain_cons.1 hcalm.apart).1 '*' rfl).2.1 ⟨rfl, rfl⟩
  · exact ((List.isChain_cons.1 hcalm.apart).1 ':' rfl).2.2 ⟨rfl, rfl⟩

/-- A calm text is one plain segment, if any. -/
theorem Calm.segments {t : Text} (h : Calm t) :
    SqlTemplate.segments t = Segment.merge [.plain t] := Segment.segments_of_isPlain h.isPlain

/-- Characters that end a name and belong to none: blanks, commas and line ends. -/
def isBreak (c : Char) : Bool := c == ' ' || c == ',' || c == '\n'

/-- A text that can stand behind any other and adds nothing to it: letters, blanks and commas, with
no letter in front. -/
structure Separator (s : Text) : Prop where
  head : s.head?.any isBreak
  chars : ∀ c ∈ s, c.isAlpha || isBreak c

/-- Characters that open nothing, whatever follows: those of names, letters and breaks. -/
def isMute (c : Char) : Bool := Name.isPart c || c == '.' || isBreak c

theorem isBreak_stops {c : Char} (h : isBreak c) :
    Name.isPart c = false ∧ c ≠ '.' ∧ c ≠ ':' := by
  simp only [isBreak, Bool.or_eq_true, beq_iff_eq] at h
  rcases h with (rfl | rfl) | rfl <;> decide

theorem loose_break (c : Char) {d : Char} (h : isBreak d) : Loose c d := by
  simp only [isBreak, Bool.or_eq_true, beq_iff_eq] at h
  rcases h with (rfl | rfl) | rfl <;> simp [Loose]

theorem ne_of_isMute {c d : Char} (h : isMute c) (hd : isMute d = false) : c ≠ d := by
  rintro rfl
  simp [h] at hd

theorem loose_of_isMute {c : Char} (h : isMute c) (d : Char) : Loose c d :=
  ⟨fun hc => ne_of_isMute h rfl hc.1, fun hc => ne_of_isMute h rfl hc.1,
    fun hc => ne_of_isMute h rfl hc.1⟩

theorem calm_of_isMute {t : Text} (h : ∀ c ∈ t, isMute c) : Calm t := by
  refine ⟨fun c hc => ?_, fun c hc => ?_, ?_⟩
  · have := h c hc
    simp only [isMute, isBreak, Bool.or_eq_true, beq_iff_eq] at this
    rcases this with (hpart | rfl) | (rfl | rfl) | rfl
    · exact Name.isPart_ascii hpart
    all_goals decide
  · exact ⟨ne_of_isMute (h c hc) rfl, ne_of_isMute (h c hc) rfl, ne_of_isMute (h c hc) rfl⟩
  · induction t with
    | nil => exact .nil
    | cons c t ih =>
      exact List.isChain_cons.2 ⟨fun d _ => loose_of_isMute (h c List.mem_cons_self) d,
        ih fun d hd => h d (List.mem_cons_of_mem c hd)⟩

theorem isMute_of_isName {name : Text} (h : Name.IsName name) {c : Char} (hc : c ∈ name) :
    isMute c := by
  rcases h.mem hc with hpart | rfl
  · simp [isMute, hpart]
  · decide

/-- A parameter in front of a calm text. -/
theorem Calm.parameter {name t : Text} (ht : Calm t) (hname : Name.IsName name) :
    Calm (':' :: (name ++ t)) := by
  have hcolon : Calm [':'] := ⟨by simp, by simp, .singleton _⟩
  have hrest : Calm (name ++ t) := by
    refine calm_append.2 ⟨calm_of_isMute fun _ => isMute_of_isName hname, ht, fun c hc d _ => ?_⟩
    exact loose_of_isMute (isMute_of_isName hname (List.mem_of_getLast? hc)) d
  refine (calm_append (a := [':'])).2 ⟨hcolon, hrest, fun c hc d hd => ?_⟩
  obtain ⟨e, es, rfl, he⟩ := hname.head
  obtain rfl : c = ':' := by simpa using hc.symm
  obtain rfl : e = d := by simpa using hd
  have hne : e ≠ ':' := Name.ne_of_isPart (Name.isPart_of_isStart he) rfl
  simp [Loose, hne]

theorem Separator.isMute {s : Text} (h : Separator s) {c : Char} (hc : c ∈ s) :
    Text.isMute c := by
  rcases Bool.or_eq_true_iff.1 (h.chars c hc) with hc | hc
  · simp [Text.isMute, Name.isPart, Char.isAlphanum, hc]
  · simp [Text.isMute, hc]

theorem Separator.calm {s : Text} (h : Separator s) : Calm s := calm_of_isMute fun _ => h.isMute

theorem separator_newline : Separator ['\n'] :=
  ⟨by decide, forall_mem_of_all (by decide)⟩

/-- Calm texts with a separator between them. -/
theorem Calm.separated {a s b : Text} (ha : Calm a) (hs : Separator s) (hb : Calm b) :
    Calm (a ++ s ++ b) := by
  refine calm_append.2 ⟨calm_append.2 ⟨ha, hs.calm, fun c _ d hd => ?_⟩, hb, fun c hc d _ => ?_⟩
  · have hbreak : isBreak d := by simpa [Option.mem_def.1 hd] using hs.head
    exact loose_break c hbreak
  · have hne : s ≠ [] := by
      rintro rfl
      cases hs.head
    rw [List.getLast?_append_of_ne_nil _ hne] at hc
    exact loose_of_isMute (hs.isMute (List.mem_of_getLast? hc)) d

theorem Calm.join {s : Text} (hs : Separator s) {ts : List Text} (h : ∀ t ∈ ts, Calm t) :
    Calm (join s ts) := by
  induction ts with
  | nil => exact calm_nil
  | cons t ts ih =>
    have ht := h t List.mem_cons_self
    have hts : ∀ u ∈ ts, Calm u := fun u hu => h u (List.mem_cons_of_mem t hu)
    cases ts with
    | nil => simpa using ht
    | cons u ts => simpa using ht.separated hs (ih hts)

end Text

open Text

namespace Parameter

variable {last : Option Char} {t : Text}

theorem split_of_isPlain {sigil : Char} (h : Segment.IsPlain t) :
    split sigil t = splitPlain sigil none t := by
  rw [split, Segment.flatMap_segments splitPlain_nil h]

theorem split_of_calm {sigil : Char} (h : Calm t) : split sigil t = splitPlain sigil none t :=
  split_of_isPlain h.isPlain

theorem read?_cons_eq_none {c : Char} {rest : Text} (h : '$' ∉ c :: rest) (b : Text) :
    Placeholder.read? (c :: (rest ++ b)) = none := by
  refine Placeholder.read?_eq_none ?_
  rintro ⟨⟩
  simp at h

theorem isNeutral_of_isBreak {c : Char} (h : isBreak c) : isNeutral ':' c := by
  simp only [isBreak, Bool.or_eq_true, beq_iff_eq] at h
  rcases h with (rfl | rfl) | rfl <;> decide

/-- Nothing in front of a break has a part behind it. -/
theorem splitPlain_append {a b : Text} (ha : '$' ∉ a) (hb : b.head?.any isBreak)
    (last : Option Char) :
    splitPlain ':' last (a ++ b) = splitPlain ':' last a ++ splitPlain ':' none b := by
  obtain ⟨d, ds, rfl, hd⟩ : ∃ d ds, b = d :: ds ∧ isBreak d := by
    cases b with
    | nil => cases hb
    | cons d ds => exact ⟨d, ds, rfl, hb⟩
  have hcolon : d ≠ ':' := (isBreak_stops hd).2.2
  have hseam : Seam ':' a (d :: ds) := Or.inr (isNeutral_of_isBreak hd)
  exact splitPlain_append_of_seam (Placeholder.braced_of_notMem ha) (fun _ => hseam)
    fun _ _ => by simpa using hcolon

/-- Text without sigils is its characters, and what follows is read as if it stood alone. -/
theorem splitPlain_text_append {s : Text} (h : '$' ∉ s) (hcolon : ':' ∉ s)
    (hlast : last ≠ some ':') (b : Text) :
    splitPlain ':' last (s ++ b) = (s.map fun c => .text [c]) ++ splitPlain ':' none b := by
  induction s generalizing last with
  | nil => exact splitPlain_last fun hl => absurd hl hlast
  | cons c s ih =>
    have hc : c ≠ ':' := by
      rintro rfl
      simp at hcolon
    rw [List.cons_append, splitPlain_char (read?_cons_eq_none h b) fun h => absurd h hc,
      ih (fun hd => h (List.mem_cons_of_mem c hd)) (fun hd => hcolon (List.mem_cons_of_mem c hd))
        (by simpa using hc)]
    rfl

@[simp] theorem namesOf_append (ps qs : List Piece) :
    namesOf (ps ++ qs) = namesOf ps ++ namesOf qs := List.filterMap_append

@[simp] theorem namesOf_text (f : Char → Text) (s : Text) :
    namesOf (s.map fun c => .text (f c)) = [] := by simp [namesOf]

/-- The parameters of calm texts with a separator between them are those of both. -/
theorem names_separated {a s b : Text} (ha : Calm a) (hs : Separator s) (hb : Calm b) :
    names ':' (a ++ s ++ b) = names ':' a ++ names ':' b := by
  have hbreak : (s ++ b).head?.any isBreak := by
    cases s with
    | nil => cases hs.head
    | cons c s => exact hs.head
  have hcolon : ':' ∉ s := fun hc => ne_of_isMute (hs.isMute hc) rfl rfl
  rw [names_eq, names_eq, names_eq, split_of_calm (ha.separated hs hb), split_of_calm ha,
    split_of_calm hb, List.append_assoc, splitPlain_append ha.dollar_notMem hbreak,
    splitPlain_text_append hs.calm.dollar_notMem hcolon (by simp), namesOf_append, namesOf_append,
    namesOf_text, List.nil_append]

theorem names_join {s : Text} (hs : Separator s) {ts : List Text} (h : ∀ t ∈ ts, Calm t) :
    names ':' (join s ts) = ts.flatMap (names ':') := by
  induction ts with
  | nil => rw [join_nil, names_eq, split_of_calm calm_nil, splitPlain_nil]; rfl
  | cons t ts ih =>
    have ht := h t List.mem_cons_self
    have hts : ∀ u ∈ ts, Calm u := fun u hu => h u (List.mem_cons_of_mem t hu)
    cases ts with
    | nil => simp
    | cons u ts =>
      rw [join_cons_cons, names_separated ht hs (Calm.join hs hts), ih hts]
      rfl

theorem getLast?_ne_colon {name : Text} (h : Name.IsName name) : name.getLast? ≠ some ':' :=
  fun hc => Name.ne_of_isPart (h.getLast hc) rfl rfl

end Parameter

end SqlTemplate
