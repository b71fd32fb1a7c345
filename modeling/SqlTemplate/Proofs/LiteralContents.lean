import SqlTemplate.Proofs.LineEnding
import SqlTemplate.Proofs.Literal

/-!
What a literal holds.  The quoted runs of a value's literal hold its strings, and the JSON texts of
the containers in it, one for one; outside them stand only numbers, constants and separators.
-/
namespace SqlTemplate

/-! ### Numbers -/

namespace Number

/-- JSON has no number that is not finite. -/
def IsFinite : Number → Prop
  | integer _ => True
  | double (.finite ..) => True
  | double _ => False

def IsDigits (t : Text) : Prop := t ≠ [] ∧ ∀ c ∈ t, c.isDigit

/-- Digits, perhaps with a point and more digits, perhaps with an exponent. -/
def IsDecimal (t : Text) : Prop :=
  ∃ whole fraction exponent, t = whole ++ fraction ++ exponent ∧ IsDigits whole ∧
    (fraction = [] ∨ ∃ ds, IsDigits ds ∧ fraction = '.' :: ds) ∧
    (exponent = [] ∨ ∃ sign ∈ ['+', '-'], ∃ ds, IsDigits ds ∧ exponent = 'e' :: sign :: ds)

/-- A decimal with at most a dash in front. -/
def IsSigned (t : Text) : Prop := ∃ ds, IsDecimal ds ∧ (t = ds ∨ t = '-' :: ds)

theorem isDigits_toString (n : Nat) : IsDigits (toString n).toList := by
  refine ⟨toString_ne_nil n, ?_⟩
  intro c hc
  rw [toList_toString] at hc
  exact Nat.isDigit_of_mem_toDigits (by decide) (by decide) hc

theorem IsDigits.append {t u : Text} (ht : IsDigits t) (hu : ∀ c ∈ u, c.isDigit) :
    IsDigits (t ++ u) := by
  refine ⟨by simp [ht.1], ?_⟩
  intro c hc
  exact (List.mem_append.1 hc).elim (ht.2 c) (hu c)

theorem IsDigits.append_left {t u : Text} (ht : ∀ c ∈ t, c.isDigit) (hu : IsDigits u) :
    IsDigits (t ++ u) := by
  refine ⟨by simp [hu.1], ?_⟩
  intro c hc
  exact (List.mem_append.1 hc).elim (ht c) (hu.2 c)

theorem IsDigits.take {t : Text} (ht : IsDigits t) {n : Nat} (hn : 0 < n) :
    IsDigits (t.take n) := by
  refine ⟨?_, fun c hc => ht.2 c (List.mem_of_mem_take hc)⟩
  intro hnil
  rcases List.take_eq_nil_iff.1 hnil with h | h
  · omega
  · exact ht.1 h

theorem IsDigits.drop {t : Text} (ht : IsDigits t) {n : Nat} (hn : n < t.length) :
    IsDigits (t.drop n) := by
  refine ⟨?_, fun c hc => ht.2 c (List.mem_of_mem_drop hc)⟩
  intro hnil
  have := List.drop_eq_nil_iff.1 hnil
  omega

theorem isDigit_of_mem_replicate {n : Nat} {c : Char} (h : c ∈ List.replicate n '0') :
    c.isDigit := by
  rw [List.eq_of_mem_replicate h]
  decide

theorem isDigits_singleton {c : Char} (h : c.isDigit) : IsDigits [c] := by
  simpa [IsDigits] using h

theorem isDecimal_of_isDigits {t : Text} (h : IsDigits t) : IsDecimal t :=
  ⟨t, [], [], by simp, h, Or.inl rfl, Or.inl rfl⟩

theorem isDecimal_point {t u : Text} (ht : IsDigits t) (hu : IsDigits u) :
    IsDecimal (t ++ '.' :: u) :=
  ⟨t, '.' :: u, [], by simp, ht, Or.inr ⟨u, hu, rfl⟩, Or.inl rfl⟩

theorem isDecimal_layout (d : Decimal) : IsDecimal (Double.layout d).toList := by
  have hdigits := isDigits_toString d.digits
  have hcount : (toString d.digits).length = (toString d.digits).toList.length :=
    String.length_toList.symm
  unfold Double.layout
  dsimp only
  split
  · -- below one: the point behind a zero
    have hzero : IsDigits ['0'] := isDigits_singleton rfl
    have hfraction := hdigits.append_left
      (t := List.replicate (-(d.exponent + (toString d.digits).length - 1) - 1).toNat '0')
      fun c => isDigit_of_mem_replicate
    simpa using isDecimal_point hzero hfraction
  split
  · rename_i hlead
    split
    · -- an integer: zeros behind the digits
      have hwhole := hdigits.append (u := List.replicate d.exponent.toNat '0')
        fun c => isDigit_of_mem_replicate
      have hzero : IsDigits ['0'] := isDigits_singleton rfl
      simpa using isDecimal_point hwhole hzero
    · -- the point stands inside the digits
      rename_i hexp
      rw [hcount] at hlead ⊢
      have hwhole := hdigits.take
        (n := (d.exponent + (toString d.digits).toList.length - 1 + 1).toNat) (by omega)
      have hfraction := hdigits.drop
        (n := (d.exponent + (toString d.digits).toList.length - 1 + 1).toNat) (by omega)
      simpa using isDecimal_point hwhole hfraction
  · -- one digit, the point if there are more of them, and the exponent
    have hwhole := hdigits.take (n := 1) (by decide)
    generalize d.exponent + ((toString d.digits).length : Int) - 1 = lead
    have hexponent := isDigits_toString lead.natAbs
    have hsign : ∃ sign ∈ ['+', '-'], (if lead < 0 then "-" else "+").toList = [sign] := by
      by_cases hneg : lead < 0
      · exact ⟨'-', by decide, by rw [if_pos hneg]; rfl⟩
      · exact ⟨'+', by decide, by rw [if_neg hneg]; rfl⟩
    obtain ⟨sign, hmem, hsign⟩ := hsign
    have hfraction : ∀ c ∈ (toString d.digits).toList.drop 1, c.isDigit :=
      fun c hc => hdigits.2 c (List.mem_of_mem_drop hc)
    generalize (toString d.digits).toList.drop 1 = fraction at hfraction
    cases fraction with
    | nil =>
      refine ⟨_, [], _, ?_, hwhole, Or.inl rfl, Or.inr ⟨sign, hmem, _, hexponent, rfl⟩⟩
      simp [hsign]
    | cons c fraction =>
      refine ⟨_, _, _, ?_, hwhole, Or.inr ⟨c :: fraction, ⟨by simp, hfraction⟩, rfl⟩,
        Or.inr ⟨sign, hmem, _, hexponent, rfl⟩⟩
      simp [hsign]

/-- Whatever its value, a finite number is written as a decimal. -/
theorem isSigned_text {n : Number} (h : n.IsFinite) : IsSigned n.text.toList := by
  cases n with
  | integer n =>
    cases n with
    | ofNat m => exact ⟨_, isDecimal_of_isDigits (isDigits_toString m), Or.inl rfl⟩
    | negSucc m =>
      refine ⟨_, isDecimal_of_isDigits (isDigits_toString (m + 1)), Or.inr ?_⟩
      exact String.toList_append
  | double x =>
    cases x with
    | nan => exact h.elim
    | infinite negative => exact h.elim
    | finite negative m e =>
      have hdecimal :
          IsDecimal (if m = 0 then "0.0" else Double.layout (Double.shortest m e)).toList := by
        split
        · exact isDecimal_point (isDigits_singleton (c := '0') rfl) (isDigits_singleton rfl)
        · exact isDecimal_layout _
      refine ⟨_, hdecimal, ?_⟩
      cases negative with
      | false => exact Or.inl (by simp [text, Double.text])
      | true => exact Or.inr (by simp [text, Double.text])

end Number

/-! ### The contents of a quoted run -/

namespace Text

/-- Of two marks next to each other, one. -/
def undouble (mark : Char) : Text → Text
  | [] => []
  | [c] => [c]
  | c :: d :: s =>
    if c = mark ∧ d = mark then c :: undouble mark s else c :: undouble mark (d :: s)

theorem undouble_cons_of_ne {mark c : Char} (h : c ≠ mark) (s : Text) :
    undouble mark (c :: s) = c :: undouble mark s := by
  cases s with
  | nil => rfl
  | cons d s => rw [undouble, if_neg fun hc => h hc.1]

@[simp] theorem undouble_double (mark : Char) (s : Text) : undouble mark (s.double mark) = s := by
  induction s with
  | nil => rfl
  | cons c s ih =>
    rw [double] at ih ⊢
    rw [List.flatMap_cons]
    by_cases hc : c = mark
    · rw [if_pos hc, List.cons_append, List.singleton_append, undouble, if_pos ⟨rfl, rfl⟩, ih, hc]
    · rw [if_neg hc, List.singleton_append, undouble_cons_of_ne hc, ih]

end Text

/-- What stands between the quotes of a literal, with its doubled quotes undone. -/
def unquote (run : Text) : Text := Text.undouble '\x27' run.tail.dropLast

@[simp] theorem unquote_quoteText (s : Text) : unquote (quoteText s) = s := by
  simp [unquote, quoteText]

/-! ### The values of a literal -/

namespace Value

/-- The values that a literal writes one after the other. -/
def elements : Value → List Value
  | array items => items
  | v => [v]

/-- The text that a value's literal quotes: that of a string, or the JSON text of a container. -/
def quoted? : Value → Option Text
  | string s => some s
  | array items => some (json (array items))
  | object fields => some (json (object fields))
  | _ => none

end Value

namespace Literal

open Segment

/-- What stands outside the quotes. -/
inductive IsBare : Text → Prop
  | null : IsBare "null".toList
  | true : IsBare "true".toList
  | false : IsBare "false".toList
  | number {t : Text} (h : Number.IsSigned t) : IsBare t
  | separator : IsBare ", ".toList

/-- A text of bare texts one after the other. -/
def AllBare (t : Text) : Prop := ∃ ws : List Text, (∀ w ∈ ws, IsBare w) ∧ t = ws.flatten

theorem IsBare.allBare {t : Text} (h : IsBare t) : AllBare t := ⟨[t], by simpa using h, by simp⟩

theorem AllBare.append {t u : Text} (ht : AllBare t) (hu : AllBare u) : AllBare (t ++ u) := by
  obtain ⟨ws, hws, rfl⟩ := ht
  obtain ⟨us, hus, rfl⟩ := hu
  refine ⟨ws ++ us, ?_, by simp⟩
  intro w hw
  exact (List.mem_append.1 hw).elim (hws w) (hus w)

/-- Segments that are bare outside their runs. -/
def BareOutside (ss : List Segment) : Prop := ∀ t ∈ plainTexts ss, AllBare t

@[simp] theorem bareOutside_plain {t : Text} {ss : List Segment} :
    BareOutside (.plain t :: ss) ↔ AllBare t ∧ BareOutside ss := by
  simp [BareOutside, plainTexts]

@[simp] theorem bareOutside_inert {t : Text} {ss : List Segment} :
    BareOutside (.inert t :: ss) ↔ BareOutside ss := by
  simp [BareOutside, plainTexts]

theorem bareOutside_glue {s : Segment} {ss : List Segment} (h : BareOutside (s :: ss)) :
    BareOutside (glue s ss) := by
  match s, ss with
  | .inert t, ss => exact h
  | .plain [], ss => exact (bareOutside_plain.1 h).2
  | .plain (c :: t), [] => exact h
  | .plain (c :: t), .inert u :: ss => exact h
  | .plain (c :: t), .plain u :: ss =>
    obtain ⟨ht, hss⟩ := bareOutside_plain.1 h
    obtain ⟨hu, hss⟩ := bareOutside_plain.1 hss
    exact bareOutside_plain.2 ⟨ht.append hu, hss⟩

theorem bareOutside_merge {ss : List Segment} (h : BareOutside ss) : BareOutside (merge ss) := by
  induction ss with
  | nil => exact h
  | cons s ss ih =>
    rw [merge_cons]
    apply bareOutside_glue
    cases s with
    | plain t =>
      obtain ⟨ht, hss⟩ := bareOutside_plain.1 h
      exact bareOutside_plain.2 ⟨ht, ih hss⟩
    | inert t => exact bareOutside_inert.2 (ih (bareOutside_inert.1 h))

theorem inertTexts_glue (s : Segment) (ss : List Segment) :
    inertTexts (glue s ss) = inertTexts (s :: ss) := by
  match s, ss with
  | .inert t, ss => rfl
  | .plain [], ss => rfl
  | .plain (c :: t), [] => rfl
  | .plain (c :: t), .inert u :: ss => rfl
  | .plain (c :: t), .plain u :: ss => rfl

theorem inertTexts_merge (ss : List Segment) : inertTexts (merge ss) = inertTexts ss := by
  induction ss with
  | nil => rfl
  | cons s ss ih =>
    rw [merge_cons, inertTexts_glue]
    cases s with
    | plain t => rw [inertTexts_plain, inertTexts_plain, ih]
    | inert t => rw [inertTexts_inert, inertTexts_inert, ih]

theorem inertTexts_scalarPart (v : Value) (ss : List Segment) :
    inertTexts (scalarPart v :: ss) = (v.quoted?.map quoteText).toList ++ inertTexts ss := by
  cases v <;> rfl

theorem bareOutside_scalarPart {v : Value} (h : ∀ n, v = .number n → n.IsFinite)
    {ss : List Segment} (hss : BareOutside ss) : BareOutside (scalarPart v :: ss) := by
  cases v with
  | null => exact bareOutside_plain.2 ⟨IsBare.null.allBare, hss⟩
  | bool b =>
    cases b with
    | false => exact bareOutside_plain.2 ⟨IsBare.false.allBare, hss⟩
    | true => exact bareOutside_plain.2 ⟨IsBare.true.allBare, hss⟩
  | number n =>
    have hn := Number.isSigned_text (h n rfl)
    exact bareOutside_plain.2 ⟨(IsBare.number hn).allBare, hss⟩
  | string s | array items | object fields => exact bareOutside_inert.2 hss

/-- One value of a literal at a time, with a separator between two of them. -/
theorem contents_intersperse {items : List Value} (h : ∀ n, .number n ∈ items → n.IsFinite) :
    inertTexts ((items.map scalarPart).intersperse (.plain [',', ' '])) =
        (items.filterMap Value.quoted?).map quoteText ∧
      BareOutside ((items.map scalarPart).intersperse (.plain [',', ' '])) := by
  induction items with
  | nil => exact ⟨rfl, by simp [BareOutside, plainTexts]⟩
  | cons v items ih =>
    have hv : ∀ n, v = .number n → n.IsFinite := fun n hn => h n (by simp [hn])
    have hitems : ∀ n, .number n ∈ items → n.IsFinite := fun n hn => h n (by simp [hn])
    have hquoted : (List.filterMap Value.quoted? (v :: items)).map quoteText =
        (v.quoted?.map quoteText).toList ++ (items.filterMap Value.quoted?).map quoteText := by
      cases hq : v.quoted? <;> simp [hq]
    rw [hquoted]
    cases items with
    | nil =>
      refine ⟨inertTexts_scalarPart v [], ?_⟩
      exact bareOutside_scalarPart hv (by simp [BareOutside, plainTexts])
    | cons w items =>
      obtain ⟨hinert, hbare⟩ := ih hitems
      rw [List.map_cons, List.map_cons, List.intersperse_cons_cons]
      constructor
      · rw [inertTexts_scalarPart, inertTexts_plain]
        exact congrArg _ hinert
      · exact bareOutside_scalarPart hv (bareOutside_plain.2 ⟨IsBare.separator.allBare, hbare⟩)

theorem contents_parts {v : Value} (h : ∀ n, .number n ∈ v.elements → n.IsFinite) :
    inertTexts (parts v) = (v.elements.filterMap Value.quoted?).map quoteText ∧
      BareOutside (parts v) := by
  cases v with
  | array items => exact contents_intersperse h
  | null | bool b | number n | string s | object fields =>
    exact @contents_intersperse [_] h

/-- The quoted runs of a literal are those of the texts that it has to quote, each of them holds
its text, and all else is bare: no character of such a text is outside its run. -/
theorem quoted_contents (v : Value) (h : ∀ n, .number n ∈ v.elements → n.IsFinite) :
    inertTexts (segments v.literal) = (v.elements.filterMap Value.quoted?).map quoteText ∧
      (inertTexts (segments v.literal)).map unquote = v.elements.filterMap Value.quoted? ∧
      ∀ t ∈ plainTexts (segments v.literal),
        ∃ ws : List Text, (∀ w ∈ ws, IsBare w) ∧ t = ws.flatten := by
  obtain ⟨hinert, hbare⟩ := contents_parts h
  have hruns : inertTexts (segments v.literal) =
      (v.elements.filterMap Value.quoted?).map quoteText := by
    rw [segments_literal, inertTexts_merge, hinert]
  refine ⟨hruns, ?_, ?_⟩
  · rw [hruns, List.map_map]
    have hid : unquote ∘ quoteText = id := funext unquote_quoteText
    rw [hid, List.map_id]
  · rw [segments_literal]
    exact bareOutside_merge hbare

/-- Quotes, openers of comments and placeholders, and a container among the items. -/
theorem quoted_contents_items :
    (∀ n, Value.number n ∈
      (Value.array [.string "it\x27s -- $\x7ba\x7d /*".toList, .number (.integer (-3)),
        .array [.string "\x27\x27".toList, .null], .bool true]).elements → n.IsFinite) ∧
    (inertTexts (segments
      (Value.array [.string "it\x27s -- $\x7ba\x7d /*".toList, .number (.integer (-3)),
        .array [.string "\x27\x27".toList, .null], .bool true]).literal)).map unquote =
      ["it\x27s -- $\x7ba\x7d /*".toList, "[\x22\x27\x27\x22,null]".toList] := by
  have hfinite : ∀ n, Value.number n ∈
      (Value.array [.string "it\x27s -- $\x7ba\x7d /*".toList, .number (.integer (-3)),
        .array [.string "\x27\x27".toList, .null], .bool true]).elements → n.IsFinite := by
    intro n hn
    obtain rfl : n = .integer (-3) := by simpa [Value.elements] using hn
    trivial
  exact ⟨hfinite, (quoted_contents _ hfinite).2.1⟩

end Literal

end SqlTemplate
