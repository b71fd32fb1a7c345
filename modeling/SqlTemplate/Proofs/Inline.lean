import Mathlib
import SqlTemplate.Proofs.Literal
import SqlTemplate.Statement

/-!
Literals in the place of parameters.  The segments of the filled text are those of the text with
each parameter replaced by the segments of its literal, exactly if neighbouring segments leave
each other alone; a dash in front of a negative number does not.
-/
namespace SqlTemplate.Statement

open Segment

/-- The segments that a piece of plain text leaves.  A parameter without a value stays. -/
def pieceParts (sigil : Char) (args : Args) : Parameter.Piece → List Segment
  | .text t => [.plain t]
  | .parameter name =>
    match args.lookup? name with
    | some v => segments v.literal
    | none => [.plain (sigil :: name)]

def segmentParts (sigil : Char) (args : Args) : Segment → List Segment
  | .plain t => (Parameter.splitPlain sigil none t).flatMap (pieceParts sigil args)
  | .inert t => [.inert t]

/-- The segments of SQL text with each parameter that has a value replaced by the segments of the
value's literal. -/
def filled (sigil : Char) (args : Args) (sql : Text) : List Segment :=
  merge ((segments sql).flatMap (segmentParts sigil args))

theorem unsplit_pieceParts {sigil : Char} {args : Args} {strict : Bool} {p : Parameter.Piece}
    {t : Text} (h : writeLiteral sigil args strict p = .ok t) :
    unsplit (pieceParts sigil args p) = t := by
  cases p with
  | text u =>
    obtain rfl : u = t := Except.ok.inj h
    simp [pieceParts, text]
  | parameter name =>
    simp only [writeLiteral] at h
    simp only [pieceParts]
    cases hv : args.lookup? name with
    | some v =>
      rw [hv] at h
      rw [← Except.ok.inj h]
      exact unsplit_segments _
    | none =>
      rw [hv] at h
      cases strict with
      | true => cases h
      | false =>
        rw [← Except.ok.inj h]
        simp [text]

theorem unsplit_pieces {sigil : Char} {args : Args} {strict : Bool} {ps : List Parameter.Piece}
    {ts : List Text} (h : ps.mapM (writeLiteral sigil args strict) = .ok ts) :
    unsplit (ps.flatMap (pieceParts sigil args)) = ts.flatten := by
  induction ps generalizing ts with
  | nil =>
    obtain rfl : [] = ts := Except.ok.inj h
    rfl
  | cons p ps ih =>
    rw [List.mapM_cons] at h
    cases hp : writeLiteral sigil args strict p with
    | error e => rw [hp] at h; cases h
    | ok t =>
      cases hps : ps.mapM (writeLiteral sigil args strict) with
      | error e => rw [hp, hps] at h; cases h
      | ok us =>
        rw [hp, hps] at h
        obtain rfl : t :: us = ts := Except.ok.inj h
        rw [List.flatMap_cons, unsplit_append, unsplit_pieceParts hp, ih hps, List.flatten_cons]

theorem unsplit_split (sigil : Char) (args : Args) (sql : Text) :
    unsplit ((Parameter.split sigil sql).flatMap (pieceParts sigil args)) =
      unsplit ((segments sql).flatMap (segmentParts sigil args)) := by
  rw [Parameter.split]
  induction segments sql with
  | nil => rfl
  | cons s ss ih =>
    rw [List.flatMap_cons, List.flatMap_append, List.flatMap_cons, unsplit_append, unsplit_append,
      ih]
    cases s with
    | plain t => rfl
    | inert t => rfl

/-- The filled text is made up of the segments that its parts leave. -/
theorem unsplit_of_inline {sigil : Char} {sql : Text} {args : Args} {strict : Bool} {out : Text}
    (h : inline sigil sql args strict = .ok out) :
    unsplit ((segments sql).flatMap (segmentParts sigil args)) = out := by
  rw [inline] at h
  cases hps : (Parameter.split sigil sql).mapM (writeLiteral sigil args strict) with
  | error e => rw [hps] at h; cases h
  | ok ts =>
    rw [hps] at h
    rw [← unsplit_split, unsplit_pieces hps]
    exact Except.ok.inj h

theorem regional_append {ss rest : List Segment} (h : Literal.Tame ss) (hrest : Regional rest) :
    Regional (ss ++ rest) := by
  induction ss with
  | nil => exact hrest
  | cons s ss ih =>
    cases s with
    | plain t => exact ih h.2
    | inert t =>
      obtain ⟨⟨s, rfl⟩, -, hss⟩ := h
      exact ⟨fun hf => region?_quoteText (hf.1 (Or.inl rfl)) s, ih hss⟩

theorem regional_pieces (sigil : Char) (args : Args) (ps : List Parameter.Piece)
    {rest : List Segment} (hrest : Regional rest) :
    Regional (ps.flatMap (pieceParts sigil args) ++ rest) := by
  induction ps with
  | nil => exact hrest
  | cons p ps ih =>
    rw [List.flatMap_cons, List.append_assoc]
    cases p with
    | text t => exact ih
    | parameter name =>
      simp only [pieceParts]
      cases args.lookup? name with
      | some v => exact regional_append (Literal.tame_segments_literal v) ih
      | none => exact ih

/-- A region of the text is one in the filled text, too, if what follows there leaves it alone. -/
theorem regional_filled (sigil : Char) (args : Args) {ss : List Segment} (h : Cut ss) :
    Regional (ss.flatMap (segmentParts sigil args)) := by
  induction ss with
  | nil => trivial
  | cons s ss ih =>
    rw [List.flatMap_cons]
    cases s with
    | plain t => exact regional_pieces sigil args _ (ih h.2.2.2)
    | inert t =>
      refine ⟨fun hf => ?_, ih h.2⟩
      by_cases hnil : unsplit ss = []
      · obtain rfl := eq_nil_of_unsplit h.2 hnil
        exact h.1
      · exact region?_change h.1 hnil hf

/-- Filling parameters in changes nothing about what is inert, exactly if the literals and their
neighbours leave each other alone. -/
theorem segments_inline_iff {sigil : Char} {sql : Text} {args : Args} {strict : Bool} {out : Text}
    (h : inline sigil sql args strict = .ok out) :
    segments out = filled sigil args sql ↔ Apart (filled sigil args sql) := by
  rw [← unsplit_of_inline h]
  exact segments_unsplit_merge_iff (regional_filled sigil args (cut_segments sql))

/-- A quote in a string stays inside the literal, and what stands behind it stays code. -/
theorem segments_inline_quote :
    inline ':' "a = :x -- b".toList (.ofList [("x".toList, .string "it's".toList)]) true =
        .ok "a = 'it''s' -- b".toList ∧
      (segments "a = 'it''s' -- b".toList =
          filled ':' (.ofList [("x".toList, .string "it's".toList)]) "a = :x -- b".toList ↔
        Apart (filled ':' (.ofList [("x".toList, .string "it's".toList)])
          "a = :x -- b".toList)) := by
  have h : inline ':' "a = :x -- b".toList (.ofList [("x".toList, .string "it's".toList)]) true =
      .ok "a = 'it''s' -- b".toList := by cbv
  exact ⟨h, segments_inline_iff h⟩

/-- Behind a dash, the sign of a negative number opens a comment. -/
theorem segments_inline_dash_ne :
    isSigil ':' = true ∧
      inline ':' "1-:x".toList (.ofList [("x".toList, .number (.integer (-1)))]) true =
        .ok "1--1".toList ∧
      segments "1--1".toList ≠
        filled ':' (.ofList [("x".toList, .number (.integer (-1)))]) "1-:x".toList := by
  have hsegments : segments "1--1".toList = [.plain ['1'], .inert "--1".toList] := by cbv
  have hfilled : filled ':' (.ofList [("x".toList, .number (.integer (-1)))]) "1-:x".toList =
      [.plain "1--1".toList] := by cbv
  refine ⟨by cbv, by cbv, ?_⟩
  rw [hsegments, hfilled]
  decide

end SqlTemplate.Statement
