import Mathlib
import SqlTemplate.Proofs.Parameter
import SqlTemplate.Renderer

/-!
The statement with question marks and the SQL with literals are written into the same gaps: both
come from the expanded SQL by putting something else in the place of its parameters.
-/
namespace SqlTemplate

/-- Texts in turn, the ones of the second list between those of the first. -/
def weave : List Text → List Text → Text
  | gap :: gaps, t :: ts => gap ++ t ++ weave gaps ts
  | gaps, _ => gaps.flatten

namespace Parameter

/-- The texts in front of, between and behind the parameters. -/
def gaps : List Piece → List Text
  | [] => [[]]
  | .text t :: ps => (gaps ps).modifyHead (t ++ ·)
  | .parameter _ :: ps => [] :: gaps ps

def namesOf (ps : List Piece) : List Text :=
  ps.filterMap fun
    | .text _ => none
    | .parameter name => some name

theorem names_eq (sigil : Char) (sql : Text) : names sigil sql = namesOf (split sigil sql) := rfl

theorem length_gaps (ps : List Piece) : (gaps ps).length = (namesOf ps).length + 1 := by
  induction ps with
  | nil => rfl
  | cons p ps ih =>
    cases p with
    | text t => simpa [gaps, namesOf] using ih
    | parameter name => simpa [gaps, namesOf] using ih

theorem weave_modifyHead (t : Text) {gaps : List Text} (h : gaps ≠ []) (ts : List Text) :
    weave (gaps.modifyHead (t ++ ·)) ts = t ++ weave gaps ts := by
  cases gaps with
  | nil => exact absurd rfl h
  | cons gap gaps => cases ts <;> simp [weave]

/-- Pieces written with any text in the place of each parameter. -/
theorem flatMap_eq_weave (write : Piece → Text) (fill : Text → Text)
    (htext : ∀ t, write (.text t) = t) (hfill : ∀ name, write (.parameter name) = fill name)
    (ps : List Piece) : ps.flatMap write = weave (gaps ps) ((namesOf ps).map fill) := by
  induction ps with
  | nil => rfl
  | cons p ps ih =>
    cases p with
    | text t =>
      have hne : gaps ps ≠ [] := by
        intro h
        simpa [h] using length_gaps ps
      rw [List.flatMap_cons, ih, htext]
      exact (weave_modifyHead t hne _).symm
    | parameter name => rw [List.flatMap_cons, ih, hfill]; rfl

theorem source_eq_weave (sigil : Char) (sql : Text) :
    sql = weave (gaps (split sigil sql)) ((names sigil sql).map (sigil :: ·)) := by
  conv => lhs; rw [← flatMap_source_split sigil sql]
  exact flatMap_eq_weave (Piece.source sigil) (sigil :: ·) (fun _ => rfl) (fun _ => rfl) _

end Parameter

namespace Statement

open Parameter

theorem sql_eq_weave (sigil : Char) (sql : Text) (args : Args) :
    (ofSql sigil sql args).sql =
      weave (gaps (split sigil sql)) ((Parameter.names sigil sql).map fun _ => ['?']) := by
  rw [sql_ofSql]
  exact flatMap_eq_weave writePositional (fun _ => ['?']) (fun _ => rfl) (fun _ => rfl) _

/-- What a parameter becomes: the literal of its value, or itself if it has none. -/
def literalOf (sigil : Char) (args : Args) (name : Text) : Text :=
  ((args.lookup? name).map Value.literal).getD (sigil :: name)

theorem map_literalOf (sigil : Char) {args : Args} {names : List Text} {vs : List Value}
    (h : names.map args.lookup? = vs.map some) :
    names.map (literalOf sigil args) = vs.map Value.literal := by
  induction names generalizing vs with
  | nil =>
    obtain rfl : vs = [] := by simpa using h.symm
    rfl
  | cons name names ih =>
    cases vs with
    | nil => cases h
    | cons v vs =>
      simp only [List.map_cons, List.cons.injEq] at h ⊢
      exact ⟨by rw [literalOf, h.1]; rfl, ih h.2⟩

/-- A piece with its parameter as a literal. -/
def written (sigil : Char) (args : Args) : Piece → Text
  | .text t => t
  | .parameter name => literalOf sigil args name

/-- The first of the names that strict mode refuses. -/
def refused? (args : Args) (strict : Bool) (names : List Text) : Option Text :=
  names.find? fun name => strict && (args.lookup? name).isNone

theorem refused?_cons_of_some {args : Args} {name : Text} {v : Value}
    (h : args.lookup? name = some v) (strict : Bool) (names : List Text) :
    refused? args strict (name :: names) = refused? args strict names :=
  List.find?_cons_of_neg (by simp [h])

theorem refused?_lenient (args : Args) (names : List Text) : refused? args false names = none :=
  List.find?_eq_none.2 (by simp)

/-- Strict mode refuses nothing exactly if every name has a value. -/
theorem refused?_strict_eq_none {args : Args} {names : List Text} :
    refused? args true names = none ↔ ∀ name ∈ names, args.lookup? name ≠ none := by
  simp [refused?]

theorem mapM_writeLiteral (sigil : Char) (args : Args) (strict : Bool) (ps : List Piece) :
    ps.mapM (writeLiteral sigil args strict) =
      match refused? args strict (namesOf ps) with
      | some name => .error (.missingArgument name)
      | none => .ok (ps.map (written sigil args)) := by
  induction ps with
  | nil => rfl
  | cons p ps ih =>
    rw [List.mapM_cons, ih]
    cases p with
    | text t =>
      have hnames : namesOf (.text t :: ps) = namesOf ps := rfl
      rw [hnames]
      cases refused? args strict (namesOf ps) <;> rfl
    | parameter name =>
      have hnames : namesOf (.parameter name :: ps) = name :: namesOf ps := rfl
      rw [hnames]
      cases hv : args.lookup? name with
      | some v =>
        rw [refused?_cons_of_some hv]
        simp only [writeLiteral, hv, List.map_cons, written, literalOf]
        cases refused? args strict (namesOf ps) <;> rfl
      | none =>
        cases strict with
        | true => simp [refused?, writeLiteral, hv, bind, Except.bind]
        | false =>
          simp only [refused?_lenient, writeLiteral, hv, List.map_cons, written, literalOf]
          rfl

/-- Writing literals fails for the first name that is refused, and else it fills the gaps. -/
theorem inline_eq (sigil : Char) (sql : Text) (args : Args) (strict : Bool) :
    inline sigil sql args strict =
      match refused? args strict (Parameter.names sigil sql) with
      | some name => .error (.missingArgument name)
      | none =>
        .ok (weave (gaps (split sigil sql))
          ((Parameter.names sigil sql).map (literalOf sigil args))) := by
  rw [inline, mapM_writeLiteral, ← names_eq]
  cases refused? args strict (Parameter.names sigil sql) with
  | some name => rfl
  | none =>
    rw [names_eq, ← flatMap_eq_weave (written sigil args) (literalOf sigil args) (fun _ => rfl)
      (fun _ => rfl), List.flatMap_def]
    rfl

end Statement

namespace Renderer

open Parameter Statement

variable {r : Renderer} {t : Text} {args : Args}

theorem inlineText_error {e : Error} (h : r.prepareText t args = .error e) :
    r.inlineText t args = .error e := by
  simp only [prepareText, prepare, inlineText, inline, bind, Except.bind] at h ⊢
  cases hp : Template.parse t with
  | error e' => simpa [hp] using h
  | ok blocks =>
    cases hr : r.render blocks args with
    | error e' => simpa [hp, hr] using h
    | ok rendering => simp [hp, hr, pure, Except.pure] at h

/-- Both ways of rendering read their parameters from the same text. -/
theorem inlineText_eq_inline {s : Statement} (h : r.prepareText t args = .ok s) :
    s = ofSql r.sigil s.source s.args ∧
      r.inlineText t args = Statement.inline r.sigil s.source s.args r.context.strict := by
  simp only [prepareText, prepare, inlineText, inline, bind, Except.bind] at h ⊢
  cases hp : Template.parse t with
  | error e => simp [hp] at h
  | ok blocks =>
    cases hr : r.render blocks args with
    | error e => simp [hp, hr] at h
    | ok rendering =>
      simp only [hp, hr] at h ⊢
      obtain rfl := Except.ok.inj h
      rw [source_ofSql, args_ofSql]
      exact ⟨rfl, rfl⟩

/-- The two ways of rendering agree.  Where one fails before parameters are filled in, the other
fails alike; and else there are gaps into which one writes question marks and the other literals,
or fails for the first name without a value, or in lenient mode keeps its parameter. -/
theorem inlineText_eq_weave (r : Renderer) (t : Text) (args : Args) :
    (∀ e, r.prepareText t args = .error e → r.inlineText t args = .error e) ∧
    ∀ s, r.prepareText t args = .ok s →
      ∃ gaps : List Text, gaps.length = s.names.length + 1 ∧
        s.source = weave gaps (s.names.map (r.sigil :: ·)) ∧
        s.sql = weave gaps (s.names.map fun _ => ['?']) ∧
        (r.context.strict = true →
          ((∃ out, r.inlineText t args = .ok out) ↔ ∀ name ∈ s.names, s.args.lookup? name ≠ none) ∧
          (∀ vs : List Value, s.values = vs.map some →
            r.inlineText t args = .ok (weave gaps (vs.map Value.literal))) ∧
          (∀ name, s.names.find? (fun n => (s.args.lookup? n).isNone) = some name →
            r.inlineText t args = .error (.missingArgument name))) ∧
        (r.context.strict = false →
          r.inlineText t args = .ok (weave gaps (s.names.map fun name =>
            ((s.args.lookup? name).map Value.literal).getD (r.sigil :: name)))) := by
  refine ⟨fun e => inlineText_error, fun s hs => ?_⟩
  obtain ⟨hof, hinline⟩ := inlineText_eq_inline hs
  have hnames : s.names = Parameter.names r.sigil s.source := by
    conv => lhs; rw [hof, names_ofSql]
  refine ⟨gaps (split r.sigil s.source), ?_, ?_, ?_, fun hstrict => ?_, fun hlenient => ?_⟩
  · rw [hnames, names_eq, length_gaps]
  · rw [hnames]
    exact source_eq_weave r.sigil s.source
  · rw [hnames]
    conv => lhs; rw [hof]
    exact sql_eq_weave r.sigil s.source s.args
  · rw [hinline, inline_eq, ← hnames, hstrict]
    refine ⟨?_, fun vs hvs => ?_, fun name hname => ?_⟩
    · rw [← refused?_strict_eq_none]
      cases refused? s.args true s.names <;> simp
    · have hvalue : s.names.map s.args.lookup? = vs.map some := hvs
      have hnone : refused? s.args true s.names = none := by
        refine refused?_strict_eq_none.2 fun name hmem => ?_
        have hin : s.args.lookup? name ∈ vs.map some := hvalue ▸ List.mem_map_of_mem hmem
        obtain ⟨v, -, hv⟩ := List.mem_map.1 hin
        simp [← hv]
      rw [hnone]
      simp only [map_literalOf r.sigil hvalue]
    · simp only [refused?, Bool.true_and, hname]
  · rw [hinline, inline_eq, ← hnames, hlenient, refused?_lenient]
    rfl

theorem inlineText_eq_weave_one :
    ∃ gaps : List Text, gaps.length = 2 ∧ "a = :x".toList = weave gaps [":x".toList] ∧
      inlineText ⟨':', ∅, true, Pipes.builtin⟩ "a = :x".toList
        (.ofList [("x".toList, .ofNat 5)]) = .ok (weave gaps ["5".toList]) := by
  have hs : prepareText ⟨':', ∅, true, Pipes.builtin⟩ "a = :x".toList
      (.ofList [("x".toList, .ofNat 5)]) =
      .ok ⟨"a = :x".toList, "a = ?".toList, ["x".toList], .ofList [("x".toList, [1])],
        .ofList [("x".toList, .ofNat 5)]⟩ := by
    cbv
  obtain ⟨gaps, hlength, hsource, -, hstrict, -⟩ := (inlineText_eq_weave _ _ _).2 _ hs
  exact ⟨gaps, hlength, hsource, (hstrict rfl).2.1 [.ofNat 5] (by cbv)⟩

end Renderer

end SqlTemplate
