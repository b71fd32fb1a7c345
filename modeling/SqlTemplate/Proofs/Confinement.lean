import Mathlib
import SqlTemplate.Proofs.Agreement
import SqlTemplate.Proofs.Dollar

/-!
Values never reach prepared SQL.  The text and the names of a statement are a matter of the shape
of the arguments, as long as no condition tells them apart and no placeholder puts them into the
text itself.
-/
namespace SqlTemplate.Renderer

open Template (Answered)

/-- In a template without dollar signs, the arguments have no part in what is made of the rendered
text. -/
theorem map_prepareText (r : Renderer) {t : Text} {blocks : Template}
    (hparse : Template.parse t = .ok blocks) (hdollar : '$' ∉ t) (args : Args) :
    (r.prepareText t args).map (fun s => (s.sql, s.names)) =
      ((blocks.render r.context r.sigil args).map Rendering.sql).map fun sql =>
        ((Statement.ofSql r.sigil (cleanup sql) ∅).sql,
          (Statement.ofSql r.sigil (cleanup sql) ∅).names) := by
  have hprepare : r.prepareText t args = r.prepare blocks args := by
    rw [prepareText, hparse]
    rfl
  rw [hprepare, prepare, render]
  cases hrender : blocks.render r.context r.sigil args with
  | error e => rfl
  | ok rendering =>
    have hsql := Template.dollar_notMem_render hparse hdollar hrender
    have hclean : '$' ∉ cleanup rendering.sql := fun hd => by
      simpa [hsql] using cleanup_subset _ hd
    have hexpand : r.expand { rendering with sql := cleanup rendering.sql } =
        cleanup rendering.sql := Placeholder.expand_of_notMem hclean _ _
    change Except.ok (_, _) = Except.ok _
    simp only [hexpand, Statement.names_ofSql, Statement.sql_ofSql]

/-- Preparing tells no two maps of arguments of one shape apart that the conditions and filters of
the template do not tell apart: it fails with one error, or gives one text with one list of
names. -/
theorem prepareText_congr (r : Renderer) {t : Text} {blocks : Template}
    (hparse : Template.parse t = .ok blocks) (hdollar : '$' ∉ t) {args args' : Args}
    (hshape : Args.shape args = Args.shape args')
    (hasks : ∀ ask ∈ Template.asks [] blocks, Answered args args' ask) :
    (r.prepareText t args).map (fun s => (s.sql, s.names)) =
      (r.prepareText t args').map (fun s => (s.sql, s.names)) := by
  have hdot : Template.Every (fun _ => True) (fun header => ∀ v ∈ header.vars, '.' ∉ v) blocks :=
    Template.Every.imp (fun _ _ => trivial) (fun header hh v hv => (hh.1 v hv).1.dot_notMem) blocks
      (Template.every_of_parse hparse)
  rw [map_prepareText r hparse hdollar, map_prepareText r hparse hdollar,
    Template.render_congr hshape hdot hasks]

/-- Another number and another string leave the statement as it is. -/
theorem prepareText_congr_scalars :
    (prepareText ⟨':', ∅, true, Pipes.builtin⟩
        "--#if :admin\n:k\n--#fi\n--#for u of :us\n(:u.a)\n--#end".toList
        (.ofList [("admin".toList, .bool true), ("k".toList, .ofNat 1),
          ("us".toList, .array [.object [("a".toList, .ofNat 5)]])])).map
        (fun s => (s.sql, s.names)) =
      (prepareText ⟨':', ∅, true, Pipes.builtin⟩
        "--#if :admin\n:k\n--#fi\n--#for u of :us\n(:u.a)\n--#end".toList
        (.ofList [("admin".toList, .bool true), ("k".toList, .string "' or 1".toList),
          ("us".toList, .array [.object [("a".toList, .string "--".toList)]])])).map
        (fun s => (s.sql, s.names)) := by
  have hparse : Template.parse
      "--#if :admin\n:k\n--#fi\n--#for u of :us\n(:u.a)\n--#end".toList =
        .ok [.guarded ⟨":admin".toList, .test (.argument "admin".toList [])⟩ [.text ":k".toList],
          .loop ⟨"u".toList, none, "us".toList, ", ".toList, none⟩ [.text "(:u.a)".toList]] := by
    cbv
  refine prepareText_congr _ hparse (by decide) (by cbv) fun ask hask => ?_
  obtain rfl : ask = ⟨[], "admin".toList⟩ := by
    simpa [Template.asks, Block.asks, Formula.names, Operand.names, LoopHeader.asks] using hask
  exact ⟨by decide, by cbv⟩

end SqlTemplate.Renderer
