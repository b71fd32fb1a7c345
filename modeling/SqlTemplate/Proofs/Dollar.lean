import SqlTemplate.Proofs.Cleanup
import SqlTemplate.Proofs.Naming
import SqlTemplate.Proofs.Renders

/-!
SQL without dollar signs.  It has no placeholders to expand, and rendering brings none in: names
are made of name characters and of what the references are made of.
-/
namespace SqlTemplate

namespace Placeholder

theorem mapPlain_of_notMem (f : Placeholder → Option Text) {ss : List Segment}
    (h : '$' ∉ Segment.unsplit ss) : Segment.mapPlain (fill f) ss = Segment.unsplit ss := by
  induction ss with
  | nil => rfl
  | cons s ss ih =>
    rw [Segment.unsplit_cons, List.mem_append, not_or] at h
    have hrest := ih h.2
    rw [Segment.mapPlain] at hrest ⊢
    rw [List.flatMap_cons, hrest, Segment.unsplit_cons]
    cases s with
    | inert t => rfl
    | plain t => exact congrArg (· ++ Segment.unsplit ss) (fill_of_notMem f h.1)

/-- SQL without dollar signs is its own expansion. -/
theorem expand_of_notMem {sql : Text} (h : '$' ∉ sql) (args : Args) (constants : Dict Text) :
    expand args constants sql = sql := by
  have hfix : overPlain (fill (resolve args constants)) sql = sql := by
    rw [overPlain, mapPlain_of_notMem _ (by rwa [unsplit_segments]), unsplit_segments]
  rw [expand, rounds, settle, if_pos hfix]

end Placeholder

namespace Text

theorem notMem_join {c : Char} {sep : Text} {ts : List Text} (hsep : c ∉ sep)
    (h : ∀ t ∈ ts, c ∉ t) : c ∉ join sep ts := by
  induction ts with
  | nil => simp
  | cons t ts ih =>
    cases ts with
    | nil => simpa using h
    | cons u ts =>
      have hrest := ih fun w hw => h w (List.mem_cons_of_mem t hw)
      simp only [join_cons_cons, List.mem_append, not_or]
      exact ⟨⟨h t List.mem_cons_self, hsep⟩, hrest⟩

end Text

namespace Template

/-- A piece as it stood in the text. -/
def Reference.Piece.source (sigil : Char) : Piece → Text
  | .char c => [c]
  | .kept r => r.text
  | .placeholder mark r => '$' :: '{' :: mark.text ++ r.text ++ ['}']
  | .parameter r => sigil :: r.text

/-- Splitting at the parameters of loop variables loses nothing. -/
theorem Reference.flatMap_source_splitParameters (sigil : Char) (vars : List Text)
    (last : Option Char) (t : Text) :
    (splitParameters sigil vars last t).flatMap (Piece.source sigil) = t := by
  induction last, t using splitParameters.induct sigil vars with
  | case1 => simp
  | case2 last rest r rest' h _ ih =>
    obtain ⟨hrest, -⟩ := readParameter?_spec h
    rw [splitParameters_reference h, List.flatMap_append, ih, hrest]
    split <;> simp [Piece.source]
  | case3 last rest h ih =>
    rw [splitParameters_char fun _ => h, List.flatMap_cons, ih]
    rfl
  | case4 last c rest hc ih =>
    rw [splitParameters_char fun h => absurd h hc, List.flatMap_cons, ih]
    rfl

namespace Naming

/-- Whether the names given so far have no dollar sign. -/
def Dollarless (given : Dict Text) : Prop := ∀ t name, given.get? t = some name → '$' ∉ name

variable {header : LoopHeader} {sigil : Char} {e : Element} {n : Naming}

theorem dollarless_nameOf (hn : Dollarless n.given) {r : Reference} (hr : '$' ∉ r.text) :
    '$' ∉ (nameOf header e r n).1 ∧ Dollarless (nameOf header e r n).2.given := by
  rcases nameOf_cases header e r n with ⟨name, hgiven, heq⟩ | ⟨-, heq⟩
  · rw [heq]
    exact ⟨hn _ _ hgiven, hn⟩
  · have hnew : '$' ∉ freshName (baseName e r) e.scope n.bound := by
      obtain ⟨⟨i, hi⟩, -, -⟩ := freshName_spec (baseName e r) e.scope n.bound
      rw [Reference.text, List.mem_append, not_or] at hr
      rw [hi]
      intro hd
      rcases mem_numbered hd with h | h | ⟨h, -⟩
      · exact absurd h (by decide)
      · exact hr.1 h
      · exact hr.2 h
    rw [heq]
    refine ⟨hnew, fun t name ht => ?_⟩
    rw [Dict.get?_insert] at ht
    split at ht
    · obtain rfl := Option.some.inj ht
      exact hnew
    · exact hn t name ht

theorem dollarless_write (hn : Dollarless n.given) {p : Reference.Piece}
    (hp : '$' ∉ p.source sigil) :
    '$' ∉ (write header sigil e p n).1 ∧ Dollarless (write header sigil e p n).2.given := by
  cases p with
  | char c => exact ⟨hp, hn⟩
  | kept r => exact ⟨hp, hn⟩
  | placeholder mark r => simp [Reference.Piece.source] at hp
  | parameter r =>
    rw [Reference.Piece.source, List.mem_cons, not_or] at hp
    obtain ⟨hname, hgiven⟩ := @dollarless_nameOf header e n hn r hp.2
    exact ⟨List.not_mem_cons_of_ne_of_not_mem hp.1 hname, hgiven⟩

theorem dollarless_writeAll (hn : Dollarless n.given) {ps : List Reference.Piece}
    (hps : '$' ∉ ps.flatMap (Reference.Piece.source sigil)) :
    '$' ∉ (writeAll header sigil e ps n).1 ∧ Dollarless (writeAll header sigil e ps n).2.given := by
  induction ps generalizing n with
  | nil => exact ⟨by simp [writeAll, pure, StateT.pure], hn⟩
  | cons p ps ih =>
    rw [List.flatMap_cons, List.mem_append, not_or] at hps
    obtain ⟨ht, hgiven⟩ := @dollarless_write header sigil e n hn p hps.1
    obtain ⟨hmore, hgiven'⟩ := ih hgiven hps.2
    rw [writeAll_cons]
    exact ⟨by simp [ht, hmore], hgiven'⟩

theorem dollarless_renamePlain (hn : Dollarless n.given) {t : Text} (ht : '$' ∉ t) :
    '$' ∉ (renamePlain header sigil e t n).1 ∧
      Dollarless (renamePlain header sigil e t n).2.given := by
  rw [renamePlain_of_notMem ht]
  refine dollarless_writeAll hn ?_
  rwa [Reference.flatMap_source_splitParameters]

theorem dollarless_renameSegments (hn : Dollarless n.given) {ss : List Segment}
    (hss : '$' ∉ Segment.unsplit ss) :
    '$' ∉ (renameSegments header sigil e ss n).1 := by
  induction ss generalizing n with
  | nil => simp [renameSegments, pure, StateT.pure]
  | cons s ss ih =>
    rw [Segment.unsplit_cons, List.mem_append, not_or] at hss
    cases s with
    | inert t =>
      change '$' ∉ t ++ (renameSegments header sigil e ss n).1
      rw [List.mem_append, not_or]
      exact ⟨hss.1, ih hn hss.2⟩
    | plain t =>
      obtain ⟨hplain, hgiven⟩ := @dollarless_renamePlain header sigil e n hn t hss.1
      change '$' ∉ (renamePlain header sigil e t n).1 ++
        (renameSegments header sigil e ss (renamePlain header sigil e t n).2).1
      rw [List.mem_append, not_or]
      exact ⟨hplain, ih hgiven hss.2⟩

/-- Renaming brings no dollar sign into the text of an element. -/
theorem dollar_notMem_rename {t t' : Text} {bound bound' : Args} (ht : '$' ∉ t)
    (h : rename header sigil e t bound = (t', bound')) : '$' ∉ t' := by
  rw [rename_run] at h
  obtain ⟨rfl, -⟩ := Prod.mk.inj h
  refine dollarless_renameSegments (fun _ _ h => by simp at h) ?_
  rwa [unsplit_segments]

end Naming

variable {ctx : Condition.Context} {sigil : Char} {scope args : Args} {p q : Progress}

/-- Neither does a loop, nor any other part of a template. -/
theorem Renders.dollar_notMem {task : Task} {ls : List Text}
    (h : Renders ctx sigil scope task p ls q)
    (htask : task.Every (fun l => '$' ∉ l) fun header => '$' ∉ header.delimiter) :
    ∀ l ∈ ls, '$' ∉ l := by
  induction h with
  | text line => simpa [Task.Every, Block.Every] using htask
  | guarded holds lines ih =>
    simp only [Task.Every, Block.Every] at htask ih
    exact ih htask
  | skipped | absent | nil | done => simp
  | @choose scope branches otherwise p q ls lines ih =>
    cases otherwise with
    | none =>
      simp only [Task.Every, Block.Every] at htask ih
      exact ih ⟨htask, trivial⟩
    | some bs =>
      simp only [Task.Every, Block.Every] at htask ih
      exact ih htask
  | loop items elements ih =>
    simp only [Task.Every, Block.Every] at htask ih
    have htexts := ih htask
    rw [loopLines]
    split
    · simp
    · rintro l hl
      obtain rfl := List.mem_singleton.1 hl
      exact Text.notMem_join htask.1 htexts
  | cons first more ih₁ ih₂ =>
    intro l hl
    exact (List.mem_append.1 hl).elim (ih₁ htask.1 l) (ih₂ htask.2 l)
  | otherwise lines ih => exact ih htask.2
  | taken holds lines ih => exact ih htask.1.1
  | missed fails lines ih => exact ih ⟨htask.1.2, htask.2⟩
  | dropped fails more ih => exact ih htask
  | kept holds lines rename more ih₁ ih₂ =>
    intro l hl
    rcases List.mem_cons.1 hl with rfl | hl
    · exact Naming.dollar_notMem_rename (Text.notMem_join (by decide) (ih₁ htask.2)) rename
    · exact ih₂ htask l hl

/-- A template without dollar signs is rendered to SQL without any. -/
theorem dollar_notMem_render {t : Text} {blocks : Template}
    (hparse : Template.parse t = .ok blocks) (hdollar : '$' ∉ t) {rendering : Rendering}
    (h : render ctx sigil blocks args = .ok rendering) : '$' ∉ rendering.sql := by
  have hevery : Every (fun l => '$' ∉ l) (fun header => '$' ∉ header.delimiter) blocks := by
    refine Every.imp (fun l (hl : l ⊆ t) hd => hdollar (hl hd)) (fun header hh hd => ?_) blocks
      (every_of_parse hparse)
    rcases List.mem_append.1 (hh.2 hd) with hd | hd
    · simp [LoopHeader.delimiterExtras] at hd
    · exact hdollar hd
  obtain ⟨ls, q, hls, hsql, -⟩ := renders_of_render h
  rw [hsql, Text.unlines]
  exact Text.notMem_join (by decide) (hls.dollar_notMem hevery)

end Template

end SqlTemplate
