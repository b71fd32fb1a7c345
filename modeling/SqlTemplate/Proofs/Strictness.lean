import SqlTemplate.Proofs.Blocks

/-!
Strict and lenient renderings.  Every place that asks whether absent arguments are errors can only
turn an answer into an error, so what the strict rendering answers the lenient one answers too.
-/
namespace SqlTemplate

/-- Whether the first of two results is the second one, or else an error. -/
structure Stricter {ε α : Type} (x y : Except ε α) : Prop where
  eq_of_ok : ∀ a, x = .ok a → y = .ok a
  error_of_ne : x ≠ y → ∃ e, x = .error e

namespace Stricter

variable {ε ε' α β : Type} {x y : Except ε α}

theorem of_ok (h : ∀ a, x = .ok a → y = .ok a) : Stricter x y := by
  refine ⟨h, fun hne => ?_⟩
  cases x with
  | error e => exact ⟨e, rfl⟩
  | ok a => exact absurd (h a rfl).symm hne

theorem refl (x : Except ε α) : Stricter x x := of_ok fun _ h => h

theorem error (e : ε) (y : Except ε α) : Stricter (.error e) y := of_ok fun _ h => by cases h

theorem bind {f g : α → Except ε β} (h : Stricter x y) (hf : ∀ a, Stricter (f a) (g a)) :
    Stricter (x >>= f) (y >>= g) := by
  refine of_ok fun b hb => ?_
  obtain ⟨a, ha, hb⟩ := exists_of_bind_eq_ok hb
  rw [h.eq_of_ok a ha]
  exact (hf a).eq_of_ok b hb

theorem map (h : Stricter x y) (f : α → β) : Stricter (x.map f) (y.map f) := by
  refine of_ok fun b hb => ?_
  cases x with
  | error e => cases hb
  | ok a => rwa [h.eq_of_ok a rfl]

theorem mapM {f g : α → Except ε β} (h : ∀ a, Stricter (f a) (g a)) (as : List α) :
    Stricter (as.mapM f) (as.mapM g) := by
  induction as with
  | nil => exact .refl _
  | cons a as ih =>
    rw [List.mapM_cons, List.mapM_cons]
    exact (h a).bind fun b => ih.bind fun bs => .refl _

end Stricter

/-! Conditions. -/

namespace Condition

/-- The settings under which absent arguments are errors, and those under which they are null. -/
def Context.strictly (pipes : Pipes) : Context := ⟨true, pipes⟩

def Context.leniently (pipes : Pipes) : Context := ⟨false, pipes⟩

variable (pipes : Pipes) (args : Args)

/-- Pipes do not ask whether absent arguments are errors. -/
theorem applyPipes_strictly (names : List Text) (v : Value) :
    applyPipes (.strictly pipes) names v = applyPipes (.leniently pipes) names v := by
  induction names generalizing v with
  | nil => rfl
  | cons name names ih =>
    simp only [applyPipes, Context.strictly, Context.leniently]
    cases pipes.get? name with
    | none => rfl
    | some pipe => exact ih (pipe v)

theorem stricter_meaning (operand : Operand) :
    Stricter (meaning (.strictly pipes) args operand) (meaning (.leniently pipes) args operand) := by
  cases operand with
  | blank => exact .refl _
  | literal v => exact .refl _
  | argument name names =>
    rw [meaning, meaning]
    cases args.lookup? name with
    | some v =>
      dsimp only
      rw [applyPipes_strictly]
      exact .refl _
    | none => exact .error _ _

mutual

theorem stricter_eval : ∀ f : Formula,
    Stricter (eval (.strictly pipes) args f) (eval (.leniently pipes) args f)
  | .any parts => by
    rw [eval, eval]
    exact stricter_evalAny parts
  | .all parts => by
    rw [eval, eval]
    exact stricter_evalAll parts
  | .not part => by
    rw [eval, eval]
    exact (stricter_eval part).map _
  | .compare left op right => by
    rw [eval, eval]
    exact (stricter_meaning pipes args left).bind fun l =>
      (stricter_meaning pipes args right).bind fun r => .refl _
  | .test operand => by
    rw [eval, eval]
    exact (stricter_meaning pipes args operand).bind fun m => .refl _

theorem stricter_evalAny : ∀ parts : List Formula,
    Stricter (evalAny (.strictly pipes) args parts) (evalAny (.leniently pipes) args parts)
  | [] => by
    rw [evalAny, evalAny]
    exact .refl _
  | part :: parts => by
    rw [evalAny, evalAny]
    refine (stricter_eval part).bind fun holds => ?_
    cases holds with
    | true => exact .refl _
    | false => exact stricter_evalAny parts

theorem stricter_evalAll : ∀ parts : List Formula,
    Stricter (evalAll (.strictly pipes) args parts) (evalAll (.leniently pipes) args parts)
  | [] => by
    rw [evalAll, evalAll]
    exact .refl _
  | part :: parts => by
    rw [evalAll, evalAll]
    refine (stricter_eval part).bind fun holds => ?_
    cases holds with
    | true => exact stricter_evalAll parts
    | false => exact .refl _

end

theorem stricter_holds (c : Condition) :
    Stricter (c.holds (.strictly pipes) args) (c.holds (.leniently pipes) args) := by
  refine .of_ok fun b hb => ?_
  rw [holds] at hb ⊢
  cases heval : eval (.strictly pipes) args c.formula with
  | error e =>
    rw [heval] at hb
    cases e <;> cases hb
  | ok b' =>
    rw [heval] at hb
    rw [(stricter_eval pipes args c.formula).eq_of_ok b' heval]
    exact hb

end Condition

/-! Blocks. -/

namespace Template

/-- Whether one rendering is stricter than another one, whatever has been rendered before. -/
def Render.Stricter {α : Type} (m m' : Render α) : Prop := ∀ p, SqlTemplate.Stricter (m p) (m' p)

namespace Render.Stricter

variable {α β : Type}

theorem refl (m : Render α) : Render.Stricter m m := fun _ => .refl _

theorem bind {m m' : Render α} {f g : α → Render β} (h : Render.Stricter m m')
    (hf : ∀ a, Render.Stricter (f a) (g a)) : Render.Stricter (m >>= f) (m' >>= g) :=
  fun p => (h p).bind fun r => hf r.1 r.2

theorem lift {x y : Except Error α} (h : SqlTemplate.Stricter x y) :
    Render.Stricter (liftM x) (liftM y) := fun p => h.bind fun a => .refl (.ok (a, p))

end Render.Stricter

variable (pipes : Pipes)

theorem stricter_loopItems (scope : Args) (source : Text) :
    Stricter (loopItems (.strictly pipes) scope source)
      (loopItems (.leniently pipes) scope source) := by
  rw [loopItems, loopItems]
  split
  · exact .refl _
  · exact .error _ _
  · exact .error _ _
  · exact .refl _

theorem stricter_passes (header : LoopHeader) (scope : Args) :
    Stricter (passes (.strictly pipes) header scope) (passes (.leniently pipes) header scope) := by
  rw [passes, passes]
  cases header.filter with
  | none => exact .refl _
  | some filter => exact filter.stricter_holds pipes scope

variable (sigil : Char)

theorem stricter_renderElements (header : LoopHeader) (scope : Args) (loop : Nat)
    {body body' : Args → Render (List Text)} (hbody : ∀ inner, (body inner).Stricter (body' inner))
    (position : Nat) (items : List Value) :
    Render.Stricter
      (renderElements (.strictly pipes) sigil header scope loop body position items)
      (renderElements (.leniently pipes) sigil header scope loop body' position items) := by
  induction items generalizing position with
  | nil => exact .refl _
  | cons item items ih =>
    rw [renderElements, renderElements]
    refine Render.Stricter.bind (.lift (stricter_passes pipes header _)) fun pass => ?_
    cases pass with
    | false => exact ih (position + 1)
    | true =>
      exact (hbody _).bind fun ls => (Render.Stricter.refl _).bind fun p =>
        (Render.Stricter.refl _).bind fun _ => (ih (position + 1)).bind fun more => .refl _

mutual

theorem stricter_renderBlock : ∀ (b : Block) (scope : Args),
    Render.Stricter (renderBlock (.strictly pipes) sigil scope b)
      (renderBlock (.leniently pipes) sigil scope b)
  | .text line, scope => by
    rw [renderBlock, renderBlock]
    exact .refl _
  | .guarded c body, scope => by
    rw [renderBlock, renderBlock]
    refine Render.Stricter.bind (.lift (c.stricter_holds pipes scope)) fun holds => ?_
    cases holds with
    | true => exact stricter_renderBlocks body scope
    | false => exact .refl _
  | .choose branches none, scope => by
    rw [renderBlock, renderBlock]
    exact stricter_renderBranches branches scope (.refl _)
  | .choose branches (some otherwise), scope => by
    rw [renderBlock, renderBlock]
    exact stricter_renderBranches branches scope (stricter_renderBlocks otherwise scope)
  | .loop header body, scope => by
    rw [renderBlock, renderBlock, renderLoop, renderLoop]
    refine (Render.Stricter.refl _).bind fun p => (Render.Stricter.refl _).bind fun _ => ?_
    refine Render.Stricter.bind (.lift (stricter_loopItems pipes scope header.source))
      fun items => ?_
    cases items with
    | none => exact .refl _
    | some items =>
      refine Render.Stricter.bind ?_ fun texts => .refl _
      exact stricter_renderElements pipes sigil header scope p.loops
        (fun inner => stricter_renderBlocks body inner) 0 items

theorem stricter_renderBlocks : ∀ (bs : List Block) (scope : Args),
    Render.Stricter (renderBlocks (.strictly pipes) sigil scope bs)
      (renderBlocks (.leniently pipes) sigil scope bs)
  | [], scope => by
    rw [renderBlocks, renderBlocks]
    exact .refl _
  | b :: bs, scope => by
    rw [renderBlocks, renderBlocks]
    exact (stricter_renderBlock b scope).bind fun lines =>
      (stricter_renderBlocks bs scope).bind fun more => .refl _

theorem stricter_renderBranches : ∀ (branches : List (Condition × List Block)) (scope : Args)
    {otherwise otherwise' : Render (List Text)}, otherwise.Stricter otherwise' →
    Render.Stricter (renderBranches (.strictly pipes) sigil scope otherwise branches)
      (renderBranches (.leniently pipes) sigil scope otherwise' branches)
  | [], scope, _, _, h => by
    rw [renderBranches, renderBranches]
    exact h
  | (c, body) :: rest, scope, _, _, h => by
    rw [renderBranches, renderBranches]
    refine Render.Stricter.bind (.lift (c.stricter_holds pipes scope)) fun holds => ?_
    cases holds with
    | true => exact stricter_renderBlocks body scope
    | false => exact stricter_renderBranches rest scope h

end

theorem stricter_render (blocks : Template) (args : Args) :
    Stricter (render (.strictly pipes) sigil blocks args)
      (render (.leniently pipes) sigil blocks args) :=
  (stricter_renderBlocks pipes sigil blocks args ⟨0, ∅⟩).bind fun _ => .refl _

end Template

/-! Statements. -/

theorem Statement.stricter_inline (sigil : Char) (sql : Text) (args : Args) :
    Stricter (inline sigil sql args true) (inline sigil sql args false) := by
  refine Stricter.bind (.mapM (fun piece => ?_) _) fun ts => .refl _
  cases piece with
  | text t => exact .refl _
  | parameter name =>
    rw [writeLiteral, writeLiteral]
    cases args.lookup? name with
    | some v => exact .refl _
    | none => exact .error _ _

namespace Renderer

/-- Of two renderers that differ in strictness alone, the strict one gives what the lenient one
gives, or an error, whether a template is rendered, made a statement or made SQL with literals, and
whether it is given as a tree or as a text. -/
theorem stricter_of_strictly (sigil : Char) (constants : Dict Text) (pipes : Pipes) (args : Args) :
    let strict : Renderer := ⟨sigil, constants, .strictly pipes⟩
    let lenient : Renderer := ⟨sigil, constants, .leniently pipes⟩
    (∀ t : Template, Stricter (strict.render t args) (lenient.render t args) ∧
      Stricter (strict.prepare t args) (lenient.prepare t args) ∧
      Stricter (strict.inline t args) (lenient.inline t args)) ∧
    ∀ t : Text, Stricter (strict.prepareText t args) (lenient.prepareText t args) ∧
      Stricter (strict.inlineText t args) (lenient.inlineText t args) := by
  intro strict lenient
  have hrender : ∀ t, Stricter (strict.render t args) (lenient.render t args) := fun t =>
    (Template.stricter_render pipes sigil t args).bind fun rendering => .refl _
  have hprepare : ∀ t, Stricter (strict.prepare t args) (lenient.prepare t args) := fun t =>
    (hrender t).bind fun rendering => .refl _
  have hinline : ∀ t, Stricter (strict.inline t args) (lenient.inline t args) := fun t =>
    (hrender t).bind fun rendering => Statement.stricter_inline sigil _ rendering.args
  refine ⟨fun t => ⟨hrender t, hprepare t, hinline t⟩, fun t => ⟨?_, ?_⟩⟩
  · exact (Stricter.refl (Template.parse t)).bind hprepare
  · exact (Stricter.refl (Template.parse t)).bind hinline

end Renderer

end SqlTemplate
