import SqlTemplate.Proofs.Blocks
import SqlTemplate.Template.Render

/-!
Rendering as a relation: which lines a part of a template leaves in a scope, and what it adds to
the arguments made so far.  A rendering that gives lines is a derivation, so that what every rule
keeps, every rendering keeps.
-/
namespace SqlTemplate.Template

/-- The parts of a template that are rendered one by one. -/
inductive Task where
  | block (b : Block)
  | blocks (bs : List Block)
  /-- Branches with the blocks that count if no condition holds. -/
  | branches (branches : List (Condition × List Block)) (otherwise : List Block)
  /-- The rest of the elements of a loop, the first of which is at `position`. -/
  | elements (header : LoopHeader) (loop : Nat) (body : List Block) (position : Nat)
    (items : List Value)

/-- Whether the lines of SQL and the loop headers in a part of a template have a property. -/
def Task.Every (line : Text → Prop) (header : LoopHeader → Prop) : Task → Prop
  | .block b => b.Every line header
  | .blocks bs => Template.Every line header bs
  | .branches rest bs => EveryBranch line header rest ∧ Template.Every line header bs
  | .elements h _ body _ _ => header h ∧ Template.Every line header body

/-- The lines of a loop whose elements have these texts. -/
def loopLines (header : LoopHeader) (texts : List Text) : List Text :=
  if texts.isEmpty then [] else [Text.join header.delimiter texts]

inductive Renders (ctx : Condition.Context) (sigil : Char) :
    Args → Task → Progress → List Text → Progress → Prop
  | text {scope : Args} {p : Progress} (line : Text) :
    Renders ctx sigil scope (.block (.text line)) p [line] p
  | guarded {scope : Args} {c : Condition} {body : List Block} {p q : Progress} {ls : List Text}
    (holds : c.holds ctx scope = .ok true) (lines : Renders ctx sigil scope (.blocks body) p ls q) :
    Renders ctx sigil scope (.block (.guarded c body)) p ls q
  | skipped {scope : Args} {c : Condition} {body : List Block} {p : Progress}
    (fails : c.holds ctx scope = .ok false) :
    Renders ctx sigil scope (.block (.guarded c body)) p [] p
  | choose {scope : Args} {branches : List (Condition × List Block)}
    {otherwise : Option (List Block)} {p q : Progress} {ls : List Text}
    (lines : Renders ctx sigil scope (.branches branches (otherwise.getD [])) p ls q) :
    Renders ctx sigil scope (.block (.choose branches otherwise)) p ls q
  | absent {scope : Args} {header : LoopHeader} {body : List Block} {p : Progress}
    (items : loopItems ctx scope header.source = .ok none) :
    Renders ctx sigil scope (.block (.loop header body)) p [] { p with loops := p.loops + 1 }
  | loop {scope : Args} {header : LoopHeader} {body : List Block} {p q : Progress}
    {values : List Value} {texts : List Text}
    (items : loopItems ctx scope header.source = .ok (some values))
    (elements : Renders ctx sigil scope (.elements header p.loops body 0 values)
      { p with loops := p.loops + 1 } texts q) :
    Renders ctx sigil scope (.block (.loop header body)) p (loopLines header texts) q
  | nil {scope : Args} {p : Progress} : Renders ctx sigil scope (.blocks []) p [] p
  | cons {scope : Args} {b : Block} {bs : List Block} {p q r : Progress} {ls ms : List Text}
    (first : Renders ctx sigil scope (.block b) p ls q)
    (more : Renders ctx sigil scope (.blocks bs) q ms r) :
    Renders ctx sigil scope (.blocks (b :: bs)) p (ls ++ ms) r
  | otherwise {scope : Args} {bs : List Block} {p q : Progress} {ls : List Text}
    (lines : Renders ctx sigil scope (.blocks bs) p ls q) :
    Renders ctx sigil scope (.branches [] bs) p ls q
  | taken {scope : Args} {c : Condition} {body bs : List Block}
    {rest : List (Condition × List Block)} {p q : Progress} {ls : List Text}
    (holds : c.holds ctx scope = .ok true) (lines : Renders ctx sigil scope (.blocks body) p ls q) :
    Renders ctx sigil scope (.branches ((c, body) :: rest) bs) p ls q
  | missed {scope : Args} {c : Condition} {body bs : List Block}
    {rest : List (Condition × List Block)} {p q : Progress} {ls : List Text}
    (fails : c.holds ctx scope = .ok false)
    (lines : Renders ctx sigil scope (.branches rest bs) p ls q) :
    Renders ctx sigil scope (.branches ((c, body) :: rest) bs) p ls q
  | done {scope : Args} {header : LoopHeader} {loop : Nat} {body : List Block} {position : Nat}
    {p : Progress} : Renders ctx sigil scope (.elements header loop body position []) p [] p
  | dropped {scope : Args} {header : LoopHeader} {loop : Nat} {body : List Block} {position : Nat}
    {item : Value} {items : List Value} {p q : Progress} {texts : List Text}
    (fails : passes ctx header (elementScope header scope item position) = .ok false)
    (more : Renders ctx sigil scope (.elements header loop body (position + 1) items) p texts q) :
    Renders ctx sigil scope (.elements header loop body position (item :: items)) p texts q
  | kept {scope : Args} {header : LoopHeader} {loop : Nat} {body : List Block} {position : Nat}
    {item : Value} {items : List Value} {p q r : Progress} {ls texts : List Text} {t : Text}
    {bound : Args}
    (holds : passes ctx header (elementScope header scope item position) = .ok true)
    (lines : Renders ctx sigil (elementScope header scope item position) (.blocks body) p ls q)
    (rename : Naming.rename header sigil
      ⟨item, position, loop, elementScope header scope item position⟩ (Text.unlines ls) q.bound =
        (t, bound))
    (more : Renders ctx sigil scope (.elements header loop body (position + 1) items)
      { q with bound } texts r) :
    Renders ctx sigil scope (.elements header loop body position (item :: items)) p (t :: texts) r

section

variable {α β : Type} {p q : Progress}

/-- What a rendering in two steps has done. -/
theorem exists_of_bind {m : Render α} {f : α → Render β} {b : β}
    (h : (m >>= f) p = .ok (b, q)) : ∃ a r, m p = .ok (a, r) ∧ f a r = .ok (b, q) := by
  obtain ⟨⟨a, r⟩, ha, hb⟩ := exists_of_bind_eq_ok (x := m p) (f := fun s => f s.1 s.2) h
  exact ⟨a, r, ha, hb⟩

/-- What does not render changes nothing. -/
theorem exists_of_lift {x : Except Error α} {f : α → Render β} {b : β}
    (h : (liftM x >>= f : Render β) p = .ok (b, q)) : ∃ a, x = .ok a ∧ f a p = .ok (b, q) := by
  cases x with
  | error e => cases h
  | ok a => exact ⟨a, rfl, h⟩

theorem of_get {f : Progress → Render β} {b : β} (h : (get >>= f) p = .ok (b, q)) :
    f p p = .ok (b, q) := h

theorem of_set {r : Progress} {f : PUnit → Render β} {b : β}
    (h : (set r >>= f) p = .ok (b, q)) : f ⟨⟩ r = .ok (b, q) := h

end

variable {ctx : Condition.Context} {sigil : Char} {scope : Args} {p q : Progress}
  {ls : List Text}

theorem renders_elements {header : LoopHeader} {loop : Nat} {body : List Block}
    (hbody : ∀ {scope p ls q}, renderBlocks ctx sigil scope body p = .ok (ls, q) →
      Renders ctx sigil scope (.blocks body) p ls q)
    {position : Nat} {items : List Value} {texts : List Text}
    (h : renderElements ctx sigil header scope loop (fun inner => renderBlocks ctx sigil inner body)
      position items p = .ok (texts, q)) :
    Renders ctx sigil scope (.elements header loop body position items) p texts q := by
  induction items generalizing position p texts with
  | nil =>
    obtain ⟨rfl, rfl⟩ := Prod.mk.inj (Except.ok.inj h)
    exact .done
  | cons item items ih =>
    rw [renderElements] at h
    obtain ⟨pass, hpass, h⟩ := exists_of_lift h
    cases pass with
    | false => exact .dropped hpass (ih h)
    | true =>
      obtain ⟨ls, r, hls, h⟩ := exists_of_bind h
      obtain ⟨more, r', hmore, h⟩ := exists_of_bind (of_set (of_get h))
      obtain ⟨rfl, rfl⟩ := Prod.mk.inj (Except.ok.inj h)
      exact .kept hpass (hbody hls) rfl (ih hmore)

mutual

theorem renders_block : ∀ (b : Block) {scope : Args} {p q : Progress} {ls : List Text},
    renderBlock ctx sigil scope b p = .ok (ls, q) → Renders ctx sigil scope (.block b) p ls q
  | .text line, scope, p, q, ls, h => by
    rw [renderBlock] at h
    obtain ⟨rfl, rfl⟩ := Prod.mk.inj (Except.ok.inj h)
    exact .text line
  | .guarded c body, scope, p, q, ls, h => by
    rw [renderBlock] at h
    obtain ⟨holds, hholds, h⟩ := exists_of_lift h
    cases holds with
    | true => exact .guarded hholds (renders_blocks body h)
    | false =>
      obtain ⟨rfl, rfl⟩ := Prod.mk.inj (Except.ok.inj h)
      exact .skipped hholds
  | .choose branches none, scope, p, q, ls, h => by
    rw [renderBlock] at h
    refine .choose (renders_branches branches (fun {p q ls} h => ?_) h)
    obtain ⟨rfl, rfl⟩ := Prod.mk.inj (Except.ok.inj h)
    exact .nil
  | .choose branches (some bs), scope, p, q, ls, h => by
    rw [renderBlock] at h
    exact .choose (renders_branches branches (fun h => renders_blocks bs h) h)
  | .loop header body, scope, p, q, ls, h => by
    rw [renderBlock, renderLoop] at h
    obtain ⟨values?, hvalues, h⟩ := exists_of_lift (of_set (of_get h))
    cases values? with
    | none =>
      obtain ⟨rfl, rfl⟩ := Prod.mk.inj (Except.ok.inj h)
      exact .absent hvalues
    | some values =>
      obtain ⟨texts, r, htexts, h⟩ := exists_of_bind h
      obtain ⟨rfl, rfl⟩ := Prod.mk.inj (Except.ok.inj h)
      exact .loop hvalues (renders_elements (fun h => renders_blocks body h) htexts)

theorem renders_blocks : ∀ (bs : List Block) {scope : Args} {p q : Progress} {ls : List Text},
    renderBlocks ctx sigil scope bs p = .ok (ls, q) → Renders ctx sigil scope (.blocks bs) p ls q
  | [], scope, p, q, ls, h => by
    rw [renderBlocks] at h
    obtain ⟨rfl, rfl⟩ := Prod.mk.inj (Except.ok.inj h)
    exact .nil
  | b :: bs, scope, p, q, ls, h => by
    rw [renderBlocks] at h
    obtain ⟨ls, r, hls, h⟩ := exists_of_bind h
    obtain ⟨ms, r', hms, h⟩ := exists_of_bind h
    obtain ⟨rfl, rfl⟩ := Prod.mk.inj (Except.ok.inj h)
    exact .cons (renders_block b hls) (renders_blocks bs hms)

theorem renders_branches : ∀ (branches : List (Condition × List Block)) {bs : List Block}
    {otherwise : Render (List Text)} {scope : Args} {p q : Progress} {ls : List Text},
    (∀ {p q ls}, otherwise p = .ok (ls, q) → Renders ctx sigil scope (.blocks bs) p ls q) →
    renderBranches ctx sigil scope otherwise branches p = .ok (ls, q) →
      Renders ctx sigil scope (.branches branches bs) p ls q
  | [], bs, otherwise, scope, p, q, ls, ho, h => by
    rw [renderBranches] at h
    exact .otherwise (ho h)
  | (c, body) :: rest, bs, otherwise, scope, p, q, ls, ho, h => by
    rw [renderBranches] at h
    obtain ⟨holds, hholds, h⟩ := exists_of_lift h
    cases holds with
    | true => exact .taken hholds (renders_blocks body h)
    | false => exact .missed hholds (renders_branches rest ho h)

end

/-- A rendering is a derivation that starts with no loop run and no argument made. -/
theorem renders_of_render {blocks : Template} {args : Args} {rendering : Rendering}
    (h : render ctx sigil blocks args = .ok rendering) :
    ∃ ls q, Renders ctx sigil args (.blocks blocks) ⟨0, ∅⟩ ls q ∧
      rendering.sql = Text.unlines ls ∧ rendering.args = args.union q.bound := by
  obtain ⟨⟨ls, q⟩, hls, h⟩ := exists_of_bind_eq_ok h
  obtain rfl := Except.ok.inj h
  exact ⟨ls, q, renders_blocks blocks hls, rfl, rfl⟩

end SqlTemplate.Template
