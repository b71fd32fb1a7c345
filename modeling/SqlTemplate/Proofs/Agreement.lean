import SqlTemplate.Proofs.Asks
import SqlTemplate.Proofs.Blocks
import SqlTemplate.Proofs.Shape

/-!
Two renderings of one template for arguments of one shape.  As long as no condition tells the
arguments apart, both go the same way, make up the same names and leave the same lines.
-/
namespace SqlTemplate.Template

/-- Elements at one place with items and scopes of one shape. -/
structure Element.Alike (e e' : Element) : Prop where
  item : e.item.shape = e'.item.shape
  position : e.position = e'.position
  loop : e.loop = e'.loop
  scope : Args.shape e.scope = Args.shape e'.scope

namespace Naming

/-- The same names given, and arguments of one shape made. -/
structure Alike (n n' : Naming) : Prop where
  given : n.given = n'.given
  bound : Args.shape n.bound = Args.shape n'.bound

/-- Whether two ways of giving names do the same. -/
def Agree {α : Type} (m m' : StateM Naming α) : Prop :=
  ∀ n n', Alike n n' → (m n).1 = (m' n').1 ∧ Alike (m n).2 (m' n').2

theorem Agree.pure {α : Type} (a : α) : Agree (Pure.pure a) (Pure.pure a) := fun _ _ h => ⟨rfl, h⟩

theorem Agree.bind {α β : Type} {m m' : StateM Naming α} {f f' : α → StateM Naming β}
    (h : Agree m m') (hf : ∀ a, Agree (f a) (f' a)) : Agree (m >>= f) (m' >>= f') := by
  intro n n' hn
  obtain ⟨ha, hnext⟩ := h n n' hn
  have hrest := hf (m n).1 _ _ hnext
  rw [ha] at hrest
  change (f (m n).1 (m n).2).1 = _ ∧ Alike (f (m n).1 (m n).2).2 _
  rw [ha]
  exact hrest

variable {e e' : Element}

theorem freshName_congr {scope scope' bound bound' : Args}
    (hscope : Args.shape scope = Args.shape scope') (hbound : Args.shape bound = Args.shape bound')
    (base : Text) : freshName base scope bound = freshName base scope' bound' := by
  simp only [freshName, Args.size_of_shape hscope, Args.size_of_shape hbound,
    Args.contains_of_shape hscope, Args.contains_of_shape hbound]

theorem shape_value (h : e.Alike e') (header : LoopHeader) (r : Reference) :
    (value header e r).shape = (value header e' r).shape := by
  rw [value, value, h.position]
  split
  · rfl
  · rcases eq_none_or_eq_some_of_map (Value.shape_walk? h.item r.path) with
      ⟨hv, hw⟩ | ⟨v, w, hv, hw, hshape⟩
    · rw [hv, hw]
    · rw [hv, hw]
      exact hshape

theorem baseName_congr (h : e.Alike e') (r : Reference) : baseName e r = baseName e' r := by
  rw [baseName, baseName, h.loop, h.position]

/-- A reference gets the same name for elements of one shape. -/
theorem agree_nameOf (h : e.Alike e') (header : LoopHeader) (r : Reference) :
    Agree (nameOf header e r) (nameOf header e' r) := by
  intro n n' hn
  have hname := freshName_congr h.scope hn.bound (baseName e r)
  rw [nameOf, nameOf, ← hn.given, ← baseName_congr h, ← hname]
  cases n.given.get? r.text with
  | some name => exact ⟨rfl, hn⟩
  | none =>
    refine ⟨rfl, rfl, ?_⟩
    exact Args.shape_insert hn.bound (shape_value h header r) _

theorem agree_write (h : e.Alike e') (header : LoopHeader) (sigil : Char) (p : Reference.Piece) :
    Agree (write header sigil e p) (write header sigil e' p) := by
  cases p with
  | char c => exact .pure _
  | kept r => exact .pure _
  | placeholder mark r => exact (agree_nameOf h header r).bind fun name => .pure _
  | parameter r => exact (agree_nameOf h header r).bind fun name => .pure _

theorem agree_writeAll (h : e.Alike e') (header : LoopHeader) (sigil : Char)
    (ps : List Reference.Piece) :
    Agree (writeAll header sigil e ps) (writeAll header sigil e' ps) := by
  induction ps with
  | nil => exact .pure _
  | cons p ps ih => exact (agree_write h header sigil p).bind fun t => ih.bind fun more => .pure _

theorem agree_renameSegments (h : e.Alike e') (header : LoopHeader) (sigil : Char)
    (ss : List Segment) :
    Agree (renameSegments header sigil e ss) (renameSegments header sigil e' ss) := by
  induction ss with
  | nil => exact .pure _
  | cons s ss ih =>
    cases s with
    | inert t => exact ih.bind fun more => .pure _
    | plain t =>
      have hplain : Agree (renamePlain header sigil e t) (renamePlain header sigil e' t) :=
        (agree_writeAll h header sigil _).bind fun u => agree_writeAll h header sigil _
      exact hplain.bind fun u => ih.bind fun more => .pure _

/-- The text of an element is renamed alike for elements of one shape. -/
theorem rename_congr (h : e.Alike e') (header : LoopHeader) (sigil : Char) (t : Text)
    {bound bound' : Args} (hbound : Args.shape bound = Args.shape bound') :
    (rename header sigil e t bound).1 = (rename header sigil e' t bound').1 ∧
      Args.shape (rename header sigil e t bound).2 =
        Args.shape (rename header sigil e' t bound').2 := by
  obtain ⟨htext, hnaming⟩ :=
    agree_renameSegments h header sigil (segments t) ⟨∅, bound⟩ ⟨∅, bound'⟩ ⟨rfl, hbound⟩
  exact ⟨htext, hnaming.bound⟩

end Naming

/-- As many loops run, and arguments of one shape made. -/
structure Progress.Alike (p p' : Progress) : Prop where
  loops : p.loops = p'.loops
  bound : Args.shape p.bound = Args.shape p'.bound

/-- The same error, or the same result with as much progress. -/
inductive SameResult {α : Type} :
    Except Error (α × Progress) → Except Error (α × Progress) → Prop
  | error (e : Error) : SameResult (.error e) (.error e)
  | ok (a : α) {p p' : Progress} (h : p.Alike p') : SameResult (.ok (a, p)) (.ok (a, p'))

/-- Whether two renderings do the same. -/
def Render.Agree {α : Type} (m m' : Render α) : Prop :=
  ∀ p p' : Progress, p.Alike p' → SameResult (m p) (m' p')

namespace Render

variable {α β : Type}

theorem Agree.pure (a : α) : Agree (Pure.pure a : Render α) (Pure.pure a) := fun _ _ h => .ok a h

theorem Agree.lift (x : Except Error α) : Agree (liftM x : Render α) (liftM x) := by
  intro p p' h
  cases x with
  | error e => exact .error e
  | ok a => exact .ok a h

theorem Agree.bind {m m' : Render α} {f f' : α → Render β} (h : Agree m m')
    (hf : ∀ a, Agree (f a) (f' a)) : Agree (m >>= f) (m' >>= f') := by
  intro p p' hp
  have hsame := h p p' hp
  change SameResult (m p >>= fun s => f s.1 s.2) (m' p' >>= fun s => f' s.1 s.2)
  generalize m p = x, m' p' = x' at hsame ⊢
  cases hsame with
  | error e => exact .error e
  | ok a hq => exact hf a _ _ hq

theorem Agree.get {f f' : Progress → Render β} (hf : ∀ p p', p.Alike p' → Agree (f p) (f' p')) :
    Agree (MonadState.get >>= f) (MonadState.get >>= f') := fun p p' hp => hf p p' hp p p' hp

theorem Agree.set {p p' : Progress} (h : p.Alike p') :
    Agree (MonadStateOf.set p : Render PUnit) (MonadStateOf.set p') := fun _ _ _ => .ok _ h

/-- What follows two results that look the same may do the same. -/
theorem Agree.lift_bind {γ : Type} {k : α → γ} {x x' : Except Error α} (h : x.map k = x'.map k)
    {f f' : α → Render β} (hf : ∀ a a', k a = k a' → Agree (f a) (f' a')) :
    Agree (liftM x >>= f) (liftM x' >>= f') := by
  intro p p' hp
  cases x with
  | error e =>
    cases x' with
    | error e' =>
      obtain rfl : e = e' := Except.error.inj h
      exact .error e
    | ok a' => cases h
  | ok a =>
    cases x' with
    | error e' => cases h
    | ok a' => exact hf a a' (Except.ok.inj h) p p' hp

end Render

/-- Two scopes of one shape that have the caller's arguments but for these variables. -/
structure Scopes (args args' : Args) (vars : List Text) (scope scope' : Args) : Prop where
  shape : Args.shape scope = Args.shape scope'
  left : ∀ name, Name.root name ∉ vars → scope.lookup? name = args.lookup? name
  right : ∀ name, Name.root name ∉ vars → scope'.lookup? name = args'.lookup? name

/-- Whether a question about arguments that are not a loop's has one answer for both. -/
def Answered (args args' : Args) (ask : Ask) : Prop :=
  Name.root ask.name ∉ ask.vars ∧ args.lookup? ask.name = args'.lookup? ask.name

variable {args args' scope scope' : Args} {vars : List Text} {ctx : Condition.Context}

theorem lookup?_elementScope {header : LoopHeader} (hdot : ∀ v ∈ header.vars, '.' ∉ v)
    {name : Text} (hroot : Name.root name ∉ header.vars) (scope : Args) (item : Value)
    (position : Nat) :
    Args.lookup? (elementScope header scope item position) name = scope.lookup? name := by
  have hitem : Name.root name ≠ header.item := fun h => hroot (by simp [LoopHeader.vars, h])
  have hitemDot : '.' ∉ header.item := hdot _ List.mem_cons_self
  rw [elementScope]
  cases hindex : header.index with
  | none => exact Args.lookup?_insert_of_root_ne hitemDot hitem item
  | some index =>
    have hne : Name.root name ≠ index := fun h => hroot (by simp [LoopHeader.vars, hindex, h])
    have hindexDot : '.' ∉ index := hdot _ (by simp [LoopHeader.vars, hindex])
    exact (Args.lookup?_insert_of_root_ne hindexDot hne _).trans
      (Args.lookup?_insert_of_root_ne hitemDot hitem item)

theorem shape_elementScope (h : Args.shape scope = Args.shape scope') (header : LoopHeader)
    {item item' : Value} (hitem : item.shape = item'.shape) (position : Nat) :
    Args.shape (elementScope header scope item position) =
      Args.shape (elementScope header scope' item' position) := by
  have hinsert := Args.shape_insert h hitem header.item
  rw [elementScope, elementScope]
  cases header.index with
  | none => exact hinsert
  | some index => exact Args.shape_insert hinsert rfl index

theorem Scopes.element (h : Scopes args args' vars scope scope') {header : LoopHeader}
    (hdot : ∀ v ∈ header.vars, '.' ∉ v) {item item' : Value} (hitem : item.shape = item'.shape)
    (position : Nat) :
    Scopes args args' (header.vars ++ vars) (elementScope header scope item position)
      (elementScope header scope' item' position) := by
  refine ⟨shape_elementScope h.shape header hitem position, fun name hname => ?_,
    fun name hname => ?_⟩
  · rw [List.mem_append, not_or] at hname
    rw [lookup?_elementScope hdot hname.1, h.left name hname.2]
  · rw [List.mem_append, not_or] at hname
    rw [lookup?_elementScope hdot hname.1, h.right name hname.2]

theorem Scopes.holds (h : Scopes args args' vars scope scope') {c : Condition}
    (hasks : ∀ name ∈ c.formula.names, Answered args args' ⟨vars, name⟩) :
    c.holds ctx scope = c.holds ctx scope' := by
  refine Condition.holds_congr fun name hname => ?_
  obtain ⟨hroot, hlookup⟩ := hasks name hname
  rw [h.left name hroot, h.right name hroot, hlookup]

theorem Scopes.passes {header : LoopHeader}
    (h : Scopes args args' (header.vars ++ vars) scope scope')
    (hasks : ∀ ask ∈ header.asks vars, Answered args args' ask) :
    passes ctx header scope = passes ctx header scope' := by
  rw [Template.passes, Template.passes]
  rw [LoopHeader.asks] at hasks
  cases hfilter : header.filter with
  | none => rfl
  | some filter =>
    rw [hfilter] at hasks
    exact h.holds fun name hname => hasks _ (List.mem_map_of_mem hname)

/-- Lists for loops have as many items of the same shapes. -/
theorem shape_loopItems (h : Args.shape scope = Args.shape scope') (source : Text) :
    (loopItems ctx scope source).map (Option.map (List.map Value.shape)) =
      (loopItems ctx scope' source).map (Option.map (List.map Value.shape)) := by
  rw [loopItems, loopItems]
  rcases eq_none_or_eq_some_of_map (Args.shape_lookup? h source) with
    ⟨hv, hw⟩ | ⟨v, w, hv, hw, hshape⟩
  · rw [hv, hw]
  · rw [hv, hw]
    cases v <;> cases w <;>
      simp only [Value.shape, reduceCtorEq, Shape.array.injEq, Shape.object.injEq] at hshape
    case array.array items items' =>
      rw [Value.itemShapes_eq, Value.itemShapes_eq] at hshape
      simp [Except.map, hshape]
    all_goals simp [Except.map, Value.shape, hshape]

variable {sigil : Char}

theorem agree_renderElements {header : LoopHeader} (hdot : ∀ v ∈ header.vars, '.' ∉ v)
    (hasks : ∀ ask ∈ header.asks vars, Answered args args' ask) {body : Args → Render (List Text)}
    (hbody : ∀ {inner inner'}, Scopes args args' (header.vars ++ vars) inner inner' →
      Render.Agree (body inner) (body inner'))
    (h : Scopes args args' vars scope scope') (loop : Nat) {items items' : List Value}
    (hitems : items.map Value.shape = items'.map Value.shape) (position : Nat) :
    Render.Agree (renderElements ctx sigil header scope loop body position items)
      (renderElements ctx sigil header scope' loop body position items') := by
  induction items generalizing items' position with
  | nil =>
    obtain rfl : items' = [] := by simpa using hitems.symm
    exact .pure _
  | cons item items ih =>
    cases items' with
    | nil => cases hitems
    | cons item' items' =>
      obtain ⟨hitem, hrest⟩ := List.cons.inj hitems
      have hinner := h.element hdot hitem position
      rw [renderElements, renderElements, hinner.passes hasks]
      refine Render.Agree.bind (.lift _) fun pass => ?_
      cases pass with
      | false => exact ih hrest (position + 1)
      | true =>
        refine (hbody hinner).bind fun ls => .get fun p p' hp => ?_
        have helement : Element.Alike
            ⟨item, position, loop, elementScope header scope item position⟩
            ⟨item', position, loop, elementScope header scope' item' position⟩ :=
          ⟨hitem, rfl, rfl, hinner.shape⟩
        obtain ⟨htext, hbound⟩ :=
          Naming.rename_congr helement header sigil (Text.unlines ls) hp.bound
        revert htext hbound
        generalize Naming.rename header sigil _ (Text.unlines ls) p.bound = r
        generalize Naming.rename header sigil _ (Text.unlines ls) p'.bound = r'
        obtain ⟨t, bound⟩ := r
        obtain ⟨t', bound'⟩ := r'
        rintro (rfl : t = t') (hbound : Args.shape bound = Args.shape bound')
        have hnext : Progress.Alike { p with bound } { p' with bound := bound' } :=
          ⟨hp.loops, hbound⟩
        exact (Render.Agree.set hnext).bind fun _ =>
          (ih hrest (position + 1)).bind fun more => .pure _

mutual

/-- A block is rendered alike in two scopes that no condition in it tells apart. -/
theorem agree_renderBlock : ∀ (b : Block) {vars : List Text} {scope scope' : Args},
    Scopes args args' vars scope scope' →
    b.Every (fun _ => True) (fun header => ∀ v ∈ header.vars, '.' ∉ v) →
    (∀ ask ∈ b.asks vars, Answered args args' ask) →
      Render.Agree (renderBlock ctx sigil scope b) (renderBlock ctx sigil scope' b)
  | .text line, vars, scope, scope', _, _, _ => by
    rw [renderBlock, renderBlock]
    exact .pure _
  | .guarded c body, vars, scope, scope', h, hb, hasks => by
    simp only [Block.Every] at hb
    simp only [Block.asks, List.mem_append] at hasks
    rw [renderBlock, renderBlock,
      h.holds fun name hname => hasks _ (Or.inl (List.mem_map_of_mem hname))]
    refine Render.Agree.bind (.lift _) fun holds => ?_
    cases holds with
    | false => exact .pure _
    | true => exact agree_renderBlocks body h hb fun ask ha => hasks ask (Or.inr ha)
  | .choose branches none, vars, scope, scope', h, hb, hasks => by
    simp only [Block.Every] at hb
    simp only [Block.asks] at hasks
    rw [renderBlock, renderBlock]
    exact agree_renderBranches branches h hb hasks (.pure _)
  | .choose branches (some bs), vars, scope, scope', h, hb, hasks => by
    simp only [Block.Every] at hb
    simp only [Block.asks, List.mem_append] at hasks
    rw [renderBlock, renderBlock]
    exact agree_renderBranches branches h hb.1 (fun ask ha => hasks ask (Or.inl ha))
      (agree_renderBlocks bs h hb.2 fun ask ha => hasks ask (Or.inr ha))
  | .loop header body, vars, scope, scope', h, hb, hasks => by
    simp only [Block.Every] at hb
    simp only [Block.asks, List.mem_append] at hasks
    rw [renderBlock, renderBlock, renderLoop, renderLoop]
    refine .get fun p p' hp => ?_
    have hnext : Progress.Alike { p with loops := p.loops + 1 } { p' with loops := p'.loops + 1 } :=
      ⟨congrArg (· + 1) hp.loops, hp.bound⟩
    refine (Render.Agree.set hnext).bind fun _ => ?_
    refine .lift_bind (shape_loopItems h.shape header.source) fun items items' hitems => ?_
    cases items with
    | none =>
      obtain rfl : items' = none := by simpa using hitems.symm
      exact .pure _
    | some items =>
      cases items' with
      | none => cases hitems
      | some items' =>
        rw [hp.loops]
        refine (agree_renderElements hb.1 (fun ask ha => hasks ask (Or.inl ha))
          (fun hinner => ?_) h p'.loops (Option.some.inj hitems) 0).bind fun texts => .pure _
        exact agree_renderBlocks body hinner hb.2 fun ask ha => hasks ask (Or.inr ha)

theorem agree_renderBlocks : ∀ (bs : List Block) {vars : List Text} {scope scope' : Args},
    Scopes args args' vars scope scope' →
    Every (fun _ => True) (fun header => ∀ v ∈ header.vars, '.' ∉ v) bs →
    (∀ ask ∈ asks vars bs, Answered args args' ask) →
      Render.Agree (renderBlocks ctx sigil scope bs) (renderBlocks ctx sigil scope' bs)
  | [], vars, scope, scope', _, _, _ => by
    rw [renderBlocks, renderBlocks]
    exact .pure _
  | b :: bs, vars, scope, scope', h, hb, hasks => by
    simp only [asks, List.mem_append] at hasks
    rw [renderBlocks, renderBlocks]
    exact (agree_renderBlock b h hb.1 fun ask ha => hasks ask (Or.inl ha)).bind fun ls =>
      (agree_renderBlocks bs h hb.2 fun ask ha => hasks ask (Or.inr ha)).bind fun ms => .pure _

theorem agree_renderBranches : ∀ (branches : List (Condition × List Block)) {vars : List Text}
    {scope scope' : Args}, Scopes args args' vars scope scope' →
    EveryBranch (fun _ => True) (fun header => ∀ v ∈ header.vars, '.' ∉ v) branches →
    (∀ ask ∈ branchAsks vars branches, Answered args args' ask) →
    ∀ {otherwise otherwise' : Render (List Text)}, Render.Agree otherwise otherwise' →
      Render.Agree (renderBranches ctx sigil scope otherwise branches)
        (renderBranches ctx sigil scope' otherwise' branches)
  | [], vars, scope, scope', _, _, _, otherwise, otherwise', ho => by
    rw [renderBranches, renderBranches]
    exact ho
  | (c, body) :: rest, vars, scope, scope', h, hb, hasks, otherwise, otherwise', ho => by
    simp only [branchAsks, List.mem_append] at hasks
    rw [renderBranches, renderBranches,
      h.holds fun name hname => hasks _ (Or.inl (Or.inl (List.mem_map_of_mem hname)))]
    refine Render.Agree.bind (.lift _) fun holds => ?_
    cases holds with
    | false => exact agree_renderBranches rest h hb.2 (fun ask ha => hasks ask (Or.inr ha)) ho
    | true =>
      exact agree_renderBlocks body h hb.1 fun ask ha => hasks ask (Or.inl (Or.inr ha))

end

/-- A template is rendered to the same text for arguments of one shape that no condition tells
apart. -/
theorem render_congr (h : Args.shape args = Args.shape args') {blocks : Template}
    (hdot : Every (fun _ => True) (fun header => ∀ v ∈ header.vars, '.' ∉ v) blocks)
    (hasks : ∀ ask ∈ asks [] blocks, Answered args args' ask) :
    (render ctx sigil blocks args).map Rendering.sql =
      (render ctx sigil blocks args').map Rendering.sql := by
  have hscopes : Scopes args args' [] args args' := ⟨h, fun _ _ => rfl, fun _ _ => rfl⟩
  have hsame : SameResult (renderBlocks ctx sigil args blocks ⟨0, ∅⟩)
      (renderBlocks ctx sigil args' blocks ⟨0, ∅⟩) :=
    agree_renderBlocks blocks hscopes hdot hasks _ _ ⟨rfl, rfl⟩
  rw [render, render]
  change ((renderBlocks ctx sigil args blocks ⟨0, ∅⟩ >>= _).map _) =
    ((renderBlocks ctx sigil args' blocks ⟨0, ∅⟩ >>= _).map _)
  generalize renderBlocks ctx sigil args blocks ⟨0, ∅⟩ = x,
    renderBlocks ctx sigil args' blocks ⟨0, ∅⟩ = x' at hsame ⊢
  cases hsame with
  | error e => rfl
  | ok ls hq => rfl

end SqlTemplate.Template
