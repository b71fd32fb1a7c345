import SqlTemplate.Proofs.Trace

/-!
What the text of a loop element and the conditions in it see.  The text gets the value of a
reference by a path into the item, a condition by looking the whole name up; the two differ where
an argument has the dotted name, and for paths behind the position.
-/
namespace SqlTemplate

namespace Template

/-- What a condition in an element reads for a reference; null stands for nothing. -/
def Element.seen (e : Element) (r : Reference) : Value := (e.scope.lookup? r.text).getD .null

/-- A condition in an element reads what the element sees, unless that is nothing and nothing is
an error. -/
theorem meaning_eq_seen {ctx : Condition.Context} {e : Element} {r : Reference}
    (h : ctx.strict = true → e.scope.lookup? r.text ≠ none) :
    Condition.meaning ctx e.scope (.argument r.text []) = .ok (.value (e.seen r)) := by
  rw [Condition.meaning, Element.seen]
  cases hv : e.scope.lookup? r.text with
  | some v => rfl
  | none =>
    have hlenient : ctx.strict = false := by
      cases hs : ctx.strict with
      | false => rfl
      | true => exact absurd hv (h hs)
    simp only [hlenient, Bool.false_eq_true, if_false]
    rfl

namespace Reference

/-- Whether the path of a reference is one of segments with a dot in front of each. -/
def Pathed (r : Reference) : Prop :=
  ∃ segments, r.path = Name.dotted segments ∧ ∀ s ∈ segments, Name.IsSegment s

variable {vars : List Text}

/-- The segments that a text starts with. -/
theorem isSegment_of_mem_path {cs s : Text} (h : s ∈ (Name.path cs).1) : Name.IsSegment s := by
  cases cs with
  | nil =>
    rw [Name.path_of_stops (by trivial)] at h
    cases h
  | cons c cs =>
    by_cases hc : c = '.'
    · subst hc
      exact (Name.path_spec (by simp [show Name.isPart '.' = false from rfl])).1 s h
    · have hpath : Name.path (c :: cs) = ([], c :: cs) := by
        unfold Name.path
        split
        · rename_i hdot
          obtain ⟨rfl, -⟩ := List.cons.inj hdot
          exact absurd rfl hc
        · rfl
      rw [hpath] at h
      cases h

theorem pathed_of_readPlaceholder? {cs rest : Text} {mark : Mark} {r : Reference}
    (h : readPlaceholder? vars cs = some (mark, r, rest)) : r.Pathed := by
  unfold readPlaceholder? at h
  split at h
  · dsimp only at h
    obtain ⟨v, -, h⟩ := List.exists_of_findSome?_eq_some h
    split at h
    · split at h
      · obtain ⟨-, h⟩ := Prod.mk.inj (Option.some.inj h)
        obtain ⟨rfl, -⟩ := Prod.mk.inj h
        exact ⟨_, rfl, fun s => isSegment_of_mem_path⟩
      · cases h
    · cases h
  · cases h

theorem pathed_of_readParameter? {cs rest : Text} {r : Reference}
    (h : readParameter? vars cs = some (r, rest)) : r.Pathed := by
  unfold readParameter? at h
  obtain ⟨v, -, h⟩ := List.exists_of_findSome?_eq_some h
  split at h
  · dsimp only at h
    split at h
    · obtain ⟨rfl, -⟩ := Prod.mk.inj (Option.some.inj h)
      exact ⟨_, rfl, fun s => isSegment_of_mem_path⟩
    · split at h
      · obtain ⟨rfl, -⟩ := Prod.mk.inj (Option.some.inj h)
        exact ⟨_, rfl, fun s hs => isSegment_of_mem_path (List.dropLast_subset _ hs)⟩
      · cases h
  · cases h

end Reference

namespace Naming

variable {header : LoopHeader} {sigil : Char} {e : Element} {Q : Reference → Prop}

theorem forall_uses {ps : List Reference.Piece} (h : ∀ p ∈ ps, ∀ r ∈ p.reference?, Q r)
    (n : Naming) : ∀ u ∈ uses header sigil e ps n, Q u.reference := by
  induction ps generalizing n with
  | nil => simp [uses]
  | cons p ps ih =>
    obtain ⟨hp, hps⟩ := List.forall_mem_cons.1 h
    rw [uses]
    refine List.forall_mem_append.2 ⟨fun u hu => ?_, ih hps _⟩
    obtain ⟨r, hr, rfl⟩ := List.mem_map.1 hu
    exact hp r (Option.mem_toList.1 hr)

/-- What holds of all references that can be read holds of those that are renamed. -/
theorem forall_renamed
    (hplaceholder : ∀ cs mark r rest,
      Reference.readPlaceholder? header.vars cs = some (mark, r, rest) → Q r)
    (hparameter : ∀ cs r rest, Reference.readParameter? header.vars cs = some (r, rest) → Q r)
    (t : Text) (bound : Args) : ∀ u ∈ renamed header sigil e t bound, Q u.reference := by
  rw [renamed]
  generalize (⟨∅, bound⟩ : Naming) = n
  induction segments t generalizing n with
  | nil => simp [segmentUses]
  | cons s ss ih =>
    cases s with
    | inert t => exact ih n
    | plain t =>
      rw [segmentUses, plainUses]
      refine List.forall_mem_append.2 ⟨List.forall_mem_append.2 ⟨?_, ?_⟩, ih _⟩
      · exact forall_uses (Reference.forall_splitPlaceholders hplaceholder t) n
      · exact forall_uses (Reference.forall_splitParameters hparameter sigil none _) _

end Naming

/-! Where a renaming comes from. -/

/-- Whether a renaming is that of an element of a loop with this kind of header, in a scope that
has the arguments of the caller under all names with dots. -/
def Renaming.Made (sigil : Char) (args : Args) (header : LoopHeader → Prop) (ρ : Renaming) : Prop :=
  header ρ.header ∧
  (∃ outer : Args, (∀ key, '.' ∈ key → outer.get? key = args.get? key) ∧
    ρ.element.scope = elementScope ρ.header outer ρ.element.item ρ.element.position) ∧
  ∃ t bound, ρ.uses = Naming.renamed ρ.header sigil ρ.element t bound

/-- Whether all that a rendering notes has a property. -/
def Notes (P : Renaming → Prop) (m : Trace) : Prop :=
  ∀ p ls log q, m p = .ok ((ls, log), q) → ∀ ρ ∈ log, P ρ

section

variable {P : Renaming → Prop}

theorem notes_pure (ls : List Text) : Notes P (pure (ls, [])) := by
  intro p ls' log q h ρ hρ
  obtain ⟨hout, -⟩ := Prod.mk.inj (Except.ok.inj h)
  obtain ⟨-, rfl⟩ := Prod.mk.inj hout
  cases hρ

theorem Notes.lift {α : Type} {x : Except Error α} {f : α → Trace}
    (h : ∀ a, x = .ok a → Notes P (f a)) : Notes P (liftM x >>= f) := by
  intro p ls log q hrun
  obtain ⟨a, ha, hrun⟩ := exists_of_lift hrun
  exact h a ha p ls log q hrun

end

variable {ctx : Condition.Context} {sigil : Char} {args : Args} {header : LoopHeader → Prop}

theorem get?_elementScope_dotted {head : LoopHeader} (hvars : ∀ v ∈ head.vars, '.' ∉ v)
    (outer : Args) (item : Value) (position : Nat) {key : Text} (hkey : '.' ∈ key) :
    (elementScope head outer item position).get? key = outer.get? key := by
  have hne : ∀ v ∈ head.vars, v ≠ key := by
    rintro v hv rfl
    exact hvars v hv hkey
  have hitem := hne head.item (by simp [LoopHeader.vars])
  rw [elementScope]
  cases hindex : head.index with
  | none => rw [Dict.get?_insert, if_neg hitem]
  | some index =>
    rw [Dict.get?_insert, if_neg (hne index (by simp [LoopHeader.vars, hindex])), Dict.get?_insert,
      if_neg hitem]

theorem notes_elements {head : LoopHeader} {vars : List Text} {outer : Args} {loop : Nat}
    {body : Args → Trace} (hhead : header head) (hvars : ∀ v ∈ head.vars, '.' ∉ v)
    (houter : ∀ key, '.' ∈ key → outer.get? key = args.get? key)
    (hbody : ∀ inner : Args, (∀ key, '.' ∈ key → inner.get? key = args.get? key) →
      Notes (Renaming.Made sigil args header) (body inner)) (position : Nat) (items : List Value) :
    Notes (Renaming.Made sigil args header)
      (traceElements ctx sigil head vars outer loop body position items) := by
  induction items generalizing position with
  | nil => exact notes_pure []
  | cons item items ih =>
    rw [traceElements]
    refine Notes.lift fun pass _ => ?_
    cases pass with
    | false => exact ih (position + 1)
    | true =>
      intro p ls log q h ρ hρ
      obtain ⟨⟨lines, log₁⟩, r, hlines, h⟩ := exists_of_bind h
      obtain ⟨⟨texts, log₂⟩, r', htexts, h⟩ := exists_of_bind (of_set (of_get h))
      obtain ⟨hout, -⟩ := Prod.mk.inj (Except.ok.inj h)
      obtain ⟨-, rfl⟩ := Prod.mk.inj hout
      have hinner : ∀ key, '.' ∈ key →
          (elementScope head outer item position).get? key = args.get? key := by
        intro key hkey
        rw [get?_elementScope_dotted hvars outer item position hkey, houter key hkey]
      rcases List.mem_append.1 hρ with hρ | hρ
      · exact hbody _ hinner _ _ _ _ hlines ρ hρ
      · rcases List.mem_cons.1 hρ with rfl | hρ
        · exact ⟨hhead, ⟨outer, houter, rfl⟩, Text.unlines lines, r.bound, rfl⟩
        · exact ih (position + 1) _ _ _ _ htexts ρ hρ

mutual

theorem notes_block (hheader : ∀ head, header head → ∀ v ∈ head.vars, '.' ∉ v) :
    ∀ (b : Block) (vars : List Text) (scope : Args),
    (∀ key, '.' ∈ key → scope.get? key = args.get? key) → b.Every (fun _ => True) header →
      Notes (Renaming.Made sigil args header) (traceBlock ctx sigil vars scope b)
  | .text line, vars, scope, _, _ => by
    rw [traceBlock]
    exact notes_pure [line]
  | .guarded c body, vars, scope, hscope, h => by
    simp only [Block.Every] at h
    rw [traceBlock]
    refine Notes.lift fun holds _ => ?_
    cases holds with
    | true => exact notes_blocks hheader body vars scope hscope h
    | false => exact notes_pure []
  | .choose branches none, vars, scope, hscope, h => by
    simp only [Block.Every] at h
    rw [traceBlock]
    exact notes_branches hheader branches vars scope hscope h (notes_pure [])
  | .choose branches (some bs), vars, scope, hscope, h => by
    simp only [Block.Every] at h
    rw [traceBlock]
    exact notes_branches hheader branches vars scope hscope h.1
      (notes_blocks hheader bs vars scope hscope h.2)
  | .loop head body, vars, scope, hscope, h => by
    simp only [Block.Every] at h
    rw [traceBlock, traceLoop]
    intro p ls log q hrun
    obtain ⟨items?, -, hrun⟩ := exists_of_lift (of_set (of_get hrun))
    cases items? with
    | none => exact notes_pure [] _ _ _ _ hrun
    | some items =>
      obtain ⟨⟨texts, log'⟩, r, hrun', hrun⟩ := exists_of_bind hrun
      obtain ⟨hout, -⟩ := Prod.mk.inj (Except.ok.inj hrun)
      obtain ⟨-, rfl⟩ := Prod.mk.inj hout
      exact notes_elements h.1 (hheader head h.1) hscope
        (fun inner hinner => notes_blocks hheader body (head.vars ++ vars) inner hinner h.2) 0 items
        _ _ _ _ hrun'

theorem notes_blocks (hheader : ∀ head, header head → ∀ v ∈ head.vars, '.' ∉ v) :
    ∀ (bs : List Block) (vars : List Text) (scope : Args),
    (∀ key, '.' ∈ key → scope.get? key = args.get? key) →
      Template.Every (fun _ => True) header bs →
      Notes (Renaming.Made sigil args header) (traceBlocks ctx sigil vars scope bs)
  | [], vars, scope, _, _ => by
    rw [traceBlocks]
    exact notes_pure []
  | b :: bs, vars, scope, hscope, h => by
    rw [traceBlocks]
    intro p ls log q hrun ρ hρ
    obtain ⟨⟨lines, log₁⟩, r, hfirst, hrun⟩ := exists_of_bind hrun
    obtain ⟨⟨more, log₂⟩, r', hmore, hrun⟩ := exists_of_bind hrun
    obtain ⟨hout, -⟩ := Prod.mk.inj (Except.ok.inj hrun)
    obtain ⟨-, rfl⟩ := Prod.mk.inj hout
    rcases List.mem_append.1 hρ with hρ | hρ
    · exact notes_block hheader b vars scope hscope h.1 _ _ _ _ hfirst ρ hρ
    · exact notes_blocks hheader bs vars scope hscope h.2 _ _ _ _ hmore ρ hρ

theorem notes_branches (hheader : ∀ head, header head → ∀ v ∈ head.vars, '.' ∉ v) :
    ∀ (branches : List (Condition × List Block)) (vars : List Text)
    (scope : Args), (∀ key, '.' ∈ key → scope.get? key = args.get? key) →
      EveryBranch (fun _ => True) header branches → ∀ {otherwise : Trace},
      Notes (Renaming.Made sigil args header) otherwise →
      Notes (Renaming.Made sigil args header)
        (traceBranches ctx sigil vars scope otherwise branches)
  | [], vars, scope, _, _, otherwise, ho => by
    rw [traceBranches]
    exact ho
  | (c, body) :: rest, vars, scope, hscope, h, otherwise, ho => by
    rw [traceBranches]
    refine Notes.lift fun holds _ => ?_
    cases holds with
    | true => exact notes_blocks hheader body vars scope hscope h.1
    | false => exact notes_branches hheader rest vars scope hscope h.2 ho

end

/-- Everything that a rendering notes has come from an element of a loop of the template. -/
theorem made_of_trace (hheader : ∀ head, header head → ∀ v ∈ head.vars, '.' ∉ v)
    {blocks : Template} (hevery : Every (fun _ => True) header blocks)
    {rendering : Rendering} {log : List Renaming}
    (h : trace ctx sigil blocks args = .ok (rendering, log)) :
    ∀ ρ ∈ log, ρ.Made sigil args header := by
  obtain ⟨⟨⟨ls, log'⟩, q⟩, hrun, h⟩ := exists_of_bind_eq_ok h
  obtain ⟨-, rfl⟩ := Prod.mk.inj (Except.ok.inj h)
  exact notes_blocks hheader blocks [] args (fun _ _ => rfl) hevery _ _ _ _ hrun

/-! The two ways to a value. -/

/-- The value that the text gets for a reference is the one that the element sees, except in two
cases: an argument has the dotted name of the reference, or a path stands behind the position. -/
theorem value_eq_seen_iff {head : LoopHeader} (hvars : ∀ v ∈ head.vars, '.' ∉ v) {outer : Args}
    {e : Element} (hscope : e.scope = elementScope head outer e.item e.position) {r : Reference}
    (hto : r.To head.vars) (hpath : r.Pathed) :
    Naming.value head e r = e.seen r ↔
      r.path = [] ∨ outer.get? r.text = some (Naming.value head e r) ∨
        outer.get? r.text = none ∧ head.index ≠ some r.var := by
  have hvar := hvars r.var hto.1
  have hroot : e.scope.get? r.var =
      some (if head.index = some r.var then .ofNat e.position else e.item) := by
    rw [hscope, elementScope]
    cases hindex : head.index with
    | none =>
      have hitem : head.item = r.var := by
        simpa [LoopHeader.vars, hindex, eq_comm] using hto.1
      simp [Dict.get?_insert, hitem]
    | some index =>
      have hitem : index ≠ r.var → head.item = r.var := by
        intro hne
        have : r.var = head.item ∨ r.var = index := by
          simpa [LoopHeader.vars, hindex] using hto.1
        exact (this.resolve_right (Ne.symm hne)).symm
      by_cases hi : index = r.var
      · simp [Dict.get?_insert, hi]
      · simp [Dict.get?_insert, hi, hitem hi]
  rw [Element.seen, Args.lookup?_eq, Reference.text, Name.root_append hvar hto.2,
    Name.afterRoot_append hvar hto.2]
  by_cases hnil : r.path = []
  · -- without a path both are the variable's own value
    rw [hnil, List.append_nil, hroot, Naming.value, hnil]
    split <;> simp [Value.walk?_nil]
  · obtain ⟨segments, hsegments, hall⟩ := hpath
    have hne : segments ≠ [] := by
      rintro rfl
      exact hnil hsegments
    have hdot : '.' ∈ r.var ++ r.path := by
      obtain ⟨s, rest, rfl⟩ := List.exists_cons_of_ne_nil hne
      simp [hsegments, Name.dotted]
    rw [hscope, get?_elementScope_dotted hvars outer e.item e.position hdot, ← hscope, if_pos hdot,
      hroot, Option.bind_some]
    cases hown : outer.get? (r.var ++ r.path) with
    | some v => simp [hnil, eq_comm]
    | none =>
      by_cases hindex : head.index = some r.var
      · -- the position is no null, and no path leads into it
        have hwalk : (Value.ofNat e.position).walk? r.path = none := by
          rw [hsegments]
          exact Value.walk?_eq_none (fun _ => rfl) hall hne
        rw [if_pos hindex, hwalk, Naming.value, if_pos hindex]
        simp [hnil, hindex, Value.ofNat]
      · simp [Naming.value, hindex]

/-- The variables of the loops that are read have no dots. -/
theorem dotless_of_parse {t : Text} {blocks : Template} (h : Template.parse t = .ok blocks) :
    Every (fun _ => True) (fun header => ∀ v ∈ header.vars, '.' ∉ v) blocks :=
  Every.imp (fun _ _ => trivial) (fun _ hheader v hv => (hheader.1 v hv).1.dot_notMem) blocks
    (every_of_parse h)

/-- In a rendering every reference to a loop variable is an argument with the reference's value,
and this is what the element sees, if the reference is the variable alone, if the caller has the
value under the dotted name, or if the caller has nothing under the dotted name and the variable is
the item's.  What the element sees is what conditions in it read, unless that is nothing and nothing
is an error. -/
theorem seen_of_render {t : Text} {blocks : Template} (hparse : Template.parse t = .ok blocks)
    {rendering : Rendering} (h : render ctx sigil blocks args = .ok rendering) :
    ∃ log, trace ctx sigil blocks args = .ok (rendering, log) ∧
      ∀ ρ ∈ log, ∀ u ∈ ρ.uses,
        (∃ v, rendering.args.get? u.name = some v ∧
          (v = ρ.element.seen u.reference ↔
            u.reference.path = [] ∨ args.get? u.reference.text = some v ∨
              args.get? u.reference.text = none ∧ ρ.header.index ≠ some u.reference.var)) ∧
        ((ctx.strict = true → ρ.element.scope.lookup? u.reference.text ≠ none) →
          Condition.meaning ctx ρ.element.scope (.argument u.reference.text []) =
            .ok (.value (ρ.element.seen u.reference))) := by
  obtain ⟨log, hlog, hs, -⟩ := synthesis_of_render hparse h
  refine ⟨log, hlog, fun ρ hρ u hu => ⟨?_, meaning_eq_seen⟩⟩
  obtain ⟨hvars, ⟨outer, houter, hscope⟩, t', bound, huses⟩ :=
    made_of_trace (fun _ h => h) (dotless_of_parse hparse) hlog ρ hρ
  have hu' : u ∈ Naming.renamed ρ.header sigil ρ.element t' bound := huses ▸ hu
  have hto : u.reference.To ρ.header.vars :=
    Naming.forall_renamed (fun _ _ _ _ => Reference.to_of_readPlaceholder?)
      (fun _ _ _ => Reference.to_of_readParameter?) t' bound u hu'
  have hpath : u.reference.Pathed :=
    Naming.forall_renamed (fun _ _ _ _ => Reference.pathed_of_readPlaceholder?)
      (fun _ _ _ => Reference.pathed_of_readParameter?) t' bound u hu'
  refine ⟨Naming.value ρ.header ρ.element u.reference,
    (hs.entries _ _).2 (Or.inr ⟨ρ, hρ, u, hu, rfl, rfl⟩), ?_⟩
  rw [value_eq_seen_iff hvars hscope hto hpath]
  by_cases hnil : u.reference.path = []
  · simp [hnil]
  · obtain ⟨segments, hsegments, hall⟩ := hpath
    have hdot : '.' ∈ u.reference.text := by
      cases segments with
      | nil => exact absurd hsegments hnil
      | cons s rest => simp [Reference.text, hsegments, Name.dotted]
    rw [houter _ hdot]

/-- A loop whose body has the item's path and the position. -/
def pathLoop : Template :=
  [.loop ⟨"x".toList, some "i".toList, "xs".toList, ", ".toList, none⟩ [.text "(:i, :x.a)".toList]]

def pathItems : Args :=
  .ofList [("xs".toList, .array [.object [("a".toList, .ofNat 5)], .null])]

theorem seen_of_render_paths :
    ∃ rendering log,
      Template.parse "--#for x, i of :xs\n(:i, :x.a)\n--#end".toList = .ok pathLoop ∧
      trace ⟨true, Pipes.builtin⟩ ':' pathLoop pathItems = .ok (rendering, log) ∧
      (log.map fun ρ => ρ.uses.map Use.name) =
        [["_i_0_0".toList, "_x_a_0_0".toList], ["_i_0_1".toList, "_x_a_0_1".toList]] ∧
      ∀ ρ ∈ log, ∀ u ∈ ρ.uses,
        rendering.args.get? u.name = some (ρ.element.seen u.reference) := by
  have hparse : Template.parse "--#for x, i of :xs\n(:i, :x.a)\n--#end".toList = .ok pathLoop := by
    cbv
  have hok : (render ⟨true, Pipes.builtin⟩ ':' pathLoop pathItems).isOk = true := by decide +kernel
  obtain ⟨rendering, hrender⟩ := exists_of_isOk hok
  obtain ⟨log, hlog, hseen⟩ := seen_of_render hparse hrender
  have hrun : (trace ⟨true, Pipes.builtin⟩ ':' pathLoop pathItems).toOption.map (fun out =>
        (out.2.map fun ρ => ρ.uses.map Use.name,
          out.2.all fun ρ => ρ.uses.all fun u => u.reference.path = [] ||
            (pathItems.get? u.reference.text).isNone && ρ.header.index ≠ some u.reference.var)) =
      some ([["_i_0_0".toList, "_x_a_0_0".toList], ["_i_0_1".toList, "_x_a_0_1".toList]],
        true) := by decide +kernel
  rw [hlog] at hrun
  obtain ⟨hnames, hplain⟩ := Prod.mk.inj (Option.some.inj hrun)
  refine ⟨rendering, log, hparse, hlog, hnames, fun ρ hρ u hu => ?_⟩
  obtain ⟨⟨v, hv, hiff⟩, -⟩ := hseen ρ hρ u hu
  have hcase := List.all_eq_true.1 (List.all_eq_true.1 hplain ρ hρ) u hu
  simp only [Bool.or_eq_true, Bool.and_eq_true, decide_eq_true_eq,
    Option.isNone_iff_eq_none] at hcase
  rw [hv, hiff.2 (hcase.imp_right Or.inr)]

/-- A path behind the position: the text gets the position, and a condition finds nothing. -/
theorem not_forall_seen :
    ¬∀ (t : Text) (blocks : Template) (args : Args) (rendering : Rendering) (log : List Renaming),
      Template.parse t = .ok blocks →
      trace ⟨true, Pipes.builtin⟩ ':' blocks args = .ok (rendering, log) →
      ∀ ρ ∈ log, ∀ u ∈ ρ.uses,
        rendering.args.get? u.name = some (ρ.element.seen u.reference) := by
  intro h
  have hparse : Template.parse "--#for x,i of :xs\n:i.a\n--#end".toList =
      .ok [.loop ⟨"x".toList, some "i".toList, "xs".toList, ", ".toList, none⟩
        [.text ":i.a".toList]] := by cbv
  have hrun : (trace ⟨true, Pipes.builtin⟩ ':'
        [.loop ⟨"x".toList, some "i".toList, "xs".toList, ", ".toList, none⟩
          [.text ":i.a".toList]]
        (.ofList [("xs".toList, .array [.ofNat 7])])).toOption.map (fun out =>
      out.2.any fun ρ => ρ.uses.any fun u =>
        (ρ.element.seen u.reference).isNull &&
          (out.1.args.get? u.name).map Value.isNull = some false) = some true := by decide +kernel
  obtain ⟨⟨rendering, log⟩, hout, hany⟩ := Option.map_eq_some_iff.1 hrun
  obtain ⟨ρ, hρ, hany⟩ := List.any_eq_true.1 hany
  obtain ⟨u, hu, hdiffer⟩ := List.any_eq_true.1 hany
  simp only [Bool.and_eq_true, decide_eq_true_eq] at hdiffer
  rw [h _ _ _ _ _ hparse (eq_ok_of_toOption hout) ρ hρ u hu, Option.map_some, hdiffer.1] at hdiffer
  exact absurd hdiffer.2 (by simp)

end Template

end SqlTemplate
