import Mathlib
import SqlTemplate.Proofs.RenamedText
import SqlTemplate.Proofs.Renders
import SqlTemplate.Statement

/-!
Loops scope their variables lexically.  An evaluator that walks the blocks with a stack of the loop
elements it is inside of gives the values that the names in the rendered SQL stand for, whatever
names the rendering has made up on the way.
-/
namespace SqlTemplate.Template

open Name (root afterRoot)

/-- An element of a loop that a name can refer to. -/
structure Binding where
  header : LoopHeader
  item : Value
  position : Nat

namespace Binding

/-- What a name means in an element, if its root is one of the loop's variables: the position in
the list, or the part of the item that the path leads to. -/
def value? (b : Binding) (name : Text) : Option Value :=
  if b.header.index = some (root name) then some (.ofNat b.position)
  else if b.header.item = root name then some ((b.item.walk? (afterRoot name)).getD .null)
  else none

/-- The arguments in scope inside elements, the innermost of which comes first. -/
def scope (args : Args) : List Binding → Args
  | [] => args
  | b :: stack => elementScope b.header (scope args stack) b.item b.position

end Binding

/-- What a name stands for: the innermost loop that binds its root decides, or else the caller. -/
def meaning (args : Args) (stack : List Binding) (name : Text) : Option Value :=
  (stack.findSome? (·.value? name)).or (args.lookup? name)

section

variable (ctx : Condition.Context) (args : Args)

/-- The values of the elements that are kept, one after another. -/
def elementsValues (header : LoopHeader) (stack : List Binding)
    (body : List Binding → Except Error (List (Option Value))) :
    Nat → List Value → Except Error (List (Option Value))
  | _, [] => .ok []
  | position, item :: items => do
    let inner := ⟨header, item, position⟩ :: stack
    if ← passes ctx header (Binding.scope args inner) then
      let vs ← body inner
      let more ← elementsValues header stack body (position + 1) items
      return vs ++ more
    else elementsValues header stack body (position + 1) items

mutual

/-- The values that the names in the lines that a block leaves stand for, in order. -/
def blockValues (stack : List Binding) : Block → Except Error (List (Option Value))
  | .text line => .ok ((Parameter.names ':' line).map (meaning args stack))
  | .guarded condition body => do
    if ← condition.holds ctx (Binding.scope args stack) then blocksValues stack body else return []
  | .choose branches none => branchesValues stack (.ok []) branches
  | .choose branches (some otherwise) =>
    branchesValues stack (blocksValues stack otherwise) branches
  | .loop header body => do
    match ← loopItems ctx (Binding.scope args stack) header.source with
    | none => return []
    | some items =>
      elementsValues ctx args header stack (fun inner => blocksValues inner body) 0 items

def blocksValues (stack : List Binding) : List Block → Except Error (List (Option Value))
  | [] => .ok []
  | b :: bs => do
    let vs ← blockValues stack b
    let more ← blocksValues stack bs
    return vs ++ more

def branchesValues (stack : List Binding) (otherwise : Except Error (List (Option Value))) :
    List (Condition × List Block) → Except Error (List (Option Value))
  | [] => otherwise
  | (condition, body) :: rest => do
    if ← condition.holds ctx (Binding.scope args stack) then blocksValues stack body
    else branchesValues stack otherwise rest

end

/-- The values of a part of a template. -/
def Task.values (stack : List Binding) : Task → Except Error (List (Option Value))
  | .block b => blockValues ctx args stack b
  | .blocks bs => blocksValues ctx args stack bs
  | .branches rest bs => branchesValues ctx args stack (blocksValues ctx args stack bs) rest
  | .elements header _ body position items =>
    elementsValues ctx args header stack (fun inner => blocksValues ctx args inner body) position
      items

end

variable {ctx : Condition.Context} {args : Args} {stack : List Binding}

/-! What is in scope. -/

/-- The scope has the arguments of the caller and all variables of the loops around. -/
theorem contains_scope {name : Text}
    (h : args.contains name ∨ ∃ b ∈ stack, name ∈ b.header.vars) :
    (Binding.scope args stack).contains name := by
  induction stack with
  | nil =>
    rcases h with h | ⟨b, hb, -⟩
    · exact h
    · cases hb
  | cons b stack ih =>
    rw [Binding.scope]
    refine contains_elementScope ?_
    rcases h with h | ⟨c, hc, hname⟩
    · exact Or.inl (ih (Or.inl h))
    · rcases List.mem_cons.1 hc with rfl | hc
      · exact Or.inr hname
      · exact Or.inl (ih (Or.inr ⟨c, hc, hname⟩))

theorem value?_eq_none {b : Binding} {name : Text} (h : root name ∉ b.header.vars) :
    b.value? name = none := by
  have hitem : b.header.item ≠ root name := fun heq => h (by simp [LoopHeader.vars, heq])
  have hindex : b.header.index ≠ some (root name) := fun heq => h (by simp [LoopHeader.vars, heq])
  rw [Binding.value?, if_neg hindex, if_neg hitem]

/-- The value of a reference is the one that its name gets in the text of the element. -/
theorem value?_eq_some {b : Binding} {name : Text} (h : root name ∈ b.header.vars) (loop : Nat)
    (scope : Args) :
    b.value? name =
      some (Naming.value b.header ⟨b.item, b.position, loop, scope⟩ (.ofName name)) := by
  rw [Binding.value?, Naming.value, Reference.ofName]
  by_cases hindex : b.header.index = some (root name)
  · rw [if_pos hindex, if_pos hindex]
  · have hitem : b.header.item = root name := by
      rcases List.mem_cons.1 h with h | h
      · exact h.symm
      · exact absurd (by simpa using h) hindex
    rw [if_neg hindex, if_neg hindex, if_pos hitem]

/-! Names keep their meaning while arguments are made. -/

/-- A name stands for a value, if there is one, given the arguments made so far. -/
def Denotes (args : Args) (stack : List Binding) (bound : Args) (name : Text) (v : Option Value) :
    Prop := ∀ w, v = some w → meaning (args.union bound) stack name = some w

/-- An argument made later changes the meaning of no name that has one. -/
theorem meaning_mono {bound bound' : Args} (h : bound.Extends bound')
    (hdot : bound'.Dotless) {name : Text} {v : Value}
    (hv : meaning (args.union bound) stack name = some v) :
    meaning (args.union bound') stack name = some v := by
  rw [meaning] at hv ⊢
  cases hs : stack.findSome? (·.value? name) with
  | some w => simpa [hs] using hv
  | none =>
    rw [hs, Option.none_or] at hv
    rw [Option.none_or]
    refine Args.lookup?_mono (fun key w hw => ?_) (fun key hkey hnone => ?_) hv
    · rw [Dict.get?_union] at hw ⊢
      cases ha : args.get? key with
      | some u => simpa [ha] using hw
      | none =>
        rw [ha, Option.none_or] at hw
        rw [Option.none_or, h key w hw]
    · rw [Dict.get?_union, Option.or_eq_none_iff] at hnone ⊢
      refine ⟨hnone.1, ?_⟩
      cases hb : bound'.get? key with
      | none => rfl
      | some w => exact absurd hkey (hdot key (by simp [Dict.contains, hb]))

theorem Denotes.mono {bound bound' : Args} (h : bound.Extends bound')
    (hdot : bound'.Dotless) {name : Text} {v : Option Value}
    (hd : Denotes args stack bound name v) : Denotes args stack bound' name v :=
  fun w hw => meaning_mono h hdot (hd w hw)

/-- What the caller's arguments alone give, they give together with those made so far. -/
theorem denotes_meaning {bound : Args} (hdot : bound.Dotless)
    (name : Text) : Denotes args stack bound name (meaning args stack name) := by
  intro w hw
  have hempty : args.union ∅ = args := rfl
  rw [← hempty] at hw
  exact meaning_mono (fun key v hv => by simp at hv) hdot hw

/-- A new name for a reference means outside the element what the reference meant inside. -/
theorem denotes_of_outcome {b : Binding} {loop : Nat} {bound bound' : Args}
    (h : bound.Extends bound') (hdot : bound'.Dotless)
    {name new : Text} {v : Option Value}
    (ho : Naming.Outcome b.header ⟨b.item, b.position, loop, Binding.scope args (b :: stack)⟩ bound'
      name new)
    (hd : Denotes args (b :: stack) bound name v) : Denotes args stack bound' new v := by
  intro w hw
  have hmeaning := hd w hw
  cases ho with
  | other hroot =>
    rw [meaning, List.findSome?_cons, value?_eq_none hroot] at hmeaning
    exact meaning_mono h hdot hmeaning
  | own hroot hword hfresh hstands =>
    rw [meaning, List.findSome?_cons, value?_eq_some hroot loop (Binding.scope args (b :: stack))]
      at hmeaning
    have hself : root new = new := Name.root_eq_self hword.dot_notMem
    have hunbound : stack.findSome? (·.value? new) = none := by
      rw [List.findSome?_eq_none_iff]
      intro c hc
      refine value?_eq_none fun hmem => ?_
      have hin : (Binding.scope args (b :: stack)).contains new :=
        contains_scope (Or.inr ⟨c, List.mem_cons_of_mem b hc, hself ▸ hmem⟩)
      simp [hfresh] at hin
    have hargs : args.get? new = none := by
      cases ha : args.get? new with
      | none => rfl
      | some u =>
        have hin : (Binding.scope args (b :: stack)).contains new :=
          contains_scope (Or.inl (by simp [Dict.contains, ha]))
        simp [hfresh] at hin
    rw [meaning, hunbound, Option.none_or, Args.lookup?_eq, Dict.get?_union, hargs, Option.none_or,
      hstands]
    exact hmeaning

theorem denotes_of_outcomes {b : Binding} {loop : Nat} {bound bound' : Args}
    (h : bound.Extends bound') (hdot : bound'.Dotless) {names news : List Text}
    {vs : List (Option Value)}
    (ho : List.Forall₂ (Naming.Outcome b.header
      ⟨b.item, b.position, loop, Binding.scope args (b :: stack)⟩ bound') names news)
    (hd : List.Forall₂ (Denotes args (b :: stack) bound) names vs) :
    List.Forall₂ (Denotes args stack bound') news vs := by
  induction ho generalizing vs with
  | nil =>
    cases hd
    exact .nil
  | cons hname _ ih =>
    cases hd with
    | cons hv hrest => exact .cons (denotes_of_outcome h hdot hname hv) (ih hrest)

/-- Calm lines whose names stand for these values. -/
structure Faithful (args : Args) (stack : List Binding) (bound : Args) (ls : List Text)
    (vs : List (Option Value)) : Prop where
  calm : ∀ l ∈ ls, Text.Calm l
  denotes : List.Forall₂ (Denotes args stack bound) (ls.flatMap (Parameter.names ':')) vs

theorem Faithful.nil {bound : Args} : Faithful args stack bound [] [] := ⟨by simp, .nil⟩

theorem Faithful.mono {bound bound' : Args} {ls : List Text} {vs : List (Option Value)}
    (h : bound.Extends bound') (hdot : bound'.Dotless) (hf : Faithful args stack bound ls vs) :
    Faithful args stack bound' ls vs :=
  ⟨hf.calm, hf.denotes.imp fun _ _ hd => hd.mono h hdot⟩

theorem Faithful.append {bound : Args} {ls ms : List Text} {vs ws : List (Option Value)}
    (h : Faithful args stack bound ls vs) (h' : Faithful args stack bound ms ws) :
    Faithful args stack bound (ls ++ ms) (vs ++ ws) := by
  refine ⟨fun l hl => (List.mem_append.1 hl).elim (h.calm l) (h'.calm l), ?_⟩
  rw [List.flatMap_append]
  exact List.rel_append h.denotes h'.denotes

/-- The lines of a loop are as faithful as the texts of its elements. -/
theorem Faithful.loopLines {header : LoopHeader} (hs : Text.Separator header.delimiter)
    {bound : Args} {texts : List Text} {vs : List (Option Value)}
    (h : Faithful args stack bound texts vs) :
    Faithful args stack bound (loopLines header texts) vs := by
  rw [Template.loopLines]
  cases texts with
  | nil => exact h
  | cons t texts =>
    refine ⟨fun l hl => ?_, ?_⟩
    · obtain rfl : l = Text.join header.delimiter (t :: texts) := by simpa using hl
      exact Text.Calm.join hs h.calm
    · have hjoin := Parameter.names_join hs h.calm
      simpa [hjoin] using h.denotes

/-- Renaming takes the lines of an element out of the loop. -/
theorem Faithful.rename {b : Binding} {loop : Nat} (hvars : ∀ v ∈ b.header.vars, Name.IsWord v)
    {bound bound' : Args} (hdot : bound.Dotless) {ls : List Text} {t : Text}
    {vs : List (Option Value)} (h : Faithful args (b :: stack) bound ls vs)
    (hrename : Naming.rename b.header ':'
      ⟨b.item, b.position, loop, Binding.scope args (b :: stack)⟩ (Text.unlines ls) bound =
        (t, bound')) :
    Faithful args stack bound' [t] vs ∧ bound.Extends bound' ∧ bound'.Dotless := by
  have hcalm : Text.Calm (Text.unlines ls) := Text.Calm.join Text.separator_newline h.calm
  have hscope : ∀ v ∈ b.header.vars, (Binding.scope args (b :: stack)).contains v :=
    fun v hv => contains_elementScope (.inr hv)
  obtain ⟨ht, hext, hdot', hnames⟩ := Naming.rename_of_calm hvars hscope hcalm hdot hrename
  refine ⟨⟨by simpa using ht, ?_⟩, hext, hdot'⟩
  rw [Text.unlines, Parameter.names_join Text.separator_newline h.calm] at hnames
  simpa using denotes_of_outcomes hext hdot' hnames h.denotes

/-- Every rendering of a part of a template is faithful to the evaluator's values. -/
theorem Renders.faithful {scope : Args} {task : Task} {p q : Progress} {ls : List Text}
    (h : Renders ctx ':' scope task p ls q) (hscope : scope = Binding.scope args stack)
    (htask : task.Every Text.Calm fun header =>
      (∀ v ∈ header.vars, Name.IsWord v) ∧ Text.Separator header.delimiter)
    (hdot : p.bound.Dotless) :
    ∃ vs, task.values ctx args stack = .ok vs ∧ Faithful args stack q.bound ls vs ∧
      p.bound.Extends q.bound ∧ q.bound.Dotless := by
  induction h generalizing stack with
  | text line =>
    simp only [Task.Every, Block.Every] at htask
    refine ⟨_, by rw [Task.values, blockValues], ⟨by simpa using htask, ?_⟩, .refl _, hdot⟩
    simp only [List.flatMap_cons, List.flatMap_nil, List.append_nil, List.forall₂_map_right_iff]
    exact List.forall₂_same.2 fun name _ => denotes_meaning hdot name
  | guarded holds lines ih =>
    simp only [Task.Every, Block.Every] at htask ih
    obtain ⟨vs, hvs, hrest⟩ := ih hscope htask hdot
    refine ⟨vs, ?_, hrest⟩
    rw [Task.values, blockValues, ← hscope, holds]
    exact hvs
  | skipped fails =>
    refine ⟨[], ?_, .nil, .refl _, hdot⟩
    rw [Task.values, blockValues, ← hscope, fails]
    rfl
  | @choose scope branches otherwise p q ls lines ih =>
    cases otherwise with
    | none =>
      simp only [Task.Every, Block.Every] at htask ih
      obtain ⟨vs, hvs, hrest⟩ := ih hscope ⟨htask, trivial⟩ hdot
      refine ⟨vs, ?_, hrest⟩
      rw [Task.values, blockValues]
      exact hvs
    | some bs =>
      simp only [Task.Every, Block.Every] at htask ih
      obtain ⟨vs, hvs, hrest⟩ := ih hscope htask hdot
      refine ⟨vs, ?_, hrest⟩
      rw [Task.values, blockValues]
      exact hvs
  | absent items =>
    refine ⟨[], ?_, .nil, .refl _, hdot⟩
    rw [Task.values, blockValues, ← hscope, items]
    rfl
  | loop items elements ih =>
    simp only [Task.Every, Block.Every] at htask ih
    obtain ⟨vs, hvs, hfaithful, hext, hdot'⟩ := ih hscope htask hdot
    refine ⟨vs, ?_, hfaithful.loopLines htask.1.2, hext, hdot'⟩
    rw [Task.values, blockValues, ← hscope, items]
    exact hvs
  | nil => exact ⟨[], by rw [Task.values, blocksValues], .nil, .refl _, hdot⟩
  | cons first more ih₁ ih₂ =>
    obtain ⟨vs, hvs, hfaithful, hext, hdot₁⟩ := ih₁ hscope htask.1 hdot
    obtain ⟨ws, hws, hfaithful', hext', hdot₂⟩ := ih₂ hscope htask.2 hdot₁
    refine ⟨vs ++ ws, ?_, (hfaithful.mono hext' hdot₂).append hfaithful', hext.trans hext', hdot₂⟩
    simp only [Task.values] at hvs hws ⊢
    rw [blocksValues, hvs, hws]
    rfl
  | otherwise lines ih =>
    obtain ⟨vs, hvs, hrest⟩ := ih hscope htask.2 hdot
    refine ⟨vs, ?_, hrest⟩
    rw [Task.values, branchesValues]
    exact hvs
  | taken holds lines ih =>
    obtain ⟨vs, hvs, hrest⟩ := ih hscope htask.1.1 hdot
    refine ⟨vs, ?_, hrest⟩
    rw [Task.values, branchesValues, ← hscope, holds]
    exact hvs
  | missed fails lines ih =>
    obtain ⟨vs, hvs, hrest⟩ := ih hscope ⟨htask.1.2, htask.2⟩ hdot
    refine ⟨vs, ?_, hrest⟩
    rw [Task.values, branchesValues, ← hscope, fails]
    exact hvs
  | done => exact ⟨[], by rw [Task.values, elementsValues], .nil, .refl _, hdot⟩
  | dropped fails more ih =>
    obtain ⟨vs, hvs, hrest⟩ := ih hscope htask hdot
    refine ⟨vs, ?_, hrest⟩
    rw [Task.values, elementsValues, Binding.scope, ← hscope, fails]
    exact hvs
  | @kept scope header loop body position item items p q r ls texts t bound holds lines rename more
      ih₁ ih₂ =>
    subst hscope
    have hinner : elementScope header (Binding.scope args stack) item position =
        Binding.scope args (⟨header, item, position⟩ :: stack) := rfl
    obtain ⟨vs, hvs, hfaithful, hext, hdot₁⟩ := ih₁ hinner htask.2 hdot
    obtain ⟨hfaithful, hext', hdot₂⟩ := hfaithful.rename htask.1.1 hdot₁ rename
    obtain ⟨ws, hws, hfaithful', hext'', hdot₃⟩ := ih₂ rfl htask hdot₂
    refine ⟨vs ++ ws, ?_, (hfaithful.mono hext'' hdot₃).append hfaithful',
      (hext.trans hext').trans hext'', hdot₃⟩
    simp only [Task.values] at hvs hws ⊢
    rw [elementsValues, Binding.scope, holds, hvs, hws]
    rfl

theorem isWord_of_isName {v : Text} (h : LoopHeader.IsName v) (hascii : ∀ c ∈ v, c.toNat < 128) :
    Name.IsWord v := by
  obtain ⟨c, cs, rfl, hc, hcs⟩ := h
  refine ⟨c, cs, rfl, ?_, fun d hd => ?_⟩
  · have hc' := hascii c List.mem_cons_self
    simp only [LoopHeader.isStart, Bool.or_eq_true, beq_iff_eq] at hc
    rcases hc with (h | rfl) | rfl
    · simpa [Name.isStart] using h
    · exact absurd hc' (by decide)
    · exact absurd hc' (by decide)
  · rw [← Reference.isWord_of_ascii (hascii d (List.mem_cons_of_mem c hd))]
    exact hcs d hd

theorem map_lookup?_of_denotes {bound : Args} {names : List Text} {vs : List (Option Value)}
    (h : List.Forall₂ (Denotes args [] bound) names vs) (hsome : ∀ v ∈ vs, v ≠ none) :
    names.map (Args.lookup? (args.union bound)) = vs := by
  induction h with
  | nil => rfl
  | @cons name v names vs hv _ ih =>
    obtain ⟨w, rfl⟩ := Option.ne_none_iff_exists'.1 (hsome v List.mem_cons_self)
    rw [List.map_cons, ih fun u hu => hsome u (List.mem_cons_of_mem _ hu)]
    exact congrArg (· :: vs) (hv w rfl)

/-- Loop expansion implements lexical scoping: in a template of calm ASCII lines whose delimiters
are separators, the names in what is rendered stand for the evaluator's values, if every name in
the lines stands for something at all. -/
theorem values_of_render {t : Text} {blocks : Template} (hparse : Template.parse t = .ok blocks)
    (hascii : ∀ c ∈ t, c.toNat < 128)
    (hcalm : Every Text.Calm (fun header => Text.Separator header.delimiter) blocks)
    {rendering : Rendering} (hrender : render ctx ':' blocks args = .ok rendering) :
    ∃ vs, blocksValues ctx args [] blocks = .ok vs ∧
      ((∀ v ∈ vs, v ≠ none) → (Statement.ofSql ':' rendering.sql rendering.args).values = vs) := by
  obtain ⟨ls, q, hls, hsql, hargs⟩ := renders_of_render hrender
  have hevery : Every Text.Calm (fun header =>
      (∀ v ∈ header.vars, Name.IsWord v) ∧ Text.Separator header.delimiter) blocks := by
    refine Every.imp (fun l hl => hl.2) (fun header hh => ⟨fun v hv => ?_, hh.2⟩) blocks
      (Every.and blocks (every_of_parse hparse) hcalm)
    obtain ⟨hname, hsub⟩ := hh.1.1 v hv
    exact isWord_of_isName hname fun c hc => hascii c (hsub hc)
  have hscope : args = Binding.scope args [] := rfl
  have hempty : Dict.Dotless (∅ : Args) := fun key hkey => by cases hkey
  obtain ⟨vs, hvs, hfaithful, -, -⟩ := hls.faithful hscope hevery hempty
  refine ⟨vs, hvs, fun hsome => ?_⟩
  have hnames : Parameter.names ':' rendering.sql = ls.flatMap (Parameter.names ':') := by
    rw [hsql, Text.unlines, Parameter.names_join Text.separator_newline hfaithful.calm]
  rw [Statement.values, Statement.names_ofSql, Statement.args_ofSql, hargs, hnames]
  exact map_lookup?_of_denotes hfaithful.denotes hsome

/-- A loop over an object and null, with the position of each element. -/
theorem values_of_render_loop :
    ∃ blocks rendering,
      Template.parse "--#for u, i of :us\n(:u.a, :i)\n--#end\n:k".toList = .ok blocks ∧
      render ⟨true, Pipes.builtin⟩ ':' blocks (.ofList [("k".toList, .ofNat 7),
        ("us".toList, .array [.object [("a".toList, .ofNat 5)], .null])]) = .ok rendering ∧
      (Statement.ofSql ':' rendering.sql rendering.args).values =
        [some (.ofNat 5), some (.ofNat 0), some .null, some (.ofNat 1), some (.ofNat 7)] := by
  have hparse : Template.parse "--#for u, i of :us\n(:u.a, :i)\n--#end\n:k".toList =
      .ok [.loop ⟨"u".toList, some "i".toList, "us".toList, ", ".toList, none⟩
        [.text "(:u.a, :i)".toList], .text ":k".toList] := by cbv
  have hcalm : Every Text.Calm (fun header => Text.Separator header.delimiter)
      [.loop ⟨"u".toList, some "i".toList, "us".toList, ", ".toList, none⟩
        [.text "(:u.a, :i)".toList], .text ":k".toList] := by
    have hdelimiter : Text.Separator ", ".toList :=
      ⟨by decide, Text.forall_mem_of_all (by decide)⟩
    have hbody : Text.Calm "(:u.a, :i)".toList :=
      ⟨Text.forall_mem_of_all (by decide), Text.forall_mem_of_all (by decide), by decide⟩
    have hlast : Text.Calm ":k".toList :=
      ⟨Text.forall_mem_of_all (by decide), Text.forall_mem_of_all (by decide), by decide⟩
    simp only [Every, Block.Every]
    exact ⟨⟨hdelimiter, hbody, trivial⟩, hlast, trivial⟩
  have hok : (render ⟨true, Pipes.builtin⟩ ':'
      [.loop ⟨"u".toList, some "i".toList, "us".toList, ", ".toList, none⟩
        [.text "(:u.a, :i)".toList], .text ":k".toList]
      (.ofList [("k".toList, .ofNat 7),
        ("us".toList, .array [.object [("a".toList, .ofNat 5)], .null])])).isOk = true := by
    decide +kernel
  obtain ⟨rendering, hrender⟩ := exists_of_isOk hok
  obtain ⟨vs, hvs, hvalues⟩ := values_of_render hparse
    (Text.forall_mem_of_all (by decide)) hcalm hrender
  obtain rfl : vs = [some (.ofNat 5), some (.ofNat 0), some .null, some (.ofNat 1),
      some (.ofNat 7)] := Except.ok.inj (hvs.symm.trans (by cbv))
  exact ⟨_, rendering, hparse, hrender, hvalues (by simp)⟩

end SqlTemplate.Template
