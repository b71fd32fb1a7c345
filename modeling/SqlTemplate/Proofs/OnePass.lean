import SqlTemplate.Proofs.LineMachine
import SqlTemplate.Proofs.RoundTrip

/-!
What the machine that reads line by line has to do with rendering.  It emits the lines of a
rendering, asks the same conditions in the same order, and fails at the same one.
-/
namespace SqlTemplate.Template

/-- A text none of whose lines opens a loop. -/
def LoopFree (t : Text) : Prop := ∀ l ∈ t.lines, (Directive.read? l).map Prod.fst ≠ some .for

instance (t : Text) : Decidable (LoopFree t) :=
  inferInstanceAs (Decidable (∀ l ∈ t.lines, (Directive.read? l).map Prod.fst ≠ some .for))

theorem LoopFree.read?_ne {t : Text} (h : LoopFree t) {l : Text} (hl : l ∈ t.lines) (rest : Text) :
    Directive.read? l ≠ some (.for, rest) := fun hread => h l hl (by rw [hread]; rfl)

/-- Blocks none of which is a loop. -/
abbrev NoLoops : List Block → Prop := Every (fun _ => True) fun _ => False

theorem noLoops_of_parse {t : Text} {blocks : Template} (h : parse t = .ok blocks)
    (hloop : LoopFree t) : NoLoops blocks := by
  have hof : ofText t = .ok blocks := ofText_eq_ok_iff_derives.2 (parse_eq_ok_iff.1 h)
  refine Every.imp (fun _ _ => trivial) ?_ blocks (every_of_ofText hof)
  rintro header ⟨l, hl, rest, n, hread, -⟩
  exact hloop.read?_ne hl rest hread

section

variable {m : Type → Type} [Monad m] [LawfulMonad m] {ask : Nat → Condition → m Bool}

variable (ask) in
/-- The lines that the machine emits for a text. -/
def LineMachine.emitted (t : Text) : m (List Text) := State.lines <$> run ask ⟨[], 0, []⟩ t.lines

theorem emitted_eq_askBlocks {t : Text} {blocks : Template} (h : parse t = .ok blocks)
    (hloop : LoopFree t) : LineMachine.emitted ask t = askBlocks ask 0 blocks := by
  have hruns : (Part.blocks blocks).Runs ask t.lines :=
    (parse_eq_ok_iff.1 h).runs fun l hl => hloop.read?_ne hl
  rw [LineMachine.emitted, hruns ⟨[], 0, []⟩, LineMachine.emit_of_active rfl, Functor.map_map]
  exact id_map _

end

/-! Rendering is asking in order. -/

section

variable (ctx : Condition.Context) (args : Args)

/-- Conditions as rendering asks them. -/
def answer (_ : Nat) (c : Condition) : Render Bool := liftM (c.holds ctx args)

variable (sigil : Char)

mutual

theorem renderBlock_eq_askBlock (place : Nat) : ∀ b : Block,
    b.Every (fun _ => True) (fun _ => False) →
      renderBlock ctx sigil args b = askBlock (answer ctx args) place b
  | .text line, _ => by rw [renderBlock, askBlock]
  | .guarded c body, h => by
    simp only [Block.Every] at h
    rw [renderBlock, askBlock, renderBlocks_eq_askBlocks (place + 1) body h]
    rfl
  | .choose branches none, h => by
    simp only [Block.Every] at h
    rw [renderBlock, askBlock]
    exact (renderBranches_eq_firstTaken place (pure []) branches h).trans
      (bind_congr fun taken => by cases taken <;> rfl)
  | .choose branches (some otherwise), h => by
    simp only [Block.Every] at h
    rw [renderBlock, askBlock,
      renderBlocks_eq_askBlocks (place + branchConditionCount branches) otherwise h.2]
    exact (renderBranches_eq_firstTaken place _ branches h.1).trans
      (bind_congr fun taken => by cases taken <;> rfl)
  | .loop _ _, h => by
    simp only [Block.Every] at h
    exact h.1.elim

theorem renderBlocks_eq_askBlocks (place : Nat) : ∀ bs : List Block, NoLoops bs →
    renderBlocks ctx sigil args bs = askBlocks (answer ctx args) place bs
  | [], _ => by rw [renderBlocks, askBlocks]
  | b :: bs, h => by
    rw [renderBlocks, askBlocks, renderBlock_eq_askBlock place b h.1,
      renderBlocks_eq_askBlocks (place + blockConditionCount b) bs h.2]

theorem renderBranches_eq_firstTaken (place : Nat) (otherwise : Render (List Text)) :
    ∀ branches : List (Condition × List Block),
      EveryBranch (fun _ => True) (fun _ => False) branches →
        renderBranches ctx sigil args otherwise branches = (do
          match ← firstTaken (answer ctx args) place branches with
          | some lines => pure lines
          | none => otherwise)
  | [], _ => by
    rw [renderBranches, firstTaken]
    rfl
  | (c, body) :: rest, h => by
    rw [renderBranches, firstTaken, bind_assoc, renderBlocks_eq_askBlocks (place + 1) body h.1,
      renderBranches_eq_firstTaken (place + (1 + conditionCount body)) otherwise rest h.2]
    refine bind_congr fun holds => ?_
    cases holds <;> simp

end

end

/-! Questions that stay noted. -/

/-- A condition that has been asked, and how many others stand in front of it in the text. -/
structure Question where
  place : Nat
  condition : Condition

/-- What asks conditions.  The questions stay noted when one of them has no answer. -/
abbrev Asking := ExceptT Error (StateM (List Question))

section

variable (ctx : Condition.Context) (args : Args)

def noting (place : Nat) (c : Condition) : Asking Bool := fun asked =>
  (c.holds ctx args, asked ++ [⟨place, c⟩])

/-- Whether these questions have led to a result: all of them have been answered, or all but the
last one, which has the error. -/
def LeadsTo {α : Type} (asked : List Question) : Except Error α → Prop
  | .ok _ => ∀ q ∈ asked, (q.condition.holds ctx args).isOk
  | .error e => ∃ before q, asked = before ++ [q] ∧ q.condition.holds ctx args = .error e ∧
      ∀ q ∈ before, (q.condition.holds ctx args).isOk

/-- Whether a rendering has the result of what notes its questions. -/
def Follows {α : Type} (x : Asking α) (y : Render α) : Prop :=
  ∀ notes, ∃ result asked, x notes = (result, notes ++ asked) ∧ LeadsTo ctx args asked result ∧
    ∀ p, y p = result.map (·, p)

end

variable {ctx : Condition.Context} {args : Args} {α β : Type}

theorem LeadsTo.append {asked more : List Question} {result : Except Error α}
    (h : ∀ q ∈ asked, (q.condition.holds ctx args).isOk) (hmore : LeadsTo ctx args more result) :
    LeadsTo ctx args (asked ++ more) result := by
  cases result with
  | ok a => exact List.forall_mem_append.2 ⟨h, hmore⟩
  | error e =>
    obtain ⟨before, q, rfl, hq, hbefore⟩ := hmore
    exact ⟨asked ++ before, q, (List.append_assoc ..).symm, hq,
      List.forall_mem_append.2 ⟨h, hbefore⟩⟩

theorem follows_pure (a : α) : Follows ctx args (pure a) (pure a) := fun notes =>
  ⟨.ok a, [], by rw [List.append_nil]; rfl, by simp [LeadsTo], fun p => rfl⟩

theorem follows_bind {x : Asking α} {y : Render α} {f : α → Asking β} {g : α → Render β}
    (h : Follows ctx args x y) (hf : ∀ a, Follows ctx args (f a) (g a)) :
    Follows ctx args (x >>= f) (y >>= g) := by
  intro notes
  obtain ⟨result, asked, hx, hasked, hy⟩ := h notes
  cases result with
  | error e =>
    refine ⟨.error e, asked, ?_, hasked, fun p => ?_⟩
    · change ExceptT.bindCont f (x notes).1 (x notes).2 = _
      rw [hx]
      rfl
    · change (y p >>= fun s => g s.1 s.2) = _
      rw [hy]
      rfl
  | ok a =>
    obtain ⟨result, more, hx', hmore, hy'⟩ := hf a (notes ++ asked)
    refine ⟨result, asked ++ more, ?_, hmore.append hasked, fun p => ?_⟩
    · change ExceptT.bindCont f (x notes).1 (x notes).2 = _
      rw [hx, ← List.append_assoc, ← hx']
      rfl
    · change (y p >>= fun s => g s.1 s.2) = _
      rw [hy]
      exact hy' p

theorem follows_noting (place : Nat) (c : Condition) :
    Follows ctx args (noting ctx args place c) (answer ctx args place c) := by
  intro notes
  refine ⟨c.holds ctx args, [⟨place, c⟩], rfl, ?_, fun p => ?_⟩
  · cases h : c.holds ctx args with
    | ok b => simp [LeadsTo, h, Except.isOk, Except.toBool]
    | error e => exact ⟨[], _, rfl, h, by simp⟩
  · rw [answer]
    cases c.holds ctx args <;> rfl

mutual

theorem follows_askBlock (place : Nat) : ∀ b : Block,
    Follows ctx args (askBlock (noting ctx args) place b) (askBlock (answer ctx args) place b)
  | .text line => by
    rw [askBlock, askBlock]
    exact follows_pure _
  | .guarded c body => by
    rw [askBlock, askBlock]
    refine follows_bind (follows_noting place c) fun holds => ?_
    cases holds with
    | true => exact follows_askBlocks (place + 1) body
    | false => exact follows_pure _
  | .choose branches none => by
    rw [askBlock, askBlock]
    refine follows_bind (follows_firstTaken place branches) fun taken => ?_
    cases taken <;> exact follows_pure _
  | .choose branches (some otherwise) => by
    rw [askBlock, askBlock]
    refine follows_bind (follows_firstTaken place branches) fun taken => ?_
    cases taken with
    | some lines => exact follows_pure _
    | none => exact follows_askBlocks _ otherwise
  | .loop _ _ => by
    rw [askBlock, askBlock]
    exact follows_pure _

theorem follows_askBlocks (place : Nat) : ∀ bs : List Block,
    Follows ctx args (askBlocks (noting ctx args) place bs) (askBlocks (answer ctx args) place bs)
  | [] => by
    rw [askBlocks, askBlocks]
    exact follows_pure _
  | b :: bs => by
    rw [askBlocks, askBlocks]
    exact follows_bind (follows_askBlock place b) fun lines =>
      follows_bind (follows_askBlocks _ bs) fun more => follows_pure _

theorem follows_firstTaken (place : Nat) : ∀ branches : List (Condition × List Block),
    Follows ctx args (firstTaken (noting ctx args) place branches)
      (firstTaken (answer ctx args) place branches)
  | [] => by
    rw [firstTaken, firstTaken]
    exact follows_pure _
  | (c, body) :: rest => by
    rw [firstTaken, firstTaken]
    refine follows_bind (follows_noting place c) fun holds => ?_
    cases holds with
    | true =>
      simp only [if_true, map_eq_pure_bind]
      exact follows_bind (follows_askBlocks _ body) fun lines => follows_pure _
    | false => exact follows_firstTaken _ rest

end

/-- Rendering a text without loops is what the machine does that reads it line by line.  Both ask
the same conditions in the same order, whatever asking is, and the machine emits the lines that are
rendered.  If there is an error, then the last condition that the machine has asked has it. -/
theorem render_eq_emitted {t : Text} {blocks : Template} (h : parse t = .ok blocks)
    (hloop : LoopFree t) (ctx : Condition.Context) (sigil : Char) (args : Args) :
    (∀ {m : Type → Type} [Monad m] [LawfulMonad m] (ask : Nat → Condition → m Bool),
      LineMachine.emitted ask t = askBlocks ask 0 blocks) ∧
    renderBlocks ctx sigil args blocks = askBlocks (answer ctx args) 0 blocks ∧
    ∃ result asked, LineMachine.emitted (noting ctx args) t [] = (result, asked) ∧
      LeadsTo ctx args asked result ∧
      (∀ p, renderBlocks ctx sigil args blocks p = result.map (·, p)) ∧
      (render ctx sigil blocks args).map Rendering.sql = result.map Text.unlines := by
  have hsame := renderBlocks_eq_askBlocks ctx args sigil 0 blocks (noLoops_of_parse h hloop)
  refine ⟨fun ask => emitted_eq_askBlocks h hloop, hsame, ?_⟩
  have hfollows : Follows ctx args (askBlocks (noting ctx args) 0 blocks)
      (askBlocks (answer ctx args) 0 blocks) := follows_askBlocks 0 blocks
  obtain ⟨result, asked, hnoted, hasked, hresult⟩ := hfollows []
  rw [← hsame] at hresult
  refine ⟨result, asked, (congrFun (emitted_eq_askBlocks h hloop) []).trans hnoted, hasked,
    hresult, ?_⟩
  rw [render, StateT.run, hresult]
  cases result <;> rfl

/-- A choice inside an active block. -/
def innerChoiceText : Text :=
  ("a\n--#if :p\n--#choose\n-- none\n--#when :q = 1\n--#if :p\nb\n--#fi\n--#break\n" ++
    "--#when :r\nc\n--#default\nd\n--#end\n--#fi").toList

def innerChoice : Template :=
  let p : Condition := ⟨":p".toList, .test (.argument "p".toList [])⟩
  let q : Condition :=
    ⟨":q = 1".toList, .compare (.argument "q".toList []) .eq (.literal (.ofNat 1))⟩
  let r : Condition := ⟨":r".toList, .test (.argument "r".toList [])⟩
  [.text "a".toList,
    .guarded p [.choose [(q, [.guarded p [.text "b".toList]]), (r, [.text "c".toList])]
      (some [.text "d".toList])]]

/-- The first branch does not apply, and the condition of the second one asks for an argument that
is missing.  What the first branch holds has not been asked. -/
theorem render_eq_emitted_innerChoice :
    let args : Args := .ofList [("p".toList, .bool true), ("q".toList, .ofNat 2)]
    parse innerChoiceText = .ok innerChoice ∧ LoopFree innerChoiceText ∧
      (render ⟨true, Pipes.builtin⟩ ':' innerChoice args).map Rendering.sql =
        .error (.missingArgument "r".toList) ∧
      (LineMachine.emitted (noting ⟨true, Pipes.builtin⟩ args) innerChoiceText []).2.map
        Question.place = [0, 1, 3] := by
  intro args
  have hparse : parse innerChoiceText = .ok innerChoice := by cbv
  have hloop : LoopFree innerChoiceText := by decide +kernel
  obtain ⟨hasked, -, result, asked, hemitted, -, -, hrender⟩ :=
    render_eq_emitted hparse hloop ⟨true, Pipes.builtin⟩ ':' args
  have hquestions : askBlocks (noting ⟨true, Pipes.builtin⟩ args) 0 innerChoice [] =
      (result, asked) := by rw [← hasked, hemitted]
  refine ⟨hparse, hloop, ?_, ?_⟩
  · rw [hrender, show result = .error (.missingArgument "r".toList) from
      (congrArg Prod.fst hquestions).symm.trans (by decide +kernel)]
    rfl
  · rw [hasked]
    decide +kernel

end SqlTemplate.Template
