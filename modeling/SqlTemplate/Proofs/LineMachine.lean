import SqlTemplate.Proofs.Grammar

/-!
Rendering in one pass.  A machine that goes through the lines of a text with a stack of open blocks,
and asks a condition only where it needs the answer, emits the lines that rendering the blocks of
the text gives; it asks the same conditions in the same order, and fails at the same one.
-/
namespace SqlTemplate.Template

open Directive (Keyword)

mutual

/-- How many conditions there are in a block. -/
def blockConditionCount : Block → Nat
  | .text _ => 0
  | .guarded _ body => conditionCount body + 1
  | .choose branches none => branchConditionCount branches
  | .choose branches (some otherwise) => branchConditionCount branches + conditionCount otherwise
  | .loop _ body => conditionCount body

def conditionCount : List Block → Nat
  | [] => 0
  | b :: bs => blockConditionCount b + conditionCount bs

def branchConditionCount : List (Condition × List Block) → Nat
  | [] => 0
  | (_, body) :: rest => 1 + conditionCount body + branchConditionCount rest

end

variable {m : Type → Type} [Monad m]

section

variable (ask : Nat → Condition → m Bool)

mutual

/-- The lines of a block without loops, for any way of asking its conditions.  In front of it there
are `place` conditions. -/
def askBlock (place : Nat) : Block → m (List Text)
  | .text line => pure [line]
  | .guarded c body => do
    if ← ask place c then askBlocks (place + 1) body else pure []
  | .choose branches none => do
    match ← firstTaken place branches with
    | some lines => pure lines
    | none => pure []
  | .choose branches (some otherwise) => do
    match ← firstTaken place branches with
    | some lines => pure lines
    | none => askBlocks (place + branchConditionCount branches) otherwise
  | .loop _ _ => pure []

def askBlocks (place : Nat) : List Block → m (List Text)
  | [] => pure []
  | b :: bs => do
    let lines ← askBlock place b
    let more ← askBlocks (place + blockConditionCount b) bs
    return lines ++ more

/-- The lines of the first branch that applies, if there is one. -/
def firstTaken (place : Nat) : List (Condition × List Block) → m (Option (List Text))
  | [] => pure none
  | (c, body) :: rest => do
    if ← ask place c then some <$> askBlocks (place + 1) body
    else firstTaken (place + (1 + conditionCount body)) rest

end

end

/-! The machine. -/

namespace LineMachine

/-- An open block. -/
inductive Frame where
  | guarded (active : Bool)
  /-- A choice, perhaps of the argument that a switch names; whether a branch of it has applied,
  and whether the current branch is that one. -/
  | choose (switch : Option Text) (matched active : Bool)

def Frame.active : Frame → Bool
  | guarded active => active
  | choose _ _ active => active

/-- The open blocks, innermost first, how many conditions have been read, and the lines that have
been emitted. -/
structure State where
  frames : List Frame
  place : Nat
  lines : List Text

namespace State

/-- Whether lines are emitted. -/
def active (s : State) : Bool := s.frames.all Frame.active

def push (s : State) (f : Frame) : State := { s with frames := f :: s.frames }

def pop (s : State) : State := { s with frames := s.frames.tail }

end State

variable (ask : Nat → Condition → m Bool)

/-- Reads a condition, and asks it if it is needed. -/
def readCondition (s : State) (needed : Bool) (c : Condition) : m (State × Bool) := do
  let holds ← (if needed then ask s.place c else pure false)
  return ({ s with place := s.place + 1 }, holds)

def openIf (s : State) (c : Condition) : m State := do
  let (s, holds) ← readCondition ask s s.active c
  return s.push (.guarded holds)

/-- The condition of a branch is needed if the blocks around the choice are active and no branch in
front of it has applied. -/
def openBranch (s : State) (c : Condition) : m State :=
  match s.frames with
  | .choose switch matched _ :: frames => do
    let (s, holds) ←
      readCondition ask { s with frames } (frames.all Frame.active && !matched) c
    return s.push (.choose switch (matched || holds) holds)
  | _ => pure s

def openOtherwise (s : State) : State :=
  match s.frames with
  | .choose switch matched _ :: frames =>
    { s with frames := .choose switch true (!matched) :: frames }
  | _ => s

def endBranch (s : State) : State :=
  match s.frames with
  | .choose switch matched _ :: frames =>
    { s with frames := .choose switch matched false :: frames }
  | _ => s

/-- The argument of the innermost switch. -/
def switch? (s : State) : Option Text :=
  match s.frames with
  | .choose switch _ _ :: _ => switch
  | _ => none

/-- What comes of a condition that can be read. -/
def withCondition (s : State) (source : Text) (f : Condition → m State) : m State :=
  match Directive.condition source 0 with
  | .ok c => f c
  | .error _ => pure s

/-- Reads one line.  What opens a branch ends the one in front of it.  The machine does not check
the text: lines that do not fit are passed over. -/
def step (s : State) (l : Text) : m State :=
  match Directive.read? l with
  | none => pure (if s.active then { s with lines := s.lines ++ [l] } else s)
  | some (.if, rest) => withCondition s rest (openIf ask s)
  | some (.choose, _) => pure (s.push (.choose none false false))
  | some (.switch, rest) =>
    match Directive.switchName rest 0 with
    | .ok name => pure (s.push (.choose (some name) false false))
    | .error _ => pure s
  | some (.when, rest) => withCondition (endBranch s) rest (openBranch ask (endBranch s))
  | some (.case, rest) =>
    match switch? s with
    | some name =>
      withCondition (endBranch s) (Directive.caseSource name rest)
        (openBranch ask (endBranch s))
    | none => pure (endBranch s)
  | some (.default, _) => pure (openOtherwise (endBranch s))
  | some (.break, _) => pure (endBranch s)
  | some (.fi, _) | some (.end, _) | some (.done, _) => pure s.pop
  | some (.for, _) => pure s

def run (s : State) : List Text → m State
  | [] => pure s
  | l :: ls => do run (← step ask s l) ls

end LineMachine

/-! Questions of several blocks and branches. -/

section

variable [LawfulMonad m] {ask : Nat → Condition → m Bool}

theorem conditionCount_append (bs cs : List Block) :
    conditionCount (bs ++ cs) = conditionCount bs + conditionCount cs := by
  induction bs with
  | nil => simp [conditionCount]
  | cons b bs ih => simp [conditionCount, ih, Nat.add_assoc]

theorem branchConditionCount_append (bs cs : List (Condition × List Block)) :
    branchConditionCount (bs ++ cs) = branchConditionCount bs + branchConditionCount cs := by
  induction bs with
  | nil => simp [branchConditionCount]
  | cons b bs ih =>
    obtain ⟨c, body⟩ := b
    simp [branchConditionCount, ih, Nat.add_assoc]

theorem askBlocks_singleton (place : Nat) (b : Block) :
    askBlocks ask place [b] = askBlock ask place b := by
  rw [askBlocks]
  simp only [askBlocks, pure_bind, List.append_nil, bind_pure]

theorem askBlocks_append (place : Nat) (bs cs : List Block) :
    askBlocks ask place (bs ++ cs) = (do
      let lines ← askBlocks ask place bs
      let more ← askBlocks ask (place + conditionCount bs) cs
      return lines ++ more) := by
  induction bs generalizing place with
  | nil => simp [askBlocks, conditionCount]
  | cons b bs ih =>
    simp only [List.cons_append, askBlocks, ih, conditionCount, bind_assoc, pure_bind,
      List.append_assoc, Nat.add_assoc]

theorem firstTaken_append (place : Nat) (bs cs : List (Condition × List Block)) :
    firstTaken ask place (bs ++ cs) = (do
      match ← firstTaken ask place bs with
      | some lines => pure (some lines)
      | none => firstTaken ask (place + branchConditionCount bs) cs) := by
  induction bs generalizing place with
  | nil => simp [firstTaken, branchConditionCount]
  | cons b bs ih =>
    obtain ⟨c, body⟩ := b
    simp only [List.cons_append, firstTaken, bind_assoc]
    refine bind_congr fun holds => ?_
    cases holds with
    | true => simp
    | false => simp [ih, branchConditionCount, Nat.add_assoc]

end

/-! What the machine does with the lines of a part. -/

namespace LineMachine

/-- The state behind some lines that have so many conditions and emit these lines. -/
def State.after (s : State) (count : Nat) (lines : List Text) : State :=
  { s with place := s.place + count, lines := s.lines ++ lines }

/-- The state behind the branches of a choice, of which one has been taken or none. -/
def State.behind (s : State) (switch : Option Text) (count : Nat) (taken : Option (List Text)) :
    State :=
  (s.after count (taken.getD [])).push (.choose switch taken.isSome false)

@[simp] theorem place_after (s : State) (n : Nat) (ls : List Text) :
    (s.after n ls).place = s.place + n := rfl

@[simp] theorem active_after (s : State) (n : Nat) (ls : List Text) :
    (s.after n ls).active = s.active := rfl

@[simp] theorem pop_push (s : State) (f : Frame) : (s.push f).pop = s := rfl

theorem endBranch_push (s : State) (switch : Option Text) (matched active : Bool) :
    endBranch (s.push (.choose switch matched active)) = s.push (.choose switch matched false) := rfl

theorem after_zero (s : State) : s.after 0 [] = s := by
  simp [State.after]

theorem after_after (s : State) (m n : Nat) (ls ms : List Text) :
    (s.after m ls).after n ms = s.after (m + n) (ls ++ ms) := by
  simp [State.after, Nat.add_assoc]

theorem endBranch_endBranch (s : State) : endBranch (endBranch s) = endBranch s := by
  obtain ⟨frames, place, lines⟩ := s
  rcases frames with _ | ⟨_ | _, frames⟩ <;> rfl

theorem switch?_endBranch (s : State) : switch? (endBranch s) = switch? s := by
  obtain ⟨frames, place, lines⟩ := s
  rcases frames with _ | ⟨_ | _, frames⟩ <;> rfl

theorem pop_endBranch (s : State) : (endBranch s).pop = s.pop := by
  obtain ⟨frames, place, lines⟩ := s
  rcases frames with _ | ⟨_ | _, frames⟩ <;> rfl

/-- The lines that may stand behind a branch and its gap. -/
def EndsBranch (l : Text) : Prop :=
  ∃ k rest, Directive.read? l = some (k, rest) ∧ k ∈ [Keyword.when, .case, .default, .end]

theorem endsBranch_of_opensBranch {switch : Option Text} {c : Condition}
    (h : OpensBranch switch c l) : EndsBranch l := by
  cases h with
  | when read => exact ⟨_, _, read, by decide⟩
  | case read => exact ⟨_, _, read, by decide⟩

variable {ask : Nat → Condition → m Bool} {s : State} {l rest : Text} {switch : Option Text}
  {count : Nat} {taken : Option (List Text)}

theorem withCondition_of_ok {source : Text} {n : Nat} {c : Condition}
    (h : Directive.condition source n = .ok c) (s : State) (f : Condition → m State) :
    withCondition s source f = f c := by
  rw [withCondition, condition_congr h 0]

/-- What ends a branch does not ask whether it was active. -/
theorem step_endBranch (h : EndsBranch l) (s : State) :
    step ask (endBranch s) l = step ask s l := by
  obtain ⟨k, rest, hread, hk⟩ := h
  rw [step, step, hread]
  simp only [List.mem_cons, List.not_mem_nil, or_false] at hk
  rcases hk with rfl | rfl | rfl | rfl
  · simp only [endBranch_endBranch]
  · simp only [endBranch_endBranch, switch?_endBranch]
  · simp only [endBranch_endBranch]
  · simp only [pop_endBranch]

theorem step_opens (h : Opens switch l) :
    step ask s l = pure (s.push (.choose switch false false)) := by
  cases h with
  | choose hread => rw [step, hread]
  | switch hread hname =>
    rw [step, hread]
    dsimp only
    rw [switchName_congr hname 0]

theorem step_opensBranch {c : Condition} (h : OpensBranch switch c l) :
    step ask (s.behind switch count taken) l =
      openBranch ask (s.behind switch count taken) c := by
  cases h with
  | when hread hcondition =>
    rw [step, hread]
    exact withCondition_of_ok hcondition _ _
  | case hread hcondition =>
    rw [step, hread]
    exact withCondition_of_ok hcondition _ _

theorem run_cons (s : State) (l : Text) (ls : List Text) :
    run ask s (l :: ls) = step ask s l >>= fun s => run ask s ls := rfl

/-- Emits lines where lines are emitted. -/
def State.emit (s : State) (count : Nat) (x : m (List Text)) : m State := do
  let lines ← (if s.active then x else pure [])
  return s.after count lines

end LineMachine

open LineMachine

/-- What running the machine over the lines of a part comes to.  Whether the last branch of a choice
is active is left open, since nothing that may follow asks for it. -/
def Part.Runs (ask : Nat → Condition → m Bool) : Part → List Text → Prop
  | .block b, ls => ∀ s,
    run ask s ls = s.emit (blockConditionCount b) (askBlock ask s.place b)
  | .blocks bs, ls => ∀ s,
    run ask s ls = s.emit (conditionCount bs) (askBlocks ask s.place bs)
  | .branches switch ws, ls => ∀ s,
    endBranch <$> run ask s ls = (do
      let taken ← (if s.active then firstTaken ask s.place ws else pure none)
      return s.behind switch (branchConditionCount ws) taken)

namespace LineMachine

variable [LawfulMonad m] {ask : Nat → Condition → m Bool} {s : State} {l rest : Text}
  {switch : Option Text} {count : Nat} {taken : Option (List Text)}

theorem run_append (s : State) (ls ms : List Text) :
    run ask s (ls ++ ms) = run ask s ls >>= fun s => run ask s ms := by
  induction ls generalizing s with
  | nil => simp [run]
  | cons l ls ih => simp [run, ih]

theorem run_singleton (s : State) (l : Text) : run ask s [l] = step ask s l := by
  simp [run]

theorem run_of_endsBranch (h : EndsBranch l) (s : State) (ls ms : List Text) :
    run ask s (ls ++ l :: ms) =
      (endBranch <$> run ask s ls) >>= fun s => run ask s (l :: ms) := by
  rw [run_append, bind_map_left]
  refine bind_congr fun s => ?_
  rw [run_cons, run_cons, step_endBranch h]

/-- Between branches nothing is emitted. -/
theorem run_gap {matched : Bool} {gap : List Text} (h : IsGap gap) :
    run ask (s.push (.choose switch matched false)) gap =
      pure (s.push (.choose switch matched false)) := by
  induction gap with
  | nil => rfl
  | cons l gap ih =>
    obtain ⟨hl, hgap⟩ := List.forall_mem_cons.1 h
    have hstep : step ask (s.push (.choose switch matched false)) l =
        pure (s.push (.choose switch matched false)) := by
      rcases hl with ⟨rest, hread⟩ | ⟨hread, -⟩
      · rw [step, hread]
        rfl
      · rw [step, hread]
        rfl
    rw [run_cons, hstep, pure_bind, ih hgap]

theorem endBranch_run_tail {matched active : Bool} {tail : List Text} (h : Tail tail) :
    endBranch <$> run ask (s.push (.choose switch matched active)) tail =
      pure (s.push (.choose switch matched false)) := by
  cases h with
  | none => rw [run, map_pure, endBranch_push]
  | @«break» l rest gap hread hgap =>
    have hstep : step ask (s.push (.choose switch matched active)) l =
        pure (s.push (.choose switch matched false)) := by
      rw [step, hread]
      rfl
    rw [run_cons, hstep, pure_bind, run_gap hgap, map_pure, endBranch_push]

theorem emit_of_active {n : Nat} {x : m (List Text)} (h : s.active = true) :
    s.emit n x = s.after n <$> x := by
  rw [State.emit, if_pos h, bind_pure_comp]

theorem emit_of_inactive {n : Nat} {x : m (List Text)} (h : s.active = false) :
    s.emit n x = pure (s.after n []) := by
  rw [State.emit, h, if_neg Bool.false_ne_true, pure_bind]

/-- The blocks behind a condition, up to the line that closes them. -/
theorem run_guarded {l' rest' : Text} {holds : Bool} {body : List Block} {ls : List Text}
    (hinner : (Part.blocks body).Runs ask ls)
    (closing : Directive.read? l' = some (.fi, rest')) (s : State) :
    run ask (s.push (.guarded holds)) (ls ++ [l']) = (do
      let lines ← (if holds && s.active then askBlocks ask s.place body else pure [])
      return s.after (conditionCount body) lines) := by
  rw [run_append, hinner, State.emit, bind_assoc]
  refine bind_congr fun lines => ?_
  rw [pure_bind, run_singleton, step, closing]
  rfl

/-- The blocks of a branch, with what follows them. -/
theorem endBranch_run_body {matched active : Bool} {body : List Block} {ms tail : List Text}
    (hinner : (Part.blocks body).Runs ask ms) (htail : Tail tail) (s : State) :
    endBranch <$> run ask (s.push (.choose switch matched active)) (ms ++ tail) = (do
      let lines ← (if active && s.active then askBlocks ask s.place body else pure [])
      return (s.after (conditionCount body) lines).push (.choose switch matched false)) := by
  rw [run_append, hinner, State.emit, map_bind, bind_assoc]
  refine bind_congr fun lines => ?_
  rw [pure_bind]
  exact endBranch_run_tail (s := s.after (conditionCount body) lines) htail

/-- A branch behind others is asked for if none of them has been taken. -/
theorem endBranch_run_branch {c : Condition} {body : List Block} {ms tail : List Text}
    (opening : OpensBranch switch c l) (hinner : (Part.blocks body).Runs ask ms)
    (htail : Tail tail) (s : State) :
    endBranch <$> run ask (s.behind switch count taken) (l :: (ms ++ tail)) = (do
      let last ← (if s.active && taken.isNone then
          firstTaken ask (s.place + count) [(c, body)] else pure none)
      return s.behind switch (count + (1 + conditionCount body)) (taken.or last)) := by
  have hopen : openBranch ask (s.behind switch count taken) c = (do
      let holds ← (if s.active && taken.isNone then ask (s.place + count) c
        else pure false)
      return ((s.after count (taken.getD [])).after 1 []).push
        (.choose switch (taken.isSome || holds) holds)) := by
    cases taken <;> simp [openBranch, readCondition, State.behind, State.after, State.push,
      State.active]
  rw [run_cons, LineMachine.step_opensBranch opening, hopen, map_bind, bind_assoc]
  simp only [pure_bind, endBranch_run_body hinner htail, after_after]
  cases hactive : s.active with
  | false => simp [State.behind, Nat.add_assoc]
  | true =>
    cases taken with
    | some lines => simp [State.behind, Nat.add_assoc]
    | none =>
      simp only [firstTaken, bind_assoc, Bool.true_and, Option.isNone_none, if_true]
      refine bind_congr fun holds => ?_
      cases holds <;> simp [State.behind, hactive, Nat.add_assoc]

/-- The last branch of a choice. -/
theorem endBranch_run_default {body : List Block} {ms tail : List Text}
    (opening : Directive.read? l = some (.default, rest))
    (hinner : (Part.blocks body).Runs ask ms) (htail : Tail tail) (s : State) :
    endBranch <$> run ask (s.behind switch count taken) (l :: (ms ++ tail)) = (do
      let lines ← (if s.active && taken.isNone then
          askBlocks ask (s.place + count) body else pure [])
      return s.behind switch (count + conditionCount body) (some (taken.getD lines))) := by
  have hstep : step ask (s.behind switch count taken) l =
      pure ((s.after count (taken.getD [])).push (.choose switch true taken.isNone)) := by
    rw [step, opening]
    cases taken <;> rfl
  rw [run_cons, hstep, pure_bind, endBranch_run_body hinner htail]
  cases taken with
  | none => simp [State.behind, State.after, State.active, Nat.add_assoc]
  | some lines => simp [State.behind, State.after, State.active, Nat.add_assoc]

end LineMachine

variable [LawfulMonad m] {ask : Nat → Condition → m Bool}

/-- The lines of a part do to the machine what the part says. -/
theorem Derives.runs {part : Part} {ls : List Text} (h : Derives part ls)
    (hloop : ∀ l ∈ ls, ∀ rest, Directive.read? l ≠ some (.for, rest)) :
    part.Runs ask ls := by
  induction h with
  | text read =>
    intro s
    rw [run_singleton, step, read]
    cases hactive : s.active with
    | true =>
      rw [emit_of_active hactive, askBlock, map_pure]
      rfl
    | false =>
      rw [emit_of_inactive hactive]
      simp [State.after, blockConditionCount]
  | @guarded l l' rest rest' n c body ls opening hcondition inner closing ih =>
    intro s
    have hbody := ih fun k hk => hloop k (by simp [hk])
    have hafter : ∀ lines, ({ s with place := s.place + 1 } : State).after (conditionCount body)
        lines = s.after (blockConditionCount (.guarded c body)) lines := fun lines => by
      simp [State.after, blockConditionCount, Nat.add_assoc, Nat.add_comm 1]
    have hsame : ({ s with place := s.place + 1 } : State).active = s.active := rfl
    rw [run_cons, step, opening]
    dsimp only
    rw [withCondition_of_ok hcondition, openIf, readCondition, bind_assoc, bind_assoc]
    simp only [pure_bind, run_guarded hbody closing, hafter, hsame]
    cases hactive : s.active with
    | true =>
      rw [emit_of_active hactive, askBlock, map_bind]
      refine bind_congr fun holds => ?_
      cases holds <;> simp
    | false =>
      rw [emit_of_inactive hactive]
      simp
  | loop opening => exact absurd opening (hloop _ List.mem_cons_self _)
  | choose inner closing ih =>
    intro s
    have hinner := ih fun k hk => hloop k (by simp [hk])
    have hclose : ∀ s, step ask s _ = pure s.pop := fun s => by rw [step, closing]
    rw [run_of_endsBranch ⟨_, _, closing, by decide⟩, hinner]
    simp only [run_singleton, hclose]
    cases hactive : s.active with
    | true =>
      rw [emit_of_active hactive, askBlock, map_bind]
      simp only [if_true, bind_assoc, pure_bind]
      refine bind_congr fun taken => ?_
      cases taken <;> simp [State.behind, blockConditionCount]
    | false =>
      rw [emit_of_inactive hactive]
      simp [State.behind, blockConditionCount]
  | default inner opening last htail closing ih₁ ih₂ =>
    intro s
    have hinner := ih₁ fun k hk => hloop k (by simp [hk])
    have hlast := ih₂ fun k hk => hloop k (by simp [hk])
    have hclose : ∀ s, step ask s _ = pure s.pop := fun s => by rw [step, closing]
    rw [run_of_endsBranch ⟨_, _, closing, by decide⟩, run_of_endsBranch ⟨_, _, opening, by decide⟩,
      hinner, bind_assoc, map_bind, bind_assoc]
    simp only [pure_bind, endBranch_run_default opening hlast htail, run_singleton, hclose,
      bind_assoc]
    cases hactive : s.active with
    | true =>
      rw [emit_of_active hactive, askBlock, map_bind]
      refine bind_congr fun taken => ?_
      cases taken <;> simp [State.behind, blockConditionCount]
    | false =>
      rw [emit_of_inactive hactive]
      simp [State.behind, blockConditionCount]
  | opened opening hgap =>
    intro s
    rw [run_cons, LineMachine.step_opens opening, pure_bind, run_gap hgap]
    simp [firstTaken, State.behind, endBranch, State.push, after_zero, branchConditionCount]
  | branch before opening inner htail ih₁ ih₂ =>
    intro s
    have hbefore := ih₁ fun k hk => hloop k (by simp [hk])
    have hinner := ih₂ fun k hk => hloop k (by simp [hk])
    rw [run_of_endsBranch (endsBranch_of_opensBranch opening), hbefore, bind_assoc, map_bind]
    simp only [pure_bind, endBranch_run_branch opening hinner htail, branchConditionCount_append,
      branchConditionCount, Nat.add_zero]
    cases hactive : s.active with
    | true =>
      simp only [if_true, firstTaken_append, bind_assoc, Bool.true_and]
      refine bind_congr fun taken => ?_
      cases taken <;> simp
    | false => simp
  | nil =>
    intro s
    cases hactive : s.active with
    | true =>
      rw [emit_of_active hactive]
      simp [run, askBlocks, conditionCount, after_zero]
    | false =>
      rw [emit_of_inactive hactive]
      simp [run, conditionCount, after_zero]
  | snoc before last ih₁ ih₂ =>
    intro s
    have hbefore := ih₁ fun k hk => hloop k (by simp [hk])
    have hlast := ih₂ fun k hk => hloop k (by simp [hk])
    rw [run_append, hbefore]
    cases hactive : s.active with
    | true =>
      rw [emit_of_active hactive, emit_of_active hactive, bind_map_left, askBlocks_append]
      simp only [map_bind]
      refine bind_congr fun lines => ?_
      rw [hlast, emit_of_active (s := s.after _ _) hactive, askBlocks_singleton, place_after,
        map_eq_pure_bind]
      refine bind_congr fun more => ?_
      simp [after_after, conditionCount_append, conditionCount]
    | false =>
      rw [emit_of_inactive hactive, emit_of_inactive hactive, pure_bind, hlast,
        emit_of_inactive (s := s.after _ _) hactive, after_after]
      simp [conditionCount_append, conditionCount]

end SqlTemplate.Template
