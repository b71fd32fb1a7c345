import SqlTemplate.Proofs.Blocks

/-!
The grammar of templates.  What the reader of directives accepts line by line, with its stack of
open blocks, is what a context-free grammar derives, and the blocks are the tree of the derivation.
-/
namespace SqlTemplate.Template

open Directive (Fault Keyword)

/-- What a line may be that stands between the branches of a choice. -/
def IsGapLine (l : Text) : Prop :=
  (∃ rest, Directive.read? l = some (.break, rest)) ∨ Directive.read? l = none ∧ isGap l

def IsGap (ls : List Text) : Prop := ∀ l ∈ ls, IsGapLine l

/-- What may follow the blocks of a branch: nothing, or a break with a gap behind it. -/
inductive Tail : List Text → Prop
  | none : Tail []
  | break {l rest : Text} {gap : List Text} (read : Directive.read? l = some (.break, rest))
    (hgap : IsGap gap) : Tail (l :: gap)

/-- The lines that open a choice, of any argument or of the one that a switch names. -/
inductive Opens : Option Text → Text → Prop
  | choose {l rest : Text} (read : Directive.read? l = some (.choose, rest)) : Opens none l
  | switch {l rest name : Text} {n : Nat} (read : Directive.read? l = some (.switch, rest))
    (hname : Directive.switchName rest n = .ok name) : Opens (some name) l

/-- The lines that open a branch with a condition; cases are for switches. -/
inductive OpensBranch : Option Text → Condition → Text → Prop
  | when {switch : Option Text} {c : Condition} {l rest : Text} {n : Nat}
    (read : Directive.read? l = some (.when, rest))
    (condition : Directive.condition rest n = .ok c) : OpensBranch switch c l
  | case {name : Text} {c : Condition} {l rest : Text} {n : Nat}
    (read : Directive.read? l = some (.case, rest))
    (condition : Directive.condition (Directive.caseSource name rest) n = .ok c) :
    OpensBranch (some name) c l

/-- What the grammar derives. -/
inductive Part where
  | block (b : Block)
  | blocks (bs : List Block)
  /-- A choice up to the end of some branch with a condition. -/
  | branches (switch : Option Text) (branches : List (Condition × List Block))

/-- Which lines the parts of a template are derived from. -/
inductive Derives : Part → List Text → Prop
  | text {l : Text} (read : Directive.read? l = none) : Derives (.block (.text l)) [l]
  | guarded {l l' rest rest' : Text} {n : Nat} {c : Condition} {body : List Block} {ls : List Text}
    (opening : Directive.read? l = some (.if, rest))
    (condition : Directive.condition rest n = .ok c) (inner : Derives (.blocks body) ls)
    (closing : Directive.read? l' = some (.fi, rest')) :
    Derives (.block (.guarded c body)) (l :: (ls ++ [l']))
  | loop {l l' rest rest' : Text} {n : Nat} {header : LoopHeader} {body : List Block}
    {ls : List Text} (opening : Directive.read? l = some (.for, rest))
    (hheader : LoopHeader.ofText rest n = .ok header) (inner : Derives (.blocks body) ls)
    (closing : Directive.read? l' = some (.end, rest') ∨ Directive.read? l' = some (.done, rest')) :
    Derives (.block (.loop header body)) (l :: (ls ++ [l']))
  | choose {switch : Option Text} {branches : List (Condition × List Block)} {ls : List Text}
    {l' rest' : Text} (inner : Derives (.branches switch branches) ls)
    (closing : Directive.read? l' = some (.end, rest')) :
    Derives (.block (.choose branches none)) (ls ++ [l'])
  | default {switch : Option Text} {branches : List (Condition × List Block)} {ls ms : List Text}
    {l l' rest rest' : Text} {body : List Block} {tail : List Text}
    (inner : Derives (.branches switch branches) ls)
    (opening : Directive.read? l = some (.default, rest)) (last : Derives (.blocks body) ms)
    (htail : Tail tail) (closing : Directive.read? l' = some (.end, rest')) :
    Derives (.block (.choose branches (some body))) (ls ++ l :: (ms ++ tail) ++ [l'])
  | opened {switch : Option Text} {l : Text} {gap : List Text} (opening : Opens switch l)
    (hgap : IsGap gap) : Derives (.branches switch []) (l :: gap)
  | branch {switch : Option Text} {branches : List (Condition × List Block)} {ls ms : List Text}
    {l : Text} {c : Condition} {body : List Block} {tail : List Text}
    (before : Derives (.branches switch branches) ls) (opening : OpensBranch switch c l)
    (inner : Derives (.blocks body) ms) (htail : Tail tail) :
    Derives (.branches switch (branches ++ [(c, body)])) (ls ++ l :: (ms ++ tail))
  | nil : Derives (.blocks []) []
  | snoc {bs : List Block} {b : Block} {ls ms : List Text} (before : Derives (.blocks bs) ls)
    (last : Derives (.block b) ms) : Derives (.blocks (bs ++ [b])) (ls ++ ms)

/-! Whether a part of a directive is well formed does not depend on the line it is in. -/

section

variable {rest : Text} {n m : Nat}

theorem condition_congr {c : Condition} (h : Directive.condition rest n = .ok c) (m : Nat) :
    Directive.condition rest m = .ok c := by
  unfold Directive.condition at h ⊢
  split
  · rename_i hblank
    rw [if_pos hblank] at h
    cases h
  · rename_i hblank
    rw [if_neg hblank] at h
    split at h
    · exact h
    · cases h

theorem switchName_congr {name : Text} (h : Directive.switchName rest n = .ok name) (m : Nat) :
    Directive.switchName rest m = .ok name := by
  unfold Directive.switchName at h ⊢
  split at h
  · split at h
    · rename_i hname
      rwa [if_pos hname]
    · cases h
  · cases h

theorem ofText_congr {header : LoopHeader} (h : LoopHeader.ofText rest n = .ok header) (m : Nat) :
    LoopHeader.ofText rest m = .ok header := by
  unfold LoopHeader.ofText at h ⊢
  split
  · rename_i hread
    rw [hread] at h
    cases h
  · rename_i hread
    rw [hread] at h
    exact h
  · rename_i hread
    rw [hread] at h
    obtain ⟨filter, hfilter, h⟩ := exists_of_bind_eq_ok h
    rw [condition_congr hfilter m]
    exact h

end

/-! What is derived is read. -/

/-- Whether `place` is a draft with an open body in it, to which blocks can be added. -/
def Fills (place : List Block → Draft) : Prop :=
  ∀ body b n, (place body).add b n = .ok (place (body ++ [b]))

theorem steps_append (d : Draft) (n : Nat) (ls ms : List Text) :
    d.steps n (ls ++ ms) = (d.steps n ls).bind fun d' => d'.steps (n + ls.length) ms := by
  induction ls generalizing d n with
  | nil => rfl
  | cons l ls ih =>
    change (d.step n l).bind _ = ((d.step n l).bind _).bind _
    cases d.step n l with
    | error e => rfl
    | ok d' =>
      have hn : n + (l :: ls).length = n + 1 + ls.length := by
        rw [List.length_cons]
        omega
      rw [hn]
      exact ih d' (n + 1)

theorem steps_append_of_ok {d d' : Draft} {n : Nat} {ls : List Text} (h : d.steps n ls = .ok d')
    (ms : List Text) : d.steps n (ls ++ ms) = d'.steps (n + ls.length) ms := by
  rw [steps_append, h]
  rfl

theorem steps_cons_of_ok {d d' : Draft} {n : Nat} {l : Text} (h : d.step n l = .ok d')
    (ls : List Text) : d.steps n (l :: ls) = d'.steps (n + 1) ls := by
  rw [Draft.steps, h]
  rfl

theorem steps_singleton (d : Draft) (n : Nat) (l : Text) : d.steps n [l] = d.step n l := by
  change (d.step n l).bind _ = _
  cases d.step n l <;> rfl

/-- What reading the lines of a part comes to: its blocks are added where a body is open, and a
choice is open behind its branches. -/
def Part.Reads : Part → List Text → Prop
  | .block b, ls => ∀ place, Fills place → ∀ body n,
    (place body).steps n ls = .ok (place (body ++ [b]))
  | .blocks bs, ls => ∀ place, Fills place → ∀ body n,
    (place body).steps n ls = .ok (place (body ++ bs))
  | .branches switch ws, ls => ∀ (d : Draft) n, ∃ m choice,
    d.steps n ls = .ok (d.push (.choose choice) m) ∧ choice.close = ⟨switch, ws, none, none⟩

section

variable {d : Draft} {n m : Nat} {l rest : Text} {choice : Choice}

theorem close_of_current (h : choice.current = none) : choice.close = choice := by
  rw [Choice.close, h]

theorem current_close (choice : Choice) : choice.close.current = none := by
  obtain ⟨switch, branches, otherwise, current⟩ := choice
  rcases current with _ | _ | _ <;> rfl

theorem switch_close (choice : Choice) : choice.close.switch = choice.switch := by
  obtain ⟨switch, branches, otherwise, current⟩ := choice
  rcases current with _ | _ | _ <;> rfl

theorem hasOtherwise_eq (choice : Choice) :
    choice.hasOtherwise = choice.close.otherwise.isSome := by
  obtain ⟨switch, branches, otherwise, current⟩ := choice
  rcases current with _ | _ | _ <;> rfl

theorem step_gapLine (h : IsGapLine l) (hc : choice.current = none) :
    (d.push (.choose choice) m).step n l = .ok (d.push (.choose choice) m) := by
  rcases h with ⟨rest, hread⟩ | ⟨hread, hgap⟩
  · rw [Draft.step, hread]
    dsimp only [Draft.endBranch, Draft.push]
    rw [close_of_current hc]
  · rw [Draft.step, hread]
    dsimp only [Draft.add, Draft.push]
    rw [hc]
    exact if_pos hgap

theorem steps_gap {ls : List Text} (h : IsGap ls) (hc : choice.current = none) :
    (d.push (.choose choice) m).steps n ls = .ok (d.push (.choose choice) m) := by
  induction ls generalizing n with
  | nil => rfl
  | cons l ls ih =>
    obtain ⟨hl, hls⟩ := List.forall_mem_cons.1 h
    rw [steps_cons_of_ok (step_gapLine hl hc), ih hls]

theorem steps_tail (choice : Choice) {tail : List Text} (h : Tail tail) (n : Nat) :
    ∃ choice', (d.push (.choose choice) m).steps n tail = .ok (d.push (.choose choice') m) ∧
      choice'.close = choice.close := by
  cases h with
  | none => exact ⟨choice, rfl, rfl⟩
  | @«break» l rest gap read hgap =>
    have hstep : (d.push (.choose choice) m).step n l = .ok (d.push (.choose choice.close) m) := by
      rw [Draft.step, read]
      rfl
    exact ⟨choice.close, by rw [steps_cons_of_ok hstep, steps_gap hgap (current_close choice)],
      close_of_current (current_close choice)⟩

theorem step_opens {switch : Option Text} (h : Opens switch l) :
    d.step n l = .ok (d.push (.choose ⟨switch, [], none, none⟩) n) := by
  cases h with
  | choose read => rw [Draft.step, read]
  | switch read hname =>
    rw [Draft.step, read]
    dsimp only
    rw [switchName_congr hname n]
    rfl

variable {switch : Option Text} {branches : List (Condition × List Block)}

theorem step_opensBranch {c : Condition} (h : OpensBranch switch c l)
    (hclose : choice.close = ⟨switch, branches, none, none⟩) :
    (d.push (.choose choice) m).step n l =
      .ok (d.push (.choose ⟨switch, branches, none, some (.when c [])⟩) m) := by
  have hother : choice.hasOtherwise = false := by rw [hasOtherwise_eq, hclose]; rfl
  have hswitch : choice.switch = switch := by rw [← switch_close, hclose]
  cases h with
  | when read hcondition =>
    rw [Draft.step, read]
    dsimp only [Draft.openWhen, Draft.push]
    rw [hother, hclose, condition_congr hcondition n]
    rfl
  | case read hcondition =>
    rw [Draft.step, read]
    dsimp only [Draft.openWhen, Draft.push]
    rw [hother, hclose, hswitch]
    dsimp only
    rw [condition_congr hcondition n]
    rfl

theorem step_default (h : Directive.read? l = some (.default, rest))
    (hclose : choice.close = ⟨switch, branches, none, none⟩) :
    (d.push (.choose choice) m).step n l =
      .ok (d.push (.choose ⟨switch, branches, none, some (.otherwise [])⟩) m) := by
  have hother : choice.hasOtherwise = false := by rw [hasOtherwise_eq, hclose]; rfl
  rw [Draft.step, h]
  dsimp only [Draft.openOtherwise, Draft.push]
  rw [hother, hclose]
  rfl

theorem step_end (h : Directive.read? l = some (.end, rest)) :
    (d.push (.choose choice) m).step n l =
      d.add (.choose choice.close.branches choice.close.otherwise) n := by
  rw [Draft.step, h]
  rfl

end

/-- A branch is read with what follows it. -/
theorem steps_branch {d : Draft} {n m : Nat} {l : Text} {choice : Choice} (choice' : Choice)
    (current : List Block → Branch) {body : List Block} {ms tail : List Text}
    (hopen : (d.push (.choose choice) m).step n l =
      .ok (d.push (.choose { choice' with current := some (current []) }) m))
    (hcurrent : Fills fun bs => d.push (.choose { choice' with current := some (current bs) }) m)
    (hinner : (Part.blocks body).Reads ms) (htail : Tail tail) :
    ∃ last, (d.push (.choose choice) m).steps n (l :: (ms ++ tail)) =
        .ok (d.push (.choose last) m) ∧
      last.close = Choice.close { choice' with current := some (current body) } := by
  obtain ⟨last, hlast, hclose⟩ := steps_tail (d := d) (m := m)
    { choice' with current := some (current body) } htail (n + 1 + ms.length)
  refine ⟨last, ?_, hclose⟩
  rw [steps_cons_of_ok hopen, steps_append_of_ok (hinner _ hcurrent [] (n + 1))]
  exact hlast

/-- Every derivation is read, wherever a body is open. -/
theorem Derives.reads {part : Part} {ls : List Text} (h : Derives part ls) : part.Reads ls := by
  induction h with
  | text read =>
    intro place hplace body n
    rw [steps_singleton, Draft.step, read]
    exact hplace body _ n
  | @guarded l l' rest rest' m c inside ls opening hcondition inner closing ih =>
    intro place hplace body n
    have hstep : (place body).step n l = .ok ((place body).push (.guarded c []) n) := by
      rw [Draft.step, opening]
      dsimp only
      rw [condition_congr hcondition n]
      rfl
    have hinner := ih (fun bs => (place body).push (.guarded c bs) n) (fun _ _ _ => rfl) [] (n + 1)
    rw [steps_cons_of_ok hstep, steps_append_of_ok hinner, steps_singleton, Draft.step, closing]
    exact hplace body _ _
  | @loop l l' rest rest' m header inside ls opening hheader inner closing ih =>
    intro place hplace body n
    have hstep : (place body).step n l = .ok ((place body).push (.loop header []) n) := by
      rw [Draft.step, opening]
      dsimp only
      rw [ofText_congr hheader n]
      rfl
    have hinner := ih (fun bs => (place body).push (.loop header bs) n) (fun _ _ _ => rfl) [] (n + 1)
    rw [steps_cons_of_ok hstep, steps_append_of_ok hinner, steps_singleton, Draft.step]
    rcases closing with closing | closing <;> rw [closing] <;> exact hplace body _ _
  | choose inner closing ih =>
    intro place hplace body n
    obtain ⟨m, choice, hinner, hclose⟩ := ih (place body) n
    rw [steps_append_of_ok hinner, steps_singleton, step_end closing, hclose]
    exact hplace body _ _
  | default inner opening last htail closing ih₁ ih₂ =>
    intro place hplace body n
    obtain ⟨m, choice, hinner, hclose⟩ := ih₁ (place body) n
    obtain ⟨choice', hlast, hclose'⟩ := steps_branch ⟨_, _, none, none⟩ .otherwise
      (step_default opening hclose) (fun _ _ _ => rfl) ih₂ htail
    rw [List.append_assoc, steps_append_of_ok hinner, steps_append_of_ok hlast, steps_singleton,
      step_end closing, hclose']
    exact hplace body _ _
  | opened opening hgap =>
    intro d n
    refine ⟨n, ⟨_, [], none, none⟩, ?_, rfl⟩
    rw [steps_cons_of_ok (step_opens opening), steps_gap hgap rfl]
  | branch before opening inner htail ih₁ ih₂ =>
    intro d n
    obtain ⟨m, choice, hbefore, hclose⟩ := ih₁ d n
    obtain ⟨choice', hbranch, hclose'⟩ := steps_branch ⟨_, _, none, none⟩ (.when _)
      (step_opensBranch opening hclose) (fun _ _ _ => rfl) ih₂ htail
    exact ⟨m, choice', by rw [steps_append_of_ok hbefore, hbranch], hclose'⟩
  | nil =>
    intro place hplace body n
    rw [List.append_nil]
    rfl
  | snoc before last ih₁ ih₂ =>
    intro place hplace body n
    rw [steps_append_of_ok (ih₁ place hplace body n), ih₂ place hplace, List.append_assoc]

/-! What is read is derived. -/

/-- The lines of a block that is still open.  Between branches, the gap may always grow. -/
inductive OpenDerives : Frame → List Text → Prop
  | guarded {l rest : Text} {n : Nat} {c : Condition} {body : List Block} {ls : List Text}
    (opening : Directive.read? l = some (.if, rest))
    (condition : Directive.condition rest n = .ok c) (inner : Derives (.blocks body) ls) :
    OpenDerives (.guarded c body) (l :: ls)
  | loop {l rest : Text} {n : Nat} {header : LoopHeader} {body : List Block} {ls : List Text}
    (opening : Directive.read? l = some (.for, rest))
    (hheader : LoopHeader.ofText rest n = .ok header) (inner : Derives (.blocks body) ls) :
    OpenDerives (.loop header body) (l :: ls)
  | between {switch : Option Text} {branches : List (Condition × List Block)} {ls : List Text}
    (before : ∀ gap, IsGap gap → Derives (.branches switch branches) (ls ++ gap)) :
    OpenDerives (.choose ⟨switch, branches, none, none⟩) ls
  | branch {switch : Option Text} {branches : List (Condition × List Block)} {ls ms : List Text}
    {l : Text} {c : Condition} {body : List Block} (before : Derives (.branches switch branches) ls)
    (opening : OpensBranch switch c l) (inner : Derives (.blocks body) ms) :
    OpenDerives (.choose ⟨switch, branches, none, some (.when c body)⟩) (ls ++ l :: ms)
  | otherwise {switch : Option Text} {branches : List (Condition × List Block)}
    {ls ms : List Text} {l rest : Text} {body : List Block}
    (before : Derives (.branches switch branches) ls)
    (opening : Directive.read? l = some (.default, rest)) (inner : Derives (.blocks body) ms) :
    OpenDerives (.choose ⟨switch, branches, none, some (.otherwise body)⟩) (ls ++ l :: ms)
  | last {switch : Option Text} {branches : List (Condition × List Block)}
    {ls ms tail : List Text} {l rest : Text} {body : List Block}
    (before : Derives (.branches switch branches) ls)
    (opening : Directive.read? l = some (.default, rest)) (inner : Derives (.blocks body) ms)
    (htail : ∀ gap, IsGap gap → Tail (tail ++ gap)) :
    OpenDerives (.choose ⟨switch, branches, some body, none⟩) (ls ++ l :: (ms ++ tail))

/-- The lines that have been read into a draft. -/
inductive DraftDerives : Draft → List Text → Prop
  | done {bs : List Block} {ls : List Text} (h : Derives (.blocks bs) ls) :
    DraftDerives ⟨bs, []⟩ ls
  | frame {bs : List Block} {n : Nat} {f : Frame} {frames : List (Nat × Frame)}
    {ls ms : List Text} (outer : DraftDerives ⟨bs, frames⟩ ls) (inner : OpenDerives f ms) :
    DraftDerives ⟨bs, (n, f) :: frames⟩ (ls ++ ms)

theorem IsGap.nil : IsGap [] := fun _ hl => by cases hl

theorem IsGap.cons {l : Text} {ls : List Text} (hl : IsGapLine l) (h : IsGap ls) : IsGap (l :: ls) :=
  List.forall_mem_cons.2 ⟨hl, h⟩

section

variable {choice : Choice} {ms : List Text} {l rest : Text}

/-- A choice whose other branch has not been opened, up to the end of its current branch. -/
theorem OpenDerives.close (h : OpenDerives (.choose choice) ms)
    (hother : choice.hasOtherwise = false) :
    ∃ branches, choice.close = ⟨choice.switch, branches, none, none⟩ ∧
      Derives (.branches choice.switch branches) ms := by
  cases h with
  | between before => exact ⟨_, rfl, by simpa using before [] .nil⟩
  | branch before opening inner =>
    have hbranch := before.branch opening inner .none
    rw [List.append_nil] at hbranch
    exact ⟨_, rfl, hbranch⟩
  | otherwise => cases hother
  | last => cases hother

/-- A line between branches. -/
theorem OpenDerives.gapLine (h : OpenDerives (.choose choice) ms) (hc : choice.current = none)
    (hl : IsGapLine l) : OpenDerives (.choose choice) (ms ++ [l]) := by
  cases h with
  | between before =>
    refine .between fun gap hgap => ?_
    rw [List.append_assoc]
    exact before _ (hgap.cons hl)
  | branch => cases hc
  | otherwise => cases hc
  | last before opening inner htail =>
    rw [List.append_assoc, List.cons_append, List.append_assoc]
    refine .last before opening inner fun gap hgap => ?_
    rw [List.append_assoc]
    exact htail _ (hgap.cons hl)

/-- A break ends the current branch. -/
theorem OpenDerives.endBranch (h : OpenDerives (.choose choice) ms)
    (hl : Directive.read? l = some (.break, rest)) :
    OpenDerives (.choose choice.close) (ms ++ [l]) := by
  cases h with
  | between before => exact gapLine (.between before) rfl (Or.inl ⟨rest, hl⟩)
  | branch before opening inner =>
    refine .between fun gap hgap => ?_
    simpa using before.branch opening inner (.break hl hgap)
  | otherwise before opening inner =>
    rw [List.append_assoc]
    exact .last before opening inner fun gap hgap => .break hl hgap
  | last before opening inner htail =>
    exact gapLine (.last before opening inner htail) rfl (Or.inl ⟨rest, hl⟩)

/-- The whole choice, at its end. -/
theorem OpenDerives.closeChoice (h : OpenDerives (.choose choice) ms)
    (hl : Directive.read? l = some (.end, rest)) :
    Derives (.block (.choose choice.close.branches choice.close.otherwise)) (ms ++ [l]) := by
  cases h with
  | between before =>
    have hbefore := before [] .nil
    rw [List.append_nil] at hbefore
    exact hbefore.choose hl
  | branch before opening inner =>
    have hbranch := before.branch opening inner .none
    rw [List.append_nil] at hbranch
    exact hbranch.choose hl
  | otherwise before opening inner =>
    have hchoice := before.default opening inner .none hl
    rw [List.append_nil] at hchoice
    exact hchoice
  | last before opening inner htail =>
    have htail := htail [] .nil
    rw [List.append_nil] at htail
    exact before.default opening inner htail hl

end

section

variable {d d' : Draft} {ls ms : List Text} {l rest : Text} {n : Nat}

theorem DraftDerives.exists_of_frames {m : Nat} {f : Frame} {frames : List (Nat × Frame)}
    (h : DraftDerives d ls) (hf : d.frames = (m, f) :: frames) :
    ∃ before inner, ls = before ++ inner ∧ DraftDerives { d with frames } before ∧
      OpenDerives f inner := by
  cases h with
  | done h => cases hf
  | @frame bs n' f' frames' ls ms outer inner =>
    obtain ⟨hhead, rfl⟩ := List.cons.inj hf
    obtain ⟨rfl, rfl⟩ := Prod.mk.inj hhead
    exact ⟨ls, ms, rfl, outer, inner⟩

theorem DraftDerives.derives (h : DraftDerives d ls) (hf : d.frames = []) :
    Derives (.blocks d.done) ls := by
  cases h with
  | done h => exact h
  | frame => cases hf

/-- Between branches nothing is added, and the line is one of the gap. -/
theorem DraftDerives.addBetween {bs : List Block} {m : Nat} {choice : Choice}
    {frames : List (Nat × Frame)} {inside : List Text} (outer : DraftDerives ⟨bs, frames⟩ ls)
    (inner : OpenDerives (.choose choice) inside) (hc : choice.current = none) {b : Block}
    (hb : Derives (.block b) ms)
    (hadd : Draft.add ⟨bs, (m, .choose choice) :: frames⟩ b n = .ok d') :
    DraftDerives d' (ls ++ (inside ++ ms)) := by
  dsimp only [Draft.add] at hadd
  rw [hc] at hadd
  cases hb with
  | text read =>
    dsimp only at hadd
    split at hadd
    · rename_i hgap
      obtain rfl := Except.ok.inj hadd
      exact .frame outer (inner.gapLine hc (Or.inr ⟨read, hgap⟩))
    · cases hadd
  | guarded => cases hadd
  | loop => cases hadd
  | choose => cases hadd
  | default => cases hadd

/-- Adding a block with its lines. -/
theorem DraftDerives.add (h : DraftDerives d ls) {b : Block} (hb : Derives (.block b) ms)
    (hadd : d.add b n = .ok d') : DraftDerives d' (ls ++ ms) := by
  cases h with
  | done h =>
    obtain rfl := Except.ok.inj hadd
    exact .done (h.snoc hb)
  | frame outer inner =>
    rw [List.append_assoc]
    -- an open body takes the block, and between branches only lines of the gap may stand
    cases inner with
    | guarded opening condition inner =>
      obtain rfl := Except.ok.inj hadd
      exact .frame outer (.guarded opening condition (inner.snoc hb))
    | loop opening hheader inner =>
      obtain rfl := Except.ok.inj hadd
      exact .frame outer (.loop opening hheader (inner.snoc hb))
    | branch before opening inner =>
      obtain rfl := Except.ok.inj hadd
      rw [List.append_assoc]
      exact .frame outer (.branch before opening (inner.snoc hb))
    | otherwise before opening inner =>
      obtain rfl := Except.ok.inj hadd
      rw [List.append_assoc]
      exact .frame outer (.otherwise before opening (inner.snoc hb))
    | between before => exact outer.addBetween (.between before) rfl hb hadd
    | last before opening inner htail =>
      exact outer.addBetween (.last before opening inner htail) rfl hb hadd

theorem DraftDerives.openWhen (h : DraftDerives d ls) {keyword : Keyword}
    (hread : Directive.read? l = some (keyword, rest)) (hk : keyword = .when ∨ keyword = .case)
    (hopen : d.openWhen keyword rest n = .ok d') : DraftDerives d' (ls ++ [l]) := by
  unfold Draft.openWhen at hopen
  split at hopen
  · rename_i m choice frames hframes
    split at hopen
    · cases hopen
    · rename_i hother
      obtain ⟨before, inner, rfl, houter, hinner⟩ := h.exists_of_frames hframes
      obtain ⟨branches, hclose, hbranches⟩ := hinner.close (by simpa using hother)
      have hopens : ∃ c, OpensBranch choice.switch c l ∧ d' = { d with
          frames := (m, .choose { choice.close with current := some (.when c []) }) :: frames } := by
        rcases hk with rfl | rfl
        · obtain ⟨c, hc, hopen⟩ := exists_of_bind_eq_ok hopen
          exact ⟨c, .when hread hc, (Except.ok.inj hopen).symm⟩
        · cases hswitch : choice.switch with
          | none =>
            rw [hswitch] at hopen
            cases hopen
          | some name =>
            rw [hswitch] at hopen
            obtain ⟨c, hc, hopen⟩ := exists_of_bind_eq_ok hopen
            exact ⟨c, .case hread hc, (Except.ok.inj hopen).symm⟩
      obtain ⟨c, hopens, rfl⟩ := hopens
      rw [hclose, List.append_assoc]
      exact .frame houter (.branch hbranches hopens .nil)
  · cases hopen

theorem DraftDerives.openOtherwise (h : DraftDerives d ls)
    (hread : Directive.read? l = some (.default, rest)) (hopen : d.openOtherwise n = .ok d') :
    DraftDerives d' (ls ++ [l]) := by
  unfold Draft.openOtherwise at hopen
  split at hopen
  · rename_i m choice frames hframes
    split at hopen
    · cases hopen
    · rename_i hother
      obtain ⟨before, inner, rfl, houter, hinner⟩ := h.exists_of_frames hframes
      obtain ⟨branches, hclose, hbranches⟩ := hinner.close (by simpa using hother)
      obtain rfl := Except.ok.inj hopen
      rw [hclose, List.append_assoc]
      exact .frame houter (.otherwise hbranches hread .nil)
  · cases hopen

theorem DraftDerives.endBranch (h : DraftDerives d ls)
    (hread : Directive.read? l = some (.break, rest)) (hend : d.endBranch n = .ok d') :
    DraftDerives d' (ls ++ [l]) := by
  unfold Draft.endBranch at hend
  split at hend
  · rename_i m choice frames hframes
    obtain ⟨before, inner, rfl, houter, hinner⟩ := h.exists_of_frames hframes
    obtain rfl := Except.ok.inj hend
    rw [List.append_assoc]
    exact .frame houter (hinner.endBranch hread)
  · cases hend

theorem DraftDerives.closeIf (h : DraftDerives d ls)
    (hread : Directive.read? l = some (.fi, rest)) (hclose : d.closeIf n = .ok d') :
    DraftDerives d' (ls ++ [l]) := by
  unfold Draft.closeIf at hclose
  split at hclose
  · rename_i m c body frames hframes
    obtain ⟨before, inner, rfl, houter, hinner⟩ := h.exists_of_frames hframes
    rw [List.append_assoc]
    cases hinner with
    | guarded opening condition inner =>
      exact houter.add (.guarded opening condition inner hread) hclose
  · cases hclose
  · cases hclose

theorem DraftDerives.closeBlock (h : DraftDerives d ls) {keyword : Keyword}
    (hread : Directive.read? l = some (keyword, rest)) (hk : keyword = .end ∨ keyword = .done)
    (hclose : d.closeBlock keyword n = .ok d') : DraftDerives d' (ls ++ [l]) := by
  unfold Draft.closeBlock at hclose
  split at hclose
  · rename_i m choice frames hframes
    obtain ⟨before, inner, rfl, houter, hinner⟩ := h.exists_of_frames hframes
    split at hclose
    · rename_i hend
      rw [List.append_assoc]
      exact houter.add (hinner.closeChoice (hend ▸ hread)) hclose
    · cases hclose
  · rename_i m header body frames hframes
    obtain ⟨before, inner, rfl, houter, hinner⟩ := h.exists_of_frames hframes
    have hclosing : Directive.read? l = some (.end, rest) ∨
        Directive.read? l = some (.done, rest) := by
      rcases hk with rfl | rfl
      · exact Or.inl hread
      · exact Or.inr hread
    rw [List.append_assoc]
    cases hinner with
    | loop opening hheader inner => exact houter.add (.loop opening hheader inner hclosing) hclose
  · cases hclose
  · cases hclose

/-- One line read is one line more that is derived. -/
theorem DraftDerives.step (h : DraftDerives d ls) (hstep : d.step n l = .ok d') :
    DraftDerives d' (ls ++ [l]) := by
  cases d with
  | mk bs frames =>
  unfold Draft.step at hstep
  split at hstep
  · rename_i hread
    exact h.add (.text hread) hstep
  · rename_i rest hread
    obtain ⟨c, hc, hstep⟩ := exists_of_bind_eq_ok hstep
    obtain rfl := Except.ok.inj hstep
    exact .frame h (.guarded hread hc .nil)
  · rename_i hread
    exact h.closeIf hread hstep
  · rename_i hread
    obtain rfl := Except.ok.inj hstep
    exact .frame h (.between fun gap hgap => .opened (.choose hread) hgap)
  · rename_i hread
    obtain ⟨name, hname, hstep⟩ := exists_of_bind_eq_ok hstep
    obtain rfl := Except.ok.inj hstep
    exact .frame h (.between fun gap hgap => .opened (.switch hread hname) hgap)
  · rename_i hread
    exact h.openWhen hread (Or.inl rfl) hstep
  · rename_i hread
    exact h.openWhen hread (Or.inr rfl) hstep
  · rename_i hread
    exact h.openOtherwise hread hstep
  · rename_i hread
    exact h.endBranch hread hstep
  · rename_i hread
    exact h.closeBlock hread (Or.inl rfl) hstep
  · rename_i hread
    exact h.closeBlock hread (Or.inr rfl) hstep
  · rename_i hread
    obtain ⟨header, hheader, hstep⟩ := exists_of_bind_eq_ok hstep
    obtain rfl := Except.ok.inj hstep
    exact .frame h (.loop hread hheader .nil)

theorem DraftDerives.steps (h : DraftDerives d ls) (hsteps : d.steps n ms = .ok d') :
    DraftDerives d' (ls ++ ms) := by
  induction ms generalizing d ls n with
  | nil =>
    obtain rfl := Except.ok.inj hsteps
    simpa using h
  | cons l ms ih =>
    obtain ⟨d₁, hstep, hsteps⟩ := exists_of_bind_eq_ok hsteps
    have hmore := ih (h.step hstep) hsteps
    rwa [List.append_assoc] at hmore

end

/-- What is read of a text is what the grammar derives from its lines. -/
theorem ofText_eq_ok_iff_derives {t : Text} {blocks : Template} :
    ofText t = .ok blocks ↔ Derives (.blocks blocks) t.lines := by
  refine ⟨fun h => ?_, fun h => ?_⟩
  · obtain ⟨d, hsteps, hfinish⟩ := exists_of_bind_eq_ok h
    have hd := (DraftDerives.done .nil).steps hsteps
    unfold Draft.finish at hfinish
    split at hfinish
    · rename_i hframes
      obtain rfl := Except.ok.inj hfinish
      exact hd.derives hframes
    · cases hfinish
  · have hsteps := h.reads (fun body => ⟨body, []⟩) (fun _ _ _ => rfl) [] 1
    rw [ofText, hsteps]
    rfl

end SqlTemplate.Template
