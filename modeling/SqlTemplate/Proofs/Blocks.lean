import SqlTemplate.Proofs.LoopHeader
import SqlTemplate.Renderer

/-!
What holds of every line of SQL and of every loop header in a template.  Whatever holds of the
lines and headers as they are read holds of those in the blocks.
-/
namespace SqlTemplate

theorem exists_of_bind_eq_ok {ε α β : Type} {x : Except ε α} {f : α → Except ε β} {b : β}
    (h : x >>= f = .ok b) : ∃ a, x = .ok a ∧ f a = .ok b := by
  cases x with
  | error e => cases h
  | ok a => exact ⟨a, rfl, h⟩

theorem exists_of_isOk {ε α : Type} {x : Except ε α} (h : x.isOk = true) : ∃ a, x = .ok a := by
  cases x with
  | error e => cases h
  | ok a => exact ⟨a, rfl⟩

theorem eq_ok_of_toOption {ε α : Type} {x : Except ε α} {a : α} (h : x.toOption = some a) :
    x = .ok a := by
  cases x with
  | error e => cases h
  | ok b =>
    obtain rfl := Option.some.inj h
    rfl

section

variable (line : Text → Prop) (header : LoopHeader → Prop)

mutual

/-- Whether the lines of SQL and the loop headers in a block have a property. -/
def Block.Every : Block → Prop
  | .text l => line l
  | .guarded _ body => Template.Every body
  | .choose branches none => Template.EveryBranch branches
  | .choose branches (some otherwise) => Template.EveryBranch branches ∧ Template.Every otherwise
  | .loop h body => header h ∧ Template.Every body

def Template.Every : List Block → Prop
  | [] => True
  | b :: bs => b.Every ∧ Template.Every bs

def Template.EveryBranch : List (Condition × List Block) → Prop
  | [] => True
  | (_, body) :: rest => Template.Every body ∧ Template.EveryBranch rest

end

end

namespace Template

open Directive (Fault Keyword)

variable {line : Text → Prop} {header : LoopHeader → Prop}

theorem every_append {bs cs : List Block} :
    Every line header (bs ++ cs) ↔ Every line header bs ∧ Every line header cs := by
  induction bs with
  | nil => simp [Every]
  | cons b bs ih => simp [Every, ih, and_assoc]

theorem everyBranch_append {bs cs : List (Condition × List Block)} :
    EveryBranch line header (bs ++ cs) ↔
      EveryBranch line header bs ∧ EveryBranch line header cs := by
  induction bs with
  | nil => simp [EveryBranch]
  | cons b bs ih =>
    obtain ⟨c, body⟩ := b
    simp [EveryBranch, ih, and_assoc]

variable (line header) in
def Branch.Every : Branch → Prop
  | .when _ body => Template.Every line header body
  | .otherwise body => Template.Every line header body

variable (line header) in
structure Choice.Every (c : Choice) : Prop where
  branches : EveryBranch line header c.branches
  otherwise : ∀ bs, c.otherwise = some bs → Template.Every line header bs
  current : ∀ b, c.current = some b → b.Every line header

variable (line header) in
def Frame.Every : Frame → Prop
  | .guarded _ body => Template.Every line header body
  | .choose choice => choice.Every line header
  | .loop h body => header h ∧ Template.Every line header body

variable (line header) in
/-- The same property of all that has been read. -/
structure Draft.Every (d : Draft) : Prop where
  done : Template.Every line header d.done
  frames : ∀ f ∈ d.frames, f.2.Every line header

theorem Choice.Every.close {c : Choice} (h : c.Every line header) : c.close.Every line header := by
  unfold Choice.close
  cases hc : c.current with
  | none => exact h
  | some b =>
    have hb := h.current b hc
    cases b with
    | when condition body =>
      refine ⟨everyBranch_append.2 ⟨h.branches, hb, trivial⟩, h.otherwise, by simp⟩
    | otherwise body =>
      refine ⟨h.branches, ?_, by simp⟩
      rintro bs ⟨⟩
      exact hb

namespace Draft

variable {d d' : Draft} {n : Nat} {l : Text}

theorem Every.tail {f : Nat × Frame} {fs : List (Nat × Frame)} (h : d.Every line header)
    (hf : d.frames = f :: fs) : Every line header { d with frames := fs } :=
  ⟨h.done, fun g hg => h.frames g (hf ▸ List.mem_cons_of_mem _ hg)⟩

theorem Every.top {m : Nat} {f : Frame} {fs : List (Nat × Frame)} (h : d.Every line header)
    (hf : d.frames = (m, f) :: fs) : f.Every line header :=
  h.frames (m, f) (hf ▸ List.mem_cons_self)

/-- The innermost open block may be replaced by another one with the property. -/
theorem Every.replace {f g : Nat × Frame} {fs : List (Nat × Frame)} (h : d.Every line header)
    (hf : d.frames = f :: fs) (hg : g.2.Every line header) :
    Every line header { d with frames := g :: fs } := by
  refine ⟨h.done, fun k hk => ?_⟩
  rcases List.mem_cons.1 hk with rfl | hk
  · exact hg
  · exact (h.tail hf).frames k hk

theorem Every.push {f : Frame} (h : d.Every line header) (hf : f.Every line header) :
    (d.push f n).Every line header := by
  refine ⟨h.done, fun g hg => ?_⟩
  rcases List.mem_cons.1 hg with rfl | hg
  · exact hf
  · exact h.frames g hg

theorem Every.add {b : Block} (h : d.Every line header) (hb : b.Every line header)
    (hadd : d.add b n = .ok d') : d'.Every line header := by
  have hone : ∀ {bs : List Block}, Template.Every line header bs →
      Template.Every line header (bs ++ [b]) := fun hbs => every_append.2 ⟨hbs, hb, trivial⟩
  unfold Draft.add at hadd
  split at hadd
  · obtain rfl := Except.ok.inj hadd
    exact ⟨hone h.done, h.frames⟩
  · rename_i m c body rest hf
    obtain rfl := Except.ok.inj hadd
    exact h.replace hf (hone (h.top hf))
  · rename_i m c body rest hf
    obtain rfl := Except.ok.inj hadd
    exact h.replace hf ⟨(h.top hf).1, hone (h.top hf).2⟩
  · rename_i m choice rest hf
    have hchoice : choice.Every line header := h.top hf
    split at hadd
    · rename_i c body hcurrent
      obtain rfl := Except.ok.inj hadd
      refine h.replace hf ⟨hchoice.branches, hchoice.otherwise, ?_⟩
      rintro b' ⟨⟩
      exact hone (hchoice.current _ hcurrent)
    · rename_i body hcurrent
      obtain rfl := Except.ok.inj hadd
      refine h.replace hf ⟨hchoice.branches, hchoice.otherwise, ?_⟩
      rintro b' ⟨⟩
      exact hone (hchoice.current _ hcurrent)
    · split at hadd
      · split at hadd
        · obtain rfl := Except.ok.inj hadd
          exact h
        · cases hadd
      · cases hadd

theorem Every.openWhen {keyword : Keyword} {rest : Text} (h : d.Every line header)
    (hopen : d.openWhen keyword rest n = .ok d') : d'.Every line header := by
  unfold Draft.openWhen at hopen
  split at hopen
  · rename_i m choice frames hf
    split at hopen
    · cases hopen
    · have hchoice : choice.Every line header := h.top hf
      have hwhen : ∀ c : Condition, Every line header { d with
          frames := (m, .choose { choice.close with current := some (.when c []) }) :: frames } := by
        intro c
        refine h.replace hf ⟨hchoice.close.branches, hchoice.close.otherwise, ?_⟩
        rintro b ⟨⟩
        exact trivial
      dsimp only at hopen
      split at hopen
      · obtain ⟨c, -, hc⟩ := exists_of_bind_eq_ok hopen
        exact Except.ok.inj hc ▸ hwhen c
      · cases hopen
      · obtain ⟨c, -, hc⟩ := exists_of_bind_eq_ok hopen
        exact Except.ok.inj hc ▸ hwhen c
  · cases hopen

theorem Every.openOtherwise (h : d.Every line header) (hopen : d.openOtherwise n = .ok d') :
    d'.Every line header := by
  unfold Draft.openOtherwise at hopen
  split at hopen
  · rename_i m choice frames hf
    split at hopen
    · cases hopen
    · have hchoice : choice.Every line header := h.top hf
      obtain rfl := Except.ok.inj hopen
      refine h.replace hf ⟨hchoice.close.branches, hchoice.close.otherwise, ?_⟩
      rintro b ⟨⟩
      exact trivial
  · cases hopen

theorem Every.endBranch (h : d.Every line header) (hend : d.endBranch n = .ok d') :
    d'.Every line header := by
  unfold Draft.endBranch at hend
  split at hend
  · rename_i m choice frames hf
    have hchoice : choice.Every line header := h.top hf
    obtain rfl := Except.ok.inj hend
    exact h.replace hf hchoice.close
  · cases hend

theorem Every.closeIf (h : d.Every line header) (hclose : d.closeIf n = .ok d') :
    d'.Every line header := by
  unfold Draft.closeIf at hclose
  split at hclose
  · rename_i m c body frames hf
    exact (h.tail hf).add (by simp only [Block.Every]; exact h.top hf) hclose
  · cases hclose
  · cases hclose

theorem Every.closeBlock {keyword : Keyword} (h : d.Every line header)
    (hclose : d.closeBlock keyword n = .ok d') : d'.Every line header := by
  unfold Draft.closeBlock at hclose
  split at hclose
  · rename_i m choice frames hf
    have hchoice : choice.Every line header := h.top hf
    split at hclose
    · refine (h.tail hf).add ?_ hclose
      cases ho : choice.close.otherwise with
      | none => simpa [Block.Every] using hchoice.close.branches
      | some bs => simpa [Block.Every] using ⟨hchoice.close.branches, hchoice.close.otherwise bs ho⟩
    · cases hclose
  · rename_i m head body frames hf
    exact (h.tail hf).add (by simp only [Block.Every]; exact h.top hf) hclose
  · cases hclose
  · cases hclose

/-- Reading a line keeps the property, if the line or the header that it is has it. -/
theorem Every.step (h : d.Every line header) (hline : Directive.read? l = none → line l)
    (hheader : ∀ rest head, Directive.read? l = some (.for, rest) →
      LoopHeader.ofText rest n = .ok head → header head)
    (hstep : d.step n l = .ok d') : d'.Every line header := by
  unfold Draft.step at hstep
  split at hstep
  · rename_i hl
    exact h.add (by simpa [Block.Every] using hline hl) hstep
  · obtain ⟨c, -, hc⟩ := exists_of_bind_eq_ok hstep
    obtain rfl := Except.ok.inj hc
    exact h.push trivial
  · exact h.closeIf hstep
  · obtain rfl := Except.ok.inj hstep
    exact h.push ⟨trivial, by simp, by simp⟩
  · obtain ⟨name, -, hname⟩ := exists_of_bind_eq_ok hstep
    obtain rfl := Except.ok.inj hname
    exact h.push ⟨trivial, by simp, by simp⟩
  · exact h.openWhen hstep
  · exact h.openWhen hstep
  · exact h.openOtherwise hstep
  · exact h.endBranch hstep
  · exact h.closeBlock hstep
  · exact h.closeBlock hstep
  · rename_i rest hl
    obtain ⟨head, hhead, hd'⟩ := exists_of_bind_eq_ok hstep
    obtain rfl := Except.ok.inj hd'
    exact h.push ⟨hheader rest head hl hhead, trivial⟩

theorem Every.steps {ls : List Text} (h : d.Every line header)
    (hline : ∀ l ∈ ls, Directive.read? l = none → line l)
    (hheader : ∀ l ∈ ls, ∀ rest n head, Directive.read? l = some (.for, rest) →
      LoopHeader.ofText rest n = .ok head → header head)
    (hsteps : d.steps n ls = .ok d') : d'.Every line header := by
  induction ls generalizing d n with
  | nil =>
    obtain rfl := Except.ok.inj hsteps
    exact h
  | cons l ls ih =>
    obtain ⟨d₁, hstep, hrest⟩ := exists_of_bind_eq_ok hsteps
    have hd₁ := h.step (hline l List.mem_cons_self)
      (fun rest head => hheader l List.mem_cons_self rest n head) hstep
    exact ih hd₁ (fun k hk => hline k (List.mem_cons_of_mem _ hk))
      (fun k hk => hheader k (List.mem_cons_of_mem _ hk)) hrest

end Draft

/-- The lines of SQL in a template are lines of its text, and its loop headers have been read from
such lines. -/
theorem every_of_ofText {t : Text} {blocks : Template} (h : ofText t = .ok blocks) :
    Every (· ∈ t.lines)
      (fun head => ∃ l ∈ t.lines, ∃ rest n, Directive.read? l = some (.for, rest) ∧
        LoopHeader.ofText rest n = .ok head) blocks := by
  obtain ⟨d, hsteps, hfinish⟩ := exists_of_bind_eq_ok h
  have hempty : Draft.Every (· ∈ t.lines) (fun head => ∃ l ∈ t.lines, ∃ rest n,
      Directive.read? l = some (.for, rest) ∧ LoopHeader.ofText rest n = .ok head) ⟨[], []⟩ :=
    ⟨trivial, by simp⟩
  have hd := hempty.steps (fun l hl _ => hl)
    (fun l hl rest n head hread hhead => ⟨l, hl, rest, n, hread, hhead⟩) hsteps
  unfold Draft.finish at hfinish
  split at hfinish
  · obtain rfl := Except.ok.inj hfinish
    exact hd.done
  · cases hfinish

end Template

section

variable {line line' : Text → Prop} {header header' : LoopHeader → Prop}

mutual

theorem Block.Every.imp (hl : ∀ l, line l → line' l) (hh : ∀ h, header h → header' h) :
    ∀ b : Block, b.Every line header → b.Every line' header'
  | .text l, h => by
    simp only [Block.Every] at h ⊢
    exact hl l h
  | .guarded _ body, h => by
    simp only [Block.Every] at h ⊢
    exact Template.Every.imp hl hh body h
  | .choose branches none, h => by
    simp only [Block.Every] at h ⊢
    exact Template.EveryBranch.imp hl hh branches h
  | .choose branches (some bs), h => by
    simp only [Block.Every] at h ⊢
    exact ⟨Template.EveryBranch.imp hl hh branches h.1, Template.Every.imp hl hh bs h.2⟩
  | .loop head body, h => by
    simp only [Block.Every] at h ⊢
    exact ⟨hh head h.1, Template.Every.imp hl hh body h.2⟩

theorem Template.Every.imp (hl : ∀ l, line l → line' l) (hh : ∀ h, header h → header' h) :
    ∀ bs : List Block, Template.Every line header bs → Template.Every line' header' bs
  | [], _ => trivial
  | b :: bs, h => ⟨Block.Every.imp hl hh b h.1, Template.Every.imp hl hh bs h.2⟩

theorem Template.EveryBranch.imp (hl : ∀ l, line l → line' l)
    (hh : ∀ h, header h → header' h) : ∀ bs : List (Condition × List Block),
      Template.EveryBranch line header bs → Template.EveryBranch line' header' bs
  | [], _ => trivial
  | (_, body) :: rest, h =>
    ⟨Template.Every.imp hl hh body h.1, Template.EveryBranch.imp hl hh rest h.2⟩

end

mutual

theorem Block.Every.and : ∀ b : Block, b.Every line header → b.Every line' header' →
    b.Every (fun l => line l ∧ line' l) (fun h => header h ∧ header' h)
  | .text l, h, h' => by
    simp only [Block.Every] at h h' ⊢
    exact ⟨h, h'⟩
  | .guarded _ body, h, h' => by
    simp only [Block.Every] at h h' ⊢
    exact Template.Every.and body h h'
  | .choose branches none, h, h' => by
    simp only [Block.Every] at h h' ⊢
    exact Template.EveryBranch.and branches h h'
  | .choose branches (some bs), h, h' => by
    simp only [Block.Every] at h h' ⊢
    exact ⟨Template.EveryBranch.and branches h.1 h'.1, Template.Every.and bs h.2 h'.2⟩
  | .loop head body, h, h' => by
    simp only [Block.Every] at h h' ⊢
    exact ⟨⟨h.1, h'.1⟩, Template.Every.and body h.2 h'.2⟩

theorem Template.Every.and : ∀ bs : List Block,
    Template.Every line header bs → Template.Every line' header' bs →
      Template.Every (fun l => line l ∧ line' l) (fun h => header h ∧ header' h) bs
  | [], _, _ => trivial
  | b :: bs, h, h' => ⟨Block.Every.and b h.1 h'.1, Template.Every.and bs h.2 h'.2⟩

theorem Template.EveryBranch.and : ∀ bs : List (Condition × List Block),
    Template.EveryBranch line header bs → Template.EveryBranch line' header' bs →
      Template.EveryBranch (fun l => line l ∧ line' l) (fun h => header h ∧ header' h) bs
  | [], _, _ => trivial
  | (_, body) :: rest, h, h' =>
    ⟨Template.Every.and body h.1 h'.1, Template.EveryBranch.and rest h.2 h'.2⟩

end

end

/-- In a template that has been read, the lines are parts of its text, and so are the loop
variables, which are names; delimiters may have some more characters. -/
theorem Template.every_of_parse {t : Text} {blocks : Template}
    (h : Template.parse t = .ok blocks) :
    Template.Every (· ⊆ t) (fun header =>
      (∀ v ∈ header.vars, LoopHeader.IsName v ∧ v ⊆ t) ∧
        header.delimiter ⊆ LoopHeader.delimiterExtras ++ t) blocks := by
  have hof : Template.ofText t = .ok blocks := by
    unfold Template.parse at h
    split at h
    · rename_i blocks' hblocks
      rw [hblocks, Except.ok.inj h]
    · cases h
  refine Template.Every.imp (fun l => Text.subset_of_mem_lines) ?_ blocks
    (Template.every_of_ofText hof)
  rintro header ⟨l, hl, rest, n, hread, hheader⟩
  have hrest : rest ⊆ t :=
    List.Subset.trans (Directive.read?_subset hread) (Text.subset_of_mem_lines hl)
  obtain ⟨hvars, hdelimiter⟩ := LoopHeader.ofText_spec hheader
  refine ⟨fun v hv => ⟨(hvars v hv).1, List.Subset.trans (hvars v hv).2 hrest⟩, fun c hc => ?_⟩
  exact (List.mem_append.1 (hdelimiter hc)).elim (List.mem_append_left t)
    fun hc => List.mem_append_right _ (hrest hc)

end SqlTemplate
