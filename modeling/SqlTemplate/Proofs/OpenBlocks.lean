import SqlTemplate.Proofs.Headers

/-!
Where blocks are open.  Which line ends a block can be told from the lines alone, and so whether
one is open behind some lines; what stands where no block is open belongs to none.
-/
namespace SqlTemplate.SqlFile

/-- Whether an open block leaves a line out: blank lines, and comments that are no directives. -/
def skips (l : Text) : Bool :=
  l.isBlank || (Text.startsWith ['-', '-'] l.trim && (Directive.read? l.trim).isNone)

/-- Whether a line of an open block is its last one. -/
def endsBlock (terminator l : Text) : Bool :=
  !skips l && (Text.dropBack? terminator l.trimEnd).isSome

/-- Whether a line opens a description, or is one. -/
def startsDescription (l : Text) : Bool := (Text.dropFront? ['/', '*', '#'] l.trim).isSome

/-- Whether a block is open behind a line, by whether the line is `inside` of a description and
whether a block is open in front of it. -/
def openBehind (terminator : Text) (inside isOpen : Bool) (l : Text) : Bool :=
  if inside || startsDescription l then isOpen
  else (header? l.trim).isSome || (isOpen && !endsBlock terminator l)

/-- Whether a block is open behind lines. -/
def openAfter (terminator : Text) : Bool → Bool → List Text → Bool
  | _, isOpen, [] => isOpen
  | inside, isOpen, l :: ls =>
    openAfter terminator (within inside l) (openBehind terminator inside isOpen l) ls

/-- Lines between two blocks: no headers, and no descriptions. -/
def IsBetween (ls : List Text) : Prop :=
  ∀ l ∈ ls, header? l.trim = none ∧ startsDescription l = false

instance (ls : List Text) : Decidable (IsBetween ls) :=
  inferInstanceAs (Decidable (∀ l ∈ ls, _))

theorem openAfter_append {terminator : Text} {inside isOpen : Bool} (ls ms : List Text) :
    openAfter terminator inside isOpen (ls ++ ms) =
      openAfter terminator (ls.foldl within inside) (openAfter terminator inside isOpen ls) ms := by
  induction ls generalizing inside isOpen with
  | nil => rfl
  | cons l ls ih => exact ih

namespace Draft

variable {fileAlias terminator : Text} {d d' : Draft} {l : Text}

theorem isSome_current_describe (d : Draft) (ls : List Text) :
    (d.describe ls).current.isSome = d.current.isSome := by
  rw [describe]
  split
  · rename_i b hcurrent
    split
    · simp [hcurrent]
    · rfl
  · rfl

/-- What a line does to an open block. -/
theorem bodyLine_of_open {b : OpenBlock} (hcurrent : d.current = some b) (l : Text) :
    d.bodyLine fileAlias terminator l =
      if skips l then .ok d
      else match Text.dropBack? terminator l.trimEnd with
        | none => .ok { d with current := some { b with body := b.body ++ [l.trimEnd] } }
        | some last => close fileAlias { d with
            current := some { b with
              body := if last.isBlank then b.body else b.body ++ [last.trimEnd] } } := by
  simp only [bodyLine, hcurrent]
  rfl

theorem isSome_current_bodyLine (h : d.bodyLine fileAlias terminator l = .ok d') :
    d'.current.isSome = (d.current.isSome && !endsBlock terminator l) := by
  cases hcurrent : d.current with
  | none =>
    simp only [bodyLine, hcurrent] at h
    obtain rfl := Except.ok.inj h
    rw [hcurrent]
    rfl
  | some b =>
    rw [bodyLine_of_open hcurrent] at h
    by_cases hskips : skips l
    · rw [if_pos hskips] at h
      obtain rfl := Except.ok.inj h
      simp [hcurrent, endsBlock, hskips]
    · rw [if_neg hskips] at h
      cases hback : Text.dropBack? terminator l.trimEnd with
      | none =>
        rw [hback] at h
        obtain rfl := Except.ok.inj h
        simp [endsBlock, hback]
      | some last =>
        rw [hback] at h
        rw [current_close h]
        simp [endsBlock, hback, hskips]

theorem isSome_current_line (h : d.line fileAlias terminator l = .ok d') :
    d'.current.isSome = openBehind terminator d.comment.isSome d.current.isSome l := by
  cases hcomment : d.comment with
  | some lines =>
    rw [Option.isSome_some, openBehind, Bool.true_or, if_pos rfl]
    cases hback : Text.dropBack? ['#', '*', '/'] l.trim with
    | some last =>
      rw [line_of_closing hcomment hback] at h
      obtain rfl := Except.ok.inj h
      exact isSome_current_describe _ _
    | none =>
      rw [line_of_inside hcomment hback] at h
      obtain rfl := Except.ok.inj h
      rfl
  | none =>
    rw [Option.isSome_none, openBehind, Bool.false_or, startsDescription]
    cases hfront : Text.dropFront? ['/', '*', '#'] l.trim with
    | some rest =>
      rw [Option.isSome_some, if_pos rfl]
      cases hback : Text.dropBack? ['#', '*', '/'] rest with
      | some text =>
        rw [line_of_description hcomment hfront hback] at h
        obtain rfl := Except.ok.inj h
        exact isSome_current_describe _ _
      | none =>
        rw [line_of_opening hcomment hfront hback] at h
        obtain rfl := Except.ok.inj h
        rfl
    | none =>
      rw [Option.isSome_none, if_neg Bool.false_ne_true]
      cases hheader : header? l.trim with
      | some header =>
        rw [line_of_header hcomment hfront hheader] at h
        obtain ⟨d₁, -, hd'⟩ := exists_of_bind_eq_ok h
        obtain rfl := Except.ok.inj hd'
        rfl
      | none =>
        rw [line_of_body hcomment hfront hheader] at h
        rw [Option.isSome_none, Bool.false_or]
        exact isSome_current_bodyLine h

/-- Whether a description is open behind lines that have been read. -/
theorem isSome_comment_lines {ls : List Text} (h : d.lines fileAlias terminator ls = .ok d') :
    d'.comment.isSome = ls.foldl within d.comment.isSome := by
  have haccounts := accounts_lines fileAlias terminator d ls
  rw [h] at haccounts
  exact haccounts.2

theorem isSome_current_lines {ls : List Text} (h : d.lines fileAlias terminator ls = .ok d') :
    d'.current.isSome = openAfter terminator d.comment.isSome d.current.isSome ls := by
  induction ls generalizing d with
  | nil =>
    obtain rfl := Except.ok.inj h
    rfl
  | cons l ls ih =>
    obtain ⟨d₁, hline, hls⟩ := exists_of_bind_eq_ok h
    have hone : d.lines fileAlias terminator [l] = .ok d₁ := by rw [lines_cons_of_ok hline]; rfl
    rw [ih hls, isSome_current_line hline, isSome_comment_lines hone]
    rfl

/-- Lines where no block is open make no difference. -/
theorem lines_of_isBetween {ls : List Text} (hcurrent : d.current = none)
    (hcomment : d.comment = none) (h : IsBetween ls) : d.lines fileAlias terminator ls = .ok d := by
  induction ls with
  | nil => rfl
  | cons l ls ih =>
    obtain ⟨⟨hheader, hfront⟩, hls⟩ := List.forall_mem_cons.1 h
    have hnone : Text.dropFront? ['/', '*', '#'] l.trim = none := by
      simpa [startsDescription] using hfront
    have hline : d.line fileAlias terminator l = .ok d := by
      rw [line_of_body hcomment hnone hheader, bodyLine, hcurrent]
    rw [lines_cons_of_ok hline, ih hls]

end Draft

/-- What stands between two blocks belongs to none of them. -/
theorem ofLines_of_isBetween {fileAlias terminator : Text} {front between : List Text}
    (hopen : openAfter terminator false false front = false) (hwithin : ¬EndsWithin front)
    (h : IsBetween between) (behind : List Text) :
    ofLines fileAlias (front ++ between ++ behind) terminator =
      ofLines fileAlias (front ++ behind) terminator := by
  rw [ofLines, ofLines, List.append_assoc, Draft.lines_append, Draft.lines_append, bind_assoc,
    bind_assoc]
  cases hfront : Draft.lines fileAlias terminator .empty front with
  | error e => rfl
  | ok d =>
    have hcurrent : d.current = none := by
      rw [← Option.not_isSome_iff_eq_none, Draft.isSome_current_lines hfront]
      exact ne_true_of_eq_false hopen
    have hcomment : d.comment = none := by
      rw [← Option.not_isSome_iff_eq_none, Draft.isSome_comment_lines hfront]
      exact hwithin
    have hbetween : d.lines fileAlias terminator between = .ok d :=
      Draft.lines_of_isBetween hcurrent hcomment h
    simp only [bind, Except.bind, Draft.lines_append_of_ok hbetween]

end SqlTemplate.SqlFile
