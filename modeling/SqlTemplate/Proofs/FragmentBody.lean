import Mathlib
import SqlTemplate.Proofs.BodyText
import SqlTemplate.Proofs.FileReader
import SqlTemplate.Proofs.Scan

/-!
Where the text of a fragment comes from.  Every fragment of a file has a header there, and its text
is what is read of the lines behind that, up to the line that ends them.  Its closed quoted runs
are the ones of the file wherever reading the lines takes nothing from a quoted run.
-/
namespace SqlTemplate.SqlFile

namespace Draft

variable {fileAlias terminator name : Text} {d d' d'' : Draft} {body : List Text}

theorem comment_describe (d : Draft) (ls : List Text) : (d.describe ls).comment = d.comment := by
  rw [describe]
  split
  · split <;> rfl
  · rfl

theorem comment_close (h : d.close fileAlias = .ok d') : d'.comment = d.comment := by
  rcases close_cases h with ⟨-, rfl⟩ | ⟨b, -, ⟨-, -, rfl⟩ | ⟨-, -, rfl⟩⟩ <;> rfl

theorem comment_start {kind : BlockKind} (h : d.start fileAlias kind name = .ok d') :
    d'.comment = d.comment := by
  obtain ⟨d₁, hclose, hd'⟩ := exists_of_bind_eq_ok h
  obtain rfl := Except.ok.inj hd'
  have hcomment := comment_close hclose
  exact hcomment

theorem comment_bodyLine {l : Text} (h : d.bodyLine fileAlias terminator l = .ok d') :
    d'.comment = d.comment := by
  rcases bodyLine_cases h with rfl | ⟨b, body, -, rfl | hclose⟩
  · rfl
  · rfl
  · rw [comment_close hclose]

/-! What a line does, by what it is. -/

section

variable {l : Text}

theorem line_of_closing {lines : List Text} {last : Text} (hcomment : d.comment = some lines)
    (hback : Text.dropBack? ['#', '*', '/'] l.trim = some last) :
    d.line fileAlias terminator l =
      .ok ({ d with comment := none }.describe (lines ++ [last.trim])) := by
  simp only [line, hcomment, hback]

theorem line_of_inside {lines : List Text} (hcomment : d.comment = some lines)
    (hback : Text.dropBack? ['#', '*', '/'] l.trim = none) :
    d.line fileAlias terminator l = .ok { d with comment := some (lines ++ [l.trim]) } := by
  simp only [line, hcomment, hback]

theorem line_of_description {rest text : Text} (hcomment : d.comment = none)
    (hfront : Text.dropFront? ['/', '*', '#'] l.trim = some rest)
    (hback : Text.dropBack? ['#', '*', '/'] rest = some text) :
    d.line fileAlias terminator l = .ok (d.describe [text.trim]) := by
  simp only [line, hcomment, hfront, hback]

theorem line_of_opening {rest : Text} (hcomment : d.comment = none)
    (hfront : Text.dropFront? ['/', '*', '#'] l.trim = some rest)
    (hback : Text.dropBack? ['#', '*', '/'] rest = none) :
    d.line fileAlias terminator l = .ok { d with comment := some [rest.trim] } := by
  simp only [line, hcomment, hfront, hback]

theorem line_of_header {kind : BlockKind} (hcomment : d.comment = none)
    (hfront : Text.dropFront? ['/', '*', '#'] l.trim = none)
    (hheader : header? l.trim = some (kind, name)) :
    d.line fileAlias terminator l = d.start fileAlias kind name := by
  simp only [line, hcomment, hfront, hheader]

theorem line_of_body (hcomment : d.comment = none)
    (hfront : Text.dropFront? ['/', '*', '#'] l.trim = none) (hheader : header? l.trim = none) :
    d.line fileAlias terminator l = d.bodyLine fileAlias terminator l := by
  simp only [line, hcomment, hfront, hheader]

theorem line_of_skipped (hcomment : d.comment = none)
    (hfront : Text.dropFront? ['/', '*', '#'] l.trim = none) (hheader : header? l.trim = none)
    (hskipped : (l.isBlank ||
      (Text.startsWith ['-', '-'] l.trim && (Directive.read? l.trim).isNone)) = true) :
    d.line fileAlias terminator l = .ok d := by
  rw [line_of_body hcomment hfront hheader, bodyLine]
  split
  · rfl
  · rw [if_pos hskipped]

end

/-! A fragment that is open. -/

/-- Whether a fragment is open that has these lines so far. -/
def Writes (name : Text) (body : List Text) (d : Draft) : Prop :=
  ∃ description, d.current = some ⟨.fragment, name, description, body⟩

theorem Writes.withComment (h : d.Writes name body) (comment : Option (List Text)) :
    Writes name body { d with comment } := h

theorem Writes.describe (h : d.Writes name body) (ls : List Text) :
    (d.describe ls).Writes name body := by
  obtain ⟨description, hcurrent⟩ := h
  rw [Draft.describe]
  simp only [hcurrent]
  split
  · exact ⟨_, rfl⟩
  · exact ⟨_, hcurrent⟩

theorem writes_of_start (h : d.start fileAlias .fragment name = .ok d') : d'.Writes name [] := by
  obtain ⟨d₁, -, hd'⟩ := exists_of_bind_eq_ok h
  obtain rfl := Except.ok.inj hd'
  exact ⟨_, rfl⟩

/-- What is entered for an open fragment stays to the end of the file. -/
theorem Writes.get?_of_close (h : d.Writes name body) (hclose : d.close fileAlias = .ok d')
    (hextends : d'.Extends d'') :
    ∃ description, d''.fragments.get? name = some (description, Text.unlines body) := by
  obtain ⟨description, hcurrent⟩ := h
  have hget : d'.fragments.get? name = some (description.getD [], Text.unlines body) := by
    rw [close_of_fragment hcurrent rfl hclose, Dict.get?_insert, if_pos rfl]
  exact ⟨_, hextends _ _ hget⟩

section

variable {l : Text} (hskipped : ¬(l.isBlank ||
  (Text.startsWith ['-', '-'] l.trim && (Directive.read? l.trim).isNone)) = true)

include hskipped

theorem Writes.bodyLine (h : d.Writes name body)
    (hback : Text.dropBack? terminator l.trimEnd = none) :
    ∃ d' : Draft, d.bodyLine fileAlias terminator l = .ok d' ∧
      d'.Writes name (body ++ [l.trimEnd]) ∧ d'.comment = d.comment := by
  obtain ⟨description, hcurrent⟩ := h
  simp only [Draft.bodyLine, hcurrent, if_neg hskipped, hback]
  exact ⟨_, rfl, ⟨_, rfl⟩, rfl⟩

theorem Writes.bodyLine_last {last : Text} (h : d.Writes name body)
    (hback : Text.dropBack? terminator l.trimEnd = some last) :
    ∃ d' : Draft, d'.Writes name (if last.isBlank then body else body ++ [last.trimEnd]) ∧
      d.bodyLine fileAlias terminator l = d'.close fileAlias := by
  obtain ⟨description, hcurrent⟩ := h
  simp only [Draft.bodyLine, hcurrent, if_neg hskipped, hback]
  exact ⟨_, ⟨_, rfl⟩, rfl⟩

end

/-- The body that is entered for an open fragment goes on with what is read of its lines. -/
theorem Writes.get?_of_lines {opened : Option (List Text)} {ls : List Text}
    (h : d.Writes name body) (hopened : d.comment.isSome = opened.isSome)
    (hlines : d.lines fileAlias terminator ls = .ok d') (hclose : d'.close fileAlias = .ok d'') :
    ∃ description, d''.fragments.get? name = some (description,
      Text.unlines (body ++ (bodyPieces terminator opened ls).flatMap BodyPiece.read)) := by
  induction opened, ls using bodyPieces.induct terminator generalizing d body with
  | case1 | case2 opened =>
    obtain rfl := Except.ok.inj hlines
    simpa [bodyPieces, BodyPiece.read] using h.get?_of_close hclose fun _ _ => id
  | case3 opened l ls last hback ih =>
    obtain ⟨lines, hcomment⟩ := Option.isSome_iff_exists.1 hopened
    rw [lines_cons_of_ok (line_of_closing hcomment hback)] at hlines
    simp only [bodyPieces, hback, List.flatMap_cons, BodyPiece.read, List.nil_append]
    exact ih ((h.withComment none).describe _) (by rw [comment_describe]) hlines
  | case4 opened l ls hback ih =>
    obtain ⟨lines, hcomment⟩ := Option.isSome_iff_exists.1 hopened
    rw [lines_cons_of_ok (line_of_inside hcomment hback)] at hlines
    simp only [bodyPieces, hback]
    exact ih (h.withComment (some _)) (by rfl) hlines
  | case5 l ls rest hfront text hback ih =>
    have hcomment : d.comment = none := by simpa using hopened
    rw [lines_cons_of_ok (line_of_description hcomment hfront hback)] at hlines
    simp only [bodyPieces, hfront, hback, List.flatMap_cons, BodyPiece.read, List.nil_append]
    exact ih (h.describe _) (by rw [comment_describe, hcomment]) hlines
  | case6 l ls rest hfront hback ih =>
    have hcomment : d.comment = none := by simpa using hopened
    rw [lines_cons_of_ok (line_of_opening hcomment hfront hback)] at hlines
    simp only [bodyPieces, hfront, hback]
    exact ih (h.withComment (some _)) (by rfl) hlines
  | case7 l ls hfront hheader =>
    have hcomment : d.comment = none := by simpa using hopened
    obtain ⟨⟨kind, name'⟩, hheader'⟩ := Option.isSome_iff_exists.1 hheader
    obtain ⟨d₁, hline, hrest⟩ := exists_of_bind_eq_ok hlines
    rw [line_of_header hcomment hfront hheader'] at hline
    obtain ⟨d₂, hclose₂, hd₁⟩ := exists_of_bind_eq_ok hline
    obtain rfl := Except.ok.inj hd₁
    simp only [bodyPieces, hfront, if_pos hheader, List.flatMap_nil, List.append_nil]
    exact h.get?_of_close hclose₂
      (((extends_of_eq rfl).trans (extends_lines hrest)).trans (extends_close hclose))
  | case8 l ls hfront hheader hblank ih =>
    have hcomment : d.comment = none := by simpa using hopened
    rw [lines_cons_of_ok (line_of_skipped hcomment hfront (by simpa using hheader)
      (by simp [hblank]))] at hlines
    simp only [bodyPieces, hfront, if_neg hheader, if_pos hblank, List.flatMap_cons,
      BodyPiece.read, List.nil_append]
    exact ih h hopened hlines
  | case9 l ls hfront hheader hblank hdashes ih =>
    have hcomment : d.comment = none := by simpa using hopened
    rw [lines_cons_of_ok (line_of_skipped hcomment hfront (by simpa using hheader)
      (by simp [hdashes]))] at hlines
    simp only [bodyPieces, hfront, if_neg hheader, if_neg hblank, if_pos hdashes,
      List.flatMap_cons, BodyPiece.read, List.nil_append]
    exact ih h hopened hlines
  | case10 l ls hfront hheader hblank hdashes hback ih =>
    have hcomment : d.comment = none := by simpa using hopened
    obtain ⟨d₁, hline, hwrites, hcomment₁⟩ := h.bodyLine (by simp [hblank, hdashes]) hback
    rw [← line_of_body hcomment hfront (by simpa using hheader)] at hline
    rw [lines_cons_of_ok hline] at hlines
    simp only [bodyPieces, hfront, if_neg hheader, if_neg hblank, if_neg hdashes, hback,
      List.flatMap_cons, BodyPiece.read]
    rw [← List.append_assoc]
    exact ih hwrites (by rw [hcomment₁, hopened]) hlines
  | case11 l ls hfront hheader hblank hdashes last hback =>
    have hcomment : d.comment = none := by simpa using hopened
    obtain ⟨d₁, hwrites, hclose₁⟩ := h.bodyLine_last (by simp [hblank, hdashes]) hback
    obtain ⟨d₂, hline, hrest⟩ := exists_of_bind_eq_ok hlines
    rw [line_of_body hcomment hfront (by simpa using hheader), hclose₁] at hline
    simp only [bodyPieces, hfront, if_neg hheader, if_neg hblank, if_neg hdashes, hback,
      List.flatMap_singleton]
    have hextends := (extends_lines hrest).trans (extends_close hclose)
    by_cases hlast : last.isBlank
    · rw [if_pos hlast] at hwrites ⊢
      rw [BodyPiece.read, List.append_nil]
      · exact hwrites.get?_of_close hline hextends
      · rintro _ ⟨⟩
    · rw [if_neg hlast] at hwrites ⊢
      exact hwrites.get?_of_close hline hextends

end Draft

/-- The lines behind the header of a fragment, in a file or, if `opened`, from inside of a
description on. -/
def behindHeader? (name : Text) : Bool → List Text → Option (List Text)
  | _, [] => none
  | true, l :: ls => behindHeader? name (Text.dropBack? ['#', '*', '/'] l.trim).isNone ls
  | false, l :: ls =>
    match Text.dropFront? ['/', '*', '#'] l.trim with
    | some rest => behindHeader? name (Text.dropBack? ['#', '*', '/'] rest).isNone ls
    | none =>
      if header? l.trim = some (.fragment, name) then some ls else behindHeader? name false ls

namespace Draft

variable {fileAlias terminator name : Text} {d d' d'' : Draft}

/-- Whether a fragment has been neither entered nor opened. -/
structure Lacks (name : Text) (d : Draft) : Prop where
  entered : d.fragments.get? name = none
  opened : ∀ b, d.current = some b → b.kind = .fragment → b.name ≠ name

theorem lacks_empty (name : Text) : empty.Lacks name where
  entered := rfl
  opened := by rintro _ ⟨⟩

namespace Lacks

theorem withComment (h : d.Lacks name) (comment : Option (List Text)) :
    Lacks name { d with comment } :=
  ⟨h.entered, h.opened⟩

/-- It makes no difference what an open block that lacks the name is described as and holds. -/
theorem withBlock {b : OpenBlock} (h : d.Lacks name) (hcurrent : d.current = some b)
    (description : Option Text) (body : List Text) :
    Lacks name { d with current := some { b with description, body } } where
  entered := h.entered
  opened := by
    rintro _ ⟨⟩ hkind
    exact h.opened b hcurrent hkind

theorem describe (h : d.Lacks name) (ls : List Text) : (d.describe ls).Lacks name := by
  rw [Draft.describe]
  split
  · rename_i b hcurrent
    split
    · exact h.withBlock hcurrent _ _
    · exact h
  · exact ⟨h.entered, h.opened⟩

theorem close (h : d.Lacks name) (hclose : d.close fileAlias = .ok d') :
    d'.fragments.get? name = none ∧ d'.current = none := by
  rcases close_cases hclose with ⟨hnone, rfl⟩ | ⟨b, hb, ⟨hkind, -, rfl⟩ | ⟨-, -, rfl⟩⟩
  · exact ⟨h.entered, hnone⟩
  · refine ⟨?_, rfl⟩
    rw [Dict.get?_insert, if_neg (h.opened b hb hkind), h.entered]
  · exact ⟨h.entered, rfl⟩

theorem of_close (h : d.Lacks name) (hclose : d.close fileAlias = .ok d') : d'.Lacks name where
  entered := (h.close hclose).1
  opened := by
    intro b hb
    rw [(h.close hclose).2] at hb
    cases hb

theorem start {kind : BlockKind} {name' : Text} (h : d.Lacks name)
    (hne : kind = .fragment → name' ≠ name) (hstart : d.start fileAlias kind name' = .ok d') :
    d'.Lacks name := by
  obtain ⟨d₁, hclose, hd'⟩ := exists_of_bind_eq_ok hstart
  obtain rfl := Except.ok.inj hd'
  refine ⟨(h.close hclose).1, ?_⟩
  rintro _ ⟨⟩
  exact hne

theorem bodyLine {l : Text} (h : d.Lacks name)
    (hline : d.bodyLine fileAlias terminator l = .ok d') : d'.Lacks name := by
  rcases bodyLine_cases hline with rfl | ⟨b, body, hcurrent, rfl | hclose⟩
  · exact h
  · exact h.withBlock hcurrent _ _
  · exact (h.withBlock hcurrent _ _).of_close hclose

end Lacks

/-- A fragment that is entered while lines are read has a header among them. -/
theorem Lacks.exists_behindHeader? {opened : Bool} {ls : List Text} {entry : Text × Text}
    (h : d.Lacks name) (hopened : d.comment.isSome = opened)
    (hlines : d.lines fileAlias terminator ls = .ok d') (hclose : d'.close fileAlias = .ok d'')
    (hentry : d''.fragments.get? name = some entry) :
    ∃ rest, behindHeader? name opened ls = some rest ∧
      entry.2 = Text.unlines ((bodyPieces terminator none rest).flatMap BodyPiece.read) := by
  induction opened, ls using behindHeader?.induct name generalizing d with
  | case1 opened =>
    obtain rfl := Except.ok.inj hlines
    rw [(h.close hclose).1] at hentry
    cases hentry
  | case2 l ls ih =>
    obtain ⟨lines, hcomment⟩ := Option.isSome_iff_exists.1 hopened
    cases hback : Text.dropBack? ['#', '*', '/'] l.trim with
    | none =>
      rw [lines_cons_of_ok (line_of_inside hcomment hback)] at hlines
      exact ih (h.withComment (some _)) (by rw [hback]; rfl) hlines
    | some last =>
      rw [lines_cons_of_ok (line_of_closing hcomment hback)] at hlines
      exact ih ((h.withComment none).describe _) (by rw [comment_describe, hback]; rfl) hlines
  | case3 l ls rest hfront ih =>
    have hcomment : d.comment = none := by simpa using hopened
    simp only [behindHeader?, hfront]
    cases hback : Text.dropBack? ['#', '*', '/'] rest with
    | none =>
      rw [lines_cons_of_ok (line_of_opening hcomment hfront hback)] at hlines
      rw [hback] at ih
      exact ih (h.withComment (some _)) (by rfl) hlines
    | some text =>
      rw [lines_cons_of_ok (line_of_description hcomment hfront hback)] at hlines
      rw [hback] at ih
      exact ih (h.describe _) (by rw [comment_describe, hcomment]; rfl) hlines
  | case4 l ls hfront hheader =>
    have hcomment : d.comment = none := by simpa using hopened
    obtain ⟨d₁, hline, hrest⟩ := exists_of_bind_eq_ok hlines
    rw [line_of_header hcomment hfront hheader] at hline
    have hnone : d₁.comment.isSome = (none : Option (List Text)).isSome := by
      rw [comment_start hline, hcomment]
    obtain ⟨description, hget⟩ := (writes_of_start hline).get?_of_lines hnone hrest hclose
    obtain rfl := Option.some.inj (hentry.symm.trans hget)
    exact ⟨ls, by simp only [behindHeader?, hfront, if_pos hheader], rfl⟩
  | case5 l ls hfront hheader ih =>
    have hcomment : d.comment = none := by simpa using hopened
    obtain ⟨d₁, hline, hrest⟩ := exists_of_bind_eq_ok hlines
    simp only [behindHeader?, hfront, if_neg hheader]
    cases hheader' : header? l.trim with
    | none =>
      rw [line_of_body hcomment hfront hheader'] at hline
      exact ih (h.bodyLine hline) (by rw [comment_bodyLine hline, hcomment]; rfl) hrest
    | some block =>
      obtain ⟨kind, name'⟩ := block
      rw [line_of_header hcomment hfront hheader'] at hline
      have hne : kind = .fragment → name' ≠ name := by
        rintro rfl rfl
        exact hheader hheader'
      exact ih (h.start hne hline) (by rw [comment_start hline, hcomment]; rfl) hrest

/-! Lines with their carriage returns. -/

/-- A blank at its end makes no difference to a line. -/
theorem line_concat {c : Char} (hc : Unicode.isBlank c) (l : Text) :
    d.line fileAlias terminator (l ++ [c]) = d.line fileAlias terminator l := by
  have hblank : Text.isBlank (l ++ [c]) = l.isBlank := by simp [Text.isBlank, hc]
  simp only [line, bodyLine, Text.trim_concat hc, Text.trimEnd_concat hc, hblank]

theorem lines_of_returns {ls rs : List Text}
    (h : List.Forall₂ (fun l r => r = l ∨ r = l ++ ['\r']) ls rs) :
    d.lines fileAlias terminator rs = d.lines fileAlias terminator ls := by
  induction h generalizing d with
  | nil => rfl
  | @cons l r ls rs hr _ ih =>
    have hline : d.line fileAlias terminator r = d.line fileAlias terminator l := by
      rcases hr with rfl | rfl
      · rfl
      · exact line_concat (by decide) l
    rw [lines, lines, hline]
    exact bind_congr fun d₁ => ih

/-- An empty line can only add to a description. -/
theorem exists_line_nil (fileAlias terminator : Text) (d : Draft) :
    ∃ comment, d.line fileAlias terminator [] = .ok { d with comment } := by
  cases hcomment : d.comment with
  | none =>
    refine ⟨none, ?_⟩
    rw [line_of_skipped hcomment rfl rfl rfl, ← hcomment]
  | some lines => exact ⟨_, line_of_inside hcomment rfl⟩

theorem close_withComment (fileAlias : Text) (d : Draft) (comment : Option (List Text)) :
    close fileAlias { d with comment } =
      (d.close fileAlias).map fun d' => { d' with comment } := by
  cases hcurrent : d.current with
  | none => simp [close, hcurrent, Except.map]
  | some b =>
    cases hkind : b.kind with
    | fragment =>
      simp only [close, hcurrent, hkind]
      split <;> rfl
    | part =>
      simp only [close, hcurrent, hkind]
      split <;> rfl

/-- Lines can be read up to their newlines, and an empty one behind the last newline. -/
theorem exists_lines_splitAt {text : Text}
    (hlines : d.lines fileAlias terminator text.lines = .ok d')
    (hclose : d'.close fileAlias = .ok d'') :
    ∃ d₁ comment, d.lines fileAlias terminator (Text.splitAt '\n' text) = .ok d₁ ∧
      d₁.close fileAlias = .ok { d'' with comment } := by
  obtain ⟨rs, hrs, hsplit⟩ := Text.exists_splitAt text
  rw [← lines_of_returns hrs] at hlines
  rcases hsplit with hsplit | hsplit
  · exact ⟨d', d''.comment, hsplit ▸ hlines, hclose⟩
  · obtain ⟨comment, hnil⟩ := exists_line_nil fileAlias terminator d'
    refine ⟨{ d' with comment }, comment, ?_, ?_⟩
    · rw [hsplit, lines_append_of_ok hlines, lines_cons_of_ok hnil]
      rfl
    · rw [close_withComment, hclose]
      rfl

end Draft

/-! The body of a fragment. -/

variable {fileAlias terminator name text : Text} {file : SqlFile} {f : Fragment}

/-- The body of a fragment, from its header up to what ends it, with what is made of it. -/
def body? (terminator name text : Text) : Option (List BodyPiece) :=
  (behindHeader? name false (Text.splitAt '\n' text)).map (bodyPieces terminator none)

def writtenText (pieces : List BodyPiece) : Text := Text.unlines (pieces.flatMap BodyPiece.written)

def readText (pieces : List BodyPiece) : Text := Text.unlines (pieces.flatMap BodyPiece.read)

theorem behindHeader?_suffix {opened : Bool} {ls rest : List Text}
    (h : behindHeader? name opened ls = some rest) : rest <:+ ls := by
  induction opened, ls using behindHeader?.induct name with
  | case1 opened => cases opened <;> cases h
  | case2 l ls ih =>
    rw [behindHeader?] at h
    exact (ih h).trans (List.suffix_cons l ls)
  | case3 l ls rest hfront ih =>
    simp only [behindHeader?, hfront] at h
    exact (ih h).trans (List.suffix_cons l ls)
  | case4 l ls hfront hheader =>
    simp only [behindHeader?, hfront, if_pos hheader] at h
    obtain rfl := Option.some.inj h
    exact List.suffix_cons l ls
  | case5 l ls hfront hheader ih =>
    simp only [behindHeader?, hfront, if_neg hheader] at h
    exact (ih h).trans (List.suffix_cons l ls)

theorem proper_of_mem_body? {pieces : List BodyPiece}
    (h : body? terminator name text = some pieces) : ∀ piece ∈ pieces, piece.Proper := by
  obtain ⟨rest, hrest, rfl⟩ := Option.map_eq_some_iff.1 h
  exact proper_of_mem_bodyPieces fun l hl =>
    Text.notMem_of_mem_splitAt ((behindHeader?_suffix hrest).subset hl)

/-- Fragments are made of what is read of their bodies. -/
theorem exists_body? (h : ofText fileAlias text terminator = .ok file)
    (hf : file.fragments.get? name = some f) :
    ∃ pieces, body? terminator name text = some pieces ∧
      f.source = inlineParts file.parts (readText pieces) := by
  obtain ⟨d, d', description, body, hlines, hclose, hentry, hfragment, hparts⟩ :=
    exists_of_get?_ofText h hf
  obtain ⟨d₁, comment, hlines, hclose⟩ := Draft.exists_lines_splitAt hlines hclose
  obtain ⟨rest, hbehind, hbody⟩ : ∃ rest, behindHeader? name false _ = some rest ∧ _ :=
    (Draft.lacks_empty name).exists_behindHeader? rfl hlines hclose hentry
  refine ⟨bodyPieces terminator none rest, by rw [body?, hbehind]; rfl, ?_⟩
  rw [(fragment_eq_ok_iff.1 hfragment).2.2.1, hparts]
  exact congrArg _ hbody

theorem inlineParts_of_none {parts : Dict Text} {sql : Text}
    (h : ∀ p ∈ Placeholder.placeholders sql, partFor parts p = none) :
    inlineParts parts sql = sql := by
  rw [inlineParts, Placeholder.rounds, Placeholder.settle,
    if_pos (Placeholder.overPlain_fill_of_none h)]

/-- The closed quoted runs of a fragment without parts are those of its body in the file, in their
order, if reading the body takes nothing from a quoted run. -/
theorem closedRuns_source_of_spared (h : ofText fileAlias text terminator = .ok file)
    (hf : file.fragments.get? name = some f) :
    ∃ pieces, body? terminator name text = some pieces ∧
      ((∀ p ∈ Placeholder.placeholders (readText pieces), partFor file.parts p = none) →
        Spared .code pieces →
        Segment.closedRuns f.source = Segment.closedRuns (writtenText pieces)) := by
  obtain ⟨pieces, hpieces, hsource⟩ := exists_body? h hf
  refine ⟨pieces, hpieces, fun hparts hspared => ?_⟩
  rw [hsource, inlineParts_of_none hparts, readText, writtenText, closedRuns_unlines,
    closedRuns_unlines, hspared.read_eq .code (proper_of_mem_body? hpieces)]

/-- A literal goes on through the end of a line, and an apostrophe stands in a comment. -/
theorem closedRuns_source_of_spared_lines :
    let text := "/*[a]*/\nselect 'x\n  y' -- it's\n-- don't\n\nfrom t  \r\n;\n".toList
    ∃ file f, ofText "q".toList text [';'] = .ok file ∧ file.fragments.get? "a".toList = some f ∧
      Segment.closedRuns f.source = ["'x\n  y'".toList] := by
  intro text
  have hread : ((ofText "q".toList text [';']).toOption.bind fun file =>
      file.fragments.get? "a".toList).isSome = true := by decide +kernel
  obtain ⟨f, hf⟩ := Option.isSome_iff_exists.1 hread
  obtain ⟨file, hfile, hf⟩ := Option.bind_eq_some_iff.1 hf
  have hfile := eq_ok_of_toOption hfile
  obtain ⟨pieces, hpieces, hruns⟩ := closedRuns_source_of_spared hfile hf
  have hbody : body? [';'] "a".toList text =
      some [.kept "select 'x".toList, .kept "  y' -- it's".toList, .comment "-- don't".toList,
        .blank [], .kept "from t  \r".toList, .blank []] := by decide +kernel
  have heq := Option.some.inj (hpieces.symm.trans hbody)
  have hnone : Placeholder.placeholders (readText pieces) = [] := by
    rw [heq]
    decide +kernel
  have hspared : Spared .code pieces := by
    rw [heq]
    decide +kernel
  have hwritten : Segment.closedRuns (writtenText pieces) = ["'x\n  y'".toList] := by
    rw [heq]
    decide +kernel
  exact ⟨file, f, hfile, hf, (hruns (by simp [hnone]) hspared).trans hwritten⟩

/-- A blank line inside of a literal is left out, and with it a line of the literal. -/
theorem not_forall_closedRuns_sublist :
    ¬∀ (fileAlias text terminator name : Text) (file : SqlFile) (f : Fragment)
        (pieces : List BodyPiece),
      ofText fileAlias text terminator = .ok file → file.fragments.get? name = some f →
      body? terminator name text = some pieces →
      (∀ p ∈ Placeholder.placeholders (writtenText pieces), partFor file.parts p = none) →
      (Segment.closedRuns (writtenText pieces)).Sublist
        (Segment.inertTexts (segments f.source)) := by
  intro h
  have hread : ((ofText "u".toList "/*[a]*/\nselect 'x\n\ny';".toList [';']).toOption.bind
      fun file => file.fragments.get? "a".toList).isSome = true := by decide +kernel
  obtain ⟨f, hf⟩ := Option.isSome_iff_exists.1 hread
  obtain ⟨file, hfile, hf⟩ := Option.bind_eq_some_iff.1 hf
  have hfile := eq_ok_of_toOption hfile
  obtain ⟨pieces, hpieces, hsource⟩ := exists_body? hfile hf
  have hbody : body? [';'] "a".toList "/*[a]*/\nselect 'x\n\ny';".toList =
      some [.kept "select 'x".toList, .blank [], .kept "y'".toList] := by decide +kernel
  have heq := Option.some.inj (hpieces.symm.trans hbody)
  have hwritten : Placeholder.placeholders (writtenText pieces) = [] := by
    rw [heq]
    decide +kernel
  have hread : Placeholder.placeholders (readText pieces) = [] := by
    rw [heq]
    decide +kernel
  have hsublist := h _ _ _ _ file f pieces hfile hf hpieces (by simp [hwritten])
  rw [hsource, inlineParts_of_none (by simp [hread]), heq] at hsublist
  exact absurd hsublist (by decide +kernel)

end SqlTemplate.SqlFile
