import Mathlib
import SqlTemplate.Proofs.QuotedRuns
import SqlTemplate.SqlFile

/-!
What becomes of the text of a fragment.  The reader of files leaves out blank lines, comments and
descriptions and trims the other lines at their ends, without regard to what the lines are in.  The
closed quoted runs of the text come out as they were written wherever that takes nothing from them.
-/
namespace SqlTemplate

namespace Text

/-- Lines, each with its ending. -/
def ended (ls : List Text) : Text := ls.flatMap (· ++ ['\n'])

theorem ended_append (ls ms : List Text) : ended (ls ++ ms) = ended ls ++ ended ms :=
  List.flatMap_append

theorem ended_singleton (l : Text) : ended [l] = l ++ ['\n'] := List.flatMap_singleton ..

theorem ended_eq_unlines {ls : List Text} (h : ls ≠ []) : ended ls = unlines ls ++ ['\n'] := by
  induction ls with
  | nil => exact absurd rfl h
  | cons l ls ih =>
    cases ls with
    | nil => simp [ended, unlines]
    | cons m ls =>
      have hrest := ih (List.cons_ne_nil m ls)
      rw [ended, List.flatMap_cons, ← ended, hrest]
      simp [unlines]

variable {c : Char}

theorem trimEnd_concat (h : Unicode.isBlank c) (t : Text) : trimEnd (t ++ [c]) = trimEnd t := by
  simp [trimEnd, h]

theorem trim_concat (h : Unicode.isBlank c) (t : Text) : trim (t ++ [c]) = trim t := by
  have hskip : skipBlanks (t ++ [c]) = skipBlanks t ++ [c] ∨
      skipBlanks (t ++ [c]) = [] ∧ skipBlanks t = [] := by
    simp only [skipBlanks, List.dropWhile_append]
    split
    · rename_i hnil
      exact .inr ⟨by simp [h], by simpa using hnil⟩
    · exact .inl rfl
  rcases hskip with hskip | ⟨hnil, hnil'⟩
  · rw [trim, hskip, trimEnd_concat h, trim]
  · rw [trim, trim, hnil, hnil']

theorem notMem_of_mem_splitAt {t l : Text} (h : l ∈ splitAt c t) : c ∉ l := by
  induction t generalizing l with
  | nil =>
    obtain rfl := List.mem_singleton.1 h
    exact List.not_mem_nil
  | cons d t ih =>
    rw [splitAt] at h
    split at h
    · rcases List.mem_cons.1 h with rfl | h
      · exact List.not_mem_nil
      · exact ih h
    · rename_i hd
      split at h
      · obtain rfl := List.mem_singleton.1 h
        exact mt List.mem_singleton.1 (Ne.symm hd)
      · rename_i l' ls hsplit
        rw [hsplit] at ih
        rcases List.mem_cons.1 h with rfl | h
        · exact mt List.mem_cons.1 (not_or.2 ⟨Ne.symm hd, ih List.mem_cons_self⟩)
        · exact ih (List.mem_cons_of_mem _ h)

/-- The lines of a text are what stands between its newlines, without the carriage returns at the
ends; there may be one more that is empty. -/
theorem exists_splitAt (t : Text) :
    ∃ rs, List.Forall₂ (fun l r => r = l ∨ r = l ++ ['\r']) t.lines rs ∧
      (splitAt '\n' t = rs ∨ splitAt '\n' t = rs ++ [[]]) := by
  induction t using lines.induct with
  | case1 => exact ⟨[], .nil, .inr rfl⟩
  | case2 cs ih =>
    obtain ⟨rs, hrs, hsplit⟩ := ih
    refine ⟨['\r'] :: rs, by rw [lines]; exact .cons (.inr rfl) hrs, ?_⟩
    have hhead : splitAt '\n' ('\r' :: '\n' :: cs) = ['\r'] :: splitAt '\n' cs := by
      simp [splitAt]
    rw [hhead]
    exact hsplit.imp (congrArg _) (congrArg _)
  | case3 cs hcs ih =>
    obtain ⟨rs, hrs, hsplit⟩ := ih
    refine ⟨[] :: rs, ?_, ?_⟩
    · rw [lines, if_pos rfl]
      · exact .cons (.inl rfl) hrs
      · exact hcs
    · rw [splitAt, if_pos rfl]
      exact hsplit.imp (congrArg _) (congrArg _)
  | case4 c cs hcs hc hls ih =>
    obtain rfl := lines_eq_nil.1 hls
    refine ⟨[[c]], ?_, .inl (by simp [splitAt, hc])⟩
    rw [lines, if_neg hc, hls]
    · exact .cons (.inl rfl) .nil
    · exact hcs
  | case5 c cs hcs hc l ls hls ih =>
    obtain ⟨rs, hrs, hsplit⟩ := ih
    rw [hls] at hrs
    cases hrs with
    | @cons _ r _ rs hr hrs =>
      refine ⟨(c :: r) :: rs, ?_, ?_⟩
      · rw [lines, if_neg hc, hls]
        · exact .cons (hr.imp (congrArg _) (congrArg _)) hrs
        · exact hcs
      · rcases hsplit with hsplit | hsplit
        · rw [splitAt, if_neg hc, hsplit]
          exact .inl rfl
        · rw [splitAt, if_neg hc, hsplit]
          exact .inr rfl

end Text

namespace Place

open Text (ended)

/-- Whether a reader is in a quoted run. -/
def isQuoted : Place → Bool
  | quoted _ _ => true
  | _ => false

/-- Whether reading the lines from a place on shows nothing and leads back to it. -/
def Idle (p : Place) (ls : List Text) : Prop := p.read (ended ls) = ([], p)

instance (p : Place) (ls : List Text) : Decidable (p.Idle ls) := inferInstanceAs (Decidable (_ = _))

/-- The places where a line can start. -/
inductive Settled : Place → Prop
  | code : Settled .code
  | quoted (m : QuoteMark) (run : Text) : Settled (.quoted m run)
  | block (d : Nat) : Settled (.block d)

theorem settled_read (p : Place) (t : Text) : (p.read (t ++ ['\n'])).2.Settled := by
  rw [read_append]
  cases (p.read t).2 with
  | code => exact .code
  | dash => exact .code
  | slash => exact .code
  | quoted m run => cases m <;> exact .quoted _ _
  | closing m run => cases m <;> exact .code
  | comment => exact .code
  | block d => exact .block d
  | blockSlash d => exact .block d
  | blockStar d => exact .block d

theorem isIdle_of_isBlank {c : Char} (h : Unicode.isBlank c) : IsIdle c := by
  simp only [IsIdle, List.mem_cons, List.not_mem_nil, or_false, not_or]
  refine ⟨?_, ?_, ?_, ?_⟩ <;> rintro rfl <;> exact absurd h (by decide)

/-- Blanks lead from a place outside of quoted runs to another one that ends a line likewise. -/
theorem step_blank {p : Place} {c : Char} (hp : p.isQuoted = false) (h : Unicode.isBlank c)
    (hc : c ≠ '\n') :
    (p.step c).2.isQuoted = false ∧
      (p.step c).1 ++ ((p.step c).2.read ['\n']).1 = (p.read ['\n']).1 ∧
      ((p.step c).2.read ['\n']).2 = (p.read ['\n']).2 := by
  have hidle := isIdle_of_isBlank h
  have henter := enter_of_isIdle hidle
  simp only [IsIdle, List.mem_cons, List.not_mem_nil, or_false, not_or] at hidle
  have hstar : c ≠ '*' := by
    rintro rfl
    exact absurd h (by decide)
  cases p with
  | quoted m run => cases hp
  | closing m run => cases m <;> simp [step, read, isQuoted, QuoteMark.char, hidle, henter]
  | _ => simp [step, read, isQuoted, hidle, henter, hstar, hc]

theorem read_blanks {p : Place} (hp : p.isQuoted = false) {bs : Text}
    (hbs : ∀ c ∈ bs, Unicode.isBlank c) (hn : '\n' ∉ bs) :
    p.read (bs ++ ['\n']) = p.read ['\n'] := by
  induction bs generalizing p with
  | nil => rfl
  | cons c bs ih =>
    obtain ⟨hc, hbs⟩ := List.forall_mem_cons.1 hbs
    obtain ⟨hcn, hn⟩ := not_or.1 (mt List.mem_cons.2 hn)
    obtain ⟨hq, hruns, hplace⟩ := step_blank hp hc (Ne.symm hcn)
    rw [List.cons_append, read, ih hq hbs hn, hruns, hplace]

/-- Blanks at the end of a line make no difference outside of quoted runs. -/
theorem read_trimEnd {p : Place} {l : Text} (hn : '\n' ∉ l)
    (h : l.trimEnd = l ∨ (p.read l.trimEnd).2.isQuoted = false) :
    p.read (l.trimEnd ++ ['\n']) = p.read (l ++ ['\n']) := by
  rcases h with heq | hq
  · rw [heq]
  · obtain ⟨bs, hbs, hl⟩ := Text.exists_trimEnd l
    have hnbs : '\n' ∉ bs := fun hc => hn (hl ▸ List.mem_append_right _ hc)
    conv => rhs; rw [hl, List.append_assoc, read_append, read_blanks hq hbs hnbs]
    rw [read_append]

theorem idle_blank {p : Place} {l : Text} (hsettled : p.Settled) (hp : p.isQuoted = false)
    (hn : '\n' ∉ l) (hl : l.isBlank) : p.Idle [l] := by
  rw [Idle, Text.ended_singleton, read_blanks hp (List.all_eq_true.1 hl) hn]
  cases hsettled with
  | code => rfl
  | quoted m run => cases hp
  | block d => rfl

theorem idle_comment {l : Text} (hn : '\n' ∉ l) (hl : Text.startsWith ['-', '-'] l.trim) :
    code.Idle [l] := by
  obtain ⟨a, ha, hskip⟩ := Text.exists_skipBlanks l
  obtain ⟨bs, -, htrim⟩ := Text.exists_trimEnd (Text.skipBlanks l)
  obtain ⟨rest, hrest⟩ := Option.isSome_iff_exists.1 hl
  have hdashes : l.trim = '-' :: '-' :: rest := Text.eq_append_of_dropFront? hrest
  rw [← Text.trim, hdashes] at htrim
  have hcomment : '\n' ∉ rest ++ bs := fun hc => hn (by
    rw [hskip, htrim]
    exact List.mem_append_right _ (.tail _ (.tail _ hc)))
  have hread : code.read ('-' :: '-' :: (rest ++ bs) ++ ['\n']) = ([], code) := by
    change comment.read (rest ++ bs ++ ['\n']) = ([], code)
    rw [read_append, read_comment hcomment]
    rfl
  rw [Idle, Text.ended_singleton, hskip, htrim, List.append_assoc, read_append,
    read_code_of_isIdle fun c hc => isIdle_of_isBlank (ha c hc)]
  exact hread

end Place

/-- The closed runs of lines are those found up to the end of the last one. -/
theorem closedRuns_unlines (ls : List Text) :
    Segment.closedRuns (Text.unlines ls) = (Place.code.read (Text.ended ls)).1 := by
  rw [← Place.runs_code]
  by_cases hls : ls = []
  · subst hls
    rfl
  · rw [Place.runs_eq_read, Text.ended_eq_unlines hls]

namespace SqlFile

open Text (ended)

/-! The lines behind a header. -/

/-- What the reader of files makes of some lines of a body. -/
inductive BodyPiece where
  | kept (l : Text)
  | blank (l : Text)
  | comment (l : Text)
  | description (ls : List Text)
  deriving DecidableEq

namespace BodyPiece

def written : BodyPiece → List Text
  | kept l | blank l | comment l => [l]
  | description ls => ls

def read : BodyPiece → List Text
  | kept l => [l.trimEnd]
  | _ => []

/-- Whether a piece is what it is taken for. -/
def Proper : BodyPiece → Prop
  | kept l => '\n' ∉ l
  | blank l => '\n' ∉ l ∧ l.isBlank
  | comment l => '\n' ∉ l ∧ Text.startsWith ['-', '-'] l.trim
  | description _ => True

/-- Whether reading a piece takes nothing from a quoted run, if it starts at this place.  Blanks are
taken where no quoted run is open, comments from code, and descriptions if they are whole. -/
def Spared (p : Place) : BodyPiece → Prop
  | kept l => l.trimEnd = l ∨ (p.read l.trimEnd).2.isQuoted = false
  | blank _ => p.isQuoted = false
  | comment l => p = .code ∨ p.Idle [l]
  | description ls => p.Idle ls

instance (p : Place) (piece : BodyPiece) : Decidable (piece.Spared p) := by
  cases piece <;> unfold Spared <;> infer_instance

/-- What is read in the place of a piece leads where the piece leads, with the same closed runs. -/
theorem Spared.read_eq {p : Place} {piece : BodyPiece} (h : piece.Spared p) (hp : p.Settled)
    (hproper : piece.Proper) : p.read (ended piece.read) = p.read (ended piece.written) := by
  cases piece with
  | kept l =>
    rw [read, written, Text.ended_singleton, Text.ended_singleton]
    exact Place.read_trimEnd hproper h
  | blank l => exact (Place.idle_blank hp h hproper.1 hproper.2).symm
  | comment l =>
    rcases h with rfl | hidle
    · exact (Place.idle_comment hproper.1 hproper.2).symm
    · exact hidle.symm
  | description ls => exact Eq.symm h

theorem Spared.settled {p : Place} {piece : BodyPiece} (h : piece.Spared p) (hp : p.Settled) :
    (p.read (ended piece.written)).2.Settled := by
  have hline : ∀ l : Text, (p.read (ended [l])).2.Settled := fun l => by
    rw [Text.ended_singleton]
    exact Place.settled_read p l
  cases piece with
  | kept l => exact hline l
  | blank l => exact hline l
  | comment l => exact hline l
  | description ls =>
    have hidle : p.read (ended ls) = ([], p) := h
    rw [written, hidle]
    exact hp

end BodyPiece

/-- Whether reading takes nothing from a quoted run in any of the pieces. -/
def Spared : Place → List BodyPiece → Prop
  | _, [] => True
  | p, piece :: pieces => piece.Spared p ∧ Spared (p.read (ended piece.written)).2 pieces

instance decidableSpared : ∀ (p : Place) (pieces : List BodyPiece), Decidable (Spared p pieces)
  | _, [] => .isTrue trivial
  | _, _ :: pieces => @instDecidableAnd _ _ _ (decidableSpared _ pieces)

theorem Spared.read_eq {p : Place} {pieces : List BodyPiece} (h : Spared p pieces)
    (hp : p.Settled) (hproper : ∀ piece ∈ pieces, piece.Proper) :
    p.read (ended (pieces.flatMap BodyPiece.read)) =
      p.read (ended (pieces.flatMap BodyPiece.written)) := by
  induction pieces generalizing p with
  | nil => rfl
  | cons piece pieces ih =>
    obtain ⟨hpiece, hrest⟩ := h
    obtain ⟨hproper, hproperRest⟩ := List.forall_mem_cons.1 hproper
    rw [List.flatMap_cons, List.flatMap_cons, Text.ended_append, Text.ended_append,
      Place.read_append, Place.read_append, hpiece.read_eq hp hproper,
      ih hrest (hpiece.settled hp) hproperRest]

/-- The lines of a body as the reader of files takes them, up to the terminator, the next header or
the end of the file.  A description may be open, with some lines. -/
def bodyPieces (terminator : Text) : Option (List Text) → List Text → List BodyPiece
  | none, [] => []
  | some opened, [] => [.description opened]
  | some opened, l :: ls =>
    match Text.dropBack? ['#', '*', '/'] l.trim with
    | some _ => .description (opened ++ [l]) :: bodyPieces terminator none ls
    | none => bodyPieces terminator (some (opened ++ [l])) ls
  | none, l :: ls =>
    match Text.dropFront? ['/', '*', '#'] l.trim with
    | some rest =>
      match Text.dropBack? ['#', '*', '/'] rest with
      | some _ => .description [l] :: bodyPieces terminator none ls
      | none => bodyPieces terminator (some [l]) ls
    | none =>
      if (header? l.trim).isSome then []
      else if l.isBlank then .blank l :: bodyPieces terminator none ls
      else if Text.startsWith ['-', '-'] l.trim && (Directive.read? l.trim).isNone then
        .comment l :: bodyPieces terminator none ls
      else
        match Text.dropBack? terminator l.trimEnd with
        | none => .kept l :: bodyPieces terminator none ls
        | some last => [if last.isBlank then .blank last else .kept last]

theorem proper_of_mem_bodyPieces {terminator : Text} {opened : Option (List Text)}
    {ls : List Text} (h : ∀ l ∈ ls, '\n' ∉ l) :
    ∀ piece ∈ bodyPieces terminator opened ls, piece.Proper := by
  induction opened, ls using bodyPieces.induct terminator with
  | case1 => simp [bodyPieces]
  | case2 opened => simp [bodyPieces, BodyPiece.Proper]
  | case3 opened l ls _ hclose ih =>
    simp only [bodyPieces, hclose, List.forall_mem_cons, BodyPiece.Proper, true_and]
    exact ih (List.forall_mem_cons.1 h).2
  | case4 opened l ls hclose ih =>
    simp only [bodyPieces, hclose]
    exact ih (List.forall_mem_cons.1 h).2
  | case5 l ls rest hopen _ hclose ih =>
    simp only [bodyPieces, hopen, hclose, List.forall_mem_cons, BodyPiece.Proper, true_and]
    exact ih (List.forall_mem_cons.1 h).2
  | case6 l ls rest hopen hclose ih =>
    simp only [bodyPieces, hopen, hclose]
    exact ih (List.forall_mem_cons.1 h).2
  | case7 l ls hopen hheader => simp [bodyPieces, hopen, hheader]
  | case8 l ls hopen hheader hblank ih =>
    obtain ⟨hl, hls⟩ := List.forall_mem_cons.1 h
    simp only [bodyPieces, hopen, if_neg hheader, if_pos hblank, List.forall_mem_cons]
    exact ⟨⟨hl, hblank⟩, ih hls⟩
  | case9 l ls hopen hheader hblank hcomment ih =>
    obtain ⟨hl, hls⟩ := List.forall_mem_cons.1 h
    simp only [bodyPieces, hopen, if_neg hheader, if_neg hblank, if_pos hcomment,
      List.forall_mem_cons]
    exact ⟨⟨hl, (Bool.and_eq_true_iff.1 hcomment).1⟩, ih hls⟩
  | case10 l ls hopen hheader hblank hcomment hback ih =>
    obtain ⟨hl, hls⟩ := List.forall_mem_cons.1 h
    simp only [bodyPieces, hopen, if_neg hheader, if_neg hblank, if_neg hcomment, hback,
      List.forall_mem_cons]
    exact ⟨hl, ih hls⟩
  | case11 l ls hopen hheader hblank hcomment last hback =>
    have hlast : '\n' ∉ last := fun hc => h l List.mem_cons_self (Text.trimEnd_subset l (by
      rw [Text.eq_append_of_dropBack? hback]
      exact List.mem_append_left _ hc))
    simp only [bodyPieces, hopen, if_neg hheader, if_neg hblank, if_neg hcomment, hback,
      List.forall_mem_singleton]
    split
    · exact ⟨hlast, ‹_›⟩
    · exact hlast

end SqlFile

end SqlTemplate
