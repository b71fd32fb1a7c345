import Mathlib
import SqlTemplate.Proofs.Lexical
import SqlTemplate.Proofs.LineEnding

/-!
The closed quoted runs of a text, found by going through it once, character by character.  Where a
reader is behind a part of the text is all that the rest has to know of it, so that texts can be
read piece by piece; the runs found are those among the segments of the whole text.
-/
namespace SqlTemplate

inductive QuoteMark where
  | single
  | double
  deriving DecidableEq, Repr

def QuoteMark.char : QuoteMark → Char
  | single => '\x27'
  | double => '\x22'

/-- Where a reader is: in code, behind one character that may open a comment, in a quoted run,
behind a mark that closes one unless it is doubled, or in a comment and there behind one character
that may open or close a block. -/
inductive Place where
  | code
  | dash
  | slash
  | quoted (mark : QuoteMark) (run : Text)
  | closing (mark : QuoteMark) (run : Text)
  | comment
  | block (depth : Nat)
  | blockSlash (depth : Nat)
  | blockStar (depth : Nat)
  deriving DecidableEq

namespace Place

/-- Where a character of code leads. -/
def enter (c : Char) : Place :=
  if c = '\x27' then quoted .single [c]
  else if c = '\x22' then quoted .double [c]
  else if c = '-' then dash
  else if c = '/' then slash
  else code

/-- One character: the runs that it shows to be closed, at most one, and where it leads. -/
def step : Place → Char → List Text × Place
  | code, c => ([], enter c)
  | dash, c => ([], if c = '-' then comment else enter c)
  | slash, c => ([], if c = '*' then block 1 else enter c)
  | quoted m run, c => ([], if c = m.char then closing m (run ++ [c]) else quoted m (run ++ [c]))
  | closing m run, c => if c = m.char then ([], quoted m (run ++ [c])) else ([run], enter c)
  | comment, c => ([], if c = '\n' then code else comment)
  | block d, c =>
    ([], if c = '/' then blockSlash d else if c = '*' then blockStar d else block d)
  | blockSlash d, c =>
    ([], if c = '*' then block (d + 1) else if c = '/' then blockSlash d else block d)
  | blockStar d, c =>
    ([], if c = '/' then if d ≤ 1 then code else block (d - 1)
      else if c = '*' then blockStar d else block d)

/-- The closed runs in a text that is read from a place on, and where it ends. -/
def read : Place → Text → List Text × Place
  | p, [] => ([], p)
  | p, c :: cs => ((p.step c).1 ++ (read (p.step c).2 cs).1, (read (p.step c).2 cs).2)

/-- The run that the end of the text closes. -/
def finish : Place → List Text
  | closing _ run => [run]
  | _ => []

/-- The closed runs from a place on to the end of the text. -/
def runs (p : Place) (t : Text) : List Text := (p.read t).1 ++ (p.read t).2.finish

theorem read_append (p : Place) (a b : Text) :
    p.read (a ++ b) = ((p.read a).1 ++ ((p.read a).2.read b).1, ((p.read a).2.read b).2) := by
  induction a generalizing p with
  | nil => rfl
  | cons c a ih => rw [List.cons_append, read, ih, read, List.append_assoc]

theorem runs_append (p : Place) (a b : Text) :
    p.runs (a ++ b) = (p.read a).1 ++ (p.read a).2.runs b := by
  rw [runs, read_append, runs, List.append_assoc]

theorem runs_cons (p : Place) (c : Char) (t : Text) :
    p.runs (c :: t) = (p.step c).1 ++ (p.step c).2.runs t := by
  rw [runs, read, runs, List.append_assoc]

/-- The end of a text and the end of a line close the same runs. -/
theorem runs_eq_read (p : Place) (t : Text) : p.runs t = (p.read (t ++ ['\n'])).1 := by
  have hend : ∀ q : Place, q.finish = (q.read ['\n']).1 := by
    intro q
    cases q with
    | closing m run => cases m <;> rfl
    | _ => rfl
  rw [runs, read_append, hend]

/-! What a place makes of the text behind it. -/

theorem runs_dash {t : Text} (h : t.head? ≠ some '-') : dash.runs t = code.runs t := by
  cases t with
  | nil => rfl
  | cons c t =>
    have hc : c ≠ '-' := fun heq => h (congrArg some heq)
    have hstep : dash.step c = code.step c := by simp [step, hc]
    rw [runs_cons, hstep, ← runs_cons]

theorem runs_slash {t : Text} (h : t.head? ≠ some '*') : slash.runs t = code.runs t := by
  cases t with
  | nil => rfl
  | cons c t =>
    have hc : c ≠ '*' := fun heq => h (congrArg some heq)
    have hstep : slash.step c = code.step c := by simp [step, hc]
    rw [runs_cons, hstep, ← runs_cons]

theorem runs_closing {m : QuoteMark} {run t : Text} (h : t.head? ≠ some m.char) :
    (closing m run).runs t = run :: code.runs t := by
  cases t with
  | nil => rfl
  | cons c t =>
    have hc : c ≠ m.char := fun heq => h (congrArg some heq)
    have hstep : (closing m run).step c = ([run], (code.step c).2) := by simp [step, hc]
    rw [runs_cons, hstep, runs_cons]
    rfl

/-- Whether a character of code opens nothing, whatever follows it. -/
def IsIdle (c : Char) : Prop := c ∉ ['\x27', '\x22', '-', '/']

instance (c : Char) : Decidable (IsIdle c) := inferInstanceAs (Decidable (c ∉ _))

theorem enter_of_isIdle {c : Char} (h : IsIdle c) : enter c = code := by
  simp only [IsIdle, List.mem_cons, List.not_mem_nil, or_false, not_or] at h
  rw [enter, if_neg h.1, if_neg h.2.1, if_neg h.2.2.1, if_neg h.2.2.2]

theorem read_code_of_isIdle {t : Text} (h : ∀ c ∈ t, IsIdle c) : code.read t = ([], code) := by
  induction t with
  | nil => rfl
  | cons c t ih =>
    obtain ⟨hc, ht⟩ := List.forall_mem_cons.1 h
    rw [read, step, enter_of_isIdle hc, ih ht, List.nil_append]

/-- Where no region opens, the first character leads from code to code. -/
theorem runs_code_cons {c : Char} {t : Text} (h : Segment.region? (c :: t) = none) :
    code.runs (c :: t) = code.runs t := by
  rw [← Option.not_isSome_iff_eq_none, Segment.region?_isSome_iff] at h
  rw [runs_cons, step, List.nil_append, enter]
  split
  · rename_i hc
    exact absurd (.inl (.inl (congrArg some hc))) h
  · split
    · rename_i hc
      exact absurd (.inl (.inr (congrArg some hc))) h
    · split
      · rename_i hc
        refine runs_dash fun hhead => h (.inr (.inl ?_))
        obtain ⟨u, rfl⟩ := List.head?_eq_some_iff.1 hhead
        exact ⟨u, by rw [hc]; rfl⟩
      · split
        · rename_i hc
          refine runs_slash fun hhead => h (.inr (.inr (.inl ?_)))
          obtain ⟨u, rfl⟩ := List.head?_eq_some_iff.1 hhead
          exact ⟨u, by rw [hc]; rfl⟩
        · rfl

/-! Regions, each read from its second character on. -/

section

variable {m : QuoteMark}

/-- The content of a quoted run, in which marks are doubled, leaves the reader in the run. -/
theorem runs_quoted_double (run s rest : Text) :
    (quoted m run).runs (s.double m.char ++ rest) =
      (quoted m (run ++ s.double m.char)).runs rest := by
  induction s generalizing run with
  | nil => rw [Text.double, List.flatMap_nil, List.nil_append, List.append_nil]
  | cons c s ih =>
    have hdouble : Text.double m.char (c :: s) =
        (if c = m.char then [m.char, m.char] else [c]) ++ Text.double m.char s := rfl
    rw [hdouble]
    by_cases hc : c = m.char
    · rw [if_pos hc, List.append_assoc, List.cons_append, List.singleton_append, runs_cons, step,
        if_pos rfl, List.nil_append, runs_cons, step, if_pos rfl, List.nil_append, ih]
      simp
    · rw [if_neg hc, List.append_assoc, List.singleton_append, runs_cons, step, if_neg hc,
        List.nil_append, ih]
      simp

theorem runs_quoted_closed {rest : Text} (hrest : rest.head? ≠ some m.char) (run s : Text) :
    (quoted m run).runs (s.double m.char ++ m.char :: rest) =
      (run ++ (s.double m.char ++ [m.char])) :: code.runs rest := by
  rw [runs_quoted_double, runs_cons, step, if_pos rfl, List.nil_append, runs_closing hrest,
    List.append_assoc]

end

theorem read_comment {t : Text} (h : '\n' ∉ t) : comment.read t = ([], comment) := by
  induction t with
  | nil => rfl
  | cons c t ih =>
    obtain ⟨hc, ht⟩ := not_or.1 (mt List.mem_cons.2 h)
    rw [read, step, if_neg (Ne.symm hc), ih ht, List.nil_append]

theorem runs_comment {t rest : Text} (ht : '\n' ∉ t) (hrest : rest = [] ∨ rest.head? = some '\n') :
    comment.runs (t ++ rest) = code.runs rest := by
  rw [runs_append, read_comment ht]
  rcases hrest with rfl | hhead
  · rfl
  · obtain ⟨u, rfl⟩ := List.head?_eq_some_iff.1 hhead
    rfl

theorem runs_block (d : Nat) (t : Text) :
    (block d).runs t = code.runs (Segment.blockRun d t).2 := by
  induction d, t using Segment.blockRun.induct with
  | case1 d => rfl
  | case2 d c =>
    rw [runs_cons, step, Segment.blockRun]
    split
    · rfl
    · split <;> rfl
  | case3 d c e cs h run rest hr ih =>
    obtain ⟨rfl, rfl⟩ := h
    rw [Segment.blockRun_open, ← ih]
    rfl
  | case4 d c e cs hopen h hd =>
    obtain ⟨rfl, rfl⟩ := h
    rw [Segment.blockRun_last hd, runs_cons, runs_cons]
    simp [step, hd]
  | case5 d c e cs hopen h hd run rest hr ih =>
    obtain ⟨rfl, rfl⟩ := h
    rw [Segment.blockRun_close hd, ← ih, runs_cons, runs_cons]
    simp [step, hd]
  | case6 d c e cs hopen hclose run rest hr ih =>
    -- the first character is not the first half of a pair, so the second one is read as it would
    -- be without it
    rw [Segment.blockRun_cons hopen hclose, ← ih, runs_cons, runs_cons, runs_cons (block d)]
    by_cases hslash : c = '/'
    · have he : e ≠ '*' := fun he => hopen ⟨hslash, he⟩
      simp [step, hslash, he]
    · by_cases hstar : c = '*'
      · have he : e ≠ '/' := fun he => hclose ⟨hstar, he⟩
        simp [step, hstar, he]
      · simp [step, hslash, hstar]

end Place

namespace Segment

/-- Whether a text is a quoted run with the mark that closes it. -/
def IsClosed (t : Text) : Prop :=
  ∃ (m : QuoteMark) (s : Text), t = m.char :: (Text.double m.char s ++ [m.char])

/-- A run is closed if it ends where a line ends behind it. -/
theorem isClosed_cons_iff {m : QuoteMark} {t : Text} :
    IsClosed (m.char :: t) ↔ quotedRun m.char (t ++ ['\n']) = (t, ['\n']) := by
  have hnewline : ['\n'].head? ≠ some m.char := by cases m <;> decide
  constructor
  · rintro ⟨m', s, h⟩
    obtain ⟨hm, rfl⟩ := List.cons.inj h
    obtain rfl : m = m' := by cases m <;> cases m' <;> first | rfl | cases hm
    rw [List.append_assoc, List.singleton_append, quotedRun_double hnewline]
  · intro h
    rcases quotedRun_spec m.char (t ++ ['\n']) with ⟨s, hs⟩ | ⟨-, hrest⟩
    · rw [h] at hs
      exact ⟨m, s, congrArg (m.char :: ·) hs⟩
    · rw [h] at hrest
      cases hrest

theorem isClosed_iff {t : Text} :
    IsClosed t ↔ ∃ m ∈ [QuoteMark.single, .double], t.head? = some m.char ∧
      quotedRun m.char (t.tail ++ ['\n']) = (t.tail, ['\n']) := by
  constructor
  · intro h
    obtain ⟨m, s, rfl⟩ := id h
    exact ⟨m, by cases m <;> decide, rfl, isClosed_cons_iff.1 h⟩
  · rintro ⟨m, -, hhead, hrun⟩
    obtain ⟨u, rfl⟩ := List.head?_eq_some_iff.1 hhead
    exact isClosed_cons_iff.2 hrun

instance (t : Text) : Decidable (IsClosed t) := decidable_of_iff _ isClosed_iff.symm

/-- Only quoted runs are closed. -/
theorem not_isClosed {c : Char} (t : Text) (h : c ≠ '\x27' ∧ c ≠ '\x22') : ¬IsClosed (c :: t) := by
  rintro ⟨m, s, heq⟩
  cases m with
  | single => exact h.1 (List.cons.inj heq).1
  | double => exact h.2 (List.cons.inj heq).1

/-- A quoted run whose marks are all doubled is not closed. -/
theorem not_isClosed_double (m : QuoteMark) (s : Text) :
    ¬IsClosed (m.char :: Text.double m.char s) := by
  rw [isClosed_cons_iff]
  have hnewline : Text.double m.char s ++ ['\n'] = Text.double m.char (s ++ ['\n']) := by
    cases m <;> simp [Text.double, QuoteMark.char]
  rw [hnewline, quotedRun_double_end]
  exact fun h => absurd (congrArg Prod.snd h) (by simp)

/-- The closed string literals and quoted identifiers of a text. -/
def closedRuns (t : Text) : List Text := (inertTexts (segments t)).filter fun run => IsClosed run

theorem closedRuns_region {t run rest : Text} (h : region? t = some (run, rest)) :
    closedRuns t = (if IsClosed run then [run] else []) ++ closedRuns rest := by
  rw [closedRuns, segments_of_region? h, inertTexts_inert, List.filter_cons]
  by_cases hclosed : IsClosed run <;> simp [hclosed, closedRuns]

theorem closedRuns_cons {c : Char} {t : Text} (h : region? (c :: t) = none) :
    closedRuns (c :: t) = closedRuns t := by
  rw [closedRuns, segments_cons h, inertTexts_consPlain, closedRuns]

end Segment

open Segment

/-- A region shows the run that it is, if that is closed, and leads back to code. -/
theorem Place.runs_region {t run rest : Text} (h : region? t = some (run, rest)) :
    code.runs t = (if IsClosed run then [run] else []) ++ code.runs rest := by
  rw [← (region?_append h).1]
  cases complete_of_region? h with
  | @quoted mark hm s _ hrest =>
    obtain ⟨m, rfl⟩ : ∃ m : QuoteMark, m.char = mark := by
      rcases hm with rfl | rfl
      · exact ⟨.single, rfl⟩
      · exact ⟨.double, rfl⟩
    have hclosed : IsClosed (m.char :: (Text.double m.char s ++ [m.char])) := ⟨m, s, rfl⟩
    have hstep : code.step m.char = ([], quoted m [m.char]) := by cases m <;> rfl
    rw [if_pos hclosed, List.cons_append, runs_cons, hstep, List.append_assoc,
      List.singleton_append, List.nil_append, runs_quoted_closed hrest, List.singleton_append,
      List.singleton_append]
  | @openQuoted mark hm s =>
    obtain ⟨m, rfl⟩ : ∃ m : QuoteMark, m.char = mark := by
      rcases hm with rfl | rfl
      · exact ⟨.single, rfl⟩
      · exact ⟨.double, rfl⟩
    have hstep : code.step m.char = ([], quoted m [m.char]) := by cases m <;> rfl
    rw [if_neg (not_isClosed_double m s), List.cons_append, runs_cons, hstep, List.nil_append,
      runs_quoted_double]
    rfl
  | @comment u rest hu hrest =>
    rw [if_neg (not_isClosed _ (by decide))]
    exact runs_comment hu hrest
  | @block u rest hin hend =>
    rw [if_neg (not_isClosed _ (by decide))]
    have hruns := runs_block 1 (u ++ rest)
    rw [blockRun_eq (by decide) hin (.inl hend)] at hruns
    exact hruns
  | @openBlock u hin hend =>
    rw [if_neg (not_isClosed _ (by decide))]
    have hruns := runs_block 1 (u ++ [])
    rw [blockRun_eq (by decide) hin (.inr ⟨hend, rfl⟩)] at hruns
    exact hruns
  | @cast c hc cs rest hcs hrest =>
    have hpart : ∀ d, Name.isPart d → IsIdle d := by
      intro d hd
      simp only [IsIdle, List.mem_cons, List.not_mem_nil, or_false, not_or]
      exact ⟨Name.ne_of_isPart hd rfl, Name.ne_of_isPart hd rfl, Name.ne_of_isPart hd rfl,
        Name.ne_of_isPart hd rfl⟩
    rw [if_neg (not_isClosed _ (by decide)), List.nil_append]
    have hidle : ∀ d ∈ ':' :: ':' :: c :: cs, IsIdle d := by
      simp only [List.forall_mem_cons]
      exact ⟨by decide, by decide, hpart c (Name.isPart_of_isStart hc),
        fun d hd => hpart d (hcs d hd)⟩
    rw [runs_append, read_code_of_isIdle hidle, List.nil_append]

/-- Reading a text once finds its closed runs. -/
theorem Place.runs_code (t : Text) : code.runs t = closedRuns t := by
  induction t using segments.induct with
  | case1 t run rest h _ ih => rw [runs_region h, closedRuns_region h, ih]
  | case2 =>
    rw [closedRuns, segments_nil]
    rfl
  | case3 c t h ih => rw [runs_code_cons h, closedRuns_cons h, ih]

end SqlTemplate
