import SqlTemplate.Proofs.Calm
import SqlTemplate.Proofs.OpenBlocks
import SqlTemplate.Proofs.Printing
import SqlTemplate.Proofs.Rewriting
import SqlTemplate.Settings

/-!
What accepted settings do.  A sigil that is accepted introduces parameters unless it is a quote, and
a terminator that is accepted ends a block at every line that a block takes as one of its own,
unless a blank stands at its end.
-/
namespace SqlTemplate

namespace Settings

variable {s : Settings}

theorem isSigil_of_validate (h : s.validate = .ok ()) : isSigil s.sigil := by
  rw [validate] at h
  split_ifs at h with hsigil
  simpa using hsigil

theorem isBlank_terminator (h : s.validate = .ok ()) : s.terminator.isBlank = false := by
  rw [validate] at h
  split_ifs at h with hsigil hblank
  simpa using hblank

end Settings

/-! ### Sigils -/

/-- Whether a character opens a quoted run. -/
def IsQuote (c : Char) : Prop := c = '\x27' ∨ c = '\x22'

instance (c : Char) : Decidable (IsQuote c) := inferInstanceAs (Decidable (_ ∨ _))

open Segment

section

variable {sigil : Char} {name : Text}

theorem read?_parameter (sigil : Char) (hname : Name.IsName name) :
    Placeholder.read? (sigil :: name) = none := by
  rw [Option.eq_none_iff_forall_ne_some]
  rintro ⟨p, rest⟩ h
  obtain ⟨w, hw, htext⟩ := Placeholder.exists_written h
  obtain ⟨t, rfl, -⟩ := hw.mem_tail
  obtain ⟨c, cs, rfl, hc⟩ := hname.head
  obtain ⟨-, htext⟩ := List.cons.inj htext
  exact Name.ne_of_isPart (Name.isPart_of_isStart hc) rfl (List.cons.inj htext).1

/-- A quoted run that is not closed takes all of a name. -/
theorem quotedRun_name {mark : Char} (hmark : IsQuote mark) (hname : Name.IsName name) :
    quotedRun mark name = (name, []) := by
  have hnot : mark ∉ name := by
    intro hmem
    rcases hname.mem hmem with hpart | rfl
    · rcases hmark with rfl | rfl <;> cases hpart
    · rcases hmark with h | h <;> cases h
  clear hname
  induction name with
  | nil => rfl
  | cons c name ih =>
    obtain ⟨hc, hrest⟩ := not_or.1 (mt List.mem_cons.2 hnot)
    rw [quotedRun_cons_of_ne (Ne.symm hc), ih hrest]

theorem splitPlain_assignment (hsigil : sigil ≠ ' ') (t : Text) :
    Parameter.splitPlain sigil none ('x' :: ' ' :: '=' :: ' ' :: t) =
      .text ['x'] :: .text [' '] :: .text ['='] :: .text [' '] ::
        Parameter.splitPlain sigil (some ' ') t := by
  have hread (c : Char) (hc : c ≠ '$') (u : Text) : Placeholder.read? (c :: u) = none :=
    Placeholder.read?_eq_none (by simpa using hc)
  rw [Parameter.splitPlain_char (hread _ (by decide) _) fun _ => rfl,
    Parameter.splitPlain_char (hread _ (by decide) _) fun _ => rfl,
    Parameter.splitPlain_char (hread _ (by decide) _) fun _ => rfl,
    Parameter.splitPlain_char (hread _ (by decide) _) fun h => absurd h.symm hsigil]

/-- What is read of a comparison with a parameter. -/
theorem split_assignment (hsigil : isSigil sigil) (hname : Name.IsName name) :
    Parameter.split sigil ("x = ".toList ++ sigil :: name) =
      [.text ['x'], .text [' '], .text ['='], .text [' '],
        if IsQuote sigil then .text (sigil :: name) else .parameter name] := by
  have hblank : sigil ≠ ' ' := by
    rintro rfl
    exact absurd hsigil (by decide)
  have htext : "x = ".toList ++ sigil :: name = 'x' :: ' ' :: '=' :: ' ' :: sigil :: name := rfl
  rw [Parameter.split_eq, htext]
  by_cases hquote : IsQuote sigil
  · have hregion : region? (sigil :: name) = some (sigil :: name, []) := by
      rw [region?_quoted hquote, quotedRun_name hquote hname]
    have hsegments : segments ('x' :: ' ' :: '=' :: ' ' :: sigil :: name) =
        [.plain "x = ".toList, .inert (sigil :: name)] := by
      rw [segments_cons rfl, segments_cons rfl, segments_cons rfl, segments_cons rfl,
        segments_of_region? hregion, segments_nil]
      rfl
    rw [hsegments, if_pos hquote]
    change Parameter.splitPlain sigil none ('x' :: ' ' :: '=' :: ' ' :: []) ++
      [.text (sigil :: name)] = _
    rw [splitPlain_assignment hblank, Parameter.splitPlain_nil]
    rfl
  · have hparameter : IsPlain (sigil :: name) := by
      simpa using isPlain_parameter (by simpa [IsQuote] using hquote) hname isPlain_nil
    have hplain : IsPlain ('x' :: ' ' :: '=' :: ' ' :: sigil :: name) :=
      isPlain_cons rfl <| isPlain_cons rfl <| isPlain_cons rfl <| isPlain_cons rfl hparameter
    have hread : Name.read? name = some (name, []) := by
      have hwhole : Name.read? (name ++ []) = some (name, []) := Name.read?_of_isName hname trivial
      rwa [List.append_nil] at hwhole
    have hlast : ¬some ' ' = some sigil := fun h => hblank (Option.some.inj h).symm
    rw [segments_of_isPlain hplain, if_neg hquote]
    change Parameter.splitPlain sigil none ('x' :: ' ' :: '=' :: ' ' :: sigil :: name) ++ [] = _
    rw [List.append_nil, splitPlain_assignment hblank,
      Parameter.splitPlain_name (read?_parameter sigil hname) hread, if_neg hlast,
      Parameter.splitPlain_nil]

/-- A sigil that is no quote introduces the parameter, and one that is a quote opens a literal. -/
theorem names_assignment (hsigil : isSigil sigil) (hname : Name.IsName name) :
    Parameter.names sigil ("x = ".toList ++ sigil :: name) =
      if IsQuote sigil then [] else [name] := by
  rw [Parameter.names, split_assignment hsigil hname]
  by_cases hquote : IsQuote sigil
  · rw [if_pos hquote, if_pos hquote]
    rfl
  · rw [if_neg hquote, if_neg hquote]
    rfl

end

/-! ### Terminators -/

namespace Text

/-- Blanks at an end are trimmed without regard to what stands in front. -/
theorem trimEnd_append {t : Text} (h : t.isBlank = false) (a : Text) :
    trimEnd (a ++ t) = a ++ trimEnd t := by
  have hsome : t.reverse.dropWhile Unicode.isBlank ≠ [] := by
    intro hnil
    have hall := List.dropWhile_eq_nil_iff.1 hnil
    rw [← Bool.not_eq_true, isBlank, List.all_eq_true] at h
    exact h fun c hc => hall c (List.mem_reverse.2 hc)
  have hempty : (t.reverse.dropWhile Unicode.isBlank).isEmpty = false := by simpa using hsome
  rw [trimEnd, List.reverse_append, List.dropWhile_append, hempty, if_neg Bool.false_ne_true,
    List.reverse_append, List.reverse_reverse, trimEnd]

theorem infix_of_dropBack? {back t rest : Text} (h : dropBack? back (trimEnd t) = some rest) :
    back <:+: t := by
  obtain ⟨bs, -, ht⟩ := exists_trimEnd t
  rw [eq_append_of_dropBack? h] at ht
  exact ⟨rest, bs, ht.symm⟩

/-- A trimmed line only ends with what has no blanks at its own end. -/
theorem trimEnd_of_dropBack? {back t rest : Text} (h : dropBack? back (trimEnd t) = some rest) :
    trimEnd back = back := by
  refine trimEnd_of_getLast? fun c hc => getLast?_trimEnd t c ?_
  rw [eq_append_of_dropBack? h, List.getLast?_append, hc]
  rfl

end Text

namespace SqlFile

/-- A line of a body that holds no terminator. -/
structure IsInner (terminator l : Text) : Prop where
  header : header? l.trim = none
  description : startsDescription l = false
  terminator : ¬terminator <:+: l

/-- Whether the terminator ends a body behind its last line. -/
structure Ends (terminator last : Text) : Prop where
  trimmed : terminator.trimEnd = terminator
  kept : skips (last ++ terminator) = false
  header : header? (last ++ terminator).trim = none
  description : startsDescription (last ++ terminator) = false

section

variable {terminator last : Text}

theorem dropBack?_last (h : terminator.isBlank = false) (htrimmed : terminator.trimEnd = terminator)
    (last : Text) : Text.dropBack? terminator (last ++ terminator).trimEnd = some last := by
  rw [Text.trimEnd_append h, htrimmed, Text.dropBack?_append]

theorem endsBlock_append (h : terminator.isBlank = false) (last : Text) :
    endsBlock terminator (last ++ terminator) ↔
      terminator.trimEnd = terminator ∧ skips (last ++ terminator) = false := by
  rw [endsBlock, Bool.and_eq_true, Bool.not_eq_true']
  constructor
  · rintro ⟨hkept, hback⟩
    obtain ⟨rest, hrest⟩ := Option.isSome_iff_exists.1 hback
    exact ⟨Text.trimEnd_of_dropBack? hrest, hkept⟩
  · rintro ⟨htrimmed, hkept⟩
    rw [dropBack?_last h htrimmed]
    exact ⟨hkept, rfl⟩

theorem not_endsBlock_of_isInner {l : Text} (h : IsInner terminator l) :
    endsBlock terminator l = false := by
  rw [← Bool.not_eq_true, endsBlock, Bool.and_eq_true]
  rintro ⟨-, hback⟩
  obtain ⟨rest, hrest⟩ := Option.isSome_iff_exists.1 hback
  exact h.terminator (Text.infix_of_dropBack? hrest)

theorem within_of_startsDescription {l : Text} (h : startsDescription l = false) :
    within false l = false := by
  have hnone : Text.dropFront? ['/', '*', '#'] l.trim = none := by
    simpa [startsDescription] using h
  rw [within, hnone]

theorem startsDescription_of_header {l : Text} (h : (header? l.trim).isSome) :
    startsDescription l = false := by
  rw [← Bool.not_eq_true, startsDescription]
  intro hsome
  obtain ⟨rest, hrest⟩ := Option.isSome_iff_exists.1 hsome
  rw [header?_of_description hrest] at h
  cases h

/-- A block stays open through the lines of its body. -/
theorem openAfter_inner {ls : List Text} (h : ∀ l ∈ ls, IsInner terminator l) :
    openAfter terminator false true ls = true ∧ ls.foldl within false = false := by
  induction ls with
  | nil => exact ⟨rfl, rfl⟩
  | cons l ls ih =>
    obtain ⟨hl, hls⟩ := List.forall_mem_cons.1 h
    have hopen : openBehind terminator false true l = true := by
      rw [openBehind, hl.description, hl.header, not_endsBlock_of_isInner hl]
      rfl
    rw [openAfter, List.foldl_cons, within_of_startsDescription hl.description, hopen]
    exact ih hls

variable {front body : List Text} {header : Text}

theorem openAfter_body (hfront : ¬EndsWithin front) (hheader : (header? header.trim).isSome)
    (hbody : ∀ l ∈ body, IsInner terminator l) :
    openAfter terminator false false (front ++ header :: body) = true ∧
      ¬EndsWithin (front ++ header :: body) := by
  have hstart := startsDescription_of_header hheader
  have hclosed : front.foldl within false = false := by simpa [EndsWithin] using hfront
  have hopen (isOpen : Bool) : openBehind terminator false isOpen header = true := by
    rw [openBehind, hstart, hheader]
    rfl
  obtain ⟨hinner, hwithin⟩ := openAfter_inner hbody
  constructor
  · rw [openAfter_append, hclosed, openAfter, within_of_startsDescription hstart, hopen, hinner]
  · rw [EndsWithin, List.foldl_append, hclosed, List.foldl_cons,
      within_of_startsDescription hstart, hwithin]
    exact Bool.false_ne_true

/-- Where the block is closed behind its last line. -/
theorem openAfter_last (h : terminator.isBlank = false) (hfront : ¬EndsWithin front)
    (hheader : (header? header.trim).isSome) (hbody : ∀ l ∈ body, IsInner terminator l) :
    openAfter terminator false false (front ++ header :: (body ++ [last ++ terminator])) = false ↔
      Ends terminator last := by
  obtain ⟨hopen, hwithin⟩ := openAfter_body hfront hheader hbody
  have hclosed : (front ++ header :: body).foldl within false = false := by
    simpa [EndsWithin] using hwithin
  have hsplit : front ++ header :: (body ++ [last ++ terminator]) =
      (front ++ header :: body) ++ [last ++ terminator] := by simp
  rw [hsplit, openAfter_append, hclosed, hopen, openAfter, openAfter, openBehind]
  by_cases hdescription : startsDescription (last ++ terminator)
  · rw [hdescription]
    exact iff_of_false (by simp) fun hends => by simp [hends.description] at hdescription
  · simp only [hdescription, Bool.or_self, Bool.false_eq_true, ↓reduceIte, Bool.true_and,
      Bool.or_eq_false_iff, Bool.not_eq_false']
    rw [endsBlock_append h]
    constructor
    · rintro ⟨hnone, htrimmed, hkept⟩
      exact ⟨htrimmed, hkept, by simpa using hnone, by simpa using hdescription⟩
    · intro hends
      exact ⟨by simp [hends.header], hends.trimmed, hends.kept⟩

theorem dropFront?_of_startsDescription {l : Text} (h : startsDescription l = false) :
    Text.dropFront? ['/', '*', '#'] l.trim = none := by
  simpa [startsDescription] using h

/-- What is read of a body up to its last line: of that line what stands in front of the
terminator, and the other lines without the ones that are left out. -/
theorem read_bodyPieces (h : terminator.isBlank = false) (hbody : ∀ l ∈ body, IsInner terminator l)
    (hends : Ends terminator last) (hlast : last.isBlank = false) (behind : List Text) :
    (bodyPieces terminator none (body ++ (last ++ terminator) :: behind)).flatMap BodyPiece.read =
      (body.filter (!skips ·)).map Text.trimEnd ++ [last.trimEnd] := by
  induction body with
  | nil =>
    have hkept := hends.kept
    rw [skips, Bool.or_eq_false_iff] at hkept
    simp [bodyPieces, dropFront?_of_startsDescription hends.description, hends.header, hkept,
      dropBack?_last h hends.trimmed, hlast, BodyPiece.read]
  | cons l body ih =>
    obtain ⟨hl, hbody⟩ := List.forall_mem_cons.1 hbody
    have hfront := dropFront?_of_startsDescription hl.description
    have hback : Text.dropBack? terminator l.trimEnd = none := by
      rw [Option.eq_none_iff_forall_ne_some]
      exact fun rest hrest => hl.terminator (Text.infix_of_dropBack? hrest)
    have hrest := ih hbody
    by_cases hblank : l.isBlank
    · have hskips : skips l := by simp [skips, hblank]
      simpa [bodyPieces, hfront, hl.header, hblank, hskips, BodyPiece.read] using hrest
    by_cases hcomment : Text.startsWith ['-', '-'] l.trim && (Directive.read? l.trim).isNone
    · have hskips : skips l := by rw [skips, hcomment, Bool.or_true]
      rw [List.cons_append, bodyPieces]
      simpa only [hfront, hl.header, Option.isSome_none, Bool.false_eq_true, ↓reduceIte, hblank,
        hcomment, hskips, List.flatMap_cons, BodyPiece.read, List.nil_append, List.filter_cons,
        Bool.not_true] using hrest
    · have hskips : skips l = false := by
        rw [skips, Bool.or_eq_false_iff]
        exact ⟨by simpa using hblank, Bool.eq_false_iff.2 hcomment⟩
      rw [List.cons_append, bodyPieces]
      simpa only [hfront, hl.header, Option.isSome_none, Bool.false_eq_true, ↓reduceIte, hblank,
        hcomment, hback, hskips, List.flatMap_cons, BodyPiece.read, List.filter_cons,
        Bool.not_false, List.map_cons, List.cons_append, List.nil_append, List.cons.injEq,
        true_and] using hrest

/-- A fragment that its terminator ends has its lines up to there. -/
theorem source_of_ends {fileAlias text name : Text} {file : SqlFile} {behind : List Text}
    (h : terminator.isBlank = false) (hread : ofText fileAlias text terminator = .ok file)
    (hlines : text.lines = front ++ header :: (body ++ (last ++ terminator) :: behind))
    (hfront : ¬EndsWithin front) (hheader : header? header.trim = some (.fragment, name))
    (hbody : ∀ l ∈ body, IsInner terminator l) (hends : Ends terminator last)
    (hlast : last.isBlank = false) :
    ∃ f, file.fragments.get? name = some f ∧
      f.source = inlineParts file.parts
        (Text.unlines ((body.filter (!skips ·)).map Text.trimEnd ++ [last.trimEnd])) := by
  obtain ⟨d, hall, hread⟩ := exists_of_bind_eq_ok hread
  obtain ⟨d', hclose, hread⟩ := exists_of_bind_eq_ok hread
  obtain ⟨fs, hmake, hfile⟩ := exists_of_bind_eq_ok hread
  obtain rfl := Except.ok.inj hfile
  rw [hlines, Draft.lines_append] at hall
  obtain ⟨d₀, hbefore, hall⟩ := exists_of_bind_eq_ok hall
  obtain ⟨d₁, hstart, hrest⟩ := exists_of_bind_eq_ok hall
  have hcomment : d₀.comment = none := by
    rw [← Option.not_isSome_iff_eq_none, Draft.isSome_comment_lines hbefore]
    exact hfront
  have hstarts := startsDescription_of_header (l := header) (by rw [hheader]; rfl)
  rw [Draft.line_of_header hcomment (dropFront?_of_startsDescription hstarts) hheader] at hstart
  have hnone : d₁.comment.isSome = (none : Option (List Text)).isSome := by
    rw [Draft.comment_start hstart, hcomment]
  obtain ⟨description, hentry⟩ := (Draft.writes_of_start hstart).get?_of_lines hnone hrest hclose
  rw [List.nil_append, read_bodyPieces h hbody hends hlast] at hentry
  obtain ⟨f, hf, hfragment⟩ := get?_of_makeFragments hmake (Dict.mem_of_get? hentry)
  exact ⟨f, hf, (fragment_eq_ok_iff.1 hfragment).2.2.1⟩

end

/-- A terminator can end a line of some text unless it has a blank at its end or a newline. -/
theorem exists_endsBlock_iff {terminator : Text} (h : terminator.isBlank = false) :
    (∃ text : Text, ∃ l ∈ text.lines, endsBlock terminator l) ↔
      terminator.trimEnd = terminator ∧ '\n' ∉ terminator := by
  constructor
  · rintro ⟨text, l, hl, hends⟩
    rw [endsBlock, Bool.and_eq_true] at hends
    obtain ⟨rest, hrest⟩ := Option.isSome_iff_exists.1 hends.2
    refine ⟨Text.trimEnd_of_dropBack? hrest, fun hmem => ?_⟩
    exact Text.newline_notMem_of_mem_lines hl ((Text.infix_of_dropBack? hrest).subset hmem)
  · rintro ⟨htrimmed, hnewline⟩
    have hlines : Text.lines (('x' :: terminator) ++ ['\n']) = ['x' :: terminator] := by
      have hread : Text.lines (['x' :: terminator].flatMap (· ++ ['\n'])) =
          ['x' :: terminator] := by
        refine Text.lines_flatMap (by simpa using hnewline) fun l hl hreturn => ?_
        -- no carriage return stands at the end, as it would be a blank there
        obtain rfl := List.mem_singleton.1 hl
        have hfront : ['x'] ++ terminator = 'x' :: terminator := rfl
        have hlast := Text.getLast?_trimEnd (['x'] ++ terminator) '\r'
          (by rw [Text.trimEnd_append h, htrimmed, hfront, hreturn])
        cases hlast
      rwa [List.flatMap_singleton] at hread
    have htrim : Text.trim ('x' :: terminator) = 'x' :: terminator.trimEnd := by
      have hskip : Text.skipBlanks ('x' :: terminator) = ['x'] ++ terminator :=
        Text.skipBlanks_of_head (by rintro c ⟨⟩; decide)
      rw [Text.trim, hskip, Text.trimEnd_append h, List.singleton_append]
    have hskips : skips (['x'] ++ terminator) = false := by
      rw [skips, List.singleton_append, htrim, Bool.or_eq_false_iff]
      exact ⟨rfl, rfl⟩
    refine ⟨_, 'x' :: terminator, by rw [hlines]; exact List.mem_singleton_self _, ?_⟩
    exact (endsBlock_append h ['x']).2 ⟨htrimmed, hskips⟩

end SqlFile

open SqlFile

/-- What settings that are accepted do.  The sigil introduces parameters unless it is a quote.  The
terminator can end lines unless there is a blank at its end or a newline in it.  Behind the last
line of a body it ends the block exactly if that line, with the terminator, is neither left out nor
read as a header or a description; the block has its lines up to there, and what stands between
it and the next header or description counts for nothing. -/
theorem Settings.works_of_validate {s : Settings} (h : s.validate = .ok ()) :
    (∀ name, Name.IsName name →
      Parameter.names s.sigil ("x = ".toList ++ s.sigil :: name) =
        if IsQuote s.sigil then [] else [name]) ∧
    ((∃ text : Text, ∃ l ∈ text.lines, endsBlock s.terminator l) ↔
      s.terminator.trimEnd = s.terminator ∧ '\n' ∉ s.terminator) ∧
    ∀ (fileAlias name header last : Text) (front body : List Text), ¬EndsWithin front →
      header? header.trim = some (.fragment, name) → (∀ l ∈ body, IsInner s.terminator l) →
      last.isBlank = false →
      (∀ d, Draft.lines fileAlias s.terminator .empty
          (front ++ header :: (body ++ [last ++ s.terminator])) = .ok d →
        (d.current = none ↔ Ends s.terminator last)) ∧
      (Ends s.terminator last → ∀ (text : Text) (file : SqlFile) (between behind : List Text),
        text.lines =
          front ++ header :: (body ++ (last ++ s.terminator) :: (between ++ behind)) →
        ofText fileAlias text s.terminator = .ok file → IsBetween between →
        (∃ f, file.fragments.get? name = some f ∧
          f.source = inlineParts file.parts
            (Text.unlines ((body.filter (!skips ·)).map Text.trimEnd ++ [last.trimEnd]))) ∧
        ofLines fileAlias (front ++ header :: (body ++ (last ++ s.terminator) :: behind))
          s.terminator = .ok file) := by
  have hterminator := isBlank_terminator h
  refine ⟨fun name => names_assignment (isSigil_of_validate h), exists_endsBlock_iff hterminator,
    ?_⟩
  intro fileAlias name header last front body hfront hheader hbody hlast
  have hsome : (header? header.trim).isSome := by rw [hheader]; rfl
  constructor
  · intro d hd
    rw [← openAfter_last hterminator hfront hsome hbody, ← Option.not_isSome_iff_eq_none,
      Draft.isSome_current_lines hd, Bool.not_eq_true]
    rfl
  · intro hends text file between behind hlines hread hbetween
    refine ⟨source_of_ends hterminator hread hlines hfront hheader hbody hends hlast, ?_⟩
    have hclosed := (openAfter_last hterminator hfront hsome hbody).2 hends
    have hwithin : ¬EndsWithin (front ++ header :: (body ++ [last ++ s.terminator])) := by
      obtain ⟨-, hinner⟩ := openAfter_body hfront hsome hbody
      have hsplit : front ++ header :: (body ++ [last ++ s.terminator]) =
          (front ++ header :: body) ++ [last ++ s.terminator] := by simp
      have hfalse : (front ++ header :: body).foldl within false = false := by
        simpa [EndsWithin] using hinner
      rw [hsplit, EndsWithin, List.foldl_append, hfalse, List.foldl_cons, List.foldl_nil,
        within_of_startsDescription hends.description]
      exact Bool.false_ne_true
    have hdrop : ofLines fileAlias _ _ = _ :=
      ofLines_of_isBetween hclosed hwithin hbetween behind
    rw [ofText_eq_ofLines, hlines] at hread
    simp only [List.append_assoc, List.cons_append, List.nil_append] at hdrop
    rw [← hdrop, hread]

/-- A body of two lines with a note behind it. -/
theorem Settings.works_of_validate_default :
    let text := "/*[a]*/\nselect 1\n\nfrom t;\nnote\n/*[b]*/\nselect 2;".toList
    Settings.default.validate = .ok () ∧
      ∃ file, ofText "u".toList text Settings.default.terminator = .ok file ∧
        ∃ f, file.fragments.get? "a".toList = some f ∧
          f.source = inlineParts file.parts "select 1\nfrom t".toList := by
  intro text
  have hvalid : Settings.default.validate = .ok () := by decide +kernel
  obtain ⟨file, hfile⟩ : ∃ file, ofText "u".toList text Settings.default.terminator = .ok file :=
    exists_of_isOk (by decide +kernel)
  have hbody : ∀ l ∈ ["select 1".toList, []], IsInner Settings.default.terminator l := by
    intro l hl
    rcases List.mem_cons.1 hl with rfl | hl
    · exact ⟨by decide +kernel, by decide +kernel, by decide +kernel⟩
    · obtain rfl := List.mem_singleton.1 hl
      exact ⟨by decide +kernel, by decide +kernel, by decide +kernel⟩
  have hends : Ends Settings.default.terminator "from t".toList :=
    ⟨by decide +kernel, by decide +kernel, by decide +kernel, by decide +kernel⟩
  have hwork := (Settings.works_of_validate hvalid).2.2 "u".toList "a".toList "/*[a]*/".toList
    "from t".toList [] ["select 1".toList, []] (by decide +kernel) (by decide +kernel) hbody
    (by decide +kernel)
  obtain ⟨⟨f, hf, hsource⟩, -⟩ := hwork.2 hends text file ["note".toList]
    ["/*[b]*/".toList, "select 2;".toList] (by decide +kernel) hfile (by decide +kernel)
  exact ⟨hvalid, file, hfile, f, hf, hsource.trans (congrArg _ (by decide +kernel))⟩

/-- With the default settings, a terminator behind the end of a condition is taken for a comment,
and the fragment goes on. -/
theorem Settings.not_forall_current_eq_none :
    ¬∀ (s : Settings) (fileAlias name header last : Text) (front body : List Text) (d : Draft),
      s.validate = .ok () → ¬EndsWithin front → header? header.trim = some (.fragment, name) →
      (∀ l ∈ body, IsInner s.terminator l) → last.isBlank = false →
      Draft.lines fileAlias s.terminator .empty
        (front ++ header :: (body ++ [last ++ s.terminator])) = .ok d →
      d.current = none := by
  intro h
  have hbody : ∀ l ∈ ["--#if :x = 1".toList, "select 1".toList],
      IsInner Settings.default.terminator l := by
    intro l hl
    rcases List.mem_cons.1 hl with rfl | hl
    · exact ⟨by decide +kernel, by decide +kernel, by decide +kernel⟩
    · obtain rfl := List.mem_singleton.1 hl
      exact ⟨by decide +kernel, by decide +kernel, by decide +kernel⟩
  have hread : ((Draft.lines "u".toList Settings.default.terminator .empty
      ([] ++ "/*[a]*/".toList :: (["--#if :x = 1".toList, "select 1".toList] ++
        ["--#fi".toList ++ Settings.default.terminator]))).toOption.map (·.current.isSome)) =
      some true := by decide +kernel
  obtain ⟨d, hd, hopen⟩ := Option.map_eq_some_iff.1 hread
  have hnone := h Settings.default "u".toList "a".toList "/*[a]*/".toList "--#fi".toList []
    ["--#if :x = 1".toList, "select 1".toList] d (by decide +kernel) (by decide +kernel)
    (by decide +kernel) hbody (by decide +kernel) (eq_ok_of_toOption hd)
  rw [hnone] at hopen
  cases hopen

end SqlTemplate
