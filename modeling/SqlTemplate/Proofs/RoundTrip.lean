import Mathlib
import SqlTemplate.Proofs.Printing

/-!
Printing whole templates.  A template is printed one directive to a line, and what has been read
from a text is read from its print again: a derivation of the blocks gives one of their print.
-/
namespace SqlTemplate

open Directive (Keyword line read?_line)

mutual

/-- The lines that a block is printed as. -/
def Block.lines : Block → List Text
  | .text l => [l]
  | .guarded c body => line .if c.source :: (Template.lines body ++ [line .fi []])
  | .choose branches none =>
    line .choose [] :: (Template.branchLines branches ++ [line .end []])
  | .choose branches (some otherwise) =>
    line .choose [] :: (Template.branchLines branches ++
      line .default [] :: Template.lines otherwise ++ [line .end []])
  | .loop h body => line .for h.text :: (Template.lines body ++ [line .end []])

def Template.lines : List Block → List Text
  | [] => []
  | b :: bs => b.lines ++ Template.lines bs

def Template.branchLines : List (Condition × List Block) → List Text
  | [] => []
  | (c, body) :: rest => line .when c.source :: (Template.lines body ++ Template.branchLines rest)

end

namespace Template

/-- The text that a template is printed as. -/
def text (blocks : Template) : Text := (lines blocks).flatMap (· ++ ['\n'])

theorem lines_append (bs cs : List Block) : lines (bs ++ cs) = lines bs ++ lines cs := by
  induction bs with
  | nil => rfl
  | cons b bs ih => rw [List.cons_append, lines, lines, ih, List.append_assoc]

theorem branchLines_append (bs cs : List (Condition × List Block)) :
    branchLines (bs ++ cs) = branchLines bs ++ branchLines cs := by
  induction bs with
  | nil => rfl
  | cons b bs ih =>
    obtain ⟨c, body⟩ := b
    rw [List.cons_append, branchLines, branchLines, ih, List.cons_append, List.append_assoc]

/-- The lines that a part is printed as; a choice is printed with any argument. -/
def Part.lines : Part → List Text
  | .block b => b.lines
  | .blocks bs => Template.lines bs
  | .branches _ ws => line .choose [] :: branchLines ws

/-- The same part with conditions for all branches. -/
def Part.plain : Part → Part
  | .branches _ ws => .branches none ws
  | part => part

/-- Whether a header has a delimiter that is read as it is written. -/
def HasPlainDelimiter (h : LoopHeader) : Prop := '\x5c' ∉ h.delimiter ∧ '\n' ∉ h.delimiter

/-- Whether all loops of a part have plain delimiters. -/
def Part.HasPlainDelimiters : Part → Prop
  | .block b => b.Every (fun _ => True) HasPlainDelimiter
  | .blocks bs => Every (fun _ => True) HasPlainDelimiter bs
  | .branches _ ws => EveryBranch (fun _ => True) HasPlainDelimiter ws

/-! Conditions and headers fit in a line. -/

/-- Whether a condition is read from its source in a line. -/
structure FitsLine (c : Condition) : Prop where
  trim : Text.IsTrim c.source
  newline : '\n' ∉ c.source
  read : ∀ n, Directive.condition c.source n = .ok c

theorem fitsLine_of_condition {source : Text} {n : Nat} {c : Condition}
    (htrim : Text.IsTrim source) (hnewline : '\n' ∉ source)
    (h : Directive.condition source n = .ok c) : FitsLine c := by
  have hsource : c.source = source := Directive.source_of_condition htrim h
  exact ⟨hsource ▸ htrim, hsource ▸ hnewline, hsource ▸ condition_congr h⟩

section

variable {l rest : Text} {n : Nat} {c : Condition}

theorem fitsLine_of_read {k : Keyword} (hread : Directive.read? l = some (k, rest)) (hl : '\n' ∉ l)
    (h : Directive.condition rest n = .ok c) : FitsLine c :=
  fitsLine_of_condition (Directive.isTrim_of_read? hread)
    (fun hc => hl (Directive.read?_subset hread hc)) h

theorem isSwitchPart_of_opens {name : Text} (h : Opens (some name) l) :
    ∀ c ∈ name, Directive.isSwitchPart c := by
  cases h with
  | switch read hname => exact (Directive.forall_of_switchName hname).1

/-- The name of a switch stays the same from branch to branch. -/
theorem Derives.isSwitchPart {switch : Option Text} {branches : List (Condition × List Block)}
    {ls : List Text} (h : Derives (.branches switch branches) ls) :
    ∀ name, switch = some name → ∀ c ∈ name, Directive.isSwitchPart c := by
  generalize hpart : Part.branches switch branches = part at h
  induction h generalizing branches with
  | opened opening hgap =>
    cases hpart
    rintro name rfl
    exact isSwitchPart_of_opens opening
  | branch before opening inner htail ih =>
    cases hpart
    exact ih rfl
  | _ => cases hpart

theorem fitsLine_of_opensBranch {switch : Option Text} (h : OpensBranch switch c l) (hl : '\n' ∉ l)
    (hswitch : ∀ name, switch = some name → ∀ c ∈ name, Directive.isSwitchPart c) :
    FitsLine c := by
  cases h with
  | when read condition => exact fitsLine_of_read read hl condition
  | @case name _ _ rest n read condition =>
    have hname := hswitch name rfl
    have hrest : '\n' ∉ rest := fun hc => hl (Directive.read?_subset read hc)
    refine fitsLine_of_condition (Directive.isTrim_caseSource hname
      (Directive.isTrim_of_read? read) condition) ?_ condition
    have hnewline : '\n' ∉ name := fun hc => absurd (hname _ hc) (by decide +kernel)
    simp [Directive.caseSource, hnewline, hrest]

theorem newline_notMem_line (k : Keyword) (h : '\n' ∉ rest) : '\n' ∉ line k rest := by
  have hkeyword : '\n' ∉ k.text.toList := by
    cases k <;> decide
  have hend : '\n' ∉ Directive.lineEnd rest := by
    unfold Directive.lineEnd
    split
    · simp
    · simpa using h
  simp [line, hkeyword, hend]

end

/-- A derivation of a part gives one of its print. -/
theorem Derives.derives_lines {part : Part} {ls : List Text} (h : Derives part ls)
    (hls : ∀ l ∈ ls, '\n' ∉ l) (hpart : part.HasPlainDelimiters) :
    Derives part.plain part.lines ∧ ∀ l ∈ part.lines, '\n' ∉ l := by
  have hbare : ∀ k, '\n' ∉ line k [] := fun k => newline_notMem_line k (by simp)
  have hnil : ∀ l ∈ ([] : List Text), '\n' ∉ l := by simp
  have hread : ∀ k, Directive.read? (line k []) = some (k, []) := fun k => read?_line k .nil
  -- breaks and gaps are not printed, and the cases of a switch are conditions of their own
  induction h with
  | @text l read =>
    simp only [Part.lines, Block.lines]
    exact ⟨.text read, hls⟩
  | @guarded l l' rest rest' n c body ls opening condition inner closing ih =>
    simp only [List.forall_mem_cons, List.forall_mem_append] at hls
    obtain ⟨hinner, hbody⟩ := ih hls.2.1 (by simpa [Part.HasPlainDelimiters, Block.Every] using hpart)
    have hc : FitsLine c := fitsLine_of_read opening hls.1 condition
    simp only [Part.lines, Block.lines, List.forall_mem_cons, List.forall_mem_append]
    exact ⟨.guarded (read?_line .if hc.trim) (hc.read 0) hinner (hread .fi),
      newline_notMem_line _ hc.newline, hbody, hbare _, hnil⟩
  | @loop l l' rest rest' n header body ls opening hheader inner closing ih =>
    simp only [List.forall_mem_cons, List.forall_mem_append] at hls
    simp only [Part.HasPlainDelimiters, Block.Every] at hpart
    obtain ⟨hinner, hbody⟩ := ih hls.2.1 hpart.2
    obtain ⟨hform, hfilter⟩ := LoopHeader.wellFormed_of_ofText hheader
    have hnewline : '\n' ∉ header.text := hform.newline_notMem_text hpart.1.2 fun c hc hmem =>
      hls.1 (Directive.read?_subset opening (hfilter c hc hmem))
    simp only [Part.lines, Block.lines, List.forall_mem_cons, List.forall_mem_append]
    exact ⟨.loop (read?_line .for hform.isTrim_text) (hform.ofText_text hpart.1.1 0) hinner
      (.inl (hread .end)), newline_notMem_line _ hnewline, hbody, hbare _, hnil⟩
  | @choose switch branches ls l' rest' inner closing ih =>
    simp only [List.forall_mem_append] at hls
    obtain ⟨hinner, hbranches⟩ := ih hls.1
      (by simpa [Part.HasPlainDelimiters, Block.Every] using hpart)
    simp only [Part.lines, List.forall_mem_cons] at hbranches
    simp only [Part.lines, Block.lines, List.forall_mem_cons, List.forall_mem_append]
    exact ⟨.choose hinner (hread .end), hbare _, hbranches.2, hbare _, hnil⟩
  | @default switch branches ls ms l l' rest rest' body tail inner opening last htail closing
      ih₁ ih₂ =>
    simp only [List.forall_mem_cons, List.forall_mem_append] at hls
    simp only [Part.HasPlainDelimiters, Block.Every] at hpart
    obtain ⟨hinner, hbranches⟩ := ih₁ hls.1.1 hpart.1
    obtain ⟨hlast, hbody⟩ := ih₂ hls.1.2.2.1 hpart.2
    simp only [Part.lines, List.forall_mem_cons] at hbranches
    -- the branch is printed without a break
    have hblock := hinner.default (hread .default) hlast .none (hread .end)
    rw [List.append_nil] at hblock
    simp only [Part.lines, Block.lines, List.forall_mem_cons, List.forall_mem_append]
    exact ⟨hblock, hbare _, ⟨hbranches.2, hbare _, hbody⟩, hbare _, hnil⟩
  | opened opening hgap =>
    simp only [Part.lines, branchLines, List.forall_mem_cons]
    exact ⟨.opened (.choose (hread .choose)) .nil, hbare _, hnil⟩
  | @branch switch branches ls ms l c body tail before opening inner htail ih₁ ih₂ =>
    simp only [List.forall_mem_cons, List.forall_mem_append] at hls
    simp only [Part.HasPlainDelimiters, everyBranch_append, EveryBranch] at hpart
    obtain ⟨hbefore, hbranches⟩ := ih₁ hls.1 hpart.1
    obtain ⟨hinner, hbody⟩ := ih₂ hls.2.2.1 hpart.2.1
    have hc : FitsLine c := fitsLine_of_opensBranch opening hls.2.1 before.isSwitchPart
    have hbranch := hbefore.branch (.when (read?_line .when hc.trim) (hc.read 0)) hinner .none
    simp only [Part.lines, List.forall_mem_cons] at hbranches
    simp only [Part.lines, branchLines_append, branchLines, List.forall_mem_cons,
      List.forall_mem_append]
    exact ⟨hbranch, hbare _, hbranches.2, newline_notMem_line _ hc.newline, hbody, hnil⟩
  | nil => exact ⟨.nil, hnil⟩
  | @snoc bs b ls ms before last ih₁ ih₂ =>
    simp only [List.forall_mem_append] at hls
    simp only [Part.HasPlainDelimiters, every_append, Every] at hpart
    obtain ⟨hbefore, hblocks⟩ := ih₁ hls.1 hpart.1
    obtain ⟨hlast, hblock⟩ := ih₂ hls.2 hpart.2.1
    have hlines : Template.lines (bs ++ [b]) = Template.lines bs ++ b.lines := by
      rw [lines_append, Template.lines, Template.lines, List.append_nil]
    simp only [Part.lines, hlines, List.forall_mem_append]
    exact ⟨hbefore.snoc hlast, hblocks, hblock⟩

theorem parse_eq_ok_iff {t : Text} {blocks : Template} :
    parse t = .ok blocks ↔ Derives (.blocks blocks) t.lines := by
  rw [← ofText_eq_ok_iff_derives, parse]
  cases ofText t with
  | ok blocks' => simp
  | error fault => simp

/-- The reader of templates accepts what the grammar derives and gives the tree of the derivation,
and what has been read is read from its print again. -/
theorem parse_iff_derives_and_parse_text (t : Text) (blocks : Template) :
    (parse t = .ok blocks ↔ Derives (.blocks blocks) t.lines) ∧
      (parse t = .ok blocks → '\r' ∉ text blocks →
        Every (fun _ => True) HasPlainDelimiter blocks → parse (text blocks) = .ok blocks) := by
  refine ⟨parse_eq_ok_iff, fun h hreturn hdelimiters => ?_⟩
  obtain ⟨hderives, hnewline⟩ := (parse_eq_ok_iff.1 h).derives_lines
    (fun l => Text.newline_notMem_of_mem_lines) hdelimiters
  have hlines : (text blocks).lines = lines blocks :=
    Text.lines_flatMap hnewline fun l hl hlast =>
      hreturn (List.mem_flatMap.2 ⟨l, hl, List.mem_append_left _ (List.mem_of_getLast? hlast)⟩)
  rw [parse_eq_ok_iff, hlines]
  exact hderives

/-- A loop in the other branch of a switch. -/
def nestedChoice : Template :=
  [.choose [(⟨":k = 'a'".toList,
        .compare (.argument "k".toList []) .eq (.literal (.string "a".toList))⟩,
      [.text "a".toList])]
    (some [.loop ⟨"x".toList, some "i".toList, "xs".toList, "'".toList,
      some ⟨":x".toList, .test (.argument "x".toList [])⟩⟩ [.text ":x".toList]])]

def nestedText : Text :=
  "--#switch :k\n--#case 'a'\na\n--#break\n\n--#default\n".toList ++
    "--#for x, i of :xs delimiter '''' filter :x\n:x\n--#done\n--#end".toList

/-- The print has the cases as conditions of their own and leaves out what ends them. -/
theorem parse_iff_derives_and_parse_text_nested :
    Template.parse nestedText = .ok nestedChoice ∧
      Derives (.blocks nestedChoice) nestedText.lines ∧
      text nestedChoice = ("--#choose\n--#when :k = 'a'\na\n--#default\n" ++
        "--#for x, i of :xs delimiter '''' filter :x\n:x\n--#end\n--#end\n").toList ∧
      Template.parse (text nestedChoice) = .ok nestedChoice := by
  have hparse : Template.parse nestedText = .ok nestedChoice := by cbv
  obtain ⟨hderives, hprint⟩ := parse_iff_derives_and_parse_text nestedText nestedChoice
  refine ⟨hparse, hderives.1 hparse, by decide +kernel, hprint hparse (by decide +kernel) ?_⟩
  simp only [nestedChoice, Every, Block.Every, EveryBranch, HasPlainDelimiter]
  decide

end Template

end SqlTemplate
