import SqlTemplate.Proofs.Source

/-!
Printing directives.  A directive is read from the line that it is printed as, and the header of a
loop from its text, if the delimiter is one that is read as it is written.
-/
namespace SqlTemplate

namespace Text

/-- Lines that are ended one by one are read as they are, if none ends in a carriage return. -/
theorem lines_flatMap {ls : List Text} (hn : ∀ l ∈ ls, '\n' ∉ l)
    (hr : ∀ l ∈ ls, l.getLast? ≠ some '\r') : lines (ls.flatMap (· ++ ['\n'])) = ls := by
  have hline : ∀ (l t : Text), '\n' ∉ l → l.getLast? ≠ some '\r' →
      lines (l ++ '\n' :: t) = l :: lines t := by
    intro l t hn hr
    induction l with
    | nil =>
      rw [List.nil_append, lines]
      · rfl
      · simp
    | cons c l ih =>
      obtain ⟨hcn, htail⟩ := not_or.1 (mt List.mem_cons.2 hn)
      -- a carriage return at the end of a line would be read as a part of the line ending
      have hnotEnding : ∀ rest, c = '\r' → l ++ '\n' :: t ≠ '\n' :: rest := by
        rintro rest rfl heq
        cases l with
        | nil => exact hr rfl
        | cons d l => exact htail ((List.cons.inj heq).1 ▸ List.mem_cons_self)
      have hlast : l.getLast? ≠ some '\r' := by
        cases l with
        | nil => simp
        | cons d l => rwa [List.getLast?_cons_cons] at hr
      rw [List.cons_append, lines, if_neg (Ne.symm hcn), ih htail hlast]
      exact hnotEnding
  induction ls with
  | nil => rfl
  | cons l ls ih =>
    obtain ⟨hl, hn⟩ := List.forall_mem_cons.1 hn
    obtain ⟨hl', hr⟩ := List.forall_mem_cons.1 hr
    rw [List.flatMap_cons, List.append_assoc, List.singleton_append, hline l _ hl hl', ih hn hr]

theorem newline_notMem_of_mem_lines {t l : Text} (h : l ∈ t.lines) : '\n' ∉ l := by
  induction t using lines.induct generalizing l with
  | case1 => simp [lines] at h
  | case2 cs ih =>
    rw [lines] at h
    rcases List.mem_cons.1 h with rfl | h
    · simp
    · exact ih h
  | case3 cs hcs ih =>
    rw [lines, if_pos rfl] at h
    · rcases List.mem_cons.1 h with rfl | h
      · simp
      · exact ih h
    · exact hcs
  | case4 c cs hcs hc hls ih =>
    rw [lines, if_neg hc, hls] at h
    · obtain rfl := List.mem_singleton.1 h
      simpa using Ne.symm hc
    · exact hcs
  | case5 c cs hcs hc l' ls hls ih =>
    rw [lines, if_neg hc, hls] at h
    · rcases List.mem_cons.1 h with rfl | h
      · simpa using ⟨Ne.symm hc, ih (hls ▸ List.mem_cons_self)⟩
      · exact ih (hls ▸ List.mem_cons_of_mem _ h)
    · exact hcs

end Text

namespace Directive

/-- What follows the keyword of a directive as it is printed. -/
def lineEnd (rest : Text) : Text := if rest.isEmpty then [] else ' ' :: rest

/-- A directive as it is printed. -/
def line (k : Keyword) (rest : Text) : Text :=
  "--#".toList ++ k.text.toList ++ lineEnd rest

theorem getLast?_lineEnd {rest : Text} (h : Text.IsTrim rest) (c : Char)
    (hc : (lineEnd rest).getLast? = some c) : Unicode.isBlank c = false := by
  cases rest with
  | nil => cases hc
  | cons d rest => exact h.last c (by simpa [lineEnd, List.getLast?_cons_cons] using hc)

theorem trim_lineEnd {rest : Text} (h : Text.IsTrim rest) : Text.trim (lineEnd rest) = rest := by
  cases rest with
  | nil => rfl
  | cons d rest => exact h.trim_eq

theorem Keyword.ofText?_text (k : Keyword) : Keyword.ofText? k.text.toList = some k := by
  cases k <;> decide

/-- A directive is read from its line. -/
theorem read?_line (k : Keyword) {rest : Text} (h : Text.IsTrim rest) :
    read? (line k rest) = some (k, rest) := by
  have hfront : Text.IsTrim ("--#".toList ++ k.text.toList) := by
    cases k <;> constructor <;> rintro c ⟨⟩ <;> decide
  have htrim : Text.trim (line k rest) = line k rest :=
    (hfront.append (by simp) (getLast?_lineEnd h)).trim_eq
  have hbody : body? (line k rest) = some (k.text.toList ++ lineEnd rest) := by
    rw [body?, htrim]
    rfl
  have hword : ∀ c ∈ k.text.toList, (!Unicode.isBlank c) = true := by
    cases k <;> exact Text.forall_mem_of_all (by decide)
  have hstop : ¬(lineEnd rest).head?.any (!Unicode.isBlank ·) := by
    cases rest with
    | nil => simp [lineEnd]
    | cons c rest => exact show ¬(some ' ').any (!Unicode.isBlank ·) by decide
  rw [read?, hbody]
  change (Keyword.ofText? ((k.text.toList ++ lineEnd rest).takeWhile (!Unicode.isBlank ·))).bind _ = _
  rw [Text.takeWhile_append_stop hword hstop, Text.dropWhile_append_stop hword hstop,
    Keyword.ofText?_text, trim_lineEnd h]
  rfl

end Directive

namespace LoopHeader

def indexText (index : Option Text) : Text := index.elim [] (", ".toList ++ ·)

def filterText (source : Option Text) : Text := source.elim [] (" filter ".toList ++ ·)

/-- What is printed behind the list of a header. -/
def endText (h : LoopHeader) : Text :=
  ' ' :: ("delimiter \x27".toList ++ (Text.double '\x27' h.delimiter ++
    '\x27' :: filterText (h.filter.map Condition.source)))

/-- A header as it is printed. -/
def text (h : LoopHeader) : Text :=
  h.item ++ (indexText h.index ++ (" of :".toList ++ (h.source ++ endText h)))

/-! Each part of a header is read from its print. -/

variable {name more : Text}

theorem name?_append (h : IsName name) (hmore : ¬more.head?.any Unicode.isWord) :
    name? (name ++ more) = some (name, more) := by
  obtain ⟨c, cs, rfl, hc, hcs⟩ := h
  rw [List.cons_append, name?, if_pos hc, Text.takeWhile_append_stop hcs hmore,
    Text.dropWhile_append_stop hcs hmore]

theorem IsName.head (h : IsName name) (c : Char) (hc : name.head? = some c) :
    Unicode.isBlank c = false := by
  obtain ⟨d, cs, rfl, hd, -⟩ := h
  obtain rfl : d = c := Option.some.inj hc
  cases hb : Unicode.isBlank d with
  | false => rfl
  | true =>
    have hstart : isStart d = false := Unicode.eq_false_of_isBlank (by decide) hb
    simp [hstart] at hd

theorem skipBlanks_name (h : IsName name) (more : Text) :
    Text.skipBlanks (name ++ more) = name ++ more := by
  refine Text.skipBlanks_of_head fun c hc => h.head c ?_
  obtain ⟨d, cs, rfl, -, -⟩ := h
  exact hc

/-- What stands behind the variables of a header. -/
theorem readIndex_text (index : Option Text) (h : ∀ i, index = some i → IsName i) (more : Text) :
    readIndex (indexText index ++ (" of :".toList ++ more)) = (index, " of :".toList ++ more) := by
  cases index with
  | none => rfl
  | some i =>
    have hname : name? (i ++ (" of :".toList ++ more)) = some (i, " of :".toList ++ more) :=
      name?_append (h i rfl) (show ¬(some ' ').any Unicode.isWord by decide)
    have hskip : Text.skipBlanks (' ' :: (i ++ (" of :".toList ++ more))) =
        i ++ (" of :".toList ++ more) := skipBlanks_name (h i rfl) _
    have hcomma : Text.skipBlanks (indexText (some i) ++ (" of :".toList ++ more)) =
        ',' :: ' ' :: (i ++ (" of :".toList ++ more)) := rfl
    simp only [readIndex, hcomma, hskip, hname]

theorem path_head (cs : Text) : ¬(path cs).1.head?.any Unicode.isWord := by
  fun_induction path cs with
  | case1 => simp
  | case2 => simp; decide
  | case3 => simp

theorem newline_notMem_path (cs : Text) : '\n' ∉ (path cs).1 := by
  fun_induction path cs with
  | case1 => simp
  | case2 rest h left tail hpath ih =>
    rw [hpath] at ih
    have hword : '\n' ∉ rest.takeWhile Unicode.isWord := fun hc =>
      absurd (Text.mem_takeWhile hc) (by decide)
    simp only [List.cons_append, List.mem_cons, List.mem_append, not_or]
    exact ⟨by decide, hword, ih⟩
  | case3 => simp

/-- A path with a blank behind it is read whole. -/
theorem path_path (cs more : Text) :
    path ((path cs).1 ++ ' ' :: more) = ((path cs).1, ' ' :: more) := by
  fun_induction path cs with
  | case1 => rw [List.nil_append, path]; simp
  | case2 rest h left tail hpath ih =>
    rw [hpath] at ih
    dsimp only at ih ⊢
    have hword : ∀ c ∈ rest.takeWhile Unicode.isWord, Unicode.isWord c := fun c => Text.mem_takeWhile
    have hstop : ¬(left ++ ' ' :: more).head?.any Unicode.isWord := by
      have hhead := path_head (rest.dropWhile Unicode.isWord)
      rw [hpath] at hhead
      cases left with
      | nil => exact show ¬(some ' ').any Unicode.isWord by decide
      | cons c left => exact hhead
    have hassoc : '.' :: rest.takeWhile Unicode.isWord ++ left ++ ' ' :: more =
        '.' :: (rest.takeWhile Unicode.isWord ++ (left ++ ' ' :: more)) := by simp
    rw [hassoc, path, Text.takeWhile_append_stop hword hstop, if_neg h,
      Text.dropWhile_append_stop hword hstop, ih]
  | case3 => rw [List.nil_append, path]; simp

theorem takeString_double (mark : Char) (s : Text) {more : Text} (h : more.head? ≠ some mark) :
    Condition.takeString mark (Text.double mark s ++ mark :: more) = some (s, more) := by
  -- only behind the last mark of `s` can the reader stop, and there `more` has no second one
  induction s with
  | nil =>
    cases more with
    | nil => exact if_pos rfl
    | cons d more =>
      have hd : d ≠ mark := fun hd => h (congrArg some hd)
      change Condition.takeString mark (mark :: d :: more) = _
      rw [Condition.takeString, if_pos rfl, if_neg hd]
  | cons c s ih =>
    rw [Text.double, List.flatMap_cons]
    change Condition.takeString mark ((if c = mark then [mark, mark] else [c]) ++ Text.double mark s ++
      mark :: more) = _
    split
    · rename_i hc
      change Condition.takeString mark (mark :: mark :: (Text.double mark s ++ mark :: more)) = _
      rw [Condition.takeString, if_pos rfl, if_pos rfl, ih, hc]
      rfl
    · rename_i hc
      rw [List.append_assoc, List.singleton_append]
      cases hrest : Text.double mark s ++ mark :: more with
      | nil => simp at hrest
      | cons d rest =>
        rw [hrest] at ih
        rw [Condition.takeString, if_neg hc, ih]
        rfl

theorem unescape_eq_self {s : Text} (h : '\x5c' ∉ s) : unescape s = s := by
  induction s with
  | nil => rfl
  | cons c s ih =>
    obtain ⟨hc, hs⟩ := not_or.1 (mt List.mem_cons.2 h)
    rw [unescape, ih hs]
    · exact fun _ heq _ => hc heq.symm
    · exact fun _ heq _ => hc heq.symm

/-- What stands behind the source of a header. -/
theorem readDelimiter_text {delimiter : Text} (h : '\x5c' ∉ delimiter) {more : Text}
    (hmore : more.head? ≠ some '\x27') :
    readDelimiter (' ' :: ("delimiter \x27".toList ++
      (Text.double '\x27' delimiter ++ '\x27' :: more))) = (delimiter, more) := by
  have hword : word? "delimiter" (' ' :: ("delimiter \x27".toList ++
      (Text.double '\x27' delimiter ++ '\x27' :: more))) =
      some ('\x27' :: (Text.double '\x27' delimiter ++ '\x27' :: more)) := rfl
  simp only [readDelimiter, hword, takeString_double _ _ hmore, unescape_eq_self h]

theorem readFilter?_text (filter : Option Text)
    (h : ∀ s, filter = some s → Text.IsTrim s ∧ s ≠ []) :
    readFilter? (filterText filter) = some filter := by
  unfold readFilter?
  cases filter with
  | none => rfl
  | some source =>
    obtain ⟨htrim, hne⟩ := h source rfl
    have hword : word? "filter" (filterText (some source)) = some (Text.skipBlanks source) := rfl
    have hstart : Text.isBlank (filterText (some source)) = false := rfl
    have hblank : source.isBlank = false := by
      cases source with
      | nil => exact absurd rfl hne
      | cons c source => simp [Text.isBlank, htrim.head c rfl]
    have hend : Text.trimEnd source = source := by
      have htrim' := htrim.trim_eq
      rwa [Text.trim, Text.skipBlanks_of_head htrim.head] at htrim'
    rw [hstart, hword, Text.skipBlanks_of_head htrim.head]
    simp [hblank, hend]

/-- What all headers that have been read have in common: their variables and their list are named,
and their filter is read from its source. -/
structure WellFormed (h : LoopHeader) : Prop where
  vars : ∀ v ∈ h.vars, IsName v
  source : ∃ name cs, IsName name ∧ h.source = name ++ (path cs).1
  filter : ∀ c, h.filter = some c →
    Text.IsTrim c.source ∧ ∀ n, Directive.condition c.source n = .ok c

section

variable {h : LoopHeader}

theorem WellFormed.source_ne_nil (hform : h.WellFormed) {c : Condition} (hc : h.filter = some c) :
    c.source ≠ [] := by
  intro hnil
  obtain ⟨hblank, -⟩ := Directive.exists_of_condition ((hform.filter c hc).2 0)
  rw [hnil] at hblank
  cases hblank

theorem WellFormed.read?_text (hform : h.WellFormed) (hdelimiter : '\x5c' ∉ h.delimiter) :
    read? h.text = some ({ h with filter := none }, h.filter.map Condition.source) := by
  obtain ⟨name, cs, hname, hsource⟩ := hform.source
  have hitem : name? h.text =
      some (h.item, indexText h.index ++ (" of :".toList ++ (h.source ++ endText h))) := by
    refine name?_append (hform.vars h.item (by simp [LoopHeader.vars])) ?_
    cases h.index with
    | none => exact show ¬(some ' ').any Unicode.isWord by decide
    | some i => exact show ¬(some ',').any Unicode.isWord by decide
  have hindex := readIndex_text h.index (fun i hi => hform.vars i (by simp [LoopHeader.vars, hi]))
    (h.source ++ endText h)
  have hof : word? "of" (" of :".toList ++ (h.source ++ endText h)) =
      some (':' :: (h.source ++ endText h)) := by
    rw [hsource, List.append_assoc, ← skipBlanks_name hname]
    rfl
  have hlist : name? (h.source ++ endText h) = some (name, (path cs).1 ++ endText h) := by
    rw [hsource, List.append_assoc]
    refine name?_append hname ?_
    have hhead := path_head cs
    cases hpath : (path cs).1 with
    | nil => exact show ¬(some ' ').any Unicode.isWord by decide
    | cons d path =>
      rw [hpath] at hhead
      exact hhead
  have hpath : path ((path cs).1 ++ endText h) = ((path cs).1, endText h) := path_path cs _
  have hfilterHead : (filterText (h.filter.map Condition.source)).head? ≠ some '\x27' := by
    cases h.filter with
    | none => simp [filterText]
    | some c => exact show some ' ' ≠ some '\x27' by decide
  have hend : readDelimiter (endText h) = (h.delimiter, filterText (h.filter.map Condition.source)) :=
    readDelimiter_text hdelimiter hfilterHead
  have hlast := readFilter?_text (h.filter.map Condition.source) fun s hs => by
    obtain ⟨c, hc, rfl⟩ := Option.map_eq_some_iff.1 hs
    exact ⟨(hform.filter c hc).1, hform.source_ne_nil hc⟩
  simp only [read?, Option.bind_eq_bind, Option.bind_some, hitem, hindex, hof, hlist, hpath, hend,
    hlast]
  rw [← hsource]
  rfl

/-- A header is read from its print. -/
theorem WellFormed.ofText_text (hform : h.WellFormed) (hdelimiter : '\x5c' ∉ h.delimiter) (n : Nat) :
    ofText h.text n = .ok h := by
  rw [ofText, hform.read?_text hdelimiter]
  obtain ⟨item, index, source, delimiter, _ | c⟩ := h
  · rfl
  · dsimp only [Option.map_some]
    rw [(hform.filter c rfl).2 n]
    rfl

theorem WellFormed.isTrim_text (hform : h.WellFormed) : Text.IsTrim h.text := by
  have hitem : IsName h.item := hform.vars h.item (by simp [LoopHeader.vars])
  refine ⟨fun c hc => hitem.head c ?_, fun c hc => ?_⟩
  · obtain ⟨d, cs, hd, -, -⟩ := hitem
    rw [text, hd] at hc
    rw [hd]
    exact hc
  · have hlast : h.text.getLast? =
        some ((filterText (h.filter.map Condition.source)).getLast?.getD '\x27') := by
      simp [text, endText, List.getLast?_append, List.getLast?_cons]
    rw [hlast] at hc
    cases hfilter : h.filter with
    | none =>
      rw [hfilter] at hc
      obtain rfl : '\x27' = c := Option.some.inj hc
      decide
    | some f =>
      have hf : f.source.getLast? = some (f.source.getLast (hform.source_ne_nil hfilter)) :=
        List.getLast?_eq_some_getLast _
      refine (hform.filter f hfilter).1.last c ?_
      rw [hfilter] at hc
      have hsome : (" filter ".toList ++ f.source).getLast?.getD '\x27' = c := Option.some.inj hc
      rw [List.getLast?_append, hf] at hsome
      exact hf.trans (congrArg some hsome)

theorem WellFormed.newline_notMem_text (hform : h.WellFormed) (hdelimiter : '\n' ∉ h.delimiter)
    (hfilter : ∀ c, h.filter = some c → '\n' ∉ c.source) : '\n' ∉ h.text := by
  have hname : ∀ {name : Text}, IsName name → '\n' ∉ name := fun hn => hn.notMem (by decide) (by decide)
  obtain ⟨name, cs, hn, hsource⟩ := hform.source
  have hindex : '\n' ∉ indexText h.index := by
    cases hi : h.index with
    | none => simp [indexText]
    | some i => simpa [indexText] using hname (hform.vars i (by simp [LoopHeader.vars, hi]))
  have hlast : '\n' ∉ filterText (h.filter.map Condition.source) := by
    cases hf : h.filter with
    | none => simp [filterText]
    | some f => simpa [filterText] using hfilter f hf
  have hlist : '\n' ∉ h.source := by
    rw [hsource, List.mem_append, not_or]
    exact ⟨hname hn, newline_notMem_path cs⟩
  have hdouble : '\n' ∉ Text.double '\x27' h.delimiter := by
    intro hc
    obtain ⟨d, hd, hc⟩ := List.mem_flatMap.1 hc
    split at hc
    · simp at hc
    · exact hdelimiter (List.mem_singleton.1 hc ▸ hd)
  have hitem := hname (hform.vars h.item (by simp [LoopHeader.vars]))
  simp [text, endText, hitem, hindex, hlist, hdouble, hlast]

end

/-! What has been read is well formed. -/

theorem head_of_word? {w : String} {cs rest : Text} (h : word? w cs = some rest) (c : Char)
    (hc : rest.head? = some c) : Unicode.isBlank c = false := by
  obtain ⟨a, -, h⟩ := Option.bind_eq_some_iff.1 h
  obtain ⟨b, -, h⟩ := Option.bind_eq_some_iff.1 h
  cases b with
  | nil => cases h
  | cons d b =>
    rw [blanks?] at h
    split at h
    · obtain rfl := Option.some.inj h
      exact Text.head_skipBlanks b c hc
    · cases h

theorem readFilter?_eq {cs source : Text} (h : readFilter? cs = some (some source)) :
    Text.IsTrim source ∧ source ⊆ cs := by
  unfold readFilter? at h
  split at h
  · cases h
  · split at h
    · rename_i rest hword
      split at h
      · cases h
      · obtain rfl := Option.some.inj (Option.some.inj h)
        exact ⟨Text.isTrim_trimEnd (head_of_word? hword),
          List.Subset.trans (Text.trimEnd_subset rest) (word?_suffix hword).subset⟩
    · cases h

theorem exists_of_read? {cs : Text} {header : LoopHeader} {filter : Option Text}
    (h : read? cs = some (header, filter)) :
    ∃ name more tail, IsName name ∧ header.source = name ++ (path more).1 ∧ header.filter = none ∧
      tail ⊆ cs ∧ readFilter? tail = some filter := by
  obtain ⟨⟨item, cs₁⟩, hitem, h⟩ := Option.bind_eq_some_iff.1 h
  have hcs₁ : cs₁ ⊆ cs := (name?_eq hitem).1 ▸ List.subset_append_right item cs₁
  obtain ⟨cs₃, hof, h⟩ := Option.bind_eq_some_iff.1 h
  have hcs₃ : cs₃ ⊆ cs := List.Subset.trans (word?_suffix hof).subset
    (List.Subset.trans (readIndex_eq rfl).1.subset hcs₁)
  dsimp only at h
  split at h
  · rename_i cs₄
    obtain ⟨⟨name, cs₅⟩, hsource, h⟩ := Option.bind_eq_some_iff.1 h
    obtain ⟨heq, hname⟩ := name?_eq hsource
    obtain ⟨filter', hfilter, h⟩ := Option.bind_eq_some_iff.1 h
    obtain ⟨rfl, rfl⟩ := Prod.mk.inj (Option.some.inj h)
    refine ⟨name, cs₅, _, hname, rfl, rfl, ?_, hfilter⟩
    have hcs₅ : cs₅ ⊆ cs := fun c hc =>
      hcs₃ (List.mem_cons_of_mem _ (heq ▸ List.mem_append_right name hc))
    have hpath : (path cs₅).2 ⊆ cs₅ := fun c hc => by
      rw [← path_append cs₅]
      exact List.mem_append_right _ hc
    exact List.Subset.trans (readDelimiter_subset _).2 (List.Subset.trans hpath hcs₅)
  · cases h

theorem wellFormed_of_ofText {rest : Text} {n : Nat} {h : LoopHeader} (hof : ofText rest n = .ok h) :
    h.WellFormed ∧ ∀ c, h.filter = some c → c.source ⊆ rest := by
  have hvars : ∀ v ∈ h.vars, IsName v := fun v hv => ((ofText_spec hof).1 v hv).1
  unfold ofText at hof
  split at hof
  · cases hof
  · rename_i header hread
    obtain rfl := Except.ok.inj hof
    obtain ⟨name, more, tail, hname, hsource, hnone, -⟩ := exists_of_read? hread
    exact ⟨⟨hvars, ⟨name, more, hname, hsource⟩, by simp [hnone]⟩, by simp [hnone]⟩
  · rename_i header source hread
    obtain ⟨name, more, tail, hname, hsource, -, htail, hfilter⟩ := exists_of_read? hread
    obtain ⟨htrim, hsub⟩ := readFilter?_eq hfilter
    obtain ⟨c, hcondition, hof⟩ := exists_of_bind_eq_ok hof
    obtain rfl := Except.ok.inj hof
    have hc : c.source = source := Directive.source_of_condition htrim hcondition
    refine ⟨⟨hvars, ⟨name, more, hname, hsource⟩, ?_⟩, ?_⟩
    · rintro c' ⟨⟩
      rw [hc]
      exact ⟨htrim, Template.condition_congr hcondition⟩
    · rintro c' ⟨⟩
      rw [hc]
      exact List.Subset.trans hsub htail

end LoopHeader

end SqlTemplate
