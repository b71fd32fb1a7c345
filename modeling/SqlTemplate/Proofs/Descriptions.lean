import SqlTemplate.Proofs.OpenBlocks

/-!
The descriptions of fragments.  What a description belongs to is decided where it is read: a block
that is open and has no lines takes it, a block that is open and has lines drops it, and only where
no block is open it waits for the header below it.
-/
namespace SqlTemplate.SqlFile

/-- The text of a description with these lines. -/
def describedBy (ts : List Text) : Text :=
  Text.unlines ((ts.map Text.trim).filter (!·.isEmpty))

/-- The lines of a closed description, and what they hold. -/
inductive IsDescription : List Text → List Text → Prop
  | line {l t : Text} (h : l.trim = ['/', '*', '#'] ++ t ++ ['#', '*', '/']) :
    IsDescription [l] [t]
  | lines {first t last t' : Text} {middle : List Text}
    (hfirst : first.trim = ['/', '*', '#'] ++ t) (hopen : ¬['#', '*', '/'] <:+ t)
    (hmiddle : ∀ l ∈ middle, ¬['#', '*', '/'] <:+ l.trim)
    (hlast : last.trim = t' ++ ['#', '*', '/']) :
    IsDescription (first :: (middle ++ [last])) (t :: (middle ++ [t']))

/-- The last of the descriptions that stand below a header and in front of the first line of its
block.  One may be open, with some lines. -/
def ownDescription? : Option (List Text) → List Text → Option Text
  | _, [] => none
  | some ts, l :: ls =>
    match Text.dropBack? ['#', '*', '/'] l.trim with
    | some last => (ownDescription? none ls).or (some (describedBy (ts ++ [last])))
    | none => ownDescription? (some (ts ++ [l])) ls
  | none, l :: ls =>
    match Text.dropFront? ['/', '*', '#'] l.trim with
    | some rest =>
      match Text.dropBack? ['#', '*', '/'] rest with
      | some t => (ownDescription? none ls).or (some (describedBy [t]))
      | none => ownDescription? (some [rest]) ls
    | none =>
      if (header? l.trim).isSome then none
      else if skips l then ownDescription? none ls
      else none

theorem dropBack?_of_not_suffix {back t : Text} (h : ¬back <:+ t) :
    Text.dropBack? back t = none := by
  rw [Option.eq_none_iff_forall_ne_some]
  intro rest hrest
  exact h ⟨rest, (Text.eq_append_of_dropBack? hrest).symm⟩

namespace Draft

variable {fileAlias terminator name : Text} {d d' d'' : Draft} {l : Text}

/-! Descriptions that wait. -/

/-- A description only waits where no block is open. -/
def Waits (d : Draft) : Prop := d.current.isSome → d.pending = none

theorem waits_of_current {b : Option OpenBlock} (hd : d.Waits) (h : b.isSome → d.current.isSome) :
    Waits { d with current := b } := fun hb => hd (h hb)

theorem Waits.describe (h : d.Waits) (ls : List Text) : (d.describe ls).Waits := by
  rw [Draft.describe]
  cases hcurrent : d.current with
  | some b =>
    dsimp only
    split
    · exact waits_of_current h (by simp [hcurrent])
    · exact h
  | none =>
    rintro ⟨⟩

theorem pending_close (h : d.close fileAlias = .ok d') : d'.pending = d.pending := by
  rcases close_cases h with ⟨-, rfl⟩ | ⟨b, -, ⟨-, -, rfl⟩ | ⟨-, -, rfl⟩⟩ <;> rfl

theorem waits_of_close (h : d.close fileAlias = .ok d') : d'.Waits := by
  intro hsome
  simp [current_close h] at hsome

theorem waits_of_start {kind : BlockKind} (h : d.start fileAlias kind name = .ok d') :
    d'.Waits := by
  obtain ⟨d₁, -, hd'⟩ := exists_of_bind_eq_ok h
  obtain rfl := Except.ok.inj hd'
  exact fun _ => rfl

theorem Waits.bodyLine (hd : d.Waits) (h : d.bodyLine fileAlias terminator l = .ok d') :
    d'.Waits := by
  rcases bodyLine_cases h with rfl | ⟨b, body, hcurrent, rfl | hclose⟩
  · exact hd
  · exact waits_of_current hd (by simp [hcurrent])
  · exact waits_of_close hclose

theorem Waits.line (hd : d.Waits) (h : d.line fileAlias terminator l = .ok d') : d'.Waits := by
  rcases line_cases h with ⟨comment, ls, rfl⟩ | ⟨_, rfl⟩ | ⟨_, _, -, hstart⟩ | hbody
  · exact Waits.describe (d := { d with comment }) hd ls
  · exact hd
  · exact waits_of_start hstart
  · exact hd.bodyLine hbody

theorem Waits.lines {ls : List Text} (hd : d.Waits)
    (h : d.lines fileAlias terminator ls = .ok d') : d'.Waits := by
  induction ls generalizing d with
  | nil =>
    obtain rfl := Except.ok.inj h
    exact hd
  | cons l ls ih =>
    obtain ⟨d₁, hline, hls⟩ := exists_of_bind_eq_ok h
    exact ih (hd.line hline) hls

/-! A description that is closed. -/

theorem lines_middle {ms opened : List Text} (hcomment : d.comment = some opened)
    (h : ∀ l ∈ ms, ¬['#', '*', '/'] <:+ l.trim) (ls : List Text) :
    d.lines fileAlias terminator (ms ++ ls) =
      Draft.lines fileAlias terminator { d with comment := some (opened ++ ms.map Text.trim) }
        ls := by
  induction ms generalizing d opened with
  | nil => rw [List.map_nil, List.append_nil, ← hcomment, List.nil_append]
  | cons m ms ih =>
    obtain ⟨hm, hms⟩ := List.forall_mem_cons.1 h
    have hinside : d.line fileAlias terminator m = _ :=
      line_of_inside hcomment (dropBack?_of_not_suffix hm)
    rw [List.cons_append, lines_cons_of_ok hinside, ih rfl hms]
    simp

/-- A closed description is read as one. -/
theorem lines_of_isDescription {ls ts : List Text} (h : IsDescription ls ts)
    (hcomment : d.comment = none) :
    d.lines fileAlias terminator ls = .ok (d.describe (ts.map Text.trim)) := by
  cases h with
  | @line l t h =>
    have hfront : Text.dropFront? ['/', '*', '#'] l.trim = some (t ++ ['#', '*', '/']) := by
      rw [h, List.append_assoc, Text.dropFront?_append]
    rw [lines_cons_of_ok (line_of_description hcomment hfront (Text.dropBack?_append _ _))]
    rfl
  | @lines first t last t' middle hfirst hopen hmiddle hlast =>
    have hfront : Text.dropFront? ['/', '*', '#'] first.trim = some t := by
      rw [hfirst, Text.dropFront?_append]
    have hback : Text.dropBack? ['#', '*', '/'] last.trim = some t' := by
      rw [hlast, Text.dropBack?_append]
    rw [lines_cons_of_ok (line_of_opening hcomment hfront (dropBack?_of_not_suffix hopen)),
      lines_middle rfl hmiddle, lines_cons_of_ok (line_of_closing rfl hback)]
    have hsame : ({ d with comment := none } : Draft) = d := by rw [← hcomment]
    simp [lines, hsame]

/-! The description of an open fragment. -/

/-- Whether a fragment is open with this description. -/
def Tells (name : Text) (description : Option Text) (body : List Text) (d : Draft) : Prop :=
  d.current = some ⟨.fragment, name, description, body⟩

section

variable {description : Option Text} {body : List Text}

theorem Tells.withComment (h : d.Tells name description body) (comment : Option (List Text)) :
    Tells name description body { d with comment } := h

theorem tells_current (d : Draft) (name : Text) (description : Option Text) (body : List Text) :
    Tells name description body { d with current := some ⟨.fragment, name, description, body⟩ } :=
  rfl

theorem Tells.get?_of_close (h : d.Tells name description body)
    (hclose : d.close fileAlias = .ok d') (hextends : d'.Extends d'') :
    ∃ text, d''.fragments.get? name = some (description.getD [], text) := by
  have hget : d'.fragments.get? name = some (description.getD [], Text.unlines body) := by
    rw [close_of_fragment h rfl hclose, Dict.get?_insert, if_pos rfl]
  exact ⟨_, hextends _ _ hget⟩

/-- Descriptions change nothing for a block that has lines. -/
theorem Tells.describe_of_ne_nil (h : d.Tells name description body) (hbody : body ≠ [])
    (ls : List Text) : d.describe ls = d := by
  simp only [describe, show d.current = _ from h]
  rw [if_neg (by simpa using hbody)]

theorem Tells.describe_of_nil (h : d.Tells name description []) (ls : List Text) :
    (d.describe (ls.map Text.trim)).Tells name (some (describedBy ls)) [] := by
  simp only [describe, show d.current = _ from h]
  rfl

/-- A block that has lines keeps its description. -/
theorem Tells.get?_of_ne_nil {ls : List Text} (h : d.Tells name description body)
    (hbody : body ≠ []) (hlines : d.lines fileAlias terminator ls = .ok d')
    (hclose : d'.close fileAlias = .ok d'') :
    ∃ text, d''.fragments.get? name = some (description.getD [], text) := by
  induction ls generalizing d body with
  | nil =>
    obtain rfl := Except.ok.inj hlines
    exact h.get?_of_close hclose fun _ _ => id
  | cons l ls ih =>
    obtain ⟨d₁, hline, hrest⟩ := exists_of_bind_eq_ok hlines
    have hextends : d₁.Extends d'' := (extends_lines hrest).trans (extends_close hclose)
    rcases line_cases hline with ⟨comment, ts, rfl⟩ | ⟨_, rfl⟩ | ⟨_, _, -, hstart⟩ | hbodyLine
    · rw [(h.withComment comment).describe_of_ne_nil hbody] at hrest
      exact ih (h.withComment comment) hbody hrest
    · exact ih (h.withComment _) hbody hrest
    · obtain ⟨d₂, hclose₂, hd₁⟩ := exists_of_bind_eq_ok hstart
      obtain rfl := Except.ok.inj hd₁
      exact h.get?_of_close hclose₂ ((extends_of_eq rfl).trans hextends)
    · rw [bodyLine_of_open h] at hbodyLine
      split at hbodyLine
      · obtain rfl := Except.ok.inj hbodyLine
        exact ih h hbody hrest
      split at hbodyLine
      · obtain rfl := Except.ok.inj hbodyLine
        exact ih (tells_current d name description (body ++ [l.trimEnd])) (by simp) hrest
      · exact (tells_current d name description _).get?_of_close hbodyLine hextends

/-- A block without lines has the last description that is read before its first line. -/
theorem Tells.get?_of_lines {opened : Option (List Text)} {ls : List Text}
    (h : d.Tells name description []) (hopened : d.comment = opened.map (List.map Text.trim))
    (hlines : d.lines fileAlias terminator ls = .ok d') (hclose : d'.close fileAlias = .ok d'') :
    ∃ text, d''.fragments.get? name =
      some (((ownDescription? opened ls).or description).getD [], text) := by
  induction opened, ls using ownDescription?.induct generalizing d description with
  | case1 opened =>
    obtain rfl := Except.ok.inj hlines
    rw [ownDescription?, Option.none_or]
    exact h.get?_of_close hclose fun _ _ => id
  | case2 ts l ls last hback ih =>
    rw [lines_cons_of_ok (line_of_closing hopened hback)] at hlines
    have htells := (h.withComment none).describe_of_nil (ts ++ [last])
    rw [List.map_append] at htells
    simp only [ownDescription?, hback, Option.or_assoc, Option.some_or]
    exact ih htells (by rw [comment_describe]; rfl) hlines
  | case3 ts l ls hback ih =>
    rw [lines_cons_of_ok (line_of_inside hopened hback)] at hlines
    simp only [ownDescription?, hback]
    exact ih (h.withComment _) (by simp) hlines
  | case4 l ls rest hfront t hback ih =>
    rw [lines_cons_of_ok (line_of_description hopened hfront hback)] at hlines
    simp only [ownDescription?, hfront, hback, Option.or_assoc, Option.some_or]
    exact ih (h.describe_of_nil [t]) (by rw [comment_describe, hopened]) hlines
  | case5 l ls rest hfront hback ih =>
    rw [lines_cons_of_ok (line_of_opening hopened hfront hback)] at hlines
    simp only [ownDescription?, hfront, hback]
    exact ih (h.withComment _) rfl hlines
  | case6 l ls hfront hheader =>
    obtain ⟨⟨kind, name'⟩, hheader'⟩ := Option.isSome_iff_exists.1 hheader
    obtain ⟨d₁, hline, hrest⟩ := exists_of_bind_eq_ok hlines
    rw [line_of_header hopened hfront hheader'] at hline
    obtain ⟨d₂, hclose₂, hd₁⟩ := exists_of_bind_eq_ok hline
    obtain rfl := Except.ok.inj hd₁
    simp only [ownDescription?, hfront, if_pos hheader, Option.none_or]
    exact h.get?_of_close hclose₂
      (((extends_of_eq rfl).trans (extends_lines hrest)).trans (extends_close hclose))
  | case7 l ls hfront hheader hskips ih =>
    have hskipped : (_ || _) = true := hskips
    rw [lines_cons_of_ok (line_of_skipped hopened hfront (by simpa using hheader) hskipped)]
      at hlines
    simp only [ownDescription?, hfront, if_neg hheader, if_pos hskips]
    exact ih h hopened hlines
  | case8 l ls hfront hheader hskips =>
    obtain ⟨d₁, hline, hrest⟩ := exists_of_bind_eq_ok hlines
    rw [line_of_body hopened hfront (by simpa using hheader), bodyLine_of_open h, if_neg hskips]
      at hline
    simp only [ownDescription?, hfront, if_neg hheader, if_neg hskips, Option.none_or]
    split at hline
    · obtain rfl := Except.ok.inj hline
      exact (tells_current d name description _).get?_of_ne_nil (by simp) hrest hclose
    · exact (tells_current d name description _).get?_of_close hline
        ((extends_lines hrest).trans (extends_close hclose))

end

/-- Behind a closed description and the header below it, the fragment is open.  It has got the
description if no block was open in front of that. -/
theorem exists_tells {ls ts : List Text} {header : Text} (hwaits : d.Waits)
    (hcomment : d.comment = none) (hdescription : IsDescription ls ts)
    (hheader : header? header.trim = some (.fragment, name))
    (h : d.lines fileAlias terminator (ls ++ [header]) = .ok d') :
    d'.comment = none ∧
      d'.Tells name (if d.current.isSome then none else some (describedBy ts)) [] := by
  rw [lines_append_of_ok (lines_of_isDescription hdescription hcomment)] at h
  have hnone : (d.describe (ts.map Text.trim)).comment = none := by rw [comment_describe, hcomment]
  have hfront : Text.dropFront? ['/', '*', '#'] header.trim = none := by
    rw [Option.eq_none_iff_forall_ne_some]
    intro rest hrest
    rw [header?_of_description hrest] at hheader
    cases hheader
  obtain ⟨d₁, hline, hd'⟩ := exists_of_bind_eq_ok h
  obtain rfl := Except.ok.inj hd'
  rw [line_of_header hnone hfront hheader] at hline
  refine ⟨(comment_start hline).trans hnone, ?_⟩
  obtain ⟨d₂, hclose, hd₁⟩ := exists_of_bind_eq_ok hline
  obtain rfl := Except.ok.inj hd₁
  have hpending : d₂.pending = if d.current.isSome then none else some (describedBy ts) := by
    rw [pending_close hclose]
    cases hcurrent : d.current with
    | some b =>
      have hopen : (d.describe (ts.map Text.trim)).current.isSome := by
        rw [isSome_current_describe, hcurrent, Option.isSome_some]
      exact hwaits.describe _ hopen
    | none =>
      simp only [describe, hcurrent]
      rfl
  rw [← hpending]
  rfl

end Draft

/-- The description of a fragment whose header stands directly below a closed description.  It is
that description unless another one stands below the header, and unless the block in front of it is
still open: then the fragment has none. -/
theorem description_of_header {fileAlias text terminator name header : Text} {file : SqlFile}
    {before ls ts behind : List Text} (hread : ofText fileAlias text terminator = .ok file)
    (hlines : text.lines = before ++ ls ++ header :: behind) (hbefore : ¬EndsWithin before)
    (hdescription : IsDescription ls ts)
    (hheader : header? header.trim = some (.fragment, name)) :
    ∃ f, file.fragments.get? name = some f ∧
      f.description = (ownDescription? none behind).getD
        (if openAfter terminator false false before then [] else describedBy ts) := by
  obtain ⟨d, hall, hread⟩ := exists_of_bind_eq_ok hread
  obtain ⟨d', hclose, hread⟩ := exists_of_bind_eq_ok hread
  obtain ⟨fs, hmake, hfile⟩ := exists_of_bind_eq_ok hread
  obtain rfl := Except.ok.inj hfile
  -- what has been read in front of the description, and up to the header
  have hsplit : text.lines = before ++ (ls ++ [header] ++ behind) := by simp [hlines]
  rw [hsplit, Draft.lines_append] at hall
  obtain ⟨d₀, hfront, hall⟩ := exists_of_bind_eq_ok hall
  rw [Draft.lines_append] at hall
  obtain ⟨d₁, hopened, hrest⟩ := exists_of_bind_eq_ok hall
  have hwaits : d₀.Waits := Draft.Waits.lines (d := .empty) (fun _ => rfl) hfront
  have hcomment : d₀.comment = none := by
    rw [← Option.not_isSome_iff_eq_none, Draft.isSome_comment_lines hfront]
    exact hbefore
  have hcurrent : d₀.current.isSome = openAfter terminator false false before :=
    Draft.isSome_current_lines hfront
  obtain ⟨hnone, htells⟩ := Draft.exists_tells hwaits hcomment hdescription hheader hopened
  have hopened : d₁.comment = (none : Option (List Text)).map (List.map Text.trim) := hnone
  obtain ⟨body, hentry⟩ := htells.get?_of_lines hopened hrest hclose
  obtain ⟨f, hf, hfragment⟩ := get?_of_makeFragments hmake (Dict.mem_of_get? hentry)
  refine ⟨f, hf, ?_⟩
  rw [(fragment_eq_ok_iff.1 hfragment).2.2.2.1, hcurrent]
  cases ownDescription? none behind <;> cases openAfter terminator false false before <;> rfl

/-- A description of several lines, behind a block that has been ended. -/
theorem description_of_header_lines :
    let text := "/*[a]*/\nselect 1;\n/*#\n  two\n\n lines #*/\n/*[b]*/\nselect 2;".toList
    ∃ file, ofText "u".toList text [';'] = .ok file ∧
      ∃ f, file.fragments.get? "b".toList = some f ∧ f.description = "two\nlines".toList := by
  intro text
  obtain ⟨file, hfile⟩ : ∃ file, ofText "u".toList text [';'] = .ok file :=
    exists_of_isOk (by decide +kernel)
  have hdescription : IsDescription ["/*#".toList, "  two".toList, [], " lines #*/".toList]
      [[], "  two".toList, [], "lines ".toList] :=
    @IsDescription.lines _ [] _ "lines ".toList ["  two".toList, []] (by decide) (by decide)
      (by decide) (by decide)
  have hlines : Text.lines text = ["/*[a]*/".toList, "select 1;".toList] ++
      ["/*#".toList, "  two".toList, [], " lines #*/".toList] ++
      "/*[b]*/".toList :: ["select 2;".toList] := by decide +kernel
  have hheader : header? (Text.trim "/*[b]*/".toList) = some (.fragment, "b".toList) := by
    decide +kernel
  obtain ⟨f, hf, htext⟩ :=
    description_of_header hfile hlines (by decide +kernel) hdescription hheader
  exact ⟨file, hfile, f, hf, htext.trans (by decide +kernel)⟩

/-- Behind a block that goes on up to the next header, the description is lost. -/
theorem not_forall_description_eq :
    ¬∀ (fileAlias text terminator name header : Text) (file : SqlFile) (f : Fragment)
        (before ls ts behind : List Text), ofText fileAlias text terminator = .ok file →
      text.lines = before ++ ls ++ header :: behind → ¬EndsWithin before →
      IsDescription ls ts → header? header.trim = some (.fragment, name) →
      file.fragments.get? name = some f → f.description = describedBy ts := by
  intro h
  let text := "/*[a]*/\nselect 1\n/*# d #*/\n/*[b]*/\nselect 2;".toList
  have hread : ((ofText "u".toList text [';']).toOption.bind fun file =>
      (file.fragments.get? "b".toList).map Fragment.description) = some [] := by decide +kernel
  obtain ⟨file, hfile, hread⟩ := Option.bind_eq_some_iff.1 hread
  obtain ⟨f, hf, hnone⟩ := Option.map_eq_some_iff.1 hread
  have hdescription : IsDescription ["/*# d #*/".toList] [" d ".toList] := .line (by decide)
  have hd := h _ text _ _ "/*[b]*/".toList file f ["/*[a]*/".toList, "select 1".toList] _ _
    ["select 2;".toList] (eq_ok_of_toOption hfile) (by decide +kernel) (by decide +kernel)
    hdescription (by decide +kernel) hf
  rw [hnone] at hd
  exact absurd hd (by decide)

end SqlTemplate.SqlFile
