import SqlTemplate.Proofs.Blocks
import SqlTemplate.Proofs.Dict
import SqlTemplate.SqlFile

/-!
The reader of files, step by step: what is entered stays as long as lines are read, and each body
that is entered is made into a fragment.
-/
namespace SqlTemplate.SqlFile

namespace Draft

variable {fileAlias terminator : Text} {d d' : Draft}

theorem lines_cons_of_ok {l : Text} (h : d.line fileAlias terminator l = .ok d')
    (ls : List Text) :
    d.lines fileAlias terminator (l :: ls) = d'.lines fileAlias terminator ls := by
  rw [lines, h]
  rfl

theorem lines_append_of_ok {ls : List Text} (h : d.lines fileAlias terminator ls = .ok d')
    (ms : List Text) :
    d.lines fileAlias terminator (ls ++ ms) = d'.lines fileAlias terminator ms := by
  induction ls generalizing d with
  | nil =>
    obtain rfl := Except.ok.inj h
    rfl
  | cons l ls ih =>
    obtain ⟨d₁, hline, hls⟩ := exists_of_bind_eq_ok h
    rw [List.cons_append, lines_cons_of_ok hline, ih hls]

/-- Whether all fragments that were entered are still there. -/
def Extends (d d' : Draft) : Prop :=
  ∀ name body, d.fragments.get? name = some body → d'.fragments.get? name = some body

theorem extends_of_eq (h : d'.fragments = d.fragments) : d.Extends d' := by
  intro name body hbody
  rw [h, hbody]

theorem Extends.trans {d'' : Draft} (h : d.Extends d') (h' : d'.Extends d'') : d.Extends d'' :=
  fun name body hbody => h' name body (h name body hbody)

/-- Closing enters the open block under a name that is new for its kind. -/
theorem close_cases (h : d.close fileAlias = .ok d') :
    d.current = none ∧ d' = d ∨ ∃ b, d.current = some b ∧
      (b.kind = .fragment ∧ d.fragments.contains b.name = false ∧
        d' = { d with
          current := none
          fragments := d.fragments.insert b.name (b.description.getD [], Text.unlines b.body) } ∨
      b.kind = .part ∧ d.parts.contains b.name = false ∧
        d' = { d with
          current := none
          parts := d.parts.insert b.name (Text.unlines b.body) }) := by
  cases hcurrent : d.current with
  | none =>
    simp only [close, hcurrent] at h
    exact .inl ⟨rfl, (Except.ok.inj h).symm⟩
  | some b =>
    refine .inr ⟨b, rfl, ?_⟩
    cases hkind : b.kind with
    | fragment =>
      simp only [close, hcurrent, hkind] at h
      split at h
      · cases h
      · rename_i hnew
        exact .inl ⟨rfl, by simpa using hnew, (Except.ok.inj h).symm⟩
    | part =>
      simp only [close, hcurrent, hkind] at h
      split at h
      · cases h
      · rename_i hnew
        exact .inr ⟨rfl, by simpa using hnew, (Except.ok.inj h).symm⟩

theorem close_of_fragment {b : OpenBlock} (hcurrent : d.current = some b)
    (hkind : b.kind = .fragment) (h : d.close fileAlias = .ok d') :
    d'.fragments = d.fragments.insert b.name (b.description.getD [], Text.unlines b.body) := by
  rcases close_cases h with ⟨hnone, -⟩ | ⟨b', hb', ⟨-, -, rfl⟩ | ⟨hpart, -, -⟩⟩
  · cases hnone.symm.trans hcurrent
  · obtain rfl := Option.some.inj (hb'.symm.trans hcurrent)
    rfl
  · obtain rfl := Option.some.inj (hb'.symm.trans hcurrent)
    cases hpart.symm.trans hkind

theorem extends_close (h : d.close fileAlias = .ok d') : d.Extends d' := by
  rcases close_cases h with ⟨-, rfl⟩ | ⟨b, -, ⟨-, hnew, rfl⟩ | ⟨-, -, rfl⟩⟩
  · exact extends_of_eq rfl
  · intro name body hbody
    have hne : b.name ≠ name := by
      rintro rfl
      simp [Dict.contains, hbody] at hnew
    rw [Dict.get?_insert, if_neg hne, hbody]
  · exact extends_of_eq rfl

theorem extends_start {kind : BlockKind} {name : Text}
    (h : d.start fileAlias kind name = .ok d') : d.Extends d' := by
  obtain ⟨d₁, hclose, hd'⟩ := exists_of_bind_eq_ok h
  obtain rfl := Except.ok.inj hd'
  exact (extends_close hclose).trans (extends_of_eq rfl)

/-- A line of a body can only add to the open block, or close it then. -/
theorem bodyLine_cases {l : Text} (h : d.bodyLine fileAlias terminator l = .ok d') :
    d' = d ∨ ∃ b body, d.current = some b ∧
      (d' = { d with current := some { b with body } } ∨
        close fileAlias { d with current := some { b with body } } = .ok d') := by
  rw [bodyLine] at h
  split at h
  · exact .inl (Except.ok.inj h).symm
  · rename_i b hcurrent
    split at h
    · exact .inl (Except.ok.inj h).symm
    · dsimp only at h
      split at h
      · exact .inr ⟨b, _, hcurrent, .inl (Except.ok.inj h).symm⟩
      · exact .inr ⟨b, _, hcurrent, .inr h⟩

theorem extends_bodyLine {l : Text} (h : d.bodyLine fileAlias terminator l = .ok d') :
    d.Extends d' := by
  rcases bodyLine_cases h with rfl | ⟨b, body, -, rfl | hclose⟩
  · exact extends_of_eq rfl
  · exact extends_of_eq rfl
  · intro name entry hentry
    exact extends_close hclose name entry hentry

/-- A description changes nothing but descriptions. -/
theorem fragments_describe (d : Draft) (ls : List Text) :
    (d.describe ls).fragments = d.fragments := by
  rw [describe]
  split
  · split <;> rfl
  · rfl

/-- A line tells something about a description, opens a block, or is read as one of the body. -/
theorem line_cases {l : Text} (h : d.line fileAlias terminator l = .ok d') :
    (∃ comment ls, d' = Draft.describe { d with comment } ls) ∨
      (∃ comment, d' = { d with comment }) ∨
      (∃ kind name, header? l.trim = some (kind, name) ∧ d.start fileAlias kind name = .ok d') ∨
      d.bodyLine fileAlias terminator l = .ok d' := by
  rw [line] at h
  split at h
  · split at h
    · exact .inl ⟨_, _, (Except.ok.inj h).symm⟩
    · exact .inr (.inl ⟨_, (Except.ok.inj h).symm⟩)
  · split at h
    · split at h
      · exact .inl ⟨d.comment, _, (Except.ok.inj h).symm⟩
      · exact .inr (.inl ⟨_, (Except.ok.inj h).symm⟩)
    · split at h
      · rename_i kind name hheader
        exact .inr (.inr (.inl ⟨kind, name, hheader, h⟩))
      · exact .inr (.inr (.inr h))

theorem extends_line {l : Text} (h : d.line fileAlias terminator l = .ok d') : d.Extends d' := by
  rcases line_cases h with ⟨_, _, rfl⟩ | ⟨_, rfl⟩ | ⟨_, _, -, hstart⟩ | hbody
  · exact extends_of_eq (fragments_describe _ _)
  · exact extends_of_eq rfl
  · exact extends_start hstart
  · exact extends_bodyLine hbody

theorem extends_lines {ls : List Text} (h : d.lines fileAlias terminator ls = .ok d') :
    d.Extends d' := by
  induction ls generalizing d with
  | nil =>
    obtain rfl := Except.ok.inj h
    exact extends_of_eq rfl
  | cons l ls ih =>
    obtain ⟨d₁, hline, hls⟩ := exists_of_bind_eq_ok h
    exact (extends_line hline).trans (ih hls)

end Draft

theorem fragment_eq_ok_iff {fileAlias : Text} {parts : Dict Text} {name description body : Text}
    {f : Fragment} :
    fragment fileAlias parts name description body = .ok f ↔
      f.fileAlias = fileAlias ∧ f.name = name ∧ f.source = inlineParts parts body ∧
        f.description = description ∧ Template.parse f.source = .ok f.template := by
  rw [fragment]
  constructor
  · intro h
    split at h
    · rename_i template hparse
      obtain rfl := Except.ok.inj h
      exact ⟨rfl, rfl, rfl, rfl, hparse⟩
    · cases h
  · obtain ⟨fileAlias, name, source, description, template⟩ := f
    rintro ⟨rfl, rfl, rfl, rfl, hparse⟩
    dsimp only at hparse ⊢
    rw [hparse]

section

variable {fileAlias : Text} {parts : Dict Text} {drafts : List (Text × Text × Text)}
  {fs : List (Text × Fragment)}

theorem exists_makeFragments_eq_ok (fileAlias : Text)
    (h : ∀ d ∈ drafts, (Template.parse (inlineParts parts d.2.2)).isOk) :
    ∃ fs, makeFragments fileAlias parts drafts = .ok fs := by
  induction drafts with
  | nil => exact ⟨[], rfl⟩
  | cons d drafts ih =>
    obtain ⟨hd, hdrafts⟩ := List.forall_mem_cons.1 h
    obtain ⟨name, description, body⟩ := d
    obtain ⟨template, htemplate⟩ := exists_of_isOk hd
    obtain ⟨fs, hfs⟩ := ih hdrafts
    have hf : fragment fileAlias parts name description body =
        .ok ⟨fileAlias, name, inlineParts parts body, description, template⟩ :=
      fragment_eq_ok_iff.2 ⟨rfl, rfl, rfl, rfl, htemplate⟩
    exact ⟨_, by rw [makeFragments, hf, hfs]; rfl⟩

/-- Each body becomes the fragment of its name. -/
theorem makeFragments_spec (h : makeFragments fileAlias parts drafts = .ok fs) :
    fs.map Prod.fst = drafts.map Prod.fst ∧
      ∀ d ∈ drafts, ∃ f, (d.1, f) ∈ fs ∧ fragment fileAlias parts d.1 d.2.1 d.2.2 = .ok f := by
  induction drafts generalizing fs with
  | nil =>
    obtain rfl := Except.ok.inj h
    simp
  | cons d drafts ih =>
    obtain ⟨name, description, body⟩ := d
    obtain ⟨f, hf, hrest⟩ := exists_of_bind_eq_ok h
    obtain ⟨more, hmore, hfs⟩ := exists_of_bind_eq_ok hrest
    obtain rfl := Except.ok.inj hfs
    obtain ⟨hkeys, hmem⟩ := ih hmore
    refine ⟨by simp [hkeys], fun d hd => ?_⟩
    rcases List.mem_cons.1 hd with rfl | hd
    · exact ⟨f, List.mem_cons_self, hf⟩
    · obtain ⟨g, hg, hfragment⟩ := hmem d hd
      exact ⟨g, List.mem_cons_of_mem _ hg, hfragment⟩

/-- The fragments made of a map of bodies are found under the names of the bodies. -/
theorem get?_of_makeFragments {bodies : Dict (Text × Text)}
    (h : makeFragments fileAlias parts bodies.entries = .ok fs) {name description body : Text}
    (hbody : (name, description, body) ∈ bodies.entries) :
    ∃ f, (Dict.ofList fs).get? name = some f ∧
      fragment fileAlias parts name description body = .ok f := by
  obtain ⟨hkeys, hmem⟩ := makeFragments_spec h
  obtain ⟨f, hf, hfragment⟩ := hmem _ hbody
  exact ⟨f, (Dict.get?_ofList (hkeys ▸ bodies.nodup_keys)).2 hf, hfragment⟩

/-- Each fragment is made of the body of its name. -/
theorem exists_of_get?_makeFragments {bodies : Dict (Text × Text)}
    (h : makeFragments fileAlias parts bodies.entries = .ok fs) {name : Text} {f : Fragment}
    (hf : (Dict.ofList fs).get? name = some f) :
    ∃ description body, bodies.get? name = some (description, body) ∧
      fragment fileAlias parts name description body = .ok f := by
  have hname : name ∈ bodies.entries.map Prod.fst :=
    (makeFragments_spec h).1 ▸ List.mem_map_of_mem (Dict.mem_of_get?_ofList hf)
  obtain ⟨⟨_, description, body⟩, hbody, rfl⟩ := List.mem_map.1 hname
  obtain ⟨g, hg, hfragment⟩ := get?_of_makeFragments h hbody
  obtain rfl := Option.some.inj (hf.symm.trans hg)
  exact ⟨description, body, Dict.get?_of_mem hbody, hfragment⟩

end

/-- Each fragment of a file is made of the body that was entered under its name. -/
theorem exists_of_get?_ofText {fileAlias text terminator name : Text} {file : SqlFile}
    {f : Fragment} (h : ofText fileAlias text terminator = .ok file)
    (hf : file.fragments.get? name = some f) :
    ∃ d d' description body, Draft.lines fileAlias terminator .empty text.lines = .ok d ∧
      d.close fileAlias = .ok d' ∧ d'.fragments.get? name = some (description, body) ∧
      fragment fileAlias d'.parts name description body = .ok f ∧ file.parts = d'.parts := by
  obtain ⟨d, hlines, h⟩ := exists_of_bind_eq_ok h
  obtain ⟨d', hclose, h⟩ := exists_of_bind_eq_ok h
  obtain ⟨_, hmake, h⟩ := exists_of_bind_eq_ok h
  obtain rfl := Except.ok.inj h
  obtain ⟨description, body, hbody, hfragment⟩ := exists_of_get?_makeFragments hmake hf
  exact ⟨d, d', description, body, hlines, hclose, hbody, hfragment, rfl⟩

end SqlTemplate.SqlFile
