import SqlTemplate.Proofs.FragmentBody

/-!
The headers of a file.  The blocks that are read of a file are the ones that its header lines name,
apart from the header lines in descriptions; a name that comes twice in its kind is an error.  A
description that is never closed takes the rest of the file.
-/
namespace SqlTemplate

theorem Dict.keys_insert_perm {α : Type} {d : Dict α} {key : Text} (h : d.contains key = false)
    (value : α) : (d.insert key value).keys.Perm (key :: d.keys) := by
  have hnew : key ∉ d.keys := fun hmem => by
    rw [(d.contains_iff key).2 hmem] at h
    cases h
  refine (List.perm_ext_iff_of_nodup (nodup_keys _) (d.nodup_keys.cons hnew)).2 fun k => ?_
  rw [← contains_iff, contains_insert, Bool.or_eq_true, beq_iff_eq, contains_iff, List.mem_cons,
    eq_comm]

namespace SqlFile

/-- Whether a description is open behind a line, by whether one is open in front of it. -/
def within : Bool → Text → Bool
  | true, l => (Text.dropBack? ['#', '*', '/'] l.trim).isNone
  | false, l =>
    match Text.dropFront? ['/', '*', '#'] l.trim with
    | some rest => (Text.dropBack? ['#', '*', '/'] rest).isNone
    | none => false

/-- The header in a line that is not `inside` of a description. -/
def lineHeader (inside : Bool) (l : Text) : List (BlockKind × Text) :=
  if inside then [] else (header? l.trim).toList

/-- The headers outside of descriptions. -/
def headers : Bool → List Text → List (BlockKind × Text)
  | _, [] => []
  | inside, l :: ls => lineHeader inside l ++ headers (within inside l) ls

/-- The names of the headers of a kind. -/
def named (kind : BlockKind) (hs : List (BlockKind × Text)) : List Text :=
  (hs.filter (·.1 = kind)).map Prod.snd

theorem header?_of_description {l rest : Text}
    (h : Text.dropFront? ['/', '*', '#'] l = some rest) : header? l = none := by
  obtain rfl := Text.eq_append_of_dropFront? h
  have hskip : Text.skipBlanks ('#' :: rest) = '#' :: rest := by
    rw [Text.skipBlanks, List.dropWhile_cons_of_neg (by decide)]
  simp [header?, bracketed?, Text.dropFront?, hskip]

namespace Draft

variable {fileAlias terminator : Text} {d d' : Draft} {found found' : List (BlockKind × Text)}
  {inside : Bool}

/-- The blocks that have been entered, and the one that is open. -/
def blocks (d : Draft) : List (BlockKind × Text) :=
  d.fragments.keys.map (.fragment, ·) ++ d.parts.keys.map (.part, ·) ++
    (d.current.map fun b => (b.kind, b.name)).toList

theorem nodup_blocks (h : d.current = none) : d.blocks.Nodup := by
  have hpair (kind : BlockKind) : Function.Injective (Prod.mk kind : Text → BlockKind × Text) :=
    fun _ _ => And.right ∘ Prod.mk.inj
  rw [blocks, h, Option.map_none, Option.toList_none, List.append_nil]
  refine (d.fragments.nodup_keys.map (hpair _)).append (d.parts.nodup_keys.map (hpair _)) ?_
  simp [List.disjoint_left]

/-- Whether the blocks of what has been read are these, unless one of them has come twice. -/
def Accounts (fileAlias : Text) (found : List (BlockKind × Text)) (inside : Bool) :
    Except Error Draft → Prop
  | .ok d => d.blocks.Perm found ∧ d.comment.isSome = inside
  | .error e =>
    ∃ kind name, e = .duplicateName kind fileAlias name ∧ 1 < found.count (kind, name)

theorem Accounts.perm {outcome : Except Error Draft} (h : Accounts fileAlias found inside outcome)
    (hperm : found.Perm found') : Accounts fileAlias found' inside outcome := by
  cases outcome with
  | ok d => exact ⟨h.1.trans hperm, h.2⟩
  | error e =>
    obtain ⟨kind, name, he, hcount⟩ := h
    exact ⟨kind, name, he, hperm.count_eq _ ▸ hcount⟩

theorem current_close (h : d.close fileAlias = .ok d') : d'.current = none := by
  rcases close_cases h with ⟨hnone, rfl⟩ | ⟨b, -, ⟨-, -, rfl⟩ | ⟨-, -, rfl⟩⟩
  · exact hnone
  · rfl
  · rfl

/-- Closing moves the open block to the ones that have been entered. -/
theorem blocks_close (h : d.close fileAlias = .ok d') : d'.blocks.Perm d.blocks := by
  rcases close_cases h with ⟨-, rfl⟩ | ⟨b, hb, ⟨hkind, hnew, rfl⟩ | ⟨hkind, hnew, rfl⟩⟩
  · exact .refl _
  · have hkeys := (Dict.keys_insert_perm hnew (b.description.getD [], Text.unlines b.body)).map
      (BlockKind.fragment, ·)
    simp only [blocks, hb, hkind, Option.map_some, Option.map_none, Option.toList_some,
      Option.toList_none, List.append_nil]
    exact (hkeys.append_right _).trans (List.perm_append_singleton _ _).symm
  · have hkeys := (Dict.keys_insert_perm hnew (Text.unlines b.body)).map (BlockKind.part, ·)
    simp only [blocks, hb, hkind, Option.map_some, Option.map_none, Option.toList_some,
      Option.toList_none, List.append_nil]
    rw [List.append_assoc]
    exact (hkeys.trans (List.perm_append_singleton _ _).symm).append_left _

/-- Only a name that has been entered keeps the open block out. -/
theorem close_error {e : Error} (h : d.close fileAlias = .error e) :
    ∃ kind name, e = .duplicateName kind fileAlias name ∧ 1 < d.blocks.count (kind, name) := by
  cases hcurrent : d.current with
  | none =>
    simp only [close, hcurrent] at h
    cases h
  | some b =>
    have hcount (hmem : (b.kind, b.name) ∈ d.fragments.keys.map (BlockKind.fragment, ·) ++
        d.parts.keys.map (BlockKind.part, ·)) : 1 < d.blocks.count (b.kind, b.name) := by
      have hpos := List.count_pos_iff.2 hmem
      simp only [blocks, hcurrent, Option.map_some, Option.toList_some, List.count_append,
        List.count_singleton_self] at hpos ⊢
      omega
    refine ⟨b.kind, b.name, ?_⟩
    cases hkind : b.kind with
    | fragment =>
      simp only [close, hcurrent, hkind] at h hcount
      split at h
      · rename_i hcontains
        refine ⟨(Except.error.inj h).symm, hcount ?_⟩
        exact List.mem_append_left _ (List.mem_map_of_mem ((Dict.contains_iff _ _).1 hcontains))
      · cases h
    | part =>
      simp only [close, hcurrent, hkind] at h hcount
      split at h
      · rename_i hcontains
        refine ⟨(Except.error.inj h).symm, hcount ?_⟩
        exact List.mem_append_right _ (List.mem_map_of_mem ((Dict.contains_iff _ _).1 hcontains))
      · cases h

theorem accounts_close (fileAlias : Text) (d : Draft) :
    Accounts fileAlias d.blocks d.comment.isSome (d.close fileAlias) := by
  cases hclose : d.close fileAlias with
  | ok d' => exact ⟨blocks_close hclose, by rw [comment_close hclose]⟩
  | error e => exact close_error hclose

theorem accounts_start (fileAlias : Text) (d : Draft) (kind : BlockKind) (name : Text) :
    Accounts fileAlias (d.blocks ++ [(kind, name)]) d.comment.isSome
      (d.start fileAlias kind name) := by
  rw [start]
  cases hclose : d.close fileAlias with
  | ok d' =>
    refine ⟨?_, by rw [← comment_close hclose]⟩
    have hblocks := blocks_close hclose
    rw [blocks, current_close hclose, Option.map_none, Option.toList_none, List.append_nil]
      at hblocks
    exact hblocks.append_right _
  | error e =>
    obtain ⟨kind', name', he, hcount⟩ := close_error hclose
    exact ⟨kind', name', he, hcount.trans_le ((List.sublist_append_left _ _).count_le _)⟩

theorem blocks_describe (d : Draft) (ls : List Text) : (d.describe ls).blocks = d.blocks := by
  rw [describe]
  split
  · rename_i b hcurrent
    split
    · simp [blocks, hcurrent]
    · rfl
  · rfl

/-- A line of a body leaves the blocks as they are, or closes the open one. -/
theorem bodyLine_eq (fileAlias terminator : Text) (d : Draft) (l : Text) :
    ∃ d₁ : Draft, d₁.blocks = d.blocks ∧ d₁.comment = d.comment ∧
      (d.bodyLine fileAlias terminator l = .ok d₁ ∨
        d.bodyLine fileAlias terminator l = d₁.close fileAlias) := by
  rw [bodyLine]
  split
  · exact ⟨d, rfl, rfl, .inl rfl⟩
  · rename_i b hcurrent
    split
    · exact ⟨d, rfl, rfl, .inl rfl⟩
    · dsimp only
      split
      · refine ⟨{ d with current := some { b with body := _ } }, ?_, rfl, .inl rfl⟩
        simp [blocks, hcurrent]
      · refine ⟨{ d with current := some { b with body := _ } }, ?_, rfl, .inr rfl⟩
        simp [blocks, hcurrent]

theorem accounts_bodyLine (fileAlias terminator : Text) (d : Draft) (l : Text) :
    Accounts fileAlias d.blocks d.comment.isSome (d.bodyLine fileAlias terminator l) := by
  obtain ⟨d₁, hblocks, hcomment, h | h⟩ := bodyLine_eq fileAlias terminator d l
  · rw [h]
    exact ⟨.of_eq hblocks, by rw [hcomment]⟩
  · rw [h, ← hblocks, ← hcomment]
    exact accounts_close fileAlias d₁

/-- A line adds its header to the blocks. -/
theorem accounts_line (fileAlias terminator : Text) (d : Draft) (l : Text) :
    Accounts fileAlias (d.blocks ++ lineHeader d.comment.isSome l) (within d.comment.isSome l)
      (d.line fileAlias terminator l) := by
  cases hcomment : d.comment with
  | some lines =>
    rw [Option.isSome_some, lineHeader, if_pos rfl, List.append_nil]
    cases hback : Text.dropBack? ['#', '*', '/'] l.trim with
    | some last =>
      rw [line_of_closing hcomment hback, within, hback]
      exact ⟨.of_eq (blocks_describe _ _), by rw [comment_describe]; rfl⟩
    | none =>
      rw [line_of_inside hcomment hback, within, hback]
      exact ⟨.refl _, rfl⟩
  | none =>
    rw [Option.isSome_none, lineHeader, if_neg Bool.false_ne_true]
    cases hfront : Text.dropFront? ['/', '*', '#'] l.trim with
    | some rest =>
      rw [header?_of_description hfront, Option.toList_none, List.append_nil]
      cases hback : Text.dropBack? ['#', '*', '/'] rest with
      | some text =>
        rw [line_of_description hcomment hfront hback]
        refine ⟨.of_eq (blocks_describe _ _), ?_⟩
        simp [within, hfront, hback, comment_describe, hcomment]
      | none =>
        rw [line_of_opening hcomment hfront hback]
        exact ⟨.refl _, by simp [within, hfront, hback]⟩
    | none =>
      have hinside : within false l = d.comment.isSome := by rw [within, hfront, hcomment]; rfl
      rw [hinside]
      cases hheader : header? l.trim with
      | some header =>
        rw [line_of_header hcomment hfront hheader]
        exact accounts_start fileAlias d header.1 header.2
      | none =>
        rw [line_of_body hcomment hfront hheader, Option.toList_none, List.append_nil]
        exact accounts_bodyLine fileAlias terminator d l

/-- The blocks of a file are its headers. -/
theorem accounts_lines (fileAlias terminator : Text) (d : Draft) (ls : List Text) :
    Accounts fileAlias (d.blocks ++ headers d.comment.isSome ls)
      (ls.foldl within d.comment.isSome) (d.lines fileAlias terminator ls) := by
  induction ls generalizing d with
  | nil =>
    rw [headers, List.append_nil]
    exact ⟨.refl _, rfl⟩
  | cons l ls ih =>
    have hfirst := accounts_line fileAlias terminator d l
    rw [lines, headers, ← List.append_assoc, List.foldl_cons]
    cases hline : d.line fileAlias terminator l with
    | ok d₁ =>
      rw [hline] at hfirst
      have hrest := ih d₁
      rw [hfirst.2] at hrest
      exact hrest.perm (hfirst.1.append_right _)
    | error e =>
      rw [hline] at hfirst
      obtain ⟨kind, name, he, hcount⟩ := hfirst
      exact ⟨kind, name, he, hcount.trans_le ((List.sublist_append_left _ _).count_le _)⟩

/-! Descriptions that are never closed. -/

/-- Lines that do not close an open description change nothing but the description. -/
theorem exists_lines_inside {ls opened : List Text} (hcomment : d.comment = some opened)
    (h : ∀ l ∈ ls, within true l) :
    ∃ comment, d.lines fileAlias terminator ls = .ok { d with comment } := by
  induction ls generalizing d opened with
  | nil => exact ⟨d.comment, rfl⟩
  | cons l ls ih =>
    obtain ⟨hl, hls⟩ := List.forall_mem_cons.1 h
    rw [lines_cons_of_ok (line_of_inside hcomment (Option.isNone_iff_eq_none.1 hl))]
    exact ih rfl hls

theorem exists_line_opening (hcomment : d.comment = none) {l : Text} (h : within false l) :
    ∃ opened, d.line fileAlias terminator l = .ok { d with comment := some opened } := by
  simp only [within] at h
  split at h
  · rename_i rest hfront
    exact ⟨_, line_of_opening hcomment hfront (Option.isNone_iff_eq_none.1 h)⟩
  · cases h

end Draft

/-- Whether the last description in a text is never closed. -/
def EndsWithin (ls : List Text) : Prop := ls.foldl within false = true

instance (ls : List Text) : Decidable (EndsWithin ls) :=
  inferInstanceAs (Decidable (_ = true))

/-- A description that is never closed starts in some line. -/
theorem EndsWithin.exists_opening {ls : List Text} (h : EndsWithin ls) :
    ∃ front opening behind, ls = front ++ opening :: behind ∧ ¬EndsWithin front ∧
      within false opening ∧ ∀ l ∈ behind, within true l := by
  induction ls using List.reverseRecOn with
  | nil => cases h
  | append_singleton ls l ih =>
    rw [EndsWithin, List.foldl_append, List.foldl_cons, List.foldl_nil] at h
    by_cases hls : EndsWithin ls
    · obtain ⟨front, opening, behind, rfl, hfront, hopening, hbehind⟩ := ih hls
      rw [hls] at h
      refine ⟨front, opening, behind ++ [l], by simp, hfront, hopening, ?_⟩
      simpa [or_imp, forall_and, h] using hbehind
    · rw [(Bool.eq_false_or_eq_true _).resolve_left hls] at h
      exact ⟨ls, l, [], rfl, hls, h, by simp⟩

/-- What is read of the lines of a file. -/
def ofLines (fileAlias : Text) (ls : List Text) (terminator : Text) : Except Error SqlFile := do
  let d ← Draft.lines fileAlias terminator .empty ls
  let d ← d.close fileAlias
  let fragments ← makeFragments fileAlias d.parts d.fragments.entries
  return ⟨fileAlias, [], none, .ofList fragments, d.parts⟩

theorem ofText_eq_ofLines (fileAlias text terminator : Text) :
    ofText fileAlias text terminator = ofLines fileAlias text.lines terminator := rfl

variable {fileAlias terminator : Text}

theorem Draft.lines_append (d : Draft) (ls ms : List Text) :
    d.lines fileAlias terminator (ls ++ ms) =
      d.lines fileAlias terminator ls >>= fun d' => d'.lines fileAlias terminator ms := by
  induction ls generalizing d with
  | nil => rfl
  | cons l ls ih => simp only [List.cons_append, lines, ih, bind_assoc]

/-- The lines of a description that is never closed count for nothing. -/
theorem ofLines_of_open {front behind : List Text} {opening : Text} (hfront : ¬EndsWithin front)
    (hopening : within false opening) (hbehind : ∀ l ∈ behind, within true l) :
    ofLines fileAlias (front ++ opening :: behind) terminator =
      ofLines fileAlias front terminator := by
  rw [ofLines, ofLines, Draft.lines_append, bind_assoc]
  have hread := Draft.accounts_lines fileAlias terminator .empty front
  cases hlines : Draft.lines fileAlias terminator .empty front with
  | error e => rfl
  | ok d =>
    rw [hlines] at hread
    have hcomment : d.comment = none := by
      rw [← Option.not_isSome_iff_eq_none, hread.2]
      exact hfront
    obtain ⟨opened, hline⟩ : ∃ opened, d.line fileAlias terminator opening = _ :=
      Draft.exists_line_opening hcomment hopening
    obtain ⟨comment, hinside⟩ : ∃ comment, Draft.lines fileAlias terminator _ behind = _ :=
      Draft.exists_lines_inside (d := { d with comment := some opened }) rfl hbehind
    simp only [bind, Except.bind, Draft.lines_cons_of_ok hline, hinside, Draft.close_withComment]
    cases d.close fileAlias <;> rfl

theorem Draft.exists_of_closed {d d' : Draft} {found : List (BlockKind × Text)} {inside : Bool}
    (h : Accounts fileAlias found inside (.ok d)) (hclose : d.close fileAlias = .ok d') :
    found.Nodup ∧ d'.fragments.keys.Perm (named .fragment found) ∧
      d'.parts.keys.Perm (named .part found) := by
  have hcurrent := current_close hclose
  have hperm := (blocks_close hclose).trans h.1
  have hnamed (kind : BlockKind) := ((hperm.filter (·.1 = kind)).map Prod.snd)
  have hfragments := hnamed .fragment
  have hparts := hnamed .part
  simp only [blocks, hcurrent, Option.map_none, Option.toList_none, List.append_nil,
    List.filter_append, List.filter_map, List.map_append, List.map_map] at hfragments hparts
  refine ⟨hperm.nodup_iff.1 (nodup_blocks hcurrent), ?_, ?_⟩
  · simpa [named, Function.comp_def] using hfragments
  · simpa [named, Function.comp_def] using hparts

theorem keys_of_makeFragments {parts : Dict Text} {bodies : Dict (Text × Text)}
    {fs : List (Text × Fragment)} (h : makeFragments fileAlias parts bodies.entries = .ok fs) :
    (Dict.ofList fs).keys = bodies.keys := by
  have hkeys := (makeFragments_spec h).1
  have hascending : Entries.Ascending fs := by
    refine List.pairwise_map.1 ?_
    rw [hkeys]
    exact List.pairwise_map.2 bodies.ascending
  rw [Dict.keys, Dict.entries_ofList hascending, hkeys, Dict.keys]

theorem fragment_error {parts : Dict Text} {name description body : Text} {e : Error}
    (h : fragment fileAlias parts name description body = .error e) :
    ∃ name problem, e = .badFragment name problem := by
  rw [fragment] at h
  split at h
  · cases h
  · exact ⟨_, _, (Except.error.inj h).symm⟩

/-- Making fragments fails only for a directive in one of them. -/
theorem makeFragments_error {parts : Dict Text} {bodies : List (Text × Text × Text)} {e : Error}
    (h : makeFragments fileAlias parts bodies = .error e) :
    ∃ name problem, e = .badFragment name problem := by
  induction bodies with
  | nil => cases h
  | cons b bodies ih =>
    obtain ⟨name, description, body⟩ := b
    rw [makeFragments] at h
    cases hf : fragment fileAlias parts name description body with
    | error e' =>
      rw [hf] at h
      obtain rfl := Except.error.inj h
      exact fragment_error hf
    | ok f =>
      rw [hf] at h
      cases hmore : makeFragments fileAlias parts bodies with
      | error e' =>
        rw [hmore] at h
        obtain rfl := Except.error.inj h
        exact ih hmore
      | ok more =>
        rw [hmore] at h
        cases h

/-- A file is read, or a name comes twice, or a directive is wrong. -/
theorem ofLines_cases (fileAlias : Text) (ls : List Text) (terminator : Text) :
    (∃ kind name, ofLines fileAlias ls terminator = .error (.duplicateName kind fileAlias name) ∧
      1 < (headers false ls).count (kind, name)) ∨
    (headers false ls).Nodup ∧
      ((∃ name problem, ofLines fileAlias ls terminator = .error (.badFragment name problem)) ∨
        ∃ file, ofLines fileAlias ls terminator = .ok file ∧
          file.fragments.keys.Perm (named .fragment (headers false ls)) ∧
          file.parts.keys.Perm (named .part (headers false ls))) := by
  have hread : Draft.Accounts fileAlias (headers false ls) _ _ :=
    Draft.accounts_lines fileAlias terminator .empty ls
  rw [ofLines]
  cases hlines : Draft.lines fileAlias terminator .empty ls with
  | error e =>
    rw [hlines] at hread
    obtain ⟨kind, name, rfl, hcount⟩ := hread
    exact .inl ⟨kind, name, rfl, hcount⟩
  | ok d =>
    rw [hlines] at hread
    have hclosed := Draft.accounts_close fileAlias d
    cases hclose : d.close fileAlias with
    | error e =>
      rw [hclose] at hclosed
      obtain ⟨kind, name, rfl, hcount⟩ := hclosed.perm hread.1
      exact .inl ⟨kind, name, by simp only [bind, Except.bind, hclose], hcount⟩
    | ok d' =>
      obtain ⟨hnodup, hfragments, hparts⟩ := Draft.exists_of_closed hread hclose
      refine .inr ⟨hnodup, ?_⟩
      cases hmake : makeFragments fileAlias d'.parts d'.fragments.entries with
      | error e =>
        obtain ⟨name, problem, rfl⟩ := makeFragments_error hmake
        exact .inl ⟨name, problem, by simp only [bind, Except.bind, hclose, hmake]⟩
      | ok fs =>
        refine .inr ⟨⟨fileAlias, [], none, .ofList fs, d'.parts⟩, ?_, ?_, hparts⟩
        · simp only [bind, Except.bind, hclose, hmake]
          rfl
        · rwa [keys_of_makeFragments hmake]

/-- What becomes of the headers of a text.  A file that is read has one fragment and one part for
each header of the kind outside of descriptions.  If a name comes twice in its kind, that is an
error, and no other text gives this error.  A text with a description that is never closed is read
like the lines in front of that description. -/
theorem keys_ofText (fileAlias text terminator : Text) :
    (∀ file, ofText fileAlias text terminator = .ok file →
      file.fragments.keys.Perm (named .fragment (headers false text.lines)) ∧
      file.parts.keys.Perm (named .part (headers false text.lines))) ∧
    (¬(headers false text.lines).Nodup → ∃ kind name,
      ofText fileAlias text terminator = .error (.duplicateName kind fileAlias name)) ∧
    (∀ kind name, ofText fileAlias text terminator = .error (.duplicateName kind fileAlias name) →
      1 < (headers false text.lines).count (kind, name)) ∧
    (EndsWithin text.lines →
      ∃ front opening behind, text.lines = front ++ opening :: behind ∧ ¬EndsWithin front ∧
        within false opening ∧ (∀ l ∈ behind, within true l) ∧
        ofText fileAlias text terminator = ofLines fileAlias front terminator) := by
  simp only [ofText_eq_ofLines]
  have hcases := ofLines_cases fileAlias text.lines terminator
  refine ⟨fun file h => ?_, fun h => ?_, fun kind name h => ?_, fun h => ?_⟩
  · obtain ⟨_, _, herror, -⟩ | ⟨-, ⟨_, _, herror⟩ | ⟨_, hfile, hkeys⟩⟩ := hcases
    · cases h.symm.trans herror
    · cases h.symm.trans herror
    · obtain rfl := Except.ok.inj (h.symm.trans hfile)
      exact hkeys
  · obtain ⟨kind, name, herror, -⟩ | ⟨hnodup, -⟩ := hcases
    · exact ⟨kind, name, herror⟩
    · exact absurd hnodup h
  · obtain ⟨_, _, herror, hcount⟩ | ⟨-, ⟨_, _, herror⟩ | ⟨_, hfile, -⟩⟩ := hcases
    · cases h.symm.trans herror
      exact hcount
    · cases h.symm.trans herror
    · cases h.symm.trans hfile
  · obtain ⟨front, opening, behind, hlines, hfront, hopening, hbehind⟩ := h.exists_opening
    refine ⟨front, opening, behind, hlines, hfront, hopening, hbehind, ?_⟩
    rw [hlines, ofLines_of_open hfront hopening hbehind]

/-- A description that takes the only fragment of a file. -/
theorem not_forall_error_of_endsWithin :
    ¬∀ fileAlias text terminator : Text, EndsWithin text.lines →
      ∃ e, ofText fileAlias text terminator = .error e := by
  intro h
  obtain ⟨e, he⟩ := h "u".toList "/*# open\n/*[a]*/\nselect 1;".toList [';'] (by decide +kernel)
  have hread : (ofText "u".toList "/*# open\n/*[a]*/\nselect 1;".toList [';']).isOk := by
    decide +kernel
  rw [he] at hread
  cases hread

end SqlFile
end SqlTemplate
