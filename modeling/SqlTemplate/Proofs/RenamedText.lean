import SqlTemplate.Proofs.LineEnding
import SqlTemplate.Proofs.Naming
import SqlTemplate.Proofs.Rewriting
import SqlTemplate.Template.Render

/-!
Renaming in plain text.  The two passes over the text of a loop's element find what is read there as
placeholders and as parameters, and of these the ones whose first segment is a variable of the loop
get new names.  Everything else stays as it is.
-/
namespace SqlTemplate

/-- Plain text is text without regions. -/
theorem Segment.isPlain_iff {t : Text} : IsPlain t ↔ inertTexts (segments t) = [] := by
  constructor
  · intro h
    rw [segments_of_isPlain h]
    cases t <;> rfl
  · intro h
    have hcut := cut_segments t
    have htext := unsplit_segments t
    cases hs : segments t with
    | nil =>
      rw [hs] at htext
      obtain rfl : [] = t := htext
      exact isPlain_nil
    | cons s ss =>
      rw [hs] at h hcut htext
      cases s with
      | inert run => cases h
      | plain u =>
        obtain rfl : ss = [] := by
          cases ss with
          | nil => rfl
          | cons s ss =>
            cases s with
            | inert run => cases h
            | plain v => exact absurd rfl (hcut.2.2.1 v)
        obtain rfl : u = t := by simpa [Segment.text] using htext
        exact hcut.isPlain

/-- A colon in a placeholder is its mark, and if a name is read behind it, that is its own. -/
theorem Placeholder.Written.colon_cases {p : Placeholder} {w : Text} (h : p.Written w) :
    ':' ∉ w ∨ ∃ u v, w = u ++ ':' :: v ∧ (u ≠ [] ∧ ':' ∉ u) ∧ (v ≠ [] ∧ ':' ∉ v) ∧
      ∀ t, Name.read? (v ++ t) = none ∨ ∃ rest, Name.read? (v ++ t) = some (p.name, rest) := by
  cases h with
  | @intro mark name a b c hname ha hb hc =>
    have hopen : ':' ∉ '$' :: '\x7b' :: a := by
      simp only [List.mem_cons, not_or]
      exact ⟨by decide, by decide, fun h => (Parameter.ne_of_isBlank (ha _ h)).1 rfl⟩
    have hclose : ':' ∉ b ++ (name ++ (c ++ ['\x7d'])) := by
      simp only [List.mem_append, List.mem_singleton, not_or]
      exact ⟨fun h => (Parameter.ne_of_isBlank (hb _ h)).1 rfl,
        fun h => (Parameter.ne_of_mem_name hname h).1 rfl,
        fun h => (Parameter.ne_of_isBlank (hc _ h)).1 rfl, by decide⟩
    cases mark with
    | bare =>
      refine .inl ?_
      rw [Mark.text, List.nil_append, ← List.cons_append, ← List.cons_append, List.mem_append]
      exact not_or.2 ⟨hopen, hclose⟩
    | exclamation =>
      refine .inl ?_
      rw [Mark.text, ← List.cons_append, ← List.cons_append, List.mem_append, List.mem_append]
      exact not_or.2 ⟨hopen, not_or.2 ⟨by decide, hclose⟩⟩
    | colon =>
      refine .inr ⟨'$' :: '\x7b' :: a, b ++ (name ++ (c ++ ['\x7d'])), rfl, ⟨by simp, hopen⟩,
        ⟨by simp, hclose⟩, fun t => ?_⟩
      cases b with
      | nil =>
        have hread := Name.read?_of_isName hname (stops_blanks hc t)
        exact .inr ⟨c ++ '\x7d' :: t, by simpa using hread⟩
      | cons x b =>
        refine .inl (Name.read?_eq_none_iff.2 fun hstart => ?_)
        have hblank := hb x List.mem_cons_self
        rw [Name.isBlank_of_isStart (by simpa using hstart)] at hblank
        cases hblank

theorem Placeholder.ascii_plain (mark : Mark) {name : Text} (h : Name.IsName name) {c : Char}
    (hc : c ∈ plain mark name) : c.toNat < 128 := by
  simp only [plain, List.mem_cons, List.mem_append, List.not_mem_nil, or_false] at hc
  rcases hc with rfl | rfl | hc | hc | rfl
  · decide
  · decide
  · cases mark <;> simp [Mark.text] at hc <;> subst hc <;> decide
  · rcases h.mem hc with hpart | rfl
    · exact Name.isPart_ascii hpart
    · decide
  · decide

namespace Template

namespace Reference

open Name (root)
open Placeholder (Written)

variable {vars : List Text} {last : Option Char} {p : Placeholder} {w cs t : Text}

/-- What one variable finds in braces, behind the mark. -/
def readInBraces? (mark : Mark) (v cs : Text) : Option (Mark × Reference × Text) :=
  match Text.dropFront? v cs with
  | some rest =>
    let (segments, rest) := Name.path rest
    match Text.skipBlanks rest with
    | '}' :: rest => some (mark, ⟨v, Name.dotted segments⟩, rest)
    | _ => none
  | none => none

theorem readPlaceholder?_eq (vars : List Text) (cs : Text) :
    readPlaceholder? vars ('$' :: '\x7b' :: cs) = vars.findSome? fun v =>
      readInBraces? (Mark.read (Text.skipBlanks cs)).1 v
        (Text.skipBlanks (Mark.read (Text.skipBlanks cs)).2) := rfl

theorem skipBlanks_of_isPart (h : t.head?.any Name.isPart) : Text.skipBlanks t = t := by
  refine Text.skipBlanks_of_head fun c hc => ?_
  rw [hc] at h
  rw [Bool.eq_false_iff]
  intro hblank
  have hpart : Name.isPart c = false := Unicode.eq_false_of_isBlank (by decide) hblank
  rw [Option.any_some, hpart] at h
  cases h

/-- Where nothing but blanks is between a name and the brace, it is found by its root. -/
theorem readInBraces?_of_name {v name c : Text} (hv : Name.IsWord v) (hname : Name.IsName name)
    (hc : ∀ x ∈ c, Unicode.isBlank x) (mark : Mark) (rest : Text) :
    readInBraces? mark v (name ++ (c ++ '\x7d' :: rest)) =
      if root name = v then some (mark, ofName name, rest) else none := by
  obtain ⟨w, segments, rfl, hw, hsegments⟩ := hname
  have hstops := Placeholder.stops_blanks hc rest
  have hstop := Name.dotted_head segments hstops.head
  rw [readInBraces?, Name.root_word hw, List.append_assoc]
  cases hd : Text.dropFront? v (w ++ (Name.dotted segments ++ (c ++ '\x7d' :: rest))) with
  | none =>
    have hne : w ≠ v := by
      rintro rfl
      rw [Text.dropFront?_append] at hd
      cases hd
    rw [if_neg hne]
  | some tail =>
    have htail := Text.eq_append_of_dropFront? hd
    rcases root_eq_or_isPart hv hw hstop htail.symm with ⟨rfl, rfl⟩ | ⟨hne, hpart⟩
    · have hclose : Text.skipBlanks (c ++ '\x7d' :: rest) = '\x7d' :: rest :=
        Text.skipBlanks_append hc (by rintro x ⟨⟩; decide)
      simp only [Name.path_dotted hsegments hstops, hclose]
      rw [if_pos trivial, ofName, Name.root_word hw, Name.afterRoot_word hw]
    · simp only [Name.path_of_isPart hpart, skipBlanks_of_isPart hpart]
      rw [if_neg (Ne.symm hne)]
      split
      · cases hpart
      · rfl

/-- What is found in braces is a name with nothing but blanks behind it. -/
theorem name_of_readInBraces? {mark m : Mark} {v rest : Text} {r : Reference} (hv : Name.IsWord v)
    (h : readInBraces? mark v cs = some (m, r, rest)) :
    ∃ tail, Name.read? cs = some (r.text, tail) ∧ Text.skipBlanks tail = '\x7d' :: rest := by
  unfold readInBraces? at h
  split at h
  · rename_i tail htail
    dsimp only at h
    split at h
    · rename_i rest' hclose
      obtain ⟨rfl, hr⟩ := Prod.mk.inj (Option.some.inj h)
      obtain ⟨rfl, rfl⟩ := Prod.mk.inj hr
      have hstart : ¬tail.head?.any Name.isPart := by
        intro hpart
        rw [Name.path_of_isPart hpart, skipBlanks_of_isPart hpart] at hclose
        rw [hclose] at hpart
        cases hpart
      obtain ⟨hsegments, hstops⟩ := Name.path_spec hstart
      refine ⟨(Name.path tail).2, ?_, hclose⟩
      have hname : Name.IsName (v ++ Name.dotted (Name.path tail).1) := ⟨v, _, rfl, hv, hsegments⟩
      rw [Text.eq_append_of_dropFront? htail, text]
      conv => lhs; rw [← Name.path_append tail, ← List.append_assoc]
      exact Name.read?_of_isName hname hstops
    · cases h
  · cases h

/-- A placeholder is one of a variable if that is the root of its name. -/
theorem readPlaceholder?_of_written (hvars : ∀ v ∈ vars, Name.IsWord v) (hw : Written p w)
    (rest : Text) : readPlaceholder? vars (w ++ rest) =
      if root p.name ∈ vars then some (p.mark, ofName p.name, rest) else none := by
  cases hw with
  | @intro mark name a b c hname ha hb hc =>
    obtain ⟨hmark, hskip⟩ := Placeholder.skipBlanks_mark mark ha hb
      (Placeholder.head_name hname (c ++ '\x7d' :: rest))
    simp only [List.cons_append, List.append_assoc, List.nil_append]
    rw [readPlaceholder?_eq, hmark, hskip]
    exact findSome?_eq_ite fun v hv => readInBraces?_of_name (hvars v hv) hname hc mark rest

theorem readPlaceholder?_of_none (hvars : ∀ v ∈ vars, Name.IsWord v)
    (h : Placeholder.read? cs = none) : readPlaceholder? vars cs = none := by
  rw [Option.eq_none_iff_forall_ne_some]
  rintro ⟨m, r, rest⟩ hsome
  obtain ⟨cs, rfl⟩ : ∃ cs', cs = '$' :: '\x7b' :: cs' := by
    unfold readPlaceholder? at hsome
    split at hsome
    · exact ⟨_, rfl⟩
    · cases hsome
  rw [readPlaceholder?_eq] at hsome
  obtain ⟨v, hv, hfound⟩ := List.exists_of_findSome?_eq_some hsome
  obtain ⟨tail, hname, hclose⟩ := name_of_readInBraces? (hvars v hv) hfound
  rw [Placeholder.read?] at h
  simp only [hname, hclose] at h
  cases h

/-- A placeholder of no variable is passed over by the search for placeholders. -/
theorem splitPlaceholders_written (hvars : ∀ v ∈ vars, Name.IsWord v) (hw : Written p w)
    (hp : root p.name ∉ vars) (t : Text) :
    splitPlaceholders vars (w ++ t) = w.map .char ++ splitPlaceholders vars t := by
  have hread := readPlaceholder?_of_written hvars hw t
  rw [if_neg hp] at hread
  obtain ⟨u, rfl, hu⟩ := hw.mem_tail
  have hdollar : '$' ∉ '\x7b' :: u := by
    intro hmem
    rcases List.mem_cons.1 hmem with h | h
    · cases h
    · exact (hu _ h).1 rfl
  rw [List.cons_append] at hread ⊢
  rw [splitPlaceholders_char hread, splitPlaceholders_text_append hdollar]
  rfl

/-- The mark of such a placeholder is no parameter's colon. -/
theorem splitParameters_written (hvars : ∀ v ∈ vars, Name.IsWord v) (hw : Written p w)
    (hp : root p.name ∉ vars) (hascii : ∀ c ∈ w ++ t, c.toNat < 128) :
    splitParameters ':' vars last (w ++ t) =
      w.map .char ++ splitParameters ':' vars (some '\x7d') t := by
  have hbrace : splitParameters ':' vars (some '\x7d') t = splitParameters ':' vars none t :=
    splitParameters_last fun h => by cases h
  rw [hbrace]
  rcases hw.colon_cases with hcolon | ⟨u, v, rfl, hu, hv, hread⟩
  · exact splitParameters_append_of_ne_nil hcolon hw.ne_nil t
  · have hnone : readParameter? vars (v ++ t) = none := by
      rcases hread t with hread | ⟨rest, hread⟩
      · exact readParameter?_of_none hvars hread
      · have hascii' : ∀ c ∈ v ++ t, c.toNat < 128 := fun c hc => hascii c (by
          rw [List.append_assoc]
          exact List.mem_append_right u (List.mem_cons_of_mem ':' hc))
        rw [readParameter?_of_name hvars hascii' hread, if_neg hp]
    rw [List.append_assoc, splitParameters_append_of_ne_nil hu.2 hu.1, List.cons_append,
      splitParameters_char fun _ => hnone, splitParameters_append_of_ne_nil hv.2 hv.1]
    simp

end Reference

/-- The variables of a loop are in scope in its elements. -/
theorem contains_elementScope {header : LoopHeader} {scope : Args} {item : Value} {position : Nat}
    {name : Text} (h : scope.contains name ∨ name ∈ header.vars) :
    (elementScope header scope item position).contains name := by
  rw [elementScope]
  cases hindex : header.index with
  | none =>
    rw [Dict.contains_insert, Bool.or_eq_true, beq_iff_eq]
    rcases h with h | h
    · exact Or.inr h
    · have : name = header.item := by simpa [LoopHeader.vars, hindex] using h
      exact Or.inl this.symm
  | some index =>
    rw [Dict.contains_insert, Dict.contains_insert]
    rcases h with h | h
    · simp [h]
    · have : name = header.item ∨ name = index := by simpa [LoopHeader.vars, hindex] using h
      rcases this with rfl | rfl <;> simp

namespace Naming

open Name (root)
open Placeholder (Written found)
open Reference (splitPlaceholders splitParameters)

variable {header : LoopHeader} {e : Element} {n n' n'' : Naming}

/-- The name given in the place of one whose first segment is a variable. -/
def newName (vars : List Text) (given : Dict Text) (name : Text) : Text :=
  if root name ∈ vars then (given.get? name).getD name else name

theorem newName_of_notMem {vars : List Text} (given : Dict Text) {name : Text}
    (h : root name ∉ vars) : newName vars given name = name := if_neg h

theorem newName_of_get? {vars : List Text} {given : Dict Text} {name new : Text}
    (h : root name ∈ vars) (hnew : given.get? name = some new) :
    newName vars given name = new := by rw [newName, if_pos h, hnew, Option.getD_some]

/-- What takes the place of a placeholder if the first segment of its name is a variable: one with
the same mark and another name. -/
def newPlaceholder (vars : List Text) (name : Text → Text) (p : Placeholder) : Option Text :=
  if root p.name ∈ vars then some (Placeholder.plain p.mark (name p.name)) else none

theorem isName_newName (hn : Named header e n) {name : Text} (hname : Name.IsName name) :
    Name.IsName (newName header.vars n.given name) := by
  rw [newName]
  split
  · cases hnew : n.given.get? name with
    | none => exact hname
    | some new => exact (hn.given name new hnew).1.isName
  · exact hname

/-- New names are names, so that what they are put into is read with them. -/
def rewording (hn : Named header e n) : Parameter.Rewording where
  name := newName header.vars n.given
  placeholder p := ⟨p.mark, newName header.vars n.given p.name⟩
  written := newPlaceholder header.vars (newName header.vars n.given)
  isName _ := isName_newName hn
  changed p v hname hv := by
    rw [newPlaceholder] at hv
    split at hv
    · obtain rfl := Option.some.inj hv
      exact Placeholder.written_plain p.mark (isName_newName hn hname)
    · cases hv
  kept p hp := by
    rw [newPlaceholder] at hp
    split at hp
    · cases hp
    · rename_i hroot
      rw [newName_of_notMem _ hroot]

/-- The first pass over plain text gives the placeholders of variables their new names.  What it
writes is the same under all names given later, as these only add to the ones it gives. -/
theorem writeAll_splitPlaceholders (hvars : ∀ v ∈ header.vars, Name.IsWord v) (t : Text)
    (hn : Named header e n) :
    ∃ n', Gives header e ((found t).map Placeholder.name) n n' ∧ ∃ u,
      writeAll header ':' e (splitPlaceholders header.vars t) n = (u, n') ∧
      ∀ m, (hm : Named header e m) → n'.given.Extends m.given →
        u = (rewording hm).onPlaceholders.text none t := by
  suffices hfill : ∃ n', Gives header e ((found t).map Placeholder.name) n n' ∧ ∃ u,
      writeAll header ':' e (splitPlaceholders header.vars t) n = (u, n') ∧
      ∀ m, (hm : Named header e m) → n'.given.Extends m.given →
        u = Placeholder.fill (rewording hm).written t by
    simpa only [Parameter.Rewording.text_onPlaceholders] using hfill
  induction t using Placeholder.split.induct generalizing n with
  | case1 t p rest h _ ih =>
    obtain ⟨w, rfl, hw, -⟩ := Placeholder.read?_change h
    have hread := Reference.readPlaceholder?_of_written hvars hw rest
    rw [Placeholder.found_written hw, List.map_cons]
    by_cases hroot : root p.name ∈ header.vars
    · obtain ⟨hgives, hnew⟩ := gives_nameOf hn hw.isName
      obtain ⟨n', hgives', u, heq, hu⟩ := ih hgives.named
      rw [if_pos hroot] at hread
      refine ⟨n', hgives.append hgives',
        Placeholder.plain p.mark (nameOf header e (.ofName p.name) n).1 ++ u, ?_,
        fun m hm hext => ?_⟩
      · rw [Reference.splitPlaceholders_reference hread, writeAll_cons, write_placeholder, heq]
      · have hname := newName_of_get? hroot (hext _ _ (hgives'.given _ _ hnew))
        have hwritten : (rewording hm).written p =
            some (Placeholder.plain p.mark (newName header.vars m.given p.name)) := if_pos hroot
        rw [Placeholder.fill_written hw, hu m hm hext, hwritten, hname, Option.getD_some]
    · obtain ⟨n', hgives, u, heq, hu⟩ := ih hn
      refine ⟨n', (Gives.other hn hroot).append hgives, w ++ u, ?_, fun m hm hext => ?_⟩
      · rw [Reference.splitPlaceholders_written hvars hw hroot, writeAll_text_append, heq]
      · have hwritten : (rewording hm).written p = none := if_neg hroot
        rw [Placeholder.fill_written hw, hu m hm hext, hwritten, Option.getD_none]
  | case2 =>
    rw [Reference.splitPlaceholders_nil]
    exact ⟨n, by simpa using Gives.nil hn, [], rfl, fun _ _ _ =>
      (Placeholder.fill_of_notMem _ (by simp)).symm⟩
  | case3 c rest h ih =>
    obtain ⟨n', hgives, u, heq, hu⟩ := ih hn
    rw [Placeholder.found_char h]
    refine ⟨n', hgives, c :: u, ?_, fun m hm hext => ?_⟩
    · rw [Reference.splitPlaceholders_char (Reference.readPlaceholder?_of_none hvars h),
        writeAll_cons, write_char, heq]
      rfl
    · rw [Placeholder.fill_char h, hu m hm hext]

/-- In plain text no parameter has a second colon in front: both would start a cast. -/
theorem ne_colon_of_isPlain {last : Option Char} {name rest : Text} (hname : Name.IsName name)
    (h : Segment.IsPlain (last.toList ++ ':' :: (name ++ rest))) : last ≠ some ':' := by
  rintro rfl
  obtain ⟨c, cs, rfl, hc⟩ := hname.head
  have hnone := h _ List.suffix_rfl
  rw [← Option.not_isSome_iff_eq_none, Segment.region?_isSome_iff] at hnone
  exact hnone (.inr (.inr (.inr ⟨c, hc, cs ++ rest, rfl⟩)))

open Parameter (splitPlain namesOf)

/-- The second pass gives the parameters of variables theirs, if there are no more placeholders of
variables. -/
theorem writeAll_splitParameters (hvars : ∀ v ∈ header.vars, Name.IsWord v)
    {last : Option Char} {t : Text} (hascii : ∀ c ∈ t, c.toNat < 128)
    (hplain : Segment.IsPlain (last.toList ++ t))
    (hfound : ∀ p ∈ found t, root p.name ∉ header.vars) (hn : Named header e n) :
    ∃ n', Gives header e (namesOf (splitPlain ':' last t)) n n' ∧ ∃ u,
      writeAll header ':' e (splitParameters ':' header.vars last t) n = (u, n') ∧
      ∀ m, (hm : Named header e m) → n'.given.Extends m.given →
        u = (rewording hm).onParameters.text last t := by
  -- piece by piece as parameters are read; the character in front counts for what is plain
  induction last, t using Parameter.splitPlain.induct ':' generalizing n with
  | case1 last t p rest h _ ih =>
    obtain ⟨w, rfl, hw, -⟩ := Placeholder.read?_change h
    rw [Placeholder.found_written hw] at hfound
    obtain ⟨hp, hrest⟩ := List.forall_mem_cons.1 hfound
    have hbrace : (some '\x7d').toList ++ rest <:+ last.toList ++ (w ++ rest) := by
      obtain ⟨w', rfl⟩ := List.getLast?_eq_some_iff.1 hw.getLast?
      exact ⟨last.toList ++ w', by simp⟩
    obtain ⟨n', hgives, u, heq, hu⟩ := ih
      (fun c hc => hascii c (List.mem_append_right w hc)) (hplain.suffix hbrace) hrest hn
    refine ⟨n', ?_, w ++ u, ?_, fun m hm hext => ?_⟩
    · rw [Parameter.splitPlain_written hw]
      exact hgives
    · rw [Reference.splitParameters_written hvars hw hp hascii, writeAll_text_append, heq]
    · rw [Parameter.Rewording.text_written _ hw, hu m hm hext]
      rfl
  | case2 last =>
    rw [Reference.splitParameters_nil, Parameter.splitPlain_nil]
    exact ⟨n, Gives.nil hn, [], rfl, fun m hm _ => (Parameter.Rewording.text_nil _).symm⟩
  | case3 last rest name rest' hname _ h ih =>
    obtain ⟨rfl, -⟩ := Name.read?_append hname
    have hisname := (Name.read?_spec hname).1
    have hlast := ne_colon_of_isPlain hisname hplain
    have hascii' : ∀ c ∈ name ++ rest', c.toNat < 128 :=
      fun c hc => hascii c (List.mem_cons_of_mem ':' hc)
    have hr := Reference.readParameter?_of_name hvars hascii' hname
    have hrest : name.getLast?.toList ++ rest' <:+ last.toList ++ ':' :: (name ++ rest') := by
      cases hend : name.getLast? with
      | none => exact ⟨last.toList ++ ':' :: name, by simp⟩
      | some c =>
        obtain ⟨init, rfl⟩ := List.getLast?_eq_some_iff.1 hend
        exact ⟨last.toList ++ ':' :: init, by simp⟩
    have hrestAscii : ∀ c ∈ rest', c.toNat < 128 :=
      fun c hc => hascii' c (List.mem_append_right name hc)
    rw [← List.cons_append, Placeholder.found_text_append
      (Parameter.dollar_notMem_parameter hisname)] at hfound
    rw [Parameter.splitPlain_name h hname, if_neg hlast]
    by_cases hroot : root name ∈ header.vars
    · obtain ⟨hgives, hnew⟩ := gives_nameOf hn hisname
      obtain ⟨n', hgives', u, heq, hu⟩ :=
        ih hrestAscii (hplain.suffix hrest) hfound hgives.named
      rw [if_pos hroot] at hr
      refine ⟨n', hgives.append hgives', ':' :: (nameOf header e (.ofName name) n).1 ++ u, ?_,
        fun m hm hext => ?_⟩
      · rw [Reference.splitParameters_reference hr, if_neg hlast, List.singleton_append,
          writeAll_cons, write_parameter, Reference.text_ofName, heq]
      · have hname' : (rewording hm).onParameters.name name =
            (nameOf header e (.ofName name) n).1 :=
          newName_of_get? hroot (hext _ _ (hgives'.given _ _ hnew))
        rw [Parameter.Rewording.text_name _ hname, if_neg hlast, hname', hu m hm hext]
        rfl
    · obtain ⟨n', hgives, u, heq, hu⟩ := ih hrestAscii (hplain.suffix hrest) hfound hn
      rw [if_neg hroot] at hr
      refine ⟨n', (Gives.other hn hroot).append hgives, ':' :: name ++ u, ?_, fun m hm hext => ?_⟩
      · rw [Reference.splitParameters_name hisname hr, writeAll_text_append, heq]
      · have hname' : (rewording hm).onParameters.name name = name := newName_of_notMem _ hroot
        rw [Parameter.Rewording.text_name _ hname, hname', ite_self, hu m hm hext]
        rfl
  | case4 last rest hname h ih =>
    obtain ⟨n', hgives, u, heq, hu⟩ := ih
      (fun c hc => hascii c (List.mem_cons_of_mem ':' hc))
      (hplain.suffix (List.suffix_append _ _)) (by rwa [Placeholder.found_char h] at hfound) hn
    refine ⟨n', ?_, ':' :: u, ?_, fun m hm hext => ?_⟩
    · rw [Parameter.splitPlain_char h fun _ => hname]
      exact hgives
    · rw [Reference.splitParameters_char fun _ =>
        Reference.readParameter?_of_none hvars hname, writeAll_cons, write_char, heq]
      rfl
    · rw [Parameter.Rewording.text_char _ h fun _ => hname, hu m hm hext]
  | case5 last c rest h hc ih =>
    obtain ⟨n', hgives, u, heq, hu⟩ := ih
      (fun d hd => hascii d (List.mem_cons_of_mem c hd))
      (hplain.suffix (List.suffix_append _ _)) (by rwa [Placeholder.found_char h] at hfound) hn
    refine ⟨n', ?_, c :: u, ?_, fun m hm hext => ?_⟩
    · rw [Parameter.splitPlain_char h fun h => absurd h hc]
      exact hgives
    · rw [Reference.splitParameters_char fun h => absurd h hc, writeAll_cons, write_char, heq]
      rfl
    · rw [Parameter.Rewording.text_char _ h fun h => absurd h hc, hu m hm hext]

/-- A new name is none of a variable. -/
theorem root_newName_notMem (hscope : ∀ v ∈ header.vars, e.scope.contains v)
    (hn : Named header e n) {name : Text}
    (hgiven : root name ∈ header.vars → ∃ new, n.given.get? name = some new) :
    root (newName header.vars n.given name) ∉ header.vars := by
  by_cases hroot : root name ∈ header.vars
  · obtain ⟨new, hnew⟩ := hgiven hroot
    obtain ⟨hword, hfresh, -⟩ := hn.given name new hnew
    rw [newName_of_get? hroot hnew, Name.root_eq_self hword.dot_notMem]
    intro hmem
    rw [hscope new hmem] at hfresh
    cases hfresh
  · rwa [newName_of_notMem _ hroot]

theorem outcome_newName (hn : Named header e n) {name : Text}
    (hgiven : root name ∈ header.vars → ∃ new, n.given.get? name = some new) :
    Outcome header e n.bound name (newName header.vars n.given name) := by
  by_cases hroot : root name ∈ header.vars
  · obtain ⟨new, hnew⟩ := hgiven hroot
    obtain ⟨hword, hfresh, hstands⟩ := hn.given name new hnew
    rw [newName_of_get? hroot hnew]
    exact .own hroot hword hfresh hstands
  · rw [newName_of_notMem _ hroot]
    exact .other hroot

/-- The first pass leaves ASCII text in ASCII. -/
theorem ascii_onPlaceholders {t : Text} (hascii : ∀ c ∈ t, c.toNat < 128) (hn : Named header e n)
    {c : Char} (hc : c ∈ (rewording hn).onPlaceholders.text none t) : c.toNat < 128 := by
  rw [Parameter.Rewording.text_onPlaceholders] at hc
  rcases Placeholder.mem_fill hc with hc | ⟨p, v, hname, hv, hc⟩
  · exact hascii c hc
  · change newPlaceholder header.vars (newName header.vars n.given) p = some v at hv
    rw [newPlaceholder] at hv
    split at hv
    · obtain rfl := Option.some.inj hv
      exact Placeholder.ascii_plain p.mark (isName_newName hn hname) hc
    · cases hv

/-- Both passes over plain text. -/
theorem renamePlain_of_isPlain (hvars : ∀ v ∈ header.vars, Name.IsWord v)
    (hscope : ∀ v ∈ header.vars, e.scope.contains v) {t : Text} (hascii : ∀ c ∈ t, c.toNat < 128)
    (hplain : Segment.IsPlain t) (hn : Named header e n) :
    ∃ m, ∃ hm : Named header e m,
      Gives header e ((found t).map Placeholder.name ++ Parameter.names ':' t) n m ∧
      renamePlain header ':' e t n = ((rewording hm).text none t, m) := by
  obtain ⟨n₁, hgives₁, u, heq₁, hu⟩ := writeAll_splitPlaceholders hvars t hn
  have htext := hu n₁ hgives₁.named (.refl _)
  have hascii₁ : ∀ c ∈ u, c.toNat < 128 := fun c hc =>
    ascii_onPlaceholders hascii hgives₁.named (htext ▸ hc)
  have hplain₁ : Segment.IsPlain ((none : Option Char).toList ++ u) := by
    rw [htext]
    exact (rewording hgives₁.named).onPlaceholders.isPlain_text hplain none
  have hfound : ∀ p ∈ found u, root p.name ∉ header.vars := by
    rw [htext, Parameter.Rewording.found_text]
    intro q hq
    obtain ⟨p, hp, rfl⟩ := List.mem_map.1 hq
    exact root_newName_notMem hscope hgives₁.named
      (hgives₁.all p.name (List.mem_map_of_mem hp))
  have hnames : namesOf (splitPlain ':' none u) = Parameter.names ':' t := by
    rw [htext, ← Parameter.split_of_isPlain ((rewording _).onPlaceholders.isPlain_text hplain none),
      ← Parameter.names_eq, Parameter.Rewording.names_text _ hplain]
    exact List.map_id _
  obtain ⟨m, hgives₂, u', heq₂, hu'⟩ :=
    writeAll_splitParameters hvars hascii₁ hplain₁ hfound hgives₁.named
  have hm : Named header e m := hgives₂.named
  have hboth := hu' m hm (.refl _)
  rw [hu m hm hgives₂.given, Parameter.Rewording.text_onParameters] at hboth
  refine ⟨m, hm, hgives₁.append (hnames ▸ hgives₂), ?_⟩
  change writeAll header ':' e (splitParameters ':' header.vars none
    (writeAll header ':' e (splitPlaceholders header.vars t) n).1)
    (writeAll header ':' e (splitPlaceholders header.vars t) n).2 = _
  rw [heq₁, heq₂, hboth]

theorem rename_of_isPlain (hvars : ∀ v ∈ header.vars, Name.IsWord v)
    (hscope : ∀ v ∈ header.vars, e.scope.contains v) {t : Text} (hascii : ∀ c ∈ t, c.toNat < 128)
    (hplain : Segment.IsPlain t) {bound bound' : Args} {t' : Text}
    (h : rename header ':' e t bound = (t', bound')) :
    ∃ m, ∃ hm : Named header e m,
      Gives header e ((found t).map Placeholder.name ++ Parameter.names ':' t) ⟨∅, bound⟩ m ∧
      t' = (rewording hm).text none t ∧ bound' = m.bound := by
  have hempty : Named header e ⟨∅, bound⟩ := ⟨fun _ _ h => by simp at h⟩
  obtain ⟨m, hm, hgives, heq⟩ := renamePlain_of_isPlain hvars hscope hascii hplain hempty
  rw [rename_run, renameSegments_of_isPlain hplain, heq] at h
  obtain ⟨rfl, rfl⟩ := Prod.mk.inj h
  exact ⟨m, hm, hgives, rfl, rfl⟩

/-- Renaming in the text of an element, name by name. -/
theorem rename_of_calm (hvars : ∀ v ∈ header.vars, Name.IsWord v)
    (hscope : ∀ v ∈ header.vars, e.scope.contains v) {t : Text} (ht : Text.Calm t)
    {bound bound' : Args} (hbound : bound.Dotless) {t' : Text}
    (h : rename header ':' e t bound = (t', bound')) :
    Text.Calm t' ∧ bound.Extends bound' ∧ bound'.Dotless ∧
      List.Forall₂ (Outcome header e bound') (Parameter.names ':' t) (Parameter.names ':' t') := by
  obtain ⟨m, hm, hgives, rfl, rfl⟩ := rename_of_isPlain hvars hscope ht.ascii ht.isPlain h
  refine ⟨((rewording hm).reworded_text none t).calm ht, hgives.bound, hgives.dotless hbound, ?_⟩
  rw [(rewording hm).names_text ht.isPlain, List.forall₂_map_right_iff, List.forall₂_same]
  exact fun n hn => outcome_newName hm (hgives.all n (List.mem_append_right _ hn))

/-- A piece of the text of an element with the new names in it. -/
def newPiece (vars : List Text) (name : Text → Text) : Parameter.Piece → Text
  | .text s => Placeholder.fill (newPlaceholder vars name) s
  | .parameter n => ':' :: name n

/-- **Renaming token by token.**  In ASCII text without regions, renaming changes exactly the
parameters and the placeholders whose first segment is a variable of the loop: each gets a new word
for the value it had, a placeholder keeps its mark, and the rest of the text stays.  What is read in
the result are these tokens in their order, and none of them is one of a variable. -/
theorem rename_tokens (header : LoopHeader) (hvars : ∀ v ∈ header.vars, Name.IsWord v)
    (scope : Args) (item : Value) (position loop : Nat) {t : Text}
    (hascii : ∀ c ∈ t, c.toNat < 128) (hplain : Segment.inertTexts (segments t) = [])
    {bound bound' : Args} {t' : Text}
    (h : rename header ':' ⟨item, position, loop, elementScope header scope item position⟩ t bound =
      (t', bound')) :
    ∃ name : Text → Text,
      t' = (Parameter.split ':' t).flatMap (newPiece header.vars name) ∧
      (∀ n ∈ Parameter.names ':' t ++ (Placeholder.placeholders t).map Placeholder.name,
        Outcome header ⟨item, position, loop, elementScope header scope item position⟩ bound'
          n (name n)) ∧
      Segment.inertTexts (segments t') = [] ∧
      Parameter.names ':' t' = (Parameter.names ':' t).map name ∧
      Placeholder.placeholders t' =
        (Placeholder.placeholders t).map (fun p => ⟨p.mark, name p.name⟩) ∧
      ∀ n ∈ Parameter.names ':' t' ++ (Placeholder.placeholders t').map Placeholder.name,
        root n ∉ header.vars := by
  have hscope : ∀ v ∈ header.vars, (elementScope header scope item position).contains v :=
    fun v hv => contains_elementScope (.inr hv)
  generalize he : (⟨item, position, loop, elementScope header scope item position⟩ : Element) = e
    at h ⊢
  replace hscope : ∀ v ∈ header.vars, e.scope.contains v := he ▸ hscope
  have hisPlain := Segment.isPlain_iff.2 hplain
  obtain ⟨m, hm, hgives, rfl, rfl⟩ := rename_of_isPlain hvars hscope hascii hisPlain h
  have hgiven : ∀ n ∈ Parameter.names ':' t ++ (Placeholder.placeholders t).map Placeholder.name,
      root n ∈ header.vars → ∃ new, m.given.get? n = some new := by
    intro n hn
    rw [Placeholder.placeholders_of_isPlain hisPlain] at hn
    exact hgives.all n (List.mem_append.2 (List.mem_append.1 hn).symm)
  have hnames := (rewording hm).names_text hisPlain
  have hplaceholders := (rewording hm).placeholders_text hisPlain
  refine ⟨newName header.vars m.given, ?_, fun n hn => outcome_newName hm (hgiven n hn),
    Segment.isPlain_iff.1 ((rewording hm).isPlain_text hisPlain none), hnames, hplaceholders, ?_⟩
  · rw [Parameter.Rewording.text, Parameter.split_of_isPlain hisPlain, List.flatMap_map]
    refine List.flatMap_congr fun p _ => ?_
    cases p <;> rfl
  · intro n hn
    rw [hnames, hplaceholders, List.map_map, List.mem_append, List.mem_map, List.mem_map] at hn
    rcases hn with ⟨old, hold, rfl⟩ | ⟨p, hp, rfl⟩
    · exact root_newName_notMem hscope hm (hgiven old (List.mem_append_left _ hold))
    · exact root_newName_notMem hscope hm
        (hgiven p.name (List.mem_append_right _ (List.mem_map_of_mem hp)))

/-- A loop over users with their positions. -/
def usersHeader : LoopHeader :=
  ⟨"u".toList, some "i".toList, "users".toList, LoopHeader.defaultDelimiter, none⟩

def userText : Text := ":u.a, $\x7b !u\x7d $\x7b : i \x7d :i:users $\x7bu_a\x7d".toList

def userRenamed : Text :=
  ":_u_a_0_2, $\x7b!_u_0_2\x7d $\x7b:_i_0_2\x7d :_i_0_2:users $\x7bu_a\x7d".toList

theorem rename_tokens_user :
    (∀ v ∈ usersHeader.vars, Name.IsWord v) ∧ (∀ c ∈ userText, c.toNat < 128) ∧
      Segment.inertTexts (segments userText) = [] ∧
      ∃ bound' : Args,
        rename usersHeader ':' ⟨.string "x".toList, 2, 0,
          elementScope usersHeader ∅ (.string "x".toList) 2⟩ userText ∅ = (userRenamed, bound') ∧
        ∃ name : Text → Text,
          userRenamed = (Parameter.split ':' userText).flatMap (newPiece usersHeader.vars name) ∧
          Parameter.names ':' userRenamed = (Parameter.names ':' userText).map name ∧
          ∀ n ∈ Parameter.names ':' userRenamed ++
            (Placeholder.placeholders userRenamed).map Placeholder.name,
            root n ∉ usersHeader.vars := by
  have hvars : ∀ v ∈ usersHeader.vars, Name.IsWord v := by
    intro v hv
    obtain rfl | rfl : v = "u".toList ∨ v = "i".toList := by
      simpa [usersHeader, LoopHeader.vars] using hv
    · exact ⟨'u', [], rfl, rfl, by simp⟩
    · exact ⟨'i', [], rfl, rfl, by simp⟩
  have hascii : ∀ c ∈ userText, c.toNat < 128 := by
    have hall : userText.all (fun c => c.toNat < 128) := by decide +kernel
    simpa using hall
  have hplain : Segment.inertTexts (segments userText) = [] := by decide +kernel
  have hrename : rename usersHeader ':' ⟨.string "x".toList, 2, 0,
      elementScope usersHeader ∅ (.string "x".toList) 2⟩ userText ∅ =
        (userRenamed, (rename usersHeader ':' ⟨.string "x".toList, 2, 0,
          elementScope usersHeader ∅ (.string "x".toList) 2⟩ userText ∅).2) :=
    Prod.ext (by decide +kernel) rfl
  obtain ⟨name, htext, -, -, hnames, -, hroots⟩ :=
    rename_tokens usersHeader hvars ∅ (.string "x".toList) 2 0 hascii hplain hrename
  exact ⟨hvars, hascii, hplain, _, hrename, name, htext, hnames, hroots⟩

end Naming

end Template

end SqlTemplate
