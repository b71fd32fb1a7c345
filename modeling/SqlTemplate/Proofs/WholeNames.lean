import SqlTemplate.Proofs.LoopValue
import SqlTemplate.Proofs.SwitchCase

/-!
Which names are read whole.  A name behind a colon is read to its end, in SQL and in conditions, if
it is a name in the sense of both and what follows it lets names end.  The names in loop headers and
those that loops make are such names if they are ASCII, the names of switches only in part.
-/
namespace SqlTemplate

/-- Whether SQL with this text behind a colon, wherever it stands, has the name for a parameter and
goes on behind it. -/
def Parameter.ReadsWhole (name after : Text) : Prop :=
  ∀ last, last ≠ some ':' → splitPlain ':' last (':' :: (name ++ after)) =
    .parameter name :: splitPlain ':' name.getLast? after

/-- Whether a condition with this text behind a colon has the name for an argument and goes on
behind it. -/
def Condition.ReadsWhole (name after : Text) : Prop :=
  ∀ position, token position ':' (name ++ after) = .ok (.argument name, after)

theorem Parameter.readsWhole_iff {name after : Text} :
    ReadsWhole name after ↔ Name.IsName name ∧ Name.Stops after := by
  have hbrace (rest : Text) : Placeholder.read? (':' :: rest) = none :=
    Placeholder.read?_eq_none (by simp)
  constructor
  · intro h
    have hpiece := h none (by simp)
    cases hread : Name.read? (name ++ after) with
    | none =>
      rw [splitPlain_char (hbrace _) fun _ => hread] at hpiece
      cases hpiece
    | some found =>
      obtain ⟨name', rest⟩ := found
      rw [splitPlain_name (hbrace _) hread, if_neg (by simp)] at hpiece
      obtain rfl : name' = name := by simpa using (List.cons.inj hpiece).1
      obtain rfl := List.append_cancel_left (Name.read?_append hread).1
      exact Name.read?_spec hread
  · rintro ⟨hname, hstops⟩ last hlast
    rw [splitPlain_name (hbrace _) (Name.read?_of_isName hname hstops), if_neg hlast]

theorem Condition.readsWhole_iff {name after : Text} :
    ReadsWhole name after ↔ Name.IsName name ∧ Name.Stops after := by
  constructor
  · intro h
    obtain ⟨l, hl, heq⟩ := exists_lexeme_of_token (h 0)
    obtain rfl : l = ':' :: name := List.append_cancel_right heq.symm
    exact hl.argument_of_colon.2
  · rintro ⟨hname, hstops⟩ position
    exact token_argument hname hstops

namespace Name

def IsAscii (name : Text) : Prop := ∀ c ∈ name, c.toNat < 128

theorem IsName.isAscii {name : Text} (h : IsName name) : IsAscii name := by
  intro c hc
  rcases h.mem hc with hpart | rfl
  · exact isPart_ascii hpart
  · decide

theorem isPart_of_isWord {c : Char} (h : Unicode.isWord c) (hascii : c.toNat < 128) : isPart c := by
  rwa [Unicode.isWord, if_pos hascii] at h

end Name

namespace LoopHeader

theorem isStart_of_ascii {c : Char} (h : isStart c) (hascii : c.toNat < 128) : Name.isStart c := by
  simp only [isStart, Bool.or_eq_true, beq_iff_eq] at h
  rcases h with (h | rfl) | rfl
  · simpa [Name.isStart] using h
  · exact absurd hascii (by decide)
  · exact absurd hascii (by decide)

/-- A name with a path as headers have them. -/
def IsPathName (name : Text) : Prop :=
  ∃ w segments, name = w ++ Name.dotted segments ∧ IsName w ∧
    ∀ s ∈ segments, s ≠ [] ∧ ∀ c ∈ s, Unicode.isWord c

theorem IsName.isPathName {name : Text} (h : IsName name) : IsPathName name :=
  ⟨name, [], by simp [Name.dotted], h, by simp⟩

/-- Of the names in headers just the ASCII ones are names elsewhere. -/
theorem IsPathName.isName_iff {name : Text} (h : IsPathName name) :
    Name.IsName name ↔ Name.IsAscii name := by
  refine ⟨Name.IsName.isAscii, fun hascii => ?_⟩
  obtain ⟨w, segments, rfl, ⟨c, cs, rfl, hc, hcs⟩, hsegments⟩ := h
  refine ⟨_, segments, rfl, ⟨c, cs, rfl, ?_, fun d hd => ?_⟩, fun s hs => ?_⟩
  · exact isStart_of_ascii hc (hascii c (by simp))
  · exact Name.isPart_of_isWord (hcs d hd) (hascii d (by simp [hd]))
  · obtain ⟨hne, hword⟩ := hsegments s hs
    refine ⟨hne, fun d hd => Name.isPart_of_isWord (hword d hd) (hascii d ?_)⟩
    exact List.mem_append_right _ (List.mem_flatMap.2 ⟨s, hs, List.mem_cons_of_mem _ hd⟩)

theorem exists_path (cs : Text) :
    ∃ segments, (path cs).1 = Name.dotted segments ∧
      ∀ s ∈ segments, s ≠ [] ∧ ∀ c ∈ s, Unicode.isWord c := by
  fun_induction path cs with
  | case1 => exact ⟨[], rfl, by simp⟩
  | case2 rest h more left hp ih =>
    rw [hp] at ih
    obtain ⟨segments, hmore, hsegments⟩ := ih
    obtain rfl : more = Name.dotted segments := hmore
    refine ⟨rest.takeWhile Unicode.isWord :: segments, by simp [Name.dotted], ?_⟩
    refine List.forall_mem_cons.2 ⟨⟨by simpa using h, fun c => Text.mem_takeWhile⟩, hsegments⟩
  | case3 => exact ⟨[], rfl, by simp⟩

theorem isPathName_source_of_read? {cs : Text} {header : LoopHeader} {filter : Option Text}
    (h : read? cs = some (header, filter)) : IsPathName header.source := by
  obtain ⟨⟨item, cs₁⟩, -, h⟩ := Option.bind_eq_some_iff.1 h
  obtain ⟨cs₃, -, h⟩ := Option.bind_eq_some_iff.1 h
  split at h
  · obtain ⟨⟨name, cs₅⟩, hname, h⟩ := Option.bind_eq_some_iff.1 h
    obtain ⟨_, -, h⟩ := Option.bind_eq_some_iff.1 h
    obtain ⟨rfl, -⟩ := Prod.mk.inj (Option.some.inj h)
    obtain ⟨segments, hpath, hsegments⟩ := exists_path cs₅
    exact ⟨name, segments, by rw [← hpath], (name?_eq hname).2, hsegments⟩
  · cases h

/-- The list of a loop has a name with a path, and the variables have names. -/
theorem isPathName_of_ofText {rest : Text} {n : Nat} {header : LoopHeader}
    (h : ofText rest n = .ok header) : ∀ name ∈ header.source :: header.vars, IsPathName name := by
  refine List.forall_mem_cons.2 ⟨?_, fun v hv => ((ofText_spec h).1 v hv).1.isPathName⟩
  unfold ofText at h
  split at h
  · cases h
  · rename_i hread
    obtain rfl := Except.ok.inj h
    exact isPathName_source_of_read? hread
  · rename_i hread
    obtain ⟨filter, -, h⟩ := exists_of_bind_eq_ok h
    obtain rfl := Except.ok.inj h
    have hsource := isPathName_source_of_read? hread
    exact hsource

end LoopHeader

/-- Of the names of switches those are names elsewhere that are ASCII, start with a letter or an
underscore and have a name character behind each dot. -/
theorem Directive.isName_switchName_iff {line name : Text} {n : Nat}
    (h : switchName line n = .ok name) :
    Name.IsName name ↔ Name.IsAscii name ∧ name.head?.any Name.isStart ∧
      ∀ u v, name = u ++ '.' :: v → v.head?.any Name.isPart := by
  constructor
  · intro hname
    refine ⟨hname.isAscii, ?_, fun u v heq => Name.IsName.after_dot (heq ▸ hname)⟩
    obtain ⟨c, cs, rfl, hc⟩ := hname.head
    exact hc
  · rintro ⟨hascii, hstart, hdots⟩
    cases hread : Name.read? name with
    | none => exact absurd hstart (Name.read?_eq_none_iff.1 hread)
    | some found =>
      obtain ⟨front, rest⟩ := found
      obtain ⟨hname, hstops⟩ := Name.read?_spec hread
      obtain ⟨rfl, -⟩ := Name.read?_append hread
      cases rest with
      | nil => rwa [List.append_nil]
      | cons c rest =>
        have hc : isSwitchPart c :=
          List.all_eq_true.1 (Template.all_isSwitchPart_of_switchName h) c (by simp)
        have hdot : c = '.' := by
          have hpart : Name.isPart c = false := hstops.1
          have hlt := hascii c (by simp)
          rw [Name.isPart] at hpart
          rw [isSwitchPart, Unicode.isAlphanumeric, if_pos hlt, hpart] at hc
          simpa using hc
        subst hdot
        exact absurd (hdots front rest rfl) (hstops.2 rfl)

namespace Template

/-! The names that loops make. -/

namespace Naming

variable {header : LoopHeader} {sigil : Char} {e : Element} {n : Naming}

/-- Whether a name is one of the candidates for a reference. -/
def Candidate (e : Element) (u : Use) : Prop := ∃ i, u.name = numbered (baseName e u.reference) i

/-- Whether the names given so far are candidates for references to variables. -/
def Candidates (header : LoopHeader) (e : Element) (n : Naming) : Prop :=
  ∀ t name, n.given.get? t = some name →
    ∃ r : Reference, r.To header.vars ∧ r.text = t ∧ Candidate e ⟨r, name⟩

theorem Candidates.nameOf (hvars : ∀ v ∈ header.vars, '.' ∉ v) (h : Candidates header e n)
    {r : Reference} (hr : r.To header.vars) :
    Candidate e ⟨r, (nameOf header e r n).1⟩ ∧ Candidates header e (nameOf header e r n).2 := by
  rcases nameOf_cases header e r n with ⟨name, hgiven, heq⟩ | ⟨-, heq⟩ <;> rw [heq]
  · obtain ⟨r', hr', htext, hcandidate⟩ := h _ _ hgiven
    obtain rfl := hr'.text_injective hvars hr htext
    exact ⟨hcandidate, h⟩
  · have hnew : Candidate e ⟨r, freshName (baseName e r) e.scope n.bound⟩ :=
      (freshName_spec _ _ _).1
    refine ⟨hnew, fun t name ht => ?_⟩
    rw [Dict.get?_insert] at ht
    split at ht
    · rename_i htext
      obtain rfl := Option.some.inj ht
      exact ⟨r, hr, htext, hnew⟩
    · exact h t name ht

theorem Candidates.writeAll (hvars : ∀ v ∈ header.vars, '.' ∉ v) (h : Candidates header e n)
    {ps : List Reference.Piece} (hps : Reference.AllTo header.vars ps) :
    (∀ u ∈ uses header sigil e ps n, Candidate e u) ∧
      Candidates header e (writeAll header sigil e ps n).2 := by
  induction ps generalizing n with
  | nil => exact ⟨by simp [uses], h⟩
  | cons p ps ih =>
    obtain ⟨hp, hrest⟩ := List.forall_mem_cons.1 hps
    rw [uses, writeAll_cons]
    cases p with
    | char _ | kept _ => exact ih h hrest
    | placeholder _ r | parameter r =>
      obtain ⟨hfirst, hgiven⟩ := h.nameOf hvars (hp r rfl)
      obtain ⟨hmore, hall⟩ := ih hgiven hrest
      exact ⟨List.forall_mem_cons.2 ⟨hfirst, hmore⟩, hall⟩

theorem Candidates.renamePlain (hvars : ∀ v ∈ header.vars, '.' ∉ v) (h : Candidates header e n)
    (t : Text) :
    (∀ u ∈ plainUses header sigil e t n, Candidate e u) ∧
      Candidates header e (renamePlain header sigil e t n).2 := by
  obtain ⟨hfirst, hfilled⟩ := h.writeAll hvars (Reference.allTo_splitPlaceholders header.vars t)
  obtain ⟨hrest, hall⟩ := hfilled.writeAll hvars
    (Reference.allTo_splitParameters sigil header.vars none _)
  exact ⟨List.forall_mem_append.2 ⟨hfirst, hrest⟩, hall⟩

theorem candidate_of_mem_renamed (hvars : ∀ v ∈ header.vars, '.' ∉ v) (t : Text) (bound : Args) :
    ∀ u ∈ renamed header sigil e t bound, Candidate e u := by
  rw [renamed]
  have h : Candidates header e ⟨∅, bound⟩ := fun _ _ hgiven => by cases hgiven
  generalize (⟨∅, bound⟩ : Naming) = n at h
  induction segments t generalizing n with
  | nil => simp [segmentUses]
  | cons s ss ih =>
    cases s with
    | inert run => exact ih n h
    | plain t =>
      obtain ⟨hfirst, hgiven⟩ := h.renamePlain hvars t
      exact List.forall_mem_append.2 ⟨hfirst, ih _ hgiven⟩

theorem mem_numbered_of_mem_var {r : Reference} {c : Char} (hc : c ∈ r.var) (e : Element)
    (i : Nat) : c ∈ numbered (baseName e r) i := by
  have hbase : c ∈ baseName e r := by simp [baseName, hc]
  cases i with
  | zero => exact hbase
  | succ i => exact List.mem_append_left _ hbase

/-- What a reference is renamed to is a name if its variable is one. -/
theorem Candidate.isName_iff {u : Use} (h : Candidate e u)
    (hvar : LoopHeader.IsName u.reference.var) (hpath : u.reference.Pathed) :
    Name.IsName u.name ↔ Name.IsAscii u.reference.var := by
  obtain ⟨i, hi⟩ := h
  constructor
  · intro hname c hc
    exact hname.isAscii c (hi ▸ mem_numbered_of_mem_var hc e i)
  · intro hascii
    obtain ⟨segments, hsegments, hall⟩ := hpath
    have hname := hvar.isPathName.isName_iff.2 hascii
    rw [hi]
    refine (isWord_numbered (fun c hc => ?_) (fun c hc => ?_) e i).isName
    · exact (hname.mem hc).resolve_right fun hdot => hvar.dot_notMem (hdot ▸ hc)
    · rw [hsegments] at hc
      obtain ⟨s, hs, hc⟩ := List.mem_flatMap.1 hc
      rcases List.mem_cons.1 hc with rfl | hc
      · exact .inr rfl
      · exact .inl ((hall s hs).2 c hc)

end Naming

/-- In ASCII text a name ends where a reference does. -/
theorem Reference.stops_of_readParameter? {vars : List Text} {cs rest : Text} {r : Reference}
    (h : readParameter? vars cs = some (r, rest)) (hascii : Name.IsAscii cs) : Name.Stops rest := by
  unfold readParameter? at h
  obtain ⟨v, -, h⟩ := List.exists_of_findSome?_eq_some h
  split at h
  · rename_i tail htail
    have hleft : Name.IsAscii (Name.path tail).2 := by
      intro c hc
      rw [Text.eq_append_of_dropFront? htail] at hascii
      refine hascii c (List.mem_append_right v ?_)
      rw [← Name.path_append tail]
      exact List.mem_append_right _ hc
    have hpart : (Name.path tail).2.head?.any Unicode.isWord =
        (Name.path tail).2.head?.any Name.isPart := by
      cases htext : (Name.path tail).2 with
      | nil => rfl
      | cons c cs =>
        simp [Unicode.isWord, Name.isPart, hleft c (by simp [htext])]
    by_cases hhead : tail.head?.any Name.isPart
    · -- such a variable is part of a longer word
      rw [Name.path_of_isPart hhead] at hpart h
      dsimp only at hpart h
      rw [hpart, hhead] at h
      cases h
    · have hstops := (Name.path_spec hhead).2
      dsimp only at h
      rw [hpart, Bool.eq_false_iff.2 hstops.head] at h
      obtain ⟨-, rfl⟩ := Prod.mk.inj (Option.some.inj h)
      exact hstops
  · cases h

theorem pathNames_of_parse {t : Text} {blocks : Template} (h : parse t = .ok blocks) :
    Every (fun _ => True)
      (fun header => ∀ name ∈ header.source :: header.vars, LoopHeader.IsPathName name) blocks := by
  have hof : ofText t = .ok blocks := by
    unfold parse at h
    split at h
    · rename_i hblocks
      rw [hblocks, Except.ok.inj h]
    · cases h
  refine Every.imp (fun _ _ => trivial) ?_ blocks (every_of_ofText hof)
  rintro header ⟨-, -, rest, n, -, hheader⟩
  exact LoopHeader.isPathName_of_ofText hheader

theorem names_of_parse {t : Text} {blocks : Template} (h : parse t = .ok blocks) :
    Every (fun _ => True) (fun header => ∀ v ∈ header.vars, LoopHeader.IsName v) blocks :=
  Every.imp (fun _ _ => trivial) (fun _ hheader v hv => (hheader.1 v hv).1) blocks
    (every_of_parse h)

/-- The names in the directives of a template, and those that its loops make.  Behind a colon, an
item, an index and a list are read whole by conditions and in SQL if they are ASCII and what follows
lets names end; so are the new names in SQL if the variable is ASCII, and in ASCII text that is so
where a reference ends.  Conditions read the name of a switch whole if it is ASCII, starts with a
letter or an underscore and has a name character behind each dot. -/
theorem readsWhole_of_parse {t : Text} {blocks : Template}
    (hparse : Template.parse t = .ok blocks) :
    Every (fun _ => True) (fun header => ∀ name ∈ header.source :: header.vars, ∀ after,
      (Condition.ReadsWhole name after ↔ Name.IsAscii name ∧ Name.Stops after) ∧
      (Parameter.ReadsWhole name after ↔ Name.IsAscii name ∧ Name.Stops after)) blocks ∧
    (∀ ctx args rendering log, trace ctx ':' blocks args = .ok (rendering, log) →
      ∀ ρ ∈ log, ∀ u ∈ ρ.uses, u.reference.var ∈ ρ.header.vars ∧ ∀ after,
        Parameter.ReadsWhole u.name after ↔
          Name.IsAscii u.reference.var ∧ Name.Stops after) ∧
    (∀ vars cs r rest, Reference.readParameter? vars cs = some (r, rest) → Name.IsAscii cs →
      Name.Stops rest) ∧
    ∀ line name n, Directive.switchName line n = .ok name → ∀ after,
      Condition.ReadsWhole name after ↔ (Name.IsAscii name ∧ name.head?.any Name.isStart ∧
        ∀ u v, name = u ++ '.' :: v → v.head?.any Name.isPart) ∧ Name.Stops after := by
  refine ⟨Every.imp (fun _ _ => trivial) (fun header hnames name hname after => ?_) blocks
    (pathNames_of_parse hparse), ?_, fun _ _ _ _ => Reference.stops_of_readParameter?, ?_⟩
  · rw [Condition.readsWhole_iff, Parameter.readsWhole_iff, (hnames name hname).isName_iff]
    exact ⟨Iff.rfl, Iff.rfl⟩
  · intro ctx args rendering log hlog ρ hρ u hu
    obtain ⟨hvars, -, t', bound, huses⟩ :=
      made_of_trace (fun _ h v hv => (h v hv).dot_notMem) (names_of_parse hparse) hlog ρ hρ
    have hu : u ∈ Naming.renamed ρ.header ':' ρ.element t' bound := huses ▸ hu
    have hto : u.reference.To ρ.header.vars :=
      Naming.forall_renamed (fun _ _ _ _ => Reference.to_of_readPlaceholder?)
        (fun _ _ _ => Reference.to_of_readParameter?) t' bound u hu
    have hpath : u.reference.Pathed :=
      Naming.forall_renamed (fun _ _ _ _ => Reference.pathed_of_readPlaceholder?)
        (fun _ _ _ => Reference.pathed_of_readParameter?) t' bound u hu
    have hcandidate := Naming.candidate_of_mem_renamed (fun v hv => (hvars v hv).dot_notMem)
      t' bound u hu
    refine ⟨hto.1, fun after => ?_⟩
    rw [Parameter.readsWhole_iff, hcandidate.isName_iff (hvars _ hto.1) hpath]
  · intro line name n hname after
    rw [Condition.readsWhole_iff, Directive.isName_switchName_iff hname]

/-- A loop with an item and an index, and a path behind the item. -/
theorem readsWhole_of_parse_loop :
    Template.parse "--#for x, i of :xs\n(:i, :x.a)\n--#end".toList = .ok pathLoop ∧
    (∀ name ∈ ["xs".toList, "x".toList, "i".toList],
      Condition.ReadsWhole name [] ∧ Parameter.ReadsWhole name []) ∧
    ∃ rendering log, trace ⟨true, Pipes.builtin⟩ ':' pathLoop pathItems = .ok (rendering, log) ∧
      ∀ ρ ∈ log, ∀ u ∈ ρ.uses, Parameter.ReadsWhole u.name ")".toList := by
  have hparse : Template.parse "--#for x, i of :xs\n(:i, :x.a)\n--#end".toList = .ok pathLoop := by
    cbv
  have hrun : (trace ⟨true, Pipes.builtin⟩ ':' pathLoop pathItems).toOption.map (fun out =>
      out.2.all fun ρ => ρ.uses.all fun u =>
        ["xs".toList, "x".toList, "i".toList].contains u.reference.var) = some true := by
    decide +kernel
  obtain ⟨⟨rendering, log⟩, hlog, hall⟩ := Option.map_eq_some_iff.1 hrun
  have hlog := eq_ok_of_toOption hlog
  obtain ⟨hheaders, huses, -⟩ := readsWhole_of_parse hparse
  simp only [pathLoop, Every, Block.Every] at hheaders
  have hascii : ∀ name ∈ ["xs".toList, "x".toList, "i".toList], Name.IsAscii name := by
    simp [Name.IsAscii]
  refine ⟨hparse, fun name hname => ?_, rendering, log, hlog, fun ρ hρ u hu => ?_⟩
  · have hiff := hheaders.1.1 name hname []
    exact ⟨hiff.1.2 ⟨hascii name hname, trivial⟩, hiff.2.2 ⟨hascii name hname, trivial⟩⟩
  · have hvar := List.all_eq_true.1 (List.all_eq_true.1 hall ρ hρ) u hu
    have hstops : Name.Stops [')'] := ⟨rfl, fun h => by cases h⟩
    exact ((huses _ _ _ _ hlog ρ hρ u hu).2 _).2
      ⟨hascii _ (List.contains_iff_mem.1 hvar), hstops⟩

set_option maxRecDepth 8000 in
/-- A loop variable with a letter that is not ASCII. -/
theorem not_forall_readsWhole :
    ¬∀ (t : Text) (blocks : Template), Template.parse t = .ok blocks →
      Every (fun _ => True) (fun header => ∀ name ∈ header.source :: header.vars,
        Condition.ReadsWhole name [] ∧ Parameter.ReadsWhole name []) blocks := by
  intro h
  have hparse : Template.parse "--#for x\u00e9 of :xs\n:x\u00e9\n--#end".toList =
      .ok [.loop ⟨"x\u00e9".toList, none, "xs".toList, ", ".toList, none⟩
        [.text ":x\u00e9".toList]] := by cbv
  have hheaders := h _ _ hparse
  simp only [Every, Block.Every] at hheaders
  have hread := (hheaders.1.1 "x\u00e9".toList (by simp [LoopHeader.vars])).1
  have hname := (Condition.readsWhole_iff.1 hread).1
  exact absurd (hname.isAscii '\u00e9' (by decide)) (by decide)

end Template

end SqlTemplate
