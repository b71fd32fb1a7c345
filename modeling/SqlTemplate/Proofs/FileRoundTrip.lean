import Mathlib
import SqlTemplate.Proofs.FileReader
import SqlTemplate.Proofs.Printing

/-!
Files written block by block.  What a file holds does not depend on the order in which its blocks
are written: each fragment has its own description and its own lines, with all parts in the places
of their placeholders, those that are written behind it too.
-/
namespace SqlTemplate.SqlFile

/-! Blocks as they are written. -/

def openingBracket : BlockKind → Char
  | .fragment => '['
  | .part => '{'

def closingBracket : BlockKind → Char
  | .fragment => ']'
  | .part => '}'

/-- The lines that open a block: a comment with the name in brackets, blanks around each of them or
not. -/
inductive IsHeader (kind : BlockKind) (name : Text) : Text → Prop
  | intro {a b c d : Text} (ha : ∀ x ∈ a, Unicode.isBlank x) (hb : ∀ x ∈ b, Unicode.isBlank x)
    (hc : ∀ x ∈ c, Unicode.isBlank x) (hd : ∀ x ∈ d, Unicode.isBlank x) :
    IsHeader kind name ('/' :: '*' :: (a ++ openingBracket kind ::
      (b ++ (name ++ (c ++ closingBracket kind :: (d ++ ['*', '/']))))))

/-- A block as it is written, without the line that closes it. -/
structure Entry where
  description : Option Text
  kind : BlockKind
  name : Text
  header : Text
  body : List Text

/-- A line that an open block takes as it is. -/
structure IsBodyLine (l : Text) : Prop where
  newline : '\n' ∉ l
  nonblank : l.isBlank = false
  trailing : l.trimEnd = l
  terminator : l.getLast? ≠ some ';'
  header : header? l.trim = none
  description : Text.dropFront? ['/', '*', '#'] l.trim = none
  directive : Text.startsWith ['-', '-'] l.trim → (Directive.read? l.trim).isSome

instance (l : Text) : Decidable (IsBodyLine l) :=
  decidable_of_iff ('\n' ∉ l ∧ l.isBlank = false ∧ l.trimEnd = l ∧ l.getLast? ≠ some ';' ∧
      header? l.trim = none ∧ Text.dropFront? ['/', '*', '#'] l.trim = none ∧
      (Text.startsWith ['-', '-'] l.trim → (Directive.read? l.trim).isSome))
    ⟨fun ⟨h₁, h₂, h₃, h₄, h₅, h₆, h₇⟩ => ⟨h₁, h₂, h₃, h₄, h₅, h₆, h₇⟩,
      fun ⟨h₁, h₂, h₃, h₄, h₅, h₆, h₇⟩ => ⟨h₁, h₂, h₃, h₄, h₅, h₆, h₇⟩⟩

namespace Entry

structure WellFormed (e : Entry) : Prop where
  name : e.name ≠ [] ∧ ∀ c ∈ e.name, Unicode.isBlank c = false
  header : IsHeader e.kind e.name e.header ∧ '\n' ∉ e.header
  description : ∀ text, e.description = some text → '\n' ∉ text
  body : ∀ l ∈ e.body, IsBodyLine l

def descriptionLine (text : Text) : Text := '/' :: '*' :: '#' :: (text ++ ['#', '*', '/'])

def lines (e : Entry) : List Text :=
  (e.description.map descriptionLine).toList ++ e.header :: (e.body ++ [[';']])

/-- The text of a block in a file. -/
def text (e : Entry) : Text := Text.unlines e.body

/-- The description of a block; none is as an empty one. -/
def about (e : Entry) : Text := (e.description.map Text.trim).getD []

/-- What a fragment is read as, before its parts are put in. -/
def fragment? (e : Entry) : Option (Text × Text × Text) :=
  match e.kind with
  | .fragment => some (e.name, e.about, e.text)
  | .part => none

def part? (e : Entry) : Option (Text × Text) :=
  match e.kind with
  | .fragment => none
  | .part => some (e.name, e.text)

/-- Whether `f` is the fragment of a block in a file with these parts. -/
structure Gives (fileAlias : Text) (parts : Dict Text) (e : Entry) (f : Fragment) : Prop where
  fileAlias : f.fileAlias = fileAlias
  name : f.name = e.name
  description : f.description = e.about
  source : f.source = inlineParts parts e.text
  template : Template.parse f.source = .ok f.template

end Entry

/-- The parts of a file with these blocks. -/
def partsOf (es : List Entry) : Dict Text := .ofList (es.filterMap Entry.part?)

/-- A file with these blocks. -/
def written (es : List Entry) : Text := (es.flatMap Entry.lines).flatMap (· ++ ['\n'])

/-! Headers. -/

theorem isTrim_slashes (t : Text) : Text.IsTrim ('/' :: (t ++ ['/'])) := by
  refine ⟨by rintro x ⟨⟩; decide, fun x hx => ?_⟩
  rw [← List.cons_append, List.getLast?_concat] at hx
  obtain rfl := Option.some.inj hx
  decide

theorem mem_skipBlanks {c : Char} {t : Text} (hc : Unicode.isBlank c = false) (h : c ∈ t) :
    c ∈ Text.skipBlanks t := by
  have hsplit : t.takeWhile Unicode.isBlank ++ Text.skipBlanks t = t :=
    List.takeWhile_append_dropWhile
  rcases List.mem_append.1 (hsplit.symm ▸ h) with h | h
  · rw [Text.mem_takeWhile h] at hc
    cases hc
  · exact h

section

variable {close : Char} {c d : Text}

theorem closesHeader_end (hclose : Unicode.isBlank close = false)
    (hc : ∀ x ∈ c, Unicode.isBlank x) (hd : ∀ x ∈ d, Unicode.isBlank x) :
    closesHeader close (c ++ close :: (d ++ ['*', '/'])) = true := by
  have hfirst : Text.skipBlanks (c ++ close :: (d ++ ['*', '/'])) = close :: (d ++ ['*', '/']) :=
    Text.skipBlanks_append hc (by rintro x ⟨⟩; exact hclose)
  have hsecond : Text.skipBlanks (d ++ ['*', '/']) = ['*', '/'] :=
    Text.skipBlanks_append hd (by rintro x ⟨⟩; decide)
  rw [closesHeader, hfirst]
  simp [hsecond]

/-- A header does not end before its closing bracket. -/
theorem closesHeader_cons {x : Char} {t : Text} (hclose : Unicode.isBlank close = false)
    (hmark : close ∉ ['*', '/']) (hx : Unicode.isBlank x = false) (h : close ∈ t) :
    closesHeader close (x :: t) = false := by
  have hskip : Text.skipBlanks (x :: t) = x :: t :=
    Text.skipBlanks_of_head (by rintro y ⟨⟩; exact hx)
  have hne : Text.skipBlanks t ≠ ['*', '/'] := fun heq => hmark (heq ▸ mem_skipBlanks hclose h)
  rw [closesHeader, hskip]
  simp [hne]

theorem headerName?_name (hclose : Unicode.isBlank close = false) (hmark : close ∉ ['*', '/'])
    {name : Text} (hne : name ≠ []) (hname : ∀ x ∈ name, Unicode.isBlank x = false)
    (hc : ∀ x ∈ c, Unicode.isBlank x) (hd : ∀ x ∈ d, Unicode.isBlank x) :
    headerName? close (name ++ (c ++ close :: (d ++ ['*', '/']))) = some name := by
  induction name with
  | nil => exact absurd rfl hne
  | cons x name ih =>
    obtain ⟨hx, hname⟩ := List.forall_mem_cons.1 hname
    rw [List.cons_append, headerName?, if_neg (by simp [hx])]
    cases name with
    | nil => rw [List.nil_append, if_pos (closesHeader_end hclose hc hd)]
    | cons y name =>
      have hopen : closesHeader close (y :: name ++ (c ++ close :: (d ++ ['*', '/']))) = false :=
        closesHeader_cons hclose hmark (hname y List.mem_cons_self) (by simp)
      rw [hopen, if_neg (by simp), ih (by simp) hname, Option.map_some]

end

/-- A header is read as the name between its brackets, and as none between other brackets. -/
theorem bracketed?_header {a b rest : Text} {opening opening' close : Char}
    (hopening : Unicode.isBlank opening' = false)
    (ha : ∀ x ∈ a, Unicode.isBlank x) (hb : ∀ x ∈ b, Unicode.isBlank x)
    (hrest : ∀ x, rest.head? = some x → Unicode.isBlank x = false) :
    bracketed? opening close ('/' :: '*' :: (a ++ opening' :: (b ++ rest))) =
      if opening' = opening then headerName? close rest else none := by
  have hfirst : Text.skipBlanks (a ++ opening' :: (b ++ rest)) = opening' :: (b ++ rest) :=
    Text.skipBlanks_append ha (by rintro x ⟨⟩; exact hopening)
  have hsecond : Text.skipBlanks (b ++ rest) = rest := Text.skipBlanks_append hb hrest
  have hdrop : Text.dropFront? ['/', '*'] ('/' :: '*' :: (a ++ opening' :: (b ++ rest))) =
      some (a ++ opening' :: (b ++ rest)) := Text.dropFront?_append ['/', '*'] _
  rw [bracketed?, hdrop, Option.bind_eq_bind, Option.bind_some, hfirst]
  dsimp only
  rw [hsecond]

namespace IsHeader

variable {kind : BlockKind} {name l : Text}

theorem header? (h : IsHeader kind name l)
    (hname : name ≠ [] ∧ ∀ c ∈ name, Unicode.isBlank c = false) :
    SqlFile.header? l = some (kind, name) := by
  obtain ⟨ha, hb, hc, hd⟩ := h
  have hhead : ∀ rest x, (name ++ rest).head? = some x → Unicode.isBlank x = false := by
    intro rest x hx
    cases name with
    | nil => exact absurd rfl hname.1
    | cons y name =>
      obtain rfl := Option.some.inj hx
      exact hname.2 y List.mem_cons_self
  cases kind with
  | fragment =>
    rw [SqlFile.header?, openingBracket, closingBracket,
      bracketed?_header (by decide) ha hb (hhead _), if_pos rfl,
      headerName?_name (by decide) (by decide) hname.1 hname.2 hc hd]
  | part =>
    rw [SqlFile.header?, openingBracket, closingBracket,
      bracketed?_header (by decide) ha hb (hhead _), if_neg (by decide),
      bracketed?_header (by decide) ha hb (hhead _), if_pos rfl,
      headerName?_name (by decide) (by decide) hname.1 hname.2 hc hd]
    rfl

theorem isTrim (h : IsHeader kind name l) : Text.IsTrim l := by
  obtain ⟨-, -, -, -⟩ := h
  rename_i a b c d
  simpa using isTrim_slashes ('*' :: (a ++ openingBracket kind ::
    (b ++ (name ++ (c ++ closingBracket kind :: (d ++ ['*']))))))

/-- A header is no description. -/
theorem dropFront?_eq_none (h : IsHeader kind name l) :
    Text.dropFront? ['/', '*', '#'] l = none := by
  obtain ⟨ha, -, -, -⟩ := h
  rename_i a b c d
  cases a with
  | nil => cases kind <;> rfl
  | cons x a =>
    have hx : '#' ≠ x := by
      rintro rfl
      exact absurd (ha '#' List.mem_cons_self) (by decide)
    simp [Text.dropFront?, hx]

end IsHeader

/-! Reading a block. -/

namespace Draft

variable {fileAlias : Text}

/-- A draft in which no block is open. -/
def between (fragments : Dict (Text × Text)) (parts : Dict Text) (pending : Option Text) : Draft :=
  ⟨fragments, parts, none, pending, none⟩

section

variable {fragments : Dict (Text × Text)} {parts : Dict Text}

theorem line_description (text : Text) :
    (between fragments parts none).line fileAlias [';'] (Entry.descriptionLine text) =
      .ok (between fragments parts (some text.trim)) := by
  have htrim : Text.IsTrim (Entry.descriptionLine text) := by
    simpa [Entry.descriptionLine] using isTrim_slashes ('*' :: '#' :: (text ++ ['#', '*']))
  have htext : Text.unlines ([text.trim].filter (!·.isEmpty)) = text.trim := by
    cases text.trim <;> simp [Text.unlines]
  have hfront : Text.dropFront? ['/', '*', '#'] (Entry.descriptionLine text) =
      some (text ++ ['#', '*', '/']) := Text.dropFront?_append ['/', '*', '#'] _
  rw [line, htrim.trim_eq]
  simp only [between, hfront, Text.dropBack?_append, describe, htext]

theorem line_header {kind : BlockKind} {name l : Text} {pending : Option Text}
    (hheader : IsHeader kind name l) (hname : name ≠ [] ∧ ∀ c ∈ name, Unicode.isBlank c = false) :
    (between fragments parts pending).line fileAlias [';'] l =
      .ok ⟨fragments, parts, some ⟨kind, name, pending, []⟩, none, none⟩ := by
  rw [line, hheader.isTrim.trim_eq]
  simp only [between, hheader.dropFront?_eq_none, hheader.header? hname]
  rfl

theorem line_body {kind : BlockKind} {name l : Text} {description : Option Text} {body : List Text}
    (h : IsBodyLine l) :
    line fileAlias [';'] ⟨fragments, parts, some ⟨kind, name, description, body⟩, none, none⟩ l =
      .ok ⟨fragments, parts, some ⟨kind, name, description, body ++ [l]⟩, none, none⟩ := by
  have hkept : (l.isBlank || (Text.startsWith ['-', '-'] l.trim &&
      (Directive.read? l.trim).isNone)) = false := by
    rw [h.nonblank, Bool.false_or, Bool.and_eq_false_imp]
    intro hdashes
    simpa using h.directive hdashes
  have hopen : Text.dropBack? [';'] l = none := by
    refine Option.eq_none_iff_forall_ne_some.2 fun rest hrest => h.terminator ?_
    rw [Text.eq_append_of_dropBack? hrest, List.getLast?_concat]
  rw [line]
  simp only [h.description, h.header, bodyLine, hkept, h.trailing, hopen]
  rfl

theorem lines_body {kind : BlockKind} {name : Text} {description : Option Text}
    {body ls : List Text} (h : ∀ l ∈ ls, IsBodyLine l) :
    lines fileAlias [';'] ⟨fragments, parts, some ⟨kind, name, description, body⟩, none, none⟩ ls =
      .ok ⟨fragments, parts, some ⟨kind, name, description, body ++ ls⟩, none, none⟩ := by
  induction ls generalizing body with
  | nil => rw [lines, List.append_nil]
  | cons l ls ih =>
    obtain ⟨hl, hls⟩ := List.forall_mem_cons.1 h
    rw [lines_cons_of_ok (line_body hl), ih hls, List.append_assoc, List.singleton_append]

theorem line_terminator (b : OpenBlock) :
    line fileAlias [';'] ⟨fragments, parts, some b, none, none⟩ [';'] =
      close fileAlias ⟨fragments, parts, some b, none, none⟩ := rfl

/-- The lines of a block enter what the block gives, if no block of its kind has its name. -/
theorem lines_entry (fileAlias : Text) {e : Entry} (he : e.WellFormed)
    (hfragment : e.kind = .fragment → fragments.contains e.name = false)
    (hpart : e.kind = .part → parts.contains e.name = false) :
    (between fragments parts none).lines fileAlias [';'] e.lines =
      .ok (between (e.fragment?.elim fragments fun f => fragments.insert f.1 f.2)
        (e.part?.elim parts fun p => parts.insert p.1 p.2) none) := by
  obtain ⟨description, kind, name, header, body⟩ := e
  have hopen : (between fragments parts none).lines fileAlias [';']
      (description.map Entry.descriptionLine).toList =
        .ok (between fragments parts (description.map Text.trim)) := by
    cases description with
    | none => rfl
    | some text => exact lines_cons_of_ok (line_description text) []
  rw [Entry.lines, lines_append_of_ok hopen, lines_cons_of_ok (line_header he.header.1 he.name),
    lines_append_of_ok (lines_body he.body), List.nil_append]
  cases kind with
  | fragment =>
    refine lines_cons_of_ok ?_ []
    have hnew : ¬fragments.contains name = true := by simp [hfragment rfl]
    rw [line_terminator, close]
    dsimp only
    rw [if_neg hnew]
    rfl
  | part =>
    refine lines_cons_of_ok ?_ []
    have hnew : ¬parts.contains name = true := by simp [hpart rfl]
    rw [line_terminator, close]
    dsimp only
    rw [if_neg hnew]
    rfl

end

end Draft

/-! Reading a file. -/

section

variable {es : List Entry}

theorem fragment?_eq_some_iff {e : Entry} {f : Text × Text × Text} :
    e.fragment? = some f ↔ e.kind = .fragment ∧ f = (e.name, e.about, e.text) := by
  obtain ⟨_, kind, _, _, _⟩ := e
  cases kind <;> simp [Entry.fragment?, eq_comm]

theorem part?_eq_some_iff {e : Entry} {p : Text × Text} :
    e.part? = some p ↔ e.kind = .part ∧ p = (e.name, e.text) := by
  obtain ⟨_, kind, _, _, _⟩ := e
  cases kind <;> simp [Entry.part?, eq_comm]

section

variable {α : Type} {f : Entry → Option (Text × α)} {kind : BlockKind}

theorem nodup_filterMap (hf : ∀ e b, f e = some b → e.kind = kind ∧ b.1 = e.name)
    (hnames : (es.map fun e => (e.kind, e.name)).Nodup) :
    ((es.filterMap f).map Prod.fst).Nodup := by
  refine List.pairwise_map.2 ((List.pairwise_map.1 hnames).filterMap f ?_)
  intro e e' hne b hb b' hb' heq
  obtain ⟨hkind, hname⟩ := hf e b hb
  obtain ⟨hkind', hname'⟩ := hf e' b' hb'
  exact hne (by rw [hkind, hkind', ← hname, ← hname', heq])

theorem contains_filterMap (hf : ∀ e b, f e = some b → e.kind = kind ∧ b.1 = e.name) {name : Text}
    (hname : (kind, name) ∉ es.map fun e => (e.kind, e.name)) :
    (Dict.ofList (es.filterMap f)).contains name = false := by
  refine Bool.eq_false_iff.2 fun hcontains => hname ?_
  obtain ⟨v, hv⟩ := Option.isSome_iff_exists.1 hcontains
  obtain ⟨e, he, hb⟩ := List.mem_filterMap.1 (Dict.mem_of_get?_ofList hv)
  obtain ⟨rfl, rfl⟩ := hf e _ hb
  exact List.mem_map_of_mem he

theorem length_filterMap (hf : ∀ e, (f e).isSome = decide (e.kind = kind)) (es : List Entry) :
    (es.filterMap f).length = (es.filter (·.kind = kind)).length := by
  rw [List.length_filterMap_eq_countP, List.countP_eq_length_filter]
  simp only [hf]

theorem ofList_filterMap_concat (f : Entry → Option (Text × α)) (es : List Entry) (e : Entry) :
    Dict.ofList ((es ++ [e]).filterMap f) =
      (f e).elim (Dict.ofList (es.filterMap f))
        fun b => (Dict.ofList (es.filterMap f)).insert b.1 b.2 := by
  rw [List.filterMap_append]
  cases hfe : f e with
  | none => simp [hfe]
  | some b => simp [hfe, Dict.ofList_concat]

end

theorem kind_of_fragment? (e : Entry) (f : Text × Text × Text) (h : e.fragment? = some f) :
    e.kind = .fragment ∧ f.1 = e.name := by
  obtain ⟨hkind, rfl⟩ := fragment?_eq_some_iff.1 h
  exact ⟨hkind, rfl⟩

theorem kind_of_part? (e : Entry) (p : Text × Text) (h : e.part? = some p) :
    e.kind = .part ∧ p.1 = e.name := by
  obtain ⟨hkind, rfl⟩ := part?_eq_some_iff.1 h
  exact ⟨hkind, rfl⟩

theorem isSome_fragment? (e : Entry) : e.fragment?.isSome = decide (e.kind = .fragment) := by
  obtain ⟨_, kind, _, _, _⟩ := e
  cases kind <;> rfl

theorem isSome_part? (e : Entry) : e.part?.isSome = decide (e.kind = .part) := by
  obtain ⟨_, kind, _, _, _⟩ := e
  cases kind <;> rfl

/-- What has been read after some blocks is what these blocks give. -/
theorem lines_entries (fileAlias : Text) (hes : ∀ e ∈ es, e.WellFormed)
    (hnames : (es.map fun e => (e.kind, e.name)).Nodup) :
    Draft.empty.lines fileAlias [';'] (es.flatMap Entry.lines) =
      .ok (.between (.ofList (es.filterMap Entry.fragment?)) (partsOf es) none) := by
  induction es using List.reverseRecOn with
  | nil => rfl
  | append_singleton es e ih =>
    rw [List.forall_mem_append] at hes
    rw [List.map_append, List.nodup_append] at hnames
    obtain ⟨hfirst, -, hapart⟩ := hnames
    have hnew : (e.kind, e.name) ∉ es.map fun e => (e.kind, e.name) := fun hmem =>
      hapart _ hmem (e.kind, e.name) (by simp) rfl
    have hentry := Draft.lines_entry fileAlias (hes.2 e List.mem_cons_self)
      (fun hkind => contains_filterMap kind_of_fragment? (hkind ▸ hnew))
      fun hkind => contains_filterMap kind_of_part? (hkind ▸ hnew)
    rw [List.flatMap_append, Draft.lines_append_of_ok (ih hes.1 hfirst), List.flatMap_singleton,
      partsOf, hentry, partsOf, ofList_filterMap_concat, ofList_filterMap_concat]

theorem lines_written (hes : ∀ e ∈ es, e.WellFormed) :
    (written es).lines = es.flatMap Entry.lines := by
  have hline : ∀ e ∈ es, ∀ l ∈ e.lines, '\n' ∉ l ∧ l.getLast? ≠ some '\r' := by
    intro e he l hl
    have hreturn : ∀ l : Text, Text.IsTrim l → l.getLast? ≠ some '\r' := fun l hl hlast =>
      absurd (hl.last _ hlast) (by decide)
    rw [Entry.lines, List.mem_append, List.mem_cons, List.mem_append] at hl
    rcases hl with hl | rfl | hl | hl
    · obtain ⟨text, htext, rfl⟩ := List.mem_map.1 (Option.toList_map .. ▸ hl)
      have hnewline := (hes e he).description text (Option.mem_toList.1 htext)
      refine ⟨by simp [Entry.descriptionLine, hnewline], hreturn _ ?_⟩
      simpa [Entry.descriptionLine] using isTrim_slashes ('*' :: '#' :: (text ++ ['#', '*']))
    · exact ⟨(hes e he).header.2, hreturn _ (hes e he).header.1.isTrim⟩
    · have hbody := (hes e he).body l hl
      refine ⟨hbody.newline, fun hlast => ?_⟩
      rw [← hbody.trailing] at hlast
      exact absurd (Text.getLast?_trimEnd l _ hlast) (by decide)
    · obtain rfl := List.mem_singleton.1 hl
      decide
  refine Text.lines_flatMap (fun l hl => ?_) fun l hl => ?_
  · obtain ⟨e, he, hl⟩ := List.mem_flatMap.1 hl
    exact (hline e he l hl).1
  · obtain ⟨e, he, hl⟩ := List.mem_flatMap.1 hl
    exact (hline e he l hl).2

/-- The maps that are read are the same for all orders of the blocks. -/
theorem lines_written_perm (fileAlias : Text) {es' : List Entry} (hperm : es'.Perm es)
    (hes : ∀ e ∈ es, e.WellFormed) (hnames : (es.map fun e => (e.kind, e.name)).Nodup) :
    Draft.empty.lines fileAlias [';'] (written es').lines =
      .ok (.between (.ofList (es.filterMap Entry.fragment?)) (partsOf es) none) := by
  have hes' : ∀ e ∈ es', e.WellFormed := fun e he => hes e (hperm.subset he)
  have hnames' : (es'.map fun e => (e.kind, e.name)).Nodup := (hperm.map _).nodup_iff.2 hnames
  rw [lines_written hes', lines_entries fileAlias hes' hnames', partsOf, partsOf,
    Dict.ofList_perm (hperm.filterMap _) (nodup_filterMap kind_of_fragment? hnames'),
    Dict.ofList_perm (hperm.filterMap _) (nodup_filterMap kind_of_part? hnames')]

end

/-- A file that is written block by block holds exactly what its blocks give, whatever order they
are written in, if no name occurs twice in a kind and the directives of each fragment are in order
once its parts are put in. -/
theorem ofText_written (fileAlias : Text) {es : List Entry} (hes : ∀ e ∈ es, e.WellFormed)
    (hnames : (es.map fun e => (e.kind, e.name)).Nodup)
    (hsources : ∀ e ∈ es, e.kind = .fragment →
      (Template.parse (inlineParts (partsOf es) e.text)).isOk) :
    ∃ file : SqlFile, (∀ es', es'.Perm es → ofText fileAlias (written es') [';'] = .ok file) ∧
      file.fragments.size = (es.filter (·.kind = .fragment)).length ∧
      file.parts.size = (es.filter (·.kind = .part)).length ∧
      (∀ e ∈ es, e.kind = .fragment →
        ∃ f, file.fragments.get? e.name = some f ∧ e.Gives fileAlias file.parts f) ∧
      ∀ e ∈ es, e.kind = .part → file.parts.get? e.name = some e.text := by
  have hfragments : ((es.filterMap Entry.fragment?).map Prod.fst).Nodup :=
    nodup_filterMap kind_of_fragment? hnames
  have hparts : ((es.filterMap Entry.part?).map Prod.fst).Nodup :=
    nodup_filterMap kind_of_part? hnames
  have hdrafts : ∀ d : Text × Text × Text,
      d ∈ (Dict.ofList (es.filterMap Entry.fragment?)).entries ↔
        ∃ e ∈ es, e.kind = .fragment ∧ d = (e.name, e.about, e.text) := by
    simp only [Dict.mem_entries_ofList hfragments, List.mem_filterMap, fragment?_eq_some_iff,
      implies_true]
  have hparse : ∀ d ∈ (Dict.ofList (es.filterMap Entry.fragment?)).entries,
      (Template.parse (inlineParts (partsOf es) d.2.2)).isOk := by
    intro d hd
    obtain ⟨e, he, hkind, rfl⟩ := (hdrafts d).1 hd
    exact hsources e he hkind
  obtain ⟨fs, hfs⟩ := exists_makeFragments_eq_ok fileAlias hparse
  obtain ⟨hkeys, -⟩ := makeFragments_spec hfs
  have hnodup : (fs.map Prod.fst).Nodup := hkeys ▸ Dict.nodup_keys _
  have hlength : fs.length = (Dict.ofList (es.filterMap Entry.fragment?)).size := by
    simpa [Dict.size] using congrArg List.length hkeys
  refine ⟨⟨fileAlias, [], none, .ofList fs, partsOf es⟩, fun es' hperm => ?_, ?_, ?_,
    fun e he hkind => ?_, fun e he hkind => ?_⟩
  · rw [ofText, lines_written_perm fileAlias hperm hes hnames]
    change (makeFragments fileAlias (partsOf es)
      (Dict.ofList (es.filterMap Entry.fragment?)).entries).bind _ = _
    rw [hfs]
    rfl
  · rw [Dict.size_ofList hnodup, hlength, Dict.size_ofList hfragments,
      length_filterMap isSome_fragment?]
  · rw [partsOf, Dict.size_ofList hparts, length_filterMap isSome_part?]
  · obtain ⟨f, hf, hfragment⟩ := get?_of_makeFragments hfs ((hdrafts _).2 ⟨e, he, hkind, rfl⟩)
    obtain ⟨hfile, hname, hsource, hdescription, htemplate⟩ := fragment_eq_ok_iff.1 hfragment
    exact ⟨f, hf, hfile, hname, hdescription, hsource, htemplate⟩
  · refine (Dict.get?_ofList hparts).2 (List.mem_filterMap.2 ⟨e, he, ?_⟩)
    exact part?_eq_some_iff.2 ⟨hkind, rfl⟩

/-- A fragment with a placeholder of the part, and a header with blanks around the brackets. -/
def usage : Entry :=
  ⟨some " all of them ".toList, .fragment, "a".toList, "/* [a] */".toList,
    ["select *".toList, "from t $\x7bp\x7d".toList]⟩

def usedPart : Entry :=
  ⟨none, .part, "p".toList, "/*\x7bp\x7d*/".toList, ["where x = 1".toList]⟩

/-- The part may stand behind the fragment that it is put into. -/
theorem ofText_written_usedBefore :
    ∃ file : SqlFile,
      ofText "q".toList (written [usage, usedPart]) [';'] = .ok file ∧
      ofText "q".toList (written [usedPart, usage]) [';'] = .ok file ∧
      file.parts.get? "p".toList = some "where x = 1".toList ∧
      ∃ f, file.fragments.get? "a".toList = some f ∧ f.description = "all of them".toList ∧
        f.source = inlineParts file.parts "select *\nfrom t $\x7bp\x7d".toList := by
  have husage : usage.WellFormed := by
    refine ⟨⟨by decide, Text.forall_mem_of_all (by decide)⟩,
      ⟨.intro (a := [' ']) (b := []) (c := []) (d := [' ']) ?_ ?_ ?_ ?_, by decide +kernel⟩, ?_,
      by decide +kernel⟩
    · exact Text.forall_mem_of_all (by decide)
    · simp
    · simp
    · exact Text.forall_mem_of_all (by decide)
    · rintro text ⟨⟩
      decide +kernel
  have hpart : usedPart.WellFormed := by
    refine ⟨⟨by decide, Text.forall_mem_of_all (by decide)⟩,
      ⟨.intro (a := []) (b := []) (c := []) (d := []) ?_ ?_ ?_ ?_, by decide +kernel⟩, ?_,
      by decide +kernel⟩
    all_goals simp [usedPart]
  have hes : ∀ e ∈ [usage, usedPart], e.WellFormed := by
    simp [husage, hpart]
  have hsources : ∀ e ∈ [usage, usedPart], e.kind = .fragment →
      (Template.parse (inlineParts (partsOf [usage, usedPart]) e.text)).isOk := by
    intro e he hkind
    obtain rfl : e = usage := by
      rcases List.mem_pair.1 he with rfl | rfl
      · rfl
      · cases hkind
    decide +kernel
  obtain ⟨file, hfile, -, -, hfragments, hparts⟩ :=
    ofText_written "q".toList hes (by decide) hsources
  obtain ⟨f, hf, hgives⟩ := hfragments usage (by simp) rfl
  exact ⟨file, hfile _ (.refl _), hfile _ (.swap _ _ _), hparts usedPart (by simp) rfl, f, hf,
    hgives.description.trans (by decide +kernel), hgives.source⟩

end SqlTemplate.SqlFile
