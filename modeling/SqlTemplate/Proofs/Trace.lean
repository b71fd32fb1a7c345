import SqlTemplate.Proofs.Scoping

/-!
The names that loops make.  A renderer that also notes what it renames shows that every new name
stands for one reference in one element, and for nothing that the caller or a loop has named.
-/
namespace SqlTemplate.Template

/-- A reference that has been renamed, and its new name. -/
structure Use where
  reference : Reference
  name : Text

/-- What has been renamed in the text of one element.  `vars` has the variables of its loop and of
those around it. -/
structure Renaming where
  header : LoopHeader
  element : Element
  vars : List Text
  uses : List Use

/-- The reference that a piece is renamed for. -/
def Reference.Piece.reference? : Reference.Piece → Option Reference
  | .char _ | .kept _ => none
  | .placeholder _ r | .parameter r => some r

namespace Naming

variable (header : LoopHeader) (sigil : Char) (e : Element)

def uses : List Reference.Piece → Naming → List Use
  | [], _ => []
  | p :: ps, n =>
    p.reference?.toList.map (fun r => ⟨r, (nameOf header e r n).1⟩) ++
      uses ps (write header sigil e p n).2

def plainUses (t : Text) (n : Naming) : List Use :=
  let ps := Reference.splitPlaceholders header.vars t
  let filled := writeAll header sigil e ps n
  uses header sigil e ps n ++
    uses header sigil e (Reference.splitParameters sigil header.vars none filled.1) filled.2

def segmentUses : List Segment → Naming → List Use
  | [], _ => []
  | .inert _ :: ss, n => segmentUses ss n
  | .plain t :: ss, n =>
    plainUses header sigil e t n ++ segmentUses ss (renamePlain header sigil e t n).2

/-- The references that are renamed in the text of an element, one after another. -/
def renamed (t : Text) (bound : Args) : List Use :=
  segmentUses header sigil e (segments t) ⟨∅, bound⟩

end Naming

/-! The renderer with its notes. -/

section

variable (ctx : Condition.Context) (sigil : Char)

abbrev Trace := Render (List Text × List Renaming)

def traceElements (header : LoopHeader) (vars : List Text) (scope : Args) (loop : Nat)
    (body : Args → Trace) : Nat → List Value → Trace
  | _, [] => pure ([], [])
  | position, item :: items => do
    let inner := elementScope header scope item position
    if ← passes ctx header inner then
      let (lines, log) ← body inner
      let p ← get
      let e : Element := ⟨item, position, loop, inner⟩
      let (t, bound) := Naming.rename header sigil e (Text.unlines lines) p.bound
      let uses := Naming.renamed header sigil e (Text.unlines lines) p.bound
      set { p with bound }
      let (texts, more) ← traceElements header vars scope loop body (position + 1) items
      return (t :: texts, log ++ ⟨header, e, vars, uses⟩ :: more)
    else traceElements header vars scope loop body (position + 1) items

def traceLoop (header : LoopHeader) (vars : List Text) (scope : Args) (body : Args → Trace) :
    Trace := do
  let p ← get
  set { p with loops := p.loops + 1 }
  match ← loopItems ctx scope header.source with
  | none => return ([], [])
  | some items =>
    let (texts, log) ← traceElements ctx sigil header vars scope p.loops body 0 items
    return (loopLines header texts, log)

mutual

def traceBlock (vars : List Text) (scope : Args) : Block → Trace
  | .text line => pure ([line], [])
  | .guarded condition body => do
    if ← condition.holds ctx scope then traceBlocks vars scope body else pure ([], [])
  | .choose branches none => traceBranches vars scope (pure ([], [])) branches
  | .choose branches (some otherwise) =>
    traceBranches vars scope (traceBlocks vars scope otherwise) branches
  | .loop header body =>
    traceLoop ctx sigil header (header.vars ++ vars) scope fun inner =>
      traceBlocks (header.vars ++ vars) inner body

def traceBlocks (vars : List Text) (scope : Args) : List Block → Trace
  | [] => pure ([], [])
  | b :: bs => do
    let (lines, log) ← traceBlock vars scope b
    let (more, log') ← traceBlocks vars scope bs
    return (lines ++ more, log ++ log')

def traceBranches (vars : List Text) (scope : Args) (otherwise : Trace) :
    List (Condition × List Block) → Trace
  | [] => otherwise
  | (condition, body) :: rest => do
    if ← condition.holds ctx scope then traceBlocks vars scope body
    else traceBranches vars scope otherwise rest

end

/-- Renders a template and notes what is renamed, in the order in which it happens. -/
def trace (blocks : Template) (args : Args) : Except Error (Rendering × List Renaming) := do
  let ((lines, log), p) ← (traceBlocks ctx sigil [] args blocks).run ⟨0, ∅⟩
  return (⟨Text.unlines lines, args.union p.bound⟩, log)

def Task.trace (vars : List Text) (scope : Args) : Task → Trace
  | .block b => traceBlock ctx sigil vars scope b
  | .blocks bs => traceBlocks ctx sigil vars scope bs
  | .branches rest bs =>
    traceBranches ctx sigil vars scope (traceBlocks ctx sigil vars scope bs) rest
  | .elements header loop body position items =>
    traceElements ctx sigil header (header.vars ++ vars) scope loop
      (fun inner => traceBlocks ctx sigil (header.vars ++ vars) inner body) position items

end

/-! What is renamed in one element. -/

/-- Whether a reference is one to a variable: a path has a dot in front. -/
def Reference.To (vars : List Text) (r : Reference) : Prop :=
  r.var ∈ vars ∧ r.path.head?.all (· == '.')

namespace Reference

variable {vars : List Text} {r r' : Reference} {Q : Reference → Prop}

theorem To.text_injective (hvars : ∀ v ∈ vars, '.' ∉ v) (h : r.To vars) (h' : r'.To vars)
    (htext : r.text = r'.text) : r = r' := by
  have hroot := congrArg Name.root htext
  have hafter := congrArg Name.afterRoot htext
  rw [text, text, Name.root_append (hvars _ h.1) h.2, Name.root_append (hvars _ h'.1) h'.2] at hroot
  rw [text, text, Name.afterRoot_append (hvars _ h.1) h.2,
    Name.afterRoot_append (hvars _ h'.1) h'.2] at hafter
  cases r
  cases r'
  simp_all

theorem to_of_readPlaceholder? {cs rest : Text} {mark : Mark}
    (h : readPlaceholder? vars cs = some (mark, r, rest)) : r.To vars := by
  unfold readPlaceholder? at h
  split at h
  · dsimp only at h
    obtain ⟨v, hv, h⟩ := List.exists_of_findSome?_eq_some h
    split at h
    · split at h
      · obtain ⟨-, h⟩ := Prod.mk.inj (Option.some.inj h)
        obtain ⟨rfl, -⟩ := Prod.mk.inj h
        exact ⟨hv, Name.dotted_head?_all _⟩
      · cases h
    · cases h
  · cases h

theorem to_of_readParameter? {cs rest : Text} (h : readParameter? vars cs = some (r, rest)) :
    r.To vars := by
  unfold readParameter? at h
  obtain ⟨v, hv, h⟩ := List.exists_of_findSome?_eq_some h
  split at h
  · dsimp only at h
    split at h
    · obtain ⟨rfl, -⟩ := Prod.mk.inj (Option.some.inj h)
      exact ⟨hv, Name.dotted_head?_all _⟩
    · split at h
      · obtain ⟨rfl, -⟩ := Prod.mk.inj (Option.some.inj h)
        exact ⟨hv, Name.dotted_head?_all _⟩
      · cases h
  · cases h

/-- What holds of all references that are read as placeholders holds of those in pieces. -/
theorem forall_splitPlaceholders
    (h : ∀ cs mark r rest, readPlaceholder? vars cs = some (mark, r, rest) → Q r) (cs : Text) :
    ∀ p ∈ splitPlaceholders vars cs, ∀ r ∈ p.reference?, Q r := by
  fun_induction splitPlaceholders vars cs with
  | case1 cs mark r rest hread _ ih =>
    refine List.forall_mem_cons.2 ⟨fun s hs => ?_, ih⟩
    obtain rfl : r = s := by simpa [Piece.reference?] using hs
    exact h _ _ _ _ hread
  | case2 => simp
  | case3 c rest hread ih => exact List.forall_mem_cons.2 ⟨fun r hr => (by cases hr), ih⟩

theorem forall_splitParameters
    (h : ∀ cs r rest, readParameter? vars cs = some (r, rest) → Q r) (sigil : Char)
    (last : Option Char) (cs : Text) :
    ∀ p ∈ splitParameters sigil vars last cs, ∀ r ∈ p.reference?, Q r := by
  fun_induction splitParameters sigil vars last cs with
  | case1 => simp
  | case2 last rest r rest' hread _ piece ih =>
    refine List.forall_mem_append.2 ⟨?_, ih⟩
    dsimp only [piece]
    split
    · simp [Piece.reference?]
    · refine List.forall_mem_singleton.2 fun s hs => ?_
      obtain rfl : r = s := by simpa [Piece.reference?] using hs
      exact h _ _ _ hread
  | case3 last rest hread ih => exact List.forall_mem_cons.2 ⟨fun r hr => (by cases hr), ih⟩
  | case4 last c rest hc ih => exact List.forall_mem_cons.2 ⟨fun r hr => (by cases hr), ih⟩

/-- Whether pieces are renamed for references to variables only. -/
def AllTo (vars : List Text) (ps : List Piece) : Prop := ∀ p ∈ ps, ∀ r ∈ p.reference?, r.To vars

theorem allTo_splitPlaceholders (vars : List Text) (cs : Text) :
    AllTo vars (splitPlaceholders vars cs) :=
  forall_splitPlaceholders (fun _ _ _ _ => to_of_readPlaceholder?) cs

theorem allTo_splitParameters (sigil : Char) (vars : List Text) (last : Option Char) (cs : Text) :
    AllTo vars (splitParameters sigil vars last cs) :=
  forall_splitParameters (fun _ _ _ => to_of_readParameter?) sigil last cs

end Reference

namespace Naming

variable {header : LoopHeader} {sigil : Char} {e : Element} {start : Args} {us us' : List Use}
  {n : Naming}

/-- What has been made of the arguments in `start` while the references of an element were given
names. -/
structure Assigns (header : LoopHeader) (e : Element) (start : Args) (us : List Use) (n : Naming) :
    Prop where
  given : ∀ t name, n.given.get? t = some name ↔ ∃ u ∈ us, u.reference.text = t ∧ u.name = name
  bound : ∀ key v, n.bound.get? key = some v ↔
    start.get? key = some v ∨ ∃ u ∈ us, u.name = key ∧ value header e u.reference = v
  own : ∀ u ∈ us, u.reference.To header.vars
  dotless : ∀ u ∈ us, '.' ∉ u.name
  scope : ∀ u ∈ us, e.scope.contains u.name = false
  fresh : ∀ u ∈ us, start.contains u.name = false
  same : ∀ u ∈ us, ∀ u' ∈ us, u.name = u'.name ↔ u.reference = u'.reference

theorem Assigns.nil : Assigns header e start [] ⟨∅, start⟩ := by
  constructor <;> simp

theorem Assigns.of_mem (h : Assigns header e start us n) (hmem : ∀ u, u ∈ us' ↔ u ∈ us) :
    Assigns header e start us' n where
  given := by simpa only [hmem] using h.given
  bound := by simpa only [hmem] using h.bound
  own := by simpa only [hmem] using h.own
  dotless := by simpa only [hmem] using h.dotless
  scope := by simpa only [hmem] using h.scope
  fresh := by simpa only [hmem] using h.fresh
  same := by simpa only [hmem] using h.same

theorem dot_notMem_freshName {r : Reference} (hvar : '.' ∉ r.var) (scope bound : Args) :
    '.' ∉ freshName (baseName e r) scope bound := by
  obtain ⟨⟨i, hi⟩, -, -⟩ := freshName_spec (baseName e r) scope bound
  rw [hi]
  intro hdot
  rcases mem_numbered hdot with h | h | ⟨-, h⟩
  · cases h
  · exact hvar h
  · exact h rfl

/-- A new name for a reference that has none yet. -/
theorem Assigns.cons (h : Assigns header e start us n) {r : Reference} (hr : r.To header.vars)
    (hnone : n.given.get? r.text = none) {name : Text} (hdot : '.' ∉ name)
    (hscope : e.scope.contains name = false) (hbound : n.bound.contains name = false) :
    Assigns header e start (⟨r, name⟩ :: us)
      ⟨n.given.insert r.text name, n.bound.insert name (value header e r)⟩ := by
  have hbound : ∀ v, n.bound.get? name ≠ some v := by
    intro v hv
    simp [Dict.contains, hv] at hbound
  have hstart : ∀ v, start.get? name ≠ some v := fun v hv =>
    hbound v ((h.bound name v).2 (Or.inl hv))
  have hnames : ∀ u ∈ us, u.name ≠ name := by
    rintro u hu rfl
    exact hbound _ ((h.bound _ _).2 (Or.inr ⟨u, hu, rfl, rfl⟩))
  have htexts : ∀ u ∈ us, u.reference.text ≠ r.text := by
    intro u hu htext
    have hgiven := (h.given r.text u.name).2 ⟨u, hu, htext, rfl⟩
    simp [hnone] at hgiven
  refine ⟨fun t given => ?_, fun key v => ?_, List.forall_mem_cons.2 ⟨hr, h.own⟩,
    List.forall_mem_cons.2 ⟨hdot, h.dotless⟩, List.forall_mem_cons.2 ⟨hscope, h.scope⟩,
    List.forall_mem_cons.2 ⟨?_, h.fresh⟩, ?_⟩
  · rw [Dict.get?_insert, List.exists_mem_cons_iff]
    split
    · rename_i ht
      subst ht
      have hold : ¬∃ u ∈ us, u.reference.text = r.text ∧ u.name = given := by
        rintro ⟨u, hu, htext, -⟩
        exact htexts u hu htext
      simp [hold]
    · rename_i ht
      rw [h.given]
      simp [ht]
  · rw [Dict.get?_insert, List.exists_mem_cons_iff]
    split
    · rename_i hkey
      subst hkey
      have hold : ¬∃ u ∈ us, u.name = name ∧ value header e u.reference = v := by
        rintro ⟨u, hu, hn, -⟩
        exact hnames u hu hn
      simp [hold, hstart v]
    · rename_i hkey
      rw [h.bound]
      simp [hkey]
  · cases hs : start.get? name with
    | none => simp [Dict.contains, hs]
    | some v => exact absurd hs (hstart v)
  · have hreference : ∀ u ∈ us, u.reference ≠ r := fun u hu heq => htexts u hu (heq ▸ rfl)
    refine List.forall_mem_cons.2 ⟨List.forall_mem_cons.2 ⟨by simp, fun u hu => ?_⟩, fun u hu =>
      List.forall_mem_cons.2 ⟨?_, h.same u hu⟩⟩
    · simp [(hnames u hu).symm, (hreference u hu).symm]
    · simp [hnames u hu, hreference u hu]

theorem Assigns.nameOf (hvars : ∀ v ∈ header.vars, '.' ∉ v) (h : Assigns header e start us n)
    {r : Reference} (hr : r.To header.vars) :
    Assigns header e start (us ++ [⟨r, (nameOf header e r n).1⟩]) (nameOf header e r n).2 := by
  rcases nameOf_cases header e r n with ⟨name, hgiven, heq⟩ | ⟨hnone, heq⟩ <;> rw [heq]
  · obtain ⟨u, hu, htext, rfl⟩ := (h.given _ _).1 hgiven
    obtain rfl := (h.own u hu).text_injective hvars hr htext
    refine h.of_mem fun u' => ?_
    rw [List.mem_append, List.mem_singleton, or_iff_left_iff_imp]
    rintro rfl
    exact hu
  · obtain ⟨-, hscope, hbound⟩ := freshName_spec (baseName e r) e.scope n.bound
    refine (h.cons hr hnone (dot_notMem_freshName (hvars _ hr.1) _ _) hscope hbound).of_mem
      fun u => ?_
    rw [List.mem_append, List.mem_singleton, List.mem_cons, or_comm]

theorem Assigns.write (hvars : ∀ v ∈ header.vars, '.' ∉ v) (h : Assigns header e start us n)
    {p : Reference.Piece} (hp : ∀ r ∈ p.reference?, r.To header.vars) :
    Assigns header e start
      (us ++ p.reference?.toList.map fun r => ⟨r, (Naming.nameOf header e r n).1⟩)
      (Naming.write header sigil e p n).2 := by
  cases p with
  | char _ | kept _ =>
    change Assigns header e start (us ++ []) n
    rwa [List.append_nil]
  | placeholder mark r => exact h.nameOf hvars (hp r rfl)
  | parameter r => exact h.nameOf hvars (hp r rfl)

theorem Assigns.writeAll (hvars : ∀ v ∈ header.vars, '.' ∉ v) (h : Assigns header e start us n)
    {ps : List Reference.Piece} (hps : Reference.AllTo header.vars ps) :
    Assigns header e start (us ++ uses header sigil e ps n)
      (Naming.writeAll header sigil e ps n).2 := by
  induction ps generalizing us n with
  | nil =>
    rw [uses, List.append_nil]
    exact h
  | cons p ps ih =>
    obtain ⟨hp, hps⟩ := List.forall_mem_cons.1 hps
    rw [writeAll_cons, uses, ← List.append_assoc]
    exact ih (h.write hvars hp) hps

theorem Assigns.renamePlain (hvars : ∀ v ∈ header.vars, '.' ∉ v)
    (h : Assigns header e start us n) (t : Text) :
    Assigns header e start (us ++ plainUses header sigil e t n)
      (Naming.renamePlain header sigil e t n).2 := by
  dsimp only [plainUses]
  rw [← List.append_assoc]
  exact (h.writeAll hvars (Reference.allTo_splitPlaceholders header.vars t)).writeAll hvars
    (Reference.allTo_splitParameters sigil header.vars none _)

theorem Assigns.renameSegments (hvars : ∀ v ∈ header.vars, '.' ∉ v)
    (h : Assigns header e start us n) (ss : List Segment) :
    Assigns header e start (us ++ segmentUses header sigil e ss n)
      (Naming.renameSegments header sigil e ss n).2 := by
  induction ss generalizing us n with
  | nil =>
    rw [segmentUses, List.append_nil]
    exact h
  | cons s ss ih =>
    cases s with
    | inert t => exact ih h
    | plain t =>
      rw [segmentUses, ← List.append_assoc]
      exact ih (h.renamePlain hvars t)

theorem exists_assigns_rename (sigil : Char) (e : Element) (hvars : ∀ v ∈ header.vars, '.' ∉ v)
    (t : Text) (bound : Args) :
    ∃ n, Assigns header e bound (renamed header sigil e t bound) n ∧
      n.bound = (rename header sigil e t bound).2 :=
  ⟨_, Assigns.nil.renameSegments hvars (segments t), rfl⟩

end Naming

/-! What is renamed in a whole rendering. -/

/-- What a rendering has made of the arguments in `before`: they are kept, and there is a new one
for every reference that has been renamed. -/
structure Synthesis (before : Args) (log : List Renaming) (after : Args) : Prop where
  entries : ∀ key v, after.get? key = some v ↔ before.get? key = some v ∨
    ∃ ρ ∈ log, ∃ u ∈ ρ.uses, u.name = key ∧ Naming.value ρ.header ρ.element u.reference = v
  fresh : ∀ ρ ∈ log, ∀ u ∈ ρ.uses, before.contains u.name = false
  dotless : ∀ ρ ∈ log, ∀ u ∈ ρ.uses, '.' ∉ u.name
  unbound : ∀ ρ ∈ log, ∀ u ∈ ρ.uses, u.name ∉ ρ.vars
  /-- In one element, references and new names correspond to each other. -/
  same : ∀ ρ ∈ log, ∀ u ∈ ρ.uses, ∀ u' ∈ ρ.uses, u.name = u'.name ↔ u.reference = u'.reference
  /-- No two elements, of one loop or of two, have a new name in common. -/
  apart : log.Pairwise fun ρ ρ' => ∀ u ∈ ρ.uses, ∀ u' ∈ ρ'.uses, u.name ≠ u'.name

theorem Synthesis.nil (args : Args) : Synthesis args [] args := by
  constructor <;> simp

theorem Synthesis.append {a b c : Args} {log log' : List Renaming} (h : Synthesis a log b)
    (h' : Synthesis b log' c) : Synthesis a (log ++ log') c where
  entries key v := by
    simp only [h'.entries, h.entries, or_assoc, List.mem_append, or_and_right, exists_or]
  fresh := by
    refine List.forall_mem_append.2 ⟨h.fresh, fun ρ hρ u hu => ?_⟩
    cases ha : a.get? u.name with
    | none => simp [Dict.contains, ha]
    | some v =>
      have hb := (h.entries u.name v).2 (Or.inl ha)
      simpa [Dict.contains, hb] using h'.fresh ρ hρ u hu
  dotless := List.forall_mem_append.2 ⟨h.dotless, h'.dotless⟩
  unbound := List.forall_mem_append.2 ⟨h.unbound, h'.unbound⟩
  same := List.forall_mem_append.2 ⟨h.same, h'.same⟩
  apart := by
    refine List.pairwise_append.2 ⟨h.apart, h'.apart, fun ρ hρ ρ' hρ' u hu u' hu' heq => ?_⟩
    have hb := (h.entries u.name _).2 (Or.inr ⟨ρ, hρ, u, hu, rfl, rfl⟩)
    simpa [Dict.contains, ← heq, hb] using h'.fresh ρ' hρ' u' hu'

/-- The names given in one element, where the scope has all arguments of the caller and all
variables. -/
theorem Naming.Assigns.synthesis {args bound : Args} {header : LoopHeader} {e : Element}
    {vars : List Text} {us : List Use} {n : Naming}
    (h : Naming.Assigns header e bound us n)
    (hscope : ∀ name, args.contains name ∨ name ∈ vars → e.scope.contains name) :
    Synthesis (args.union bound) [⟨header, e, vars, us⟩] (args.union n.bound) := by
  have hout : ∀ u ∈ us, args.get? u.name = none ∧ u.name ∉ vars := by
    intro u hu
    have hfree := h.scope u hu
    refine ⟨?_, fun hmem => ?_⟩
    · cases ha : args.get? u.name with
      | none => rfl
      | some v => simp [hscope u.name (Or.inl (by simp [Dict.contains, ha]))] at hfree
    · simp [hscope u.name (Or.inr hmem)] at hfree
  refine ⟨fun key v => ?_, ?_, by simpa using h.dotless, by simpa using fun u hu => (hout u hu).2,
    by simpa using h.same, List.pairwise_singleton _ _⟩
  · simp only [List.mem_singleton, exists_eq_left, Dict.get?_union]
    cases ha : args.get? key with
    | none => simpa using h.bound key v
    | some w =>
      have hold : ¬∃ u ∈ us, u.name = key ∧ value header e u.reference = v := by
        rintro ⟨u, hu, rfl, -⟩
        simp [(hout u hu).1] at ha
      simp [hold]
  · simp only [List.mem_singleton, forall_eq]
    intro u hu
    have hfresh : (bound.get? u.name).isSome = false := h.fresh u hu
    rw [Dict.contains, Dict.get?_union, (hout u hu).1, Option.none_or, hfresh]

variable {ctx : Condition.Context} {sigil : Char}

section

variable {α β : Type} {p q : Progress}

theorem bind_of_ok {m : Render α} {f : α → Render β} {a : α} (h : m p = .ok (a, q)) :
    (m >>= f) p = f a q := by
  change (m p).bind (fun s => f s.1 s.2) = _
  rw [h]
  rfl

theorem get_bind (f : Progress → Render β) : (get >>= f) p = f p p := rfl

theorem set_bind (f : PUnit → Render β) : (set q >>= f) p = f ⟨⟩ q := rfl

theorem bind_lift_of_ok {x : Except Error α} {f : α → Render β} {a : α} (h : x = .ok a) :
    (liftM x >>= f : Render β) p = f a p := by
  rw [h]
  rfl

end

/-- Every rendering of a part of a template has its notes. -/
theorem Renders.synthesis {scope : Args} {task : Task} {p q : Progress} {ls : List Text}
    (h : Renders ctx sigil scope task p ls q) (args : Args) (vars : List Text)
    (hscope : ∀ name, args.contains name ∨ name ∈ vars → scope.contains name)
    (htask : task.Every (fun _ => True) fun header => ∀ v ∈ header.vars, '.' ∉ v) :
    ∃ log, task.trace ctx sigil vars scope p = .ok ((ls, log), q) ∧
      Synthesis (args.union p.bound) log (args.union q.bound) := by
  induction h generalizing vars with
  | text line => exact ⟨[], by rw [Task.trace, traceBlock]; rfl, .nil _⟩
  | guarded holds lines ih =>
    simp only [Task.Every, Block.Every] at htask ih
    obtain ⟨log, hlog, hs⟩ := ih _ hscope htask
    refine ⟨log, ?_, hs⟩
    rw [Task.trace, traceBlock, bind_lift_of_ok holds]
    exact hlog
  | skipped fails =>
    refine ⟨[], ?_, .nil _⟩
    rw [Task.trace, traceBlock, bind_lift_of_ok fails]
    rfl
  | @choose scope branches otherwise p q ls lines ih =>
    cases otherwise with
    | none =>
      simp only [Task.Every, Block.Every] at htask ih
      obtain ⟨log, hlog, hs⟩ := ih _ hscope ⟨htask, trivial⟩
      refine ⟨log, ?_, hs⟩
      rw [Task.trace, traceBlock]
      rwa [Task.trace, Option.getD_none, traceBlocks] at hlog
    | some bs =>
      simp only [Task.Every, Block.Every] at htask ih
      obtain ⟨log, hlog, hs⟩ := ih _ hscope htask
      refine ⟨log, ?_, hs⟩
      rw [Task.trace, traceBlock]
      exact hlog
  | @absent scope header body p items =>
    refine ⟨[], ?_, .nil _⟩
    rw [Task.trace, traceBlock, traceLoop, get_bind, set_bind, bind_lift_of_ok items]
    rfl
  | @loop scope header body p q values texts items elements ih =>
    simp only [Task.Every, Block.Every] at htask ih
    obtain ⟨log, hlog, hs⟩ := ih _ hscope htask
    refine ⟨log, ?_, hs⟩
    rw [Task.trace] at hlog
    rw [Task.trace, traceBlock, traceLoop, get_bind, set_bind, bind_lift_of_ok items]
    dsimp only
    rw [bind_of_ok hlog]
    rfl
  | nil => exact ⟨[], by rw [Task.trace, traceBlocks]; rfl, .nil _⟩
  | cons first more ih₁ ih₂ =>
    obtain ⟨log, hlog, hs⟩ := ih₁ _ hscope htask.1
    obtain ⟨log', hlog', hs'⟩ := ih₂ _ hscope htask.2
    refine ⟨log ++ log', ?_, hs.append hs'⟩
    simp only [Task.trace] at hlog hlog' ⊢
    rw [traceBlocks, bind_of_ok hlog]
    exact bind_of_ok hlog'
  | otherwise lines ih =>
    obtain ⟨log, hlog, hs⟩ := ih _ hscope htask.2
    refine ⟨log, ?_, hs⟩
    rw [Task.trace, traceBranches]
    exact hlog
  | taken holds lines ih =>
    obtain ⟨log, hlog, hs⟩ := ih _ hscope htask.1.1
    refine ⟨log, ?_, hs⟩
    rw [Task.trace, traceBranches, bind_lift_of_ok holds]
    exact hlog
  | missed fails lines ih =>
    obtain ⟨log, hlog, hs⟩ := ih _ hscope ⟨htask.1.2, htask.2⟩
    refine ⟨log, ?_, hs⟩
    rw [Task.trace, traceBranches, bind_lift_of_ok fails]
    exact hlog
  | done => exact ⟨[], by rw [Task.trace, traceElements]; rfl, .nil _⟩
  | dropped fails more ih =>
    obtain ⟨log, hlog, hs⟩ := ih _ hscope htask
    refine ⟨log, ?_, hs⟩
    rw [Task.trace, traceElements, bind_lift_of_ok fails]
    exact hlog
  | @kept scope header loop body position item items p q r ls texts t bound holds lines rename more
      ih₁ ih₂ =>
    have hinner : ∀ name, args.contains name ∨ name ∈ header.vars ++ vars →
        (elementScope header scope item position).contains name := by
      intro name hname
      rw [List.mem_append, or_left_comm] at hname
      exact contains_elementScope (hname.symm.imp_left (hscope name))
    -- the body comes first, so the loops in it have named theirs before the element does
    obtain ⟨log, hlog, hs⟩ := ih₁ _ hinner htask.2
    obtain ⟨log', hlog', hs'⟩ := ih₂ _ hscope htask
    obtain ⟨n, hassigns, hbound⟩ := Naming.exists_assigns_rename sigil
      ⟨item, position, loop, elementScope header scope item position⟩ htask.1 (Text.unlines ls)
      q.bound
    rw [rename] at hbound
    subst hbound
    refine ⟨_, ?_, hs.append ((hassigns.synthesis hinner).append hs')⟩
    simp only [Task.trace] at hlog hlog' ⊢
    rw [traceElements, bind_lift_of_ok holds, if_pos rfl, bind_of_ok hlog]
    dsimp only
    rw [get_bind, rename]
    dsimp only
    rw [set_bind, bind_of_ok hlog']
    rfl

/-- The names that loops make never disturb the caller: a rendering has the arguments of the caller
and one new argument for each reference of each element, and every name keeps the meaning that the
caller's arguments give it. -/
theorem synthesis_of_render {t : Text} {blocks : Template} (hparse : Template.parse t = .ok blocks)
    {args : Args} {rendering : Rendering} (h : render ctx sigil blocks args = .ok rendering) :
    ∃ log, trace ctx sigil blocks args = .ok (rendering, log) ∧ Synthesis args log rendering.args ∧
      ∀ name v, args.lookup? name = some v → rendering.args.lookup? name = some v := by
  obtain ⟨ls, q, hls, hsql, hargs⟩ := renders_of_render h
  have hevery : Every (fun _ => True) (fun header => ∀ v ∈ header.vars, '.' ∉ v) blocks :=
    Every.imp (fun _ _ => trivial) (fun header hh v hv => (hh.1 v hv).1.dot_notMem) blocks
      (every_of_parse hparse)
  obtain ⟨log, hlog, hs⟩ := hls.synthesis args [] (by simp) hevery
  rw [← hargs] at hs
  refine ⟨log, ?_, hs, fun name v hv => ?_⟩
  · obtain ⟨sql, all⟩ := rendering
    obtain rfl : sql = _ := hsql
    obtain rfl : all = _ := hargs
    have hrun : (traceBlocks ctx sigil [] args blocks).run ⟨0, ∅⟩ = .ok ((ls, log), q) := hlog
    rw [trace, hrun]
    rfl
  · refine Args.lookup?_mono (fun key w hw => (hs.entries key w).2 (Or.inl hw))
      (fun key hdot hnone => ?_) hv
    cases hkey : rendering.args.get? key with
    | none => rfl
    | some w =>
      rcases (hs.entries key w).1 hkey with hold | ⟨ρ, hρ, u, hu, rfl, -⟩
      · simp [hnone] at hold
      · exact absurd hdot (hs.dotless ρ hρ u hu)

/-- A loop in a loop. -/
def nestedLoops : Template :=
  [.loop ⟨"x".toList, none, "xs".toList, ", ".toList, none⟩
    [.loop ⟨"y".toList, none, "x.c".toList, ", ".toList, none⟩
      [.text ":y :x.a_b :x.a.b :y".toList]]]

def nestedItems : Args :=
  .ofList [("_y_1_0".toList, .ofNat 7), ("xs".toList, .array [.object
    [("a".toList, .object [("b".toList, .ofNat 1)]), ("a_b".toList, .ofNat 2),
      ("c".toList, .array [.ofNat 3])]])]

/-- Two paths would get one name, and the caller has an argument of the name that another reference
would get. -/
theorem synthesis_of_render_nested :
    ∃ rendering log,
      Template.parse
          "--#for x of :xs\n--#for y of :x.c\n:y :x.a_b :x.a.b :y\n--#end\n--#end".toList =
        .ok nestedLoops ∧
      trace ⟨true, Pipes.builtin⟩ ':' nestedLoops nestedItems = .ok (rendering, log) ∧
      (log.map fun ρ => ρ.uses.map Use.name) =
        [["_y_1_0_1".toList, "_y_1_0_1".toList], ["_x_a_b_0_0".toList, "_x_a_b_0_0_1".toList]] ∧
      Synthesis nestedItems log rendering.args := by
  have hparse : Template.parse
      "--#for x of :xs\n--#for y of :x.c\n:y :x.a_b :x.a.b :y\n--#end\n--#end".toList =
      .ok nestedLoops := by cbv
  have hok : (render ⟨true, Pipes.builtin⟩ ':' nestedLoops nestedItems).isOk = true := by
    decide +kernel
  obtain ⟨rendering, hrender⟩ := exists_of_isOk hok
  obtain ⟨log, hlog, hs, -⟩ := synthesis_of_render hparse hrender
  have hnames : (trace ⟨true, Pipes.builtin⟩ ':' nestedLoops nestedItems).toOption.map
        (fun out => out.2.map fun ρ => ρ.uses.map Use.name) =
      some [["_y_1_0_1".toList, "_y_1_0_1".toList],
        ["_x_a_b_0_0".toList, "_x_a_b_0_0_1".toList]] := by decide +kernel
  rw [hlog] at hnames
  exact ⟨rendering, log, hparse, hlog, Option.some.inj hnames, hs⟩

end SqlTemplate.Template
