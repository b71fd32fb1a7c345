import SqlTemplate.Proofs.LoopValue
import SqlTemplate.Proofs.Weave
import SqlTemplate.Query

/-!
Which names the arguments that loops make capture.  A name of the template's own text that the
caller has not supplied is resolved by such an argument exactly if a reference has been renamed to
its root, and it is missing, unbound or a constant otherwise.
-/
namespace SqlTemplate

open Name (root afterRoot)

namespace Template

/-- Whether an argument that a loop has made takes a name that the caller has not supplied. -/
def Captured (args : Args) (log : List Renaming) (name : Text) : Prop :=
  args.get? name = none ∧ ∃ ρ ∈ log, ∃ u ∈ ρ.uses, u.name = root name ∧
    ((Naming.value ρ.header ρ.element u.reference).walk? (afterRoot name)).isSome

/-! Names that loops make start with an underscore. -/

namespace Naming

variable {header : LoopHeader} {sigil : Char} {e : Element} {n : Naming}

theorem head?_numbered (e : Element) (r : Reference) (i : Nat) :
    (numbered (baseName e r) i).head? = some '_' := by
  cases i <;> rfl

/-- Whether all names given so far start with an underscore. -/
def Underscored (n : Naming) : Prop := ∀ t name, n.given.get? t = some name → name.head? = some '_'

theorem Underscored.nameOf (h : n.Underscored) (r : Reference) :
    (nameOf header e r n).1.head? = some '_' ∧ (nameOf header e r n).2.Underscored := by
  rcases nameOf_cases header e r n with ⟨name, hgiven, heq⟩ | ⟨-, heq⟩ <;> rw [heq]
  · exact ⟨h _ _ hgiven, h⟩
  · obtain ⟨⟨i, hi⟩, -, -⟩ := freshName_spec (baseName e r) e.scope n.bound
    have hhead : (freshName (baseName e r) e.scope n.bound).head? = some '_' := by
      rw [hi]
      exact head?_numbered e r i
    refine ⟨hhead, fun t name ht => ?_⟩
    rw [Dict.get?_insert] at ht
    split at ht
    · obtain rfl := Option.some.inj ht
      exact hhead
    · exact h t name ht

theorem Underscored.write (h : n.Underscored) (p : Reference.Piece) :
    (Naming.write header sigil e p n).2.Underscored := by
  cases p with
  | char _ | kept _ => exact h
  | placeholder _ r | parameter r => exact (h.nameOf r).2

theorem Underscored.writeAll (h : n.Underscored) (ps : List Reference.Piece) :
    (Naming.writeAll header sigil e ps n).2.Underscored := by
  induction ps generalizing n with
  | nil => exact h
  | cons p ps ih =>
    rw [writeAll_cons]
    exact ih (h.write p)

theorem Underscored.uses (h : n.Underscored) (ps : List Reference.Piece) :
    ∀ u ∈ Naming.uses header sigil e ps n, u.name.head? = some '_' := by
  induction ps generalizing n with
  | nil => simp [Naming.uses]
  | cons p ps ih =>
    rw [Naming.uses]
    refine List.forall_mem_append.2 ⟨fun u hu => ?_, ih (h.write p)⟩
    obtain ⟨r, -, rfl⟩ := List.mem_map.1 hu
    exact (h.nameOf r).1

theorem Underscored.segmentUses (h : n.Underscored) (ss : List Segment) :
    ∀ u ∈ Naming.segmentUses header sigil e ss n, u.name.head? = some '_' := by
  induction ss generalizing n with
  | nil => simp [Naming.segmentUses]
  | cons s ss ih =>
    cases s with
    | inert t => exact ih h
    | plain t =>
      have hfilled : (Naming.writeAll header sigil e
          (Reference.splitPlaceholders header.vars t) n).2.Underscored := h.writeAll _
      rw [Naming.segmentUses, plainUses]
      exact List.forall_mem_append.2 ⟨List.forall_mem_append.2 ⟨h.uses _, hfilled.uses _⟩,
        ih (hfilled.writeAll _)⟩

theorem head?_of_mem_renamed {t : Text} {bound : Args} {u : Use}
    (hu : u ∈ renamed header sigil e t bound) : u.name.head? = some '_' := by
  have hempty : Underscored ⟨∅, bound⟩ := fun t name h => by simp at h
  exact hempty.segmentUses (segments t) u hu

end Naming

variable {ctx : Condition.Context} {sigil : Char} {args after : Args} {log : List Renaming}
  {name : Text}

/-- Only names that start with an underscore are captured. -/
theorem Captured.head? {header : LoopHeader → Prop} (h : Captured args log name)
    (hmade : ∀ ρ ∈ log, ρ.Made sigil args header) : name.head? = some '_' := by
  obtain ⟨-, ρ, hρ, u, hu, hroot, -⟩ := h
  obtain ⟨-, -, t, bound, huses⟩ := hmade ρ hρ
  have hhead := Naming.head?_of_mem_renamed (huses ▸ hu)
  rw [← Name.root_append_afterRoot name, List.head?_append, ← hroot, hhead]
  rfl

/-- A name has another meaning than the caller's exactly if it is captured. -/
theorem Synthesis.lookup?_eq_iff (h : Synthesis args log after) (name : Text) :
    after.lookup? name = args.lookup? name ↔ ¬Captured args log name := by
  have hkeep : ∀ {key v}, args.get? key = some v → after.get? key = some v :=
    fun hv => (h.entries _ _).2 (Or.inl hv)
  cases hname : args.get? name with
  | some v =>
    rw [Args.lookup?_eq, Args.lookup?_eq, hname, hkeep hname]
    simp [Captured, hname]
  | none =>
    have hafter : '.' ∈ name → after.get? name = none := by
      intro hdot
      rw [Option.eq_none_iff_forall_ne_some]
      intro v hv
      rcases (h.entries name v).1 hv with hold | ⟨ρ, hρ, u, hu, rfl, -⟩
      · simp [hname] at hold
      · exact h.dotless ρ hρ u hu hdot
    rw [Args.lookup?_eq_bind hafter, Args.lookup?_eq_bind fun _ => hname]
    cases hroot : args.get? (root name) with
    | some w =>
      -- the caller has the root, and no new name is one of the caller's
      have hfree : ¬Captured args log name := by
        rintro ⟨-, ρ, hρ, u, hu, heq, -⟩
        have hfresh := h.fresh ρ hρ u hu
        simp [Dict.contains, heq, hroot] at hfresh
      simp [hkeep hroot, hfree]
    | none =>
      rw [Option.bind_none]
      constructor
      · rintro hnone ⟨-, ρ, hρ, u, hu, heq, hwalk⟩
        have hvalue := (h.entries (root name) _).2 (Or.inr ⟨ρ, hρ, u, hu, heq, rfl⟩)
        rw [hvalue, Option.bind_some] at hnone
        simp [hnone] at hwalk
      · intro hfree
        rw [Option.bind_eq_none_iff]
        intro w hw
        rcases (h.entries (root name) w).1 hw with hold | ⟨ρ, hρ, u, hu, heq, rfl⟩
        · simp [hroot] at hold
        · rw [Option.eq_none_iff_forall_ne_some]
          intro v hv
          exact hfree ⟨hname, ρ, hρ, u, hu, heq, by rw [hv]; rfl⟩

end Template

namespace Renderer

open Template

variable {r : Renderer} {t : Text} {blocks : Template} {args : Args} {rendering : Rendering}

/-- A name without a value makes strict literals and the binding of arguments fail, for the first
name that has none. -/
theorem refused_of_lookup?_eq_none (h : r.render blocks args = .ok rendering) {name : Text}
    (hmem : name ∈ Parameter.names r.sigil (r.expand rendering))
    (hnone : rendering.args.lookup? name = none) :
    ∃ missing s, rendering.args.lookup? missing = none ∧
      missing ∈ Parameter.names r.sigil (r.expand rendering) ∧
      (r.context.strict = true → r.inline blocks args = .error (.missingArgument missing)) ∧
      r.prepare blocks args = .ok s ∧ Query.ofArgs s = .error (.unboundParameter missing) := by
  obtain ⟨missing, hfind⟩ : ∃ missing, (Parameter.names r.sigil (r.expand rendering)).find?
      (fun n => (rendering.args.lookup? n).isNone) = some missing := by
    rw [← Option.isSome_iff_exists, List.find?_isSome]
    exact ⟨name, hmem, by rw [hnone]; rfl⟩
  refine ⟨missing, Statement.ofSql r.sigil (r.expand rendering) rendering.args, ?_,
    List.mem_of_find?_eq_some hfind, fun hstrict => ?_, ?_, ?_⟩
  · simpa using List.find?_some hfind
  · rw [inline, h]
    change Statement.inline r.sigil (r.expand rendering) rendering.args r.context.strict = _
    rw [Statement.inline_eq, hstrict]
    simp only [Statement.refused?, Bool.true_and, hfind]
  · rw [prepare, h]
    rfl
  · rw [Query.ofArgs]
    simp only [Statement.args_ofSql, Statement.names_ofSql, hfind]

/-- The names that loops make capture no other names than those that a reference has been renamed
to, with a path that the reference's value has; all of them start with an underscore.  Every other
name means what it means to the caller, and if that is nothing, then constants apply to it, and it
is missing or unbound as a parameter. -/
theorem captured_of_render (hparse : Template.parse t = .ok blocks)
    (h : r.render blocks args = .ok rendering) :
    ∃ raw log, Template.trace r.context r.sigil blocks args = .ok (raw, log) ∧
      rendering = ⟨cleanup raw.sql, raw.args⟩ ∧ ∀ name,
        (rendering.args.lookup? name = args.lookup? name ↔ ¬Captured args log name) ∧
        (Captured args log name → name.head? = some '_') ∧
        (args.lookup? name = none → ¬Captured args log name →
          (∀ mark, Placeholder.resolve rendering.args r.constants ⟨mark, name⟩ =
            r.constants.get? name) ∧
          (name ∈ Parameter.names r.sigil (r.expand rendering) → ∃ missing s,
            rendering.args.lookup? missing = none ∧
            missing ∈ Parameter.names r.sigil (r.expand rendering) ∧
            (r.context.strict = true → r.inline blocks args = .error (.missingArgument missing)) ∧
            r.prepare blocks args = .ok s ∧
            Query.ofArgs s = .error (.unboundParameter missing))) := by
  obtain ⟨raw, hraw, hrendering⟩ := exists_of_bind_eq_ok h
  obtain rfl := Except.ok.inj hrendering
  obtain ⟨log, hlog, hs, -⟩ := synthesis_of_render hparse hraw
  refine ⟨raw, log, hlog, rfl, fun name => ⟨hs.lookup?_eq_iff name, fun hcaptured =>
    hcaptured.head? (made_of_trace (fun _ h => h) (dotless_of_parse hparse) hlog),
    fun hnone hfree => ?_⟩⟩
  have hlookup : raw.args.lookup? name = none := ((hs.lookup?_eq_iff name).2 hfree).trans hnone
  refine ⟨fun mark => ?_, fun hmem => refused_of_lookup?_eq_none h hmem hlookup⟩
  rw [Placeholder.resolve, hlookup]

/-- A parameter and a constant in front of a loop. -/
def frontLoop : Template :=
  [.text "select :y, $\x7bt\x7d".toList,
    .loop ⟨"x".toList, none, "xs".toList, ", ".toList, none⟩ [.text ":x".toList]]

def frontRenderer : Renderer := ⟨':', .ofList [("t".toList, "u".toList)], true, Pipes.builtin⟩

def frontItems : Args := .ofList [("xs".toList, .array [.ofNat 9])]

theorem captured_of_render_constant :
    ∃ rendering,
      Template.parse "select :y, $\x7bt\x7d\n--#for x of :xs\n:x\n--#end".toList =
        .ok frontLoop ∧
      render frontRenderer frontLoop frontItems = .ok rendering ∧
      rendering.args.lookup? "y".toList = none ∧
      Placeholder.resolve rendering.args frontRenderer.constants ⟨.bare, "t".toList⟩ =
        some "u".toList ∧
      inline frontRenderer frontLoop frontItems = .error (.missingArgument "y".toList) := by
  have hparse : Template.parse "select :y, $\x7bt\x7d\n--#for x of :xs\n:x\n--#end".toList =
      .ok frontLoop := by cbv
  have hok : (render frontRenderer frontLoop frontItems).isOk = true := by decide +kernel
  obtain ⟨rendering, hrender⟩ := exists_of_isOk hok
  obtain ⟨-, log, -, -, hnames⟩ := captured_of_render hparse hrender
  have hrun : (render frontRenderer frontLoop frontItems).toOption.map (fun out =>
        (Parameter.names frontRenderer.sigil (expand frontRenderer out),
          (out.args.lookup? "_x_0_0".toList).isSome)) =
      some (["y".toList, "_x_0_0".toList], true) := by decide +kernel
  rw [hrender] at hrun
  obtain ⟨hall, hsome⟩ := Prod.mk.inj (Option.some.inj hrun)
  obtain ⟨hiff, hhead, hmissing⟩ := hnames "y".toList
  have hfree : ¬Captured frontItems log "y".toList :=
    fun h => absurd (hhead h) (by decide)
  obtain ⟨-, hrefused⟩ := hmissing rfl hfree
  obtain ⟨missing, s, hnone, hmem, hinline, -⟩ := hrefused (by rw [hall]; simp)
  obtain ⟨-, hheadt, hconstant⟩ := hnames "t".toList
  refine ⟨rendering, hparse, hrender, (hiff.2 hfree).trans rfl,
    ((hconstant rfl fun h => absurd (hheadt h) (by decide)).1 .bare).trans rfl, ?_⟩
  obtain rfl : missing = "y".toList := by
    rw [hall] at hmem
    rcases List.mem_cons.1 hmem with hmissing | hmem
    · exact hmissing
    · obtain rfl := List.mem_singleton.1 hmem
      rw [hnone] at hsome
      cases hsome
  exact hinline rfl

/-- A parameter in front of a loop gets the value of an element, as it is written the way the loop
names its reference. -/
theorem not_forall_lookup?_eq :
    ¬∀ (t : Text) (blocks : Template) (args : Args) (rendering : Rendering),
      Template.parse t = .ok blocks →
      render ⟨':', ∅, true, Pipes.builtin⟩ blocks args = .ok rendering →
      ∀ line, Block.text line ∈ blocks → ∀ name ∈ Parameter.names ':' line,
        rendering.args.lookup? name = args.lookup? name := by
  intro h
  have hparse : Template.parse "select :_x_0_0\n--#for x of :xs\n:x\n--#end".toList =
      .ok [.text "select :_x_0_0".toList,
        .loop ⟨"x".toList, none, "xs".toList, ", ".toList, none⟩ [.text ":x".toList]] := by cbv
  have hrun : (render ⟨':', ∅, true, Pipes.builtin⟩ [.text "select :_x_0_0".toList,
        .loop ⟨"x".toList, none, "xs".toList, ", ".toList, none⟩ [.text ":x".toList]]
        (.ofList [("xs".toList, .array [.ofNat 9])])).toOption.map (fun out =>
      (out.args.lookup? "_x_0_0".toList).isSome) = some true := by decide +kernel
  obtain ⟨rendering, hout, hsome⟩ := Option.map_eq_some_iff.1 hrun
  have hnames : "_x_0_0".toList ∈ Parameter.names ':' "select :_x_0_0".toList := by
    decide +kernel
  have hequal := h _ _ _ _ hparse (eq_ok_of_toOption hout) _ List.mem_cons_self _ hnames
  have hnone : Args.lookup? (.ofList [("xs".toList, .array [.ofNat 9])]) "_x_0_0".toList = none :=
    rfl
  rw [hequal, hnone] at hsome
  cases hsome

end Renderer

end SqlTemplate
