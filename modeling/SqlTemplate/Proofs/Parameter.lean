import SqlTemplate.Proofs.Placeholder
import SqlTemplate.Proofs.Segmentation
import SqlTemplate.Parameter

/-!
Splitting SQL at its parameters loses nothing: the pieces, written the way they were read, make up
the text.
-/
namespace SqlTemplate

namespace Parameter

/-- No sigil is a name character. -/
theorem isPart_of_isSigil {sigil : Char} (h : isSigil sigil) : Name.isPart sigil = false := by
  cases hpart : Name.isPart sigil with
  | false => rfl
  | true =>
    have hascii := Name.isPart_ascii hpart
    rw [Name.isPart] at hpart
    simp [isSigil, Unicode.isAlphanumeric, hascii, Bool.or_assoc, hpart] at h

/-! What stands at the start of a text decides its first piece. -/

variable {sigil : Char} {last : Option Char}

theorem splitPlain_placeholder {cs rest : Text} {p : Placeholder}
    (h : Placeholder.read? cs = some (p, rest)) :
    splitPlain sigil last cs =
      .text (cs.take (cs.length - rest.length)) :: splitPlain sigil (some '}') rest := by
  rw [splitPlain]
  split
  · rename_i h'
    obtain ⟨rfl, rfl⟩ := Prod.mk.inj (Option.some.inj (h.symm.trans h'))
    rfl
  · rename_i h'
    simp [h] at h'

theorem splitPlain_written {p : Placeholder} {w : Text} (hw : p.Written w) (rest : Text) :
    splitPlain sigil last (w ++ rest) = .text w :: splitPlain sigil (some '}') rest := by
  rw [splitPlain_placeholder (hw.read? rest)]
  simp

@[simp] theorem splitPlain_nil : splitPlain sigil last [] = [] := by
  rw [splitPlain]
  rfl

theorem splitPlain_name {rest rest' name : Text}
    (h : Placeholder.read? (sigil :: rest) = none) (hname : Name.read? rest = some (name, rest')) :
    splitPlain sigil last (sigil :: rest) =
      (if last = some sigil then .text (sigil :: name) else .parameter name) ::
        splitPlain sigil name.getLast? rest' := by
  rw [splitPlain]
  split
  · rename_i h'
    simp [h] at h'
  · simp only [↓reduceIte]
    split
    · rename_i h'
      obtain ⟨rfl, rfl⟩ := Prod.mk.inj (Option.some.inj (hname.symm.trans h'))
      rfl
    · rename_i h'
      simp [hname] at h'

theorem splitPlain_char {c : Char} {rest : Text} (h : Placeholder.read? (c :: rest) = none)
    (hname : c = sigil → Name.read? rest = none) :
    splitPlain sigil last (c :: rest) = .text [c] :: splitPlain sigil (some c) rest := by
  rw [splitPlain]
  split
  · rename_i h'
    simp [h] at h'
  · by_cases hc : c = sigil
    · simp only [hc, ↓reduceIte]
      split
      · rename_i h'
        simp [hname hc] at h'
      · rfl
    · simp only [hc, ↓reduceIte]

/-- A piece as it was read. -/
def Piece.source (sigil : Char) : Piece → Text
  | .text t => t
  | .parameter name => sigil :: name

theorem flatMap_source_splitPlain (sigil : Char) (last : Option Char) (cs : Text) :
    (splitPlain sigil last cs).flatMap (Piece.source sigil) = cs := by
  induction last, cs using splitPlain.induct sigil with
  | case1 last cs p rest h _ ih =>
    obtain ⟨w, rfl, hw, -⟩ := Placeholder.read?_change h
    rw [splitPlain_written hw, List.flatMap_cons, ih]
    rfl
  | case2 last => simp
  | case3 last rest name rest' hname _ h ih =>
    have hsource : (if last = some sigil then Piece.text (sigil :: name) else .parameter name).source
        sigil = sigil :: name := by
      split <;> rfl
    rw [splitPlain_name h hname, List.flatMap_cons, ih, hsource, List.cons_append,
      (Name.read?_append hname).1]
  | case4 last rest hname h ih =>
    rw [splitPlain_char h fun _ => hname, List.flatMap_cons, ih]
    rfl
  | case5 last c rest h hc ih =>
    rw [splitPlain_char h fun hc' => absurd hc' hc, List.flatMap_cons, ih]
    rfl

/-- The pieces of a segment: an inert one is a single text. -/
def pieces (sigil : Char) : Segment → List Piece
  | .plain t => splitPlain sigil none t
  | .inert t => [.text t]

theorem split_eq (sigil : Char) (sql : Text) :
    split sigil sql = (segments sql).flatMap (pieces sigil) := by
  rw [split]
  refine List.flatMap_congr fun s _ => ?_
  cases s <;> rfl

theorem flatMap_source_pieces (sigil : Char) (s : Segment) :
    (pieces sigil s).flatMap (Piece.source sigil) = s.text := by
  cases s with
  | plain t => exact flatMap_source_splitPlain sigil none t
  | inert t => exact List.flatMap_singleton _ _

/-- The pieces of SQL text make it up. -/
theorem flatMap_source_split (sigil : Char) (sql : Text) :
    (split sigil sql).flatMap (Piece.source sigil) = sql := by
  rw [split_eq]
  conv => rhs; rw [← unsplit_segments sql]
  induction segments sql with
  | nil => rfl
  | cons s ss ih =>
    rw [List.flatMap_cons, List.flatMap_append, ih, flatMap_source_pieces, Segment.unsplit_cons]

end Parameter

end SqlTemplate
