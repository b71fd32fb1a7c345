import Mathlib
import SqlTemplate.Proofs.Args
import SqlTemplate.Proofs.Scan
import SqlTemplate.SqlFile

/-!
Placeholders that stand for texts with placeholders in them.  As long as all texts are simple, so
that nothing in them is inert and what is put in joins with nothing around it, rewriting a text as a
whole round after round comes to unfolding its placeholders one inside the other, as deep as there
are rounds.
-/
namespace SqlTemplate.Placeholder

open Segment (region?)

/-- The characters that can open a region or be part of a placeholder other than in its name. -/
def reserved : Text := ['\x27', '\x22', '-', '/', ':', '$', '\x7b', '\x7d']

/-- What simple texts are made of: characters that are not reserved, and placeholders without
blanks, whose mark is no colon. -/
inductive Atom where
  | char (c : Char) (hc : c ∉ reserved)
  | placeholder (mark : Mark) (name : Text) (hmark : mark ≠ .colon) (hname : Name.IsName name)

namespace Atom

def text : Atom → Text
  | char c _ => [c]
  | placeholder mark name _ _ => '$' :: '{' :: (mark.text ++ (name ++ ['}']))

/-- What an atom stands for, if it is a placeholder of a defined name. -/
def definition? (texts : Dict (List Atom)) : Atom → Option (List Atom)
  | char _ _ => none
  | placeholder _ name _ _ => texts.get? name

end Atom

/-- The simple text that atoms make up. -/
def simple (as : List Atom) : Text := as.flatMap Atom.text

/-- The simple text with its placeholders of defined names replaced, and those in what they are
replaced by, up to a depth. -/
def unfolded (texts : Dict (List Atom)) : Nat → List Atom → List Atom
  | 0, as => as
  | depth + 1, as => as.flatMap fun a =>
    match a.definition? texts with
    | some bs => unfolded texts depth bs
    | none => [a]

/-- Whether definitions lie at most so deep inside one another, from a text on. -/
def Nests (texts : Dict (List Atom)) : Nat → List Atom → Prop
  | 0, as => ∀ a ∈ as, (a.definition? texts).isNone
  | depth + 1, as => ∀ a ∈ as, ∀ bs ∈ a.definition? texts, Nests texts depth bs

instance Nests.decidable (texts : Dict (List Atom)) :
    ∀ (depth : Nat) (as : List Atom), Decidable (Nests texts depth as)
  | 0, as => inferInstanceAs (Decidable (∀ a ∈ as, (a.definition? texts).isNone))
  | depth + 1, as =>
    have := Nests.decidable texts depth
    inferInstanceAs (Decidable (∀ a ∈ as, ∀ bs ∈ a.definition? texts, Nests texts depth bs))

variable {texts : Dict (List Atom)} {as bs : List Atom} {a : Atom} {n : Nat}

/-! Unfolding. -/

theorem unfolded_append (texts : Dict (List Atom)) (n : Nat) (as bs : List Atom) :
    unfolded texts n (as ++ bs) = unfolded texts n as ++ unfolded texts n bs := by
  cases n with
  | zero => rfl
  | succ n => exact List.flatMap_append

theorem unfolded_nil (texts : Dict (List Atom)) (n : Nat) : unfolded texts n [] = [] := by
  cases n <;> rfl

theorem unfolded_cons (texts : Dict (List Atom)) (n : Nat) (a : Atom) (as : List Atom) :
    unfolded texts n (a :: as) = unfolded texts n [a] ++ unfolded texts n as :=
  unfolded_append texts n [a] as

theorem unfolded_singleton_of_some (h : a.definition? texts = some bs) (n : Nat) :
    unfolded texts (n + 1) [a] = unfolded texts n bs := by
  simp [unfolded, h]

theorem unfolded_singleton_of_none (h : a.definition? texts = none) (n : Nat) :
    unfolded texts n [a] = [a] := by
  cases n with
  | zero => rfl
  | succ n => simp [unfolded, h]

/-- Unfolding one level and then as many more is unfolding all of them. -/
theorem unfolded_unfolded_one (texts : Dict (List Atom)) (n : Nat) (as : List Atom) :
    unfolded texts n (unfolded texts 1 as) = unfolded texts (n + 1) as := by
  induction as with
  | nil => rw [unfolded_nil, unfolded_nil, unfolded_nil]
  | cons a as ih =>
    rw [unfolded_cons, unfolded_append, ih, unfolded_cons texts (n + 1)]
    congr 1
    cases h : a.definition? texts with
    | some bs => rw [unfolded_singleton_of_some h, unfolded_singleton_of_some h, unfolded]
    | none => rw [unfolded_singleton_of_none h, unfolded_singleton_of_none h,
        unfolded_singleton_of_none h]

theorem unfolded_of_nests_zero (h : Nests texts 0 as) (n : Nat) : unfolded texts n as = as := by
  induction as with
  | nil => exact unfolded_nil texts n
  | cons a as ih =>
    obtain ⟨ha, has⟩ := List.forall_mem_cons.1 h
    rw [unfolded_cons, unfolded_singleton_of_none (Option.isNone_iff_eq_none.1 ha), ih has,
      List.singleton_append]

/-- Nothing is left to unfold at the depth of the innermost definition. -/
theorem nests_zero_unfolded (h : Nests texts n as) : Nests texts 0 (unfolded texts n as) := by
  induction n generalizing as with
  | zero => exact h
  | succ n ih =>
    intro b hb
    obtain ⟨a, ha, hb⟩ := List.mem_flatMap.1 hb
    cases hdef : a.definition? texts with
    | some bs =>
      rw [hdef] at hb
      exact ih (h a ha bs hdef) b hb
    | none =>
      rw [hdef] at hb
      obtain rfl := List.mem_singleton.1 hb
      exact Option.isNone_iff_eq_none.2 hdef

/-- A placeholder that stands for itself between two texts piles these up around itself. -/
theorem unfolded_self {us vs : List Atom} (ha : a.definition? texts = some (us ++ a :: vs))
    (hus : Nests texts 0 us) (hvs : Nests texts 0 vs) (n : Nat) :
    unfolded texts n [a] =
      (List.replicate n us).flatten ++ a :: (List.replicate n vs).flatten := by
  induction n with
  | zero => rfl
  | succ n ih =>
    rw [unfolded_singleton_of_some ha, unfolded_append, unfolded_cons, ih,
      unfolded_of_nests_zero hus, unfolded_of_nests_zero hvs, List.replicate_succ,
      List.replicate_succ', List.flatten_cons, List.flatten_concat]
    simp

/-! Rounds over simple texts. -/

theorem region?_of_notMem_reserved {c : Char} (hc : c ∉ reserved) (t : Text) :
    region? (c :: t) = none := by
  rw [← Option.not_isSome_iff_eq_none, Segment.region?_isSome_iff]
  rintro ((hq | hq) | ⟨s, hs⟩ | ⟨s, hs⟩ | ⟨d, -, s, hs⟩)
  · exact hc ((Option.some.inj hq).symm ▸ by decide)
  · exact hc ((Option.some.inj hq).symm ▸ by decide)
  · exact hc ((List.cons.inj hs).1 ▸ by decide)
  · exact hc ((List.cons.inj hs).1 ▸ by decide)
  · exact hc ((List.cons.inj hs).1 ▸ by decide)

theorem written_text (mark : Mark) {name : Text} (hmark : mark ≠ .colon) (hname : Name.IsName name) :
    Written ⟨mark, name⟩ (Atom.placeholder mark name hmark hname).text :=
  .intro mark (a := []) (b := []) (c := []) hname (by simp) (by simp) (by simp)

/-- Whether a replacement puts the defined texts in the places of their names, unless a colon marks
the placeholder. -/
def Fills (texts : Dict (List Atom)) (f : Placeholder → Option Text) : Prop :=
  ∀ mark name, mark ≠ .colon → f ⟨mark, name⟩ = (texts.get? name).map simple

theorem simple_append (as bs : List Atom) : simple (as ++ bs) = simple as ++ simple bs :=
  List.flatMap_append

theorem simple_cons (a : Atom) (as : List Atom) : simple (a :: as) = a.text ++ simple as :=
  List.flatMap_cons

theorem simple_singleton (a : Atom) : simple [a] = a.text := List.flatMap_singleton Atom.text a

/-- One round over a simple text unfolds it by one level. -/
theorem overPlain_simple {f : Placeholder → Option Text} (hf : Fills texts f) (as : List Atom) :
    overPlain (fill f) (simple as) = simple (unfolded texts 1 as) := by
  induction as with
  | nil => exact overPlain_nil
  | cons a as ih =>
    rw [unfolded_cons, simple_append, simple_cons, ← ih]
    cases a with
    | char c hc =>
      have hread : read? (c :: simple as) = none := read?_eq_none fun hhead =>
        hc ((Option.some.inj hhead).symm ▸ by decide)
      exact overPlain_char (region?_of_notMem_reserved hc _) hread
    | placeholder mark name hmark hname =>
      have hf' : f ⟨mark, name⟩ =
          ((Atom.placeholder mark name hmark hname).definition? texts).map simple :=
        hf mark name hmark
      rw [overPlain_written (written_text mark hmark hname), hf']
      congr 1
      cases hdef : (Atom.placeholder mark name hmark hname).definition? texts with
      | some bs => rw [unfolded_singleton_of_some hdef, unfolded, Option.map_some, Option.getD_some]
      | none => rw [unfolded_singleton_of_none hdef, simple_singleton, Option.map_none,
          Option.getD_none]

/-- Rounds unfold a simple text level by level. -/
theorem settle_simple {f : Placeholder → Option Text} (hf : Fills texts f) (n : Nat)
    (as : List Atom) :
    settle (overPlain (fill f)) n (simple as) = simple (unfolded texts n as) := by
  rw [settle_eq_iterate]
  induction n generalizing as with
  | zero => rfl
  | succ n ih =>
    rw [Function.iterate_succ_apply, overPlain_simple hf, ih, unfolded_unfolded_one]

theorem fills_partFor (texts : Dict (List Atom)) :
    Fills texts (SqlFile.partFor (texts.map fun _ => simple)) := fun mark name hmark => by
  rw [SqlFile.partFor, if_neg hmark, Dict.get?_map]

theorem fills_resolve (texts : Dict (List Atom)) :
    Fills texts (resolve ∅ (texts.map fun _ => simple)) := fun mark name _ => by
  rw [resolve, Args.lookup?_empty, Dict.get?_map]

/-- Parts and constants are unfolded up to eight levels deep, whatever refers to what.  Definitions
that lie no deeper inside one another are all unfolded, and nothing changes any more; a placeholder
that stands for itself is unfolded eight times. -/
theorem expand_simple (texts : Dict (List Atom)) :
    (∀ body, SqlFile.inlineParts (texts.map fun _ => simple) (simple body) =
        simple (unfolded texts 8 body) ∧
      expand ∅ (texts.map fun _ => simple) (simple body) = simple (unfolded texts 8 body)) ∧
    (∀ body, Nests texts 8 body →
      (∀ a ∈ unfolded texts 8 body, a.definition? texts = none) ∧
      SqlFile.inlineParts (texts.map fun _ => simple) (simple (unfolded texts 8 body)) =
        simple (unfolded texts 8 body) ∧
      expand ∅ (texts.map fun _ => simple) (simple (unfolded texts 8 body)) =
        simple (unfolded texts 8 body)) ∧
    ∀ a us vs, a.definition? texts = some (us ++ a :: vs) → Nests texts 0 (us ++ vs) →
      SqlFile.inlineParts (texts.map fun _ => simple) a.text =
        simple ((List.replicate 8 us).flatten ++ a :: (List.replicate 8 vs).flatten) ∧
      expand ∅ (texts.map fun _ => simple) a.text =
        simple ((List.replicate 8 us).flatten ++ a :: (List.replicate 8 vs).flatten) := by
  have hexpand : ∀ body, SqlFile.inlineParts (texts.map fun _ => simple) (simple body) =
        simple (unfolded texts 8 body) ∧
      expand ∅ (texts.map fun _ => simple) (simple body) = simple (unfolded texts 8 body) :=
    fun body => ⟨settle_simple (fills_partFor texts) 8 body,
      settle_simple (fills_resolve texts) 8 body⟩
  refine ⟨hexpand, fun body hnests => ?_, fun a us vs ha hnests => ?_⟩
  · have hdone := nests_zero_unfolded hnests
    have hagain := hexpand (unfolded texts 8 body)
    rw [unfolded_of_nests_zero hdone] at hagain
    exact ⟨fun a ha => Option.isNone_iff_eq_none.1 (hdone a ha), hagain⟩
  · have hself := hexpand [a]
    rwa [unfolded_self ha (fun b hb => hnests b (List.mem_append_left vs hb))
      (fun b hb => hnests b (List.mem_append_right us hb)), simple_singleton] at hself

/-- A placeholder whose name is one letter. -/
def letter (c : Char) (hc : Name.isStart c) : Atom :=
  .placeholder .exclamation [c] (by decide) (Name.IsWord.isName ⟨c, [], rfl, hc, by simp⟩)

/-- Each letter from `a` to `h` stands for the next one but `h` for an equals sign, and `s` for
itself in parentheses. -/
def letters : Dict (List Atom) :=
  .ofList [(['a'], [letter 'b' rfl]), (['b'], [letter 'c' rfl]), (['c'], [letter 'd' rfl]),
    (['d'], [letter 'e' rfl]), (['e'], [letter 'f' rfl]), (['f'], [letter 'g' rfl]),
    (['g'], [letter 'h' rfl]), (['h'], [.char '=' (by decide)]),
    (['s'], [.char '(' (by decide), letter 's' rfl, .char ')' (by decide)])]

/-- Eight definitions one inside the other are as many as there are rounds. -/
theorem expand_simple_letters :
    Nests letters 8 [letter 'a' rfl] ∧ ¬Nests letters 7 [letter 'a' rfl] ∧
      expand ∅ (letters.map fun _ => simple) "$\x7b!a\x7d".toList = ['='] ∧
      expand ∅ (letters.map fun _ => simple) ['='] = ['='] ∧
      SqlFile.inlineParts (letters.map fun _ => simple) "$\x7b!s\x7d".toList =
        "(((((((($\x7b!s\x7d))))))))".toList := by
  obtain ⟨hexpand, hnested, hself⟩ := expand_simple letters
  have hnests : Nests letters 8 [letter 'a' rfl] := by decide +kernel
  have hdone : simple (unfolded letters 8 [letter 'a' rfl]) = ['='] := by decide +kernel
  obtain ⟨-, -, hagain⟩ := hnested _ hnests
  rw [hdone] at hagain
  obtain ⟨hpiled, -⟩ := hself (letter 's' rfl) [.char '(' (by decide)] [.char ')' (by decide)] rfl
    (by decide +kernel)
  exact ⟨hnests, by decide +kernel, (hexpand [letter 'a' rfl]).2.trans hdone, hagain, hpiled⟩

end SqlTemplate.Placeholder
