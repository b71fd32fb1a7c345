import SqlTemplate.Pattern.Parser
import SqlTemplate.Proofs.Matching
import SqlTemplate.Proofs.WholeNames

/-!
The pattern of parameters.  What it matches behind a colon are the names, and the longest of them is
the one that both SQL and conditions read there.
-/
namespace SqlTemplate

open Pattern (Describes)

namespace CharSet

theorem contains_range {a b : Nat} {c : Char} :
    (ranges [(a, b)]).contains c ↔ a ≤ c.toNat ∧ c.toNat ≤ b := by
  simp [contains, Unicode.inRanges]

theorem contains_single {c d : Char} : (single d).contains c ↔ c = d := by
  rw [single, contains_range]
  constructor
  · rintro ⟨hle, hge⟩
    exact Char.toNat_inj.1 (Nat.le_antisymm hge hle)
  · rintro rfl
    exact ⟨Nat.le_refl _, Nat.le_refl _⟩

theorem contains_unions {sets : List CharSet} {c : Char} :
    (unions sets).contains c ↔ ∃ s ∈ sets, s.contains c := by
  have hfold (a : CharSet) :
      (sets.foldl union a).contains c ↔ a.contains c ∨ ∃ s ∈ sets, s.contains c := by
    induction sets generalizing a with
    | nil => simp
    | cons s sets ih =>
      rw [List.foldl_cons, ih]
      simp [contains, or_assoc]
  rw [unions, hfold]
  simp [nothing, contains, Unicode.inRanges]

end CharSet

namespace Name

def startSet : CharSet :=
  .unions [.single '_', .ranges [(0x61, 0x7a)], .ranges [(0x41, 0x5a)]]

def partSet : CharSet :=
  .unions [.single '_', .ranges [(0x30, 0x39)], .ranges [(0x61, 0x7a)], .ranges [(0x41, 0x5a)]]

/-- A word, and any number of segments, each with a dot in front. -/
def pattern : Pattern :=
  .seq (.set startSet) (.seq (.repeated (.set partSet) 0 none)
    (.repeated (.seq (.set (.single '.')) (.repeated (.set partSet) 1 none)) 0 none))

theorem contains_startSet {c : Char} : startSet.contains c ↔ isStart c := by
  simp only [startSet, CharSet.contains_unions, List.mem_cons, List.not_mem_nil, or_false,
    exists_eq_or_imp, exists_eq_left, CharSet.contains_single, CharSet.contains_range]
  simp [isStart, Char.isAlpha, Char.isUpper, Char.isLower, UInt32.le_iff_toNat_le]
  tauto

theorem contains_partSet {c : Char} : partSet.contains c ↔ isPart c := by
  simp only [partSet, CharSet.contains_unions, List.mem_cons, List.not_mem_nil, or_false,
    exists_eq_or_imp, exists_eq_left, CharSet.contains_single, CharSet.contains_range]
  simp [isPart, Char.isAlphanum, Char.isAlpha, Char.isUpper, Char.isLower, Char.isDigit,
    UInt32.le_iff_toNat_le]
  tauto

theorem describes_segment :
    Describes (fun text => (Pattern.seq (.set (.single '.'))
      (.repeated (.set partSet) 1 none)).Matches text) fun t => ∃ s, t = '.' :: s ∧ IsSegment s := by
  refine ((Pattern.describes_set _).comp (Pattern.describes_repeated_set _ 1)).congr fun t => ?_
  simp only [CharSet.contains_single, contains_partSet]
  constructor
  · rintro ⟨u, s, rfl, ⟨c, rfl, rfl⟩, hs, hpart⟩
    exact ⟨s, rfl, List.length_pos_iff.1 hs, hpart⟩
  · rintro ⟨s, rfl, hs, hpart⟩
    exact ⟨['.'], s, rfl, ⟨'.', rfl, rfl⟩, List.length_pos_iff.2 hs, hpart⟩

theorem describes_path :
    Describes (fun text => (Pattern.repeated (.seq (.set (.single '.'))
      (.repeated (.set partSet) 1 none)) 0 none).Matches text)
      fun t => ∃ segments, t = dotted segments ∧ ∀ s ∈ segments, IsSegment s := by
  refine (describes_segment.repeated 0).congr fun t => ?_
  constructor
  · rintro ⟨ts, rfl, -, hts⟩
    induction ts with
    | nil => exact ⟨[], rfl, by simp⟩
    | cons u ts ih =>
      obtain ⟨⟨s, rfl, hs⟩, hrest⟩ := List.forall_mem_cons.1 hts
      obtain ⟨segments, hflatten, hsegments⟩ := ih hrest
      exact ⟨s :: segments, by simp [hflatten, dotted], List.forall_mem_cons.2 ⟨hs, hsegments⟩⟩
  · rintro ⟨segments, rfl, hsegments⟩
    refine ⟨segments.map ('.' :: ·), rfl, Nat.zero_le _, fun u hu => ?_⟩
    obtain ⟨s, hs, rfl⟩ := List.mem_map.1 hu
    exact ⟨s, rfl, hsegments s hs⟩

/-- The texts that the pattern matches are the names. -/
theorem describes_pattern : Describes (fun text => pattern.Matches text) IsName := by
  refine ((Pattern.describes_set _).comp
    ((Pattern.describes_repeated_set _ 0).comp describes_path)).congr fun t => ?_
  simp only [contains_startSet, contains_partSet]
  constructor
  · rintro ⟨u, v, rfl, ⟨c, rfl, hc⟩, cs, w, rfl, ⟨-, hcs⟩, segments, rfl, hsegments⟩
    exact ⟨c :: cs, segments, by simp, ⟨c, cs, rfl, hc, hcs⟩, hsegments⟩
  · rintro ⟨w, segments, rfl, ⟨c, cs, rfl, hc, hcs⟩, hsegments⟩
    exact ⟨[c], cs ++ dotted segments, by simp, ⟨c, rfl, hc⟩, cs, dotted segments, rfl,
      ⟨Nat.zero_le _, hcs⟩, segments, rfl, hsegments⟩

/-- Where a name stops, no longer one begins with it. -/
theorem IsName.length_le {name rest other : Text} (h : IsName other) (hstops : Stops rest)
    (hfront : other <+: name ++ rest) : other.length ≤ name.length := by
  rcases List.prefix_or_prefix_of_prefix hfront (List.prefix_append name rest) with hle | ⟨v, rfl⟩
  · exact hle.length_le
  · obtain ⟨w, hw⟩ := hfront
    rw [List.append_assoc] at hw
    obtain rfl := List.append_cancel_left hw
    obtain rfl := h.eq_nil_of_stops hstops
    simp

end Name

namespace Parameter

/-- The pattern of parameters with a colon as their sigil, as it is written. -/
def patternText : Text := ":([A-Za-z_][A-Za-z0-9_]*(?:\\.[A-Za-z0-9_]+)*)".toList

def pattern : Pattern := .seq (.set (.single ':')) Name.pattern

theorem alternatives_patternText :
    Pattern.alternatives (patternText.length + 1) [] [] ⟨.initial, [], patternText⟩ =
      some (pattern, ⟨.initial, [], []⟩) := by
  cbv

theorem ofText?_patternText : Pattern.ofText? patternText = some pattern := by
  have hsize : pattern.size ≤ Pattern.sizeLimit := by decide
  simp [Pattern.ofText?, alternatives_patternText, hsize]

theorem describes_pattern :
    Describes (fun text => pattern.Matches text)
      fun t => ∃ name, t = ':' :: name ∧ Name.IsName name := by
  refine ((Pattern.describes_set _).comp Name.describes_pattern).congr fun t => ?_
  simp only [CharSet.contains_single]
  constructor
  · rintro ⟨u, name, rfl, ⟨c, rfl, rfl⟩, hname⟩
    exact ⟨name, rfl, hname⟩
  · rintro ⟨name, rfl, hname⟩
    exact ⟨[':'], name, rfl, ⟨':', rfl, rfl⟩, hname⟩

/-- Of the matches of the pattern at a colon, the longest one has the name that stops there. -/
theorem max?_ends_pattern {name rest : Text} (hname : Name.IsName name) (hstops : Name.Stops rest)
    (front : Text) :
    (pattern.ends (front ++ ':' :: (name ++ rest)).toArray [front.length]).max? =
      some (front ++ ':' :: name).length := by
  have hmem (j : Nat) :
      j ∈ pattern.ends (front ++ ':' :: (name ++ rest)).toArray [front.length] ↔
        ∃ other, Name.IsName other ∧ other <+: name ++ rest ∧
          j = (front ++ ':' :: other).length := by
    rw [Pattern.mem_ends_iff]
    simp only [List.mem_singleton, exists_eq_left]
    refine (describes_pattern front (':' :: (name ++ rest)) j).trans ?_
    constructor
    · rintro ⟨t, rest', heq, rfl, other, rfl, hother⟩
      exact ⟨other, hother, ⟨rest', (List.cons.inj heq).2.symm⟩, by simp⟩
    · rintro ⟨other, hother, ⟨rest', heq⟩, rfl⟩
      exact ⟨':' :: other, rest', by simp [heq], by simp, other, rfl, hother⟩
  rw [List.max?_eq_some_iff]
  refine ⟨(hmem _).2 ⟨name, hname, List.prefix_append name rest, rfl⟩, fun j hj => ?_⟩
  obtain ⟨other, hother, hfront, rfl⟩ := (hmem j).1 hj
  have := hother.length_le hstops hfront
  simp only [List.length_append, List.length_cons]
  omega

end Parameter

namespace Condition

/-- Behind a colon, conditions take the name that SQL reads there, which is the one in the longest
match of the pattern of parameters at the colon. -/
theorem takeName_longest {cs : Text} (h : cs.head?.any Name.isStart) (front : Text) :
    ∃ name rest, cs = name ++ rest ∧ takeName cs = (name, rest) ∧
      Name.read? cs = some (name, rest) ∧
      (∃ p, Pattern.ofText? Parameter.patternText = some p ∧
        (p.ends (front ++ ':' :: cs).toArray [front.length]).max? =
          some (front ++ ':' :: name).length) ∧
      ReadsWhole name rest ∧ Parameter.ReadsWhole name rest := by
  obtain ⟨name, rest, htake⟩ : ∃ name rest, takeName cs = (name, rest) := ⟨_, _, rfl⟩
  have hread : Name.read? cs = some (name, rest) := by rw [read?_eq_takeName h, htake]
  obtain ⟨rfl, -⟩ := Name.read?_append hread
  obtain ⟨hname, hstops⟩ := Name.read?_spec hread
  exact ⟨name, rest, rfl, htake, hread,
    ⟨_, Parameter.ofText?_patternText, Parameter.max?_ends_pattern hname hstops front⟩,
    readsWhole_iff.2 ⟨hname, hstops⟩, Parameter.readsWhole_iff.2 ⟨hname, hstops⟩⟩

/-- A name with digits in its path, in front of two dots and a letter that is not ASCII. -/
theorem takeName_longest_dots :
    "a.1._b..c\u00e9".toList.head?.any Name.isStart ∧
      takeName "a.1._b..c\u00e9".toList = ("a.1._b".toList, "..c\u00e9".toList) ∧
      (Parameter.pattern.ends "x = :a.1._b..c\u00e9".toList.toArray [4]).max? = some 11 := by
  have hstart : "a.1._b..c\u00e9".toList.head?.any Name.isStart := by decide
  obtain ⟨name, rest, -, htake, -, ⟨p, hp, hmax⟩, -⟩ := takeName_longest hstart "x = ".toList
  have hname : takeName "a.1._b..c\u00e9".toList = ("a.1._b".toList, "..c\u00e9".toList) := by
    decide +kernel
  obtain rfl : p = Parameter.pattern :=
    Option.some.inj (hp.symm.trans Parameter.ofText?_patternText)
  obtain ⟨rfl, rfl⟩ := Prod.mk.inj (htake.symm.trans hname)
  exact ⟨hstart, hname, hmax⟩

end Condition

end SqlTemplate
