import Mathlib
import SqlTemplate.Proofs.ByteOrder
import SqlTemplate.Proofs.FileReader
import SqlTemplate.Proofs.Snapshots

/-!
The list of all names.  Every fragment that is held is listed once.  The list goes from file to
file in the order of the aliases, and from name to name in each file; this is the order of the
qualified names unless an alias continues another one with a character that comes before the dot.
-/
namespace SqlTemplate

namespace Catalog

/-! Texts with a dot between them. -/

/-- An alias undercuts another one that starts as it does and goes on with a character that comes
before the dot. -/
def Undercuts (b a : Text) : Prop := ∃ x r, b = a ++ x :: r ∧ x < '.'

theorem not_undercuts_of_cons {c d : Char} {a b : Text} (h : c ≠ d) :
    ¬Undercuts (d :: b) (c :: a) := by
  rintro ⟨x, r, heq, -⟩
  exact h (List.cons.inj heq).1.symm

theorem undercuts_cons {c : Char} {a b : Text} :
    Undercuts (c :: b) (c :: a) ↔ Undercuts b a := by
  simp [Undercuts]

theorem undercuts_nil {d : Char} {b : Text} : Undercuts (d :: b) [] ↔ d < '.' := by
  simp [Undercuts]

theorem lt_of_undercuts {a b : Text} (h : Undercuts b a) : a < b := by
  obtain ⟨x, r, rfl, -⟩ := h
  have hlt : a ++ [] < a ++ x :: r := List.append_left_lt (List.nil_lt_cons x r)
  rwa [List.append_nil] at hlt

theorem exists_cons_of_lt {a b : Text} (h : a < b) : ∃ d b', b = d :: b' := by
  refine List.exists_cons_of_ne_nil ?_
  rintro rfl
  exact List.not_lt_nil a h

/-- In front of a dot the smaller of two texts stays the smaller one, unless the other one
undercuts it. -/
theorem dotted_lt_iff {a b : Text} (h : a < b) (hb : '.' ∉ b) (s t : Text) :
    a ++ '.' :: s < b ++ '.' :: t ↔ ¬Undercuts b a := by
  induction a generalizing b with
  | nil =>
    obtain ⟨d, b, rfl⟩ := exists_cons_of_lt h
    obtain ⟨hd, -⟩ := not_or.1 (mt List.mem_cons.2 hb)
    rw [undercuts_nil, List.nil_append, List.cons_append, List.cons_lt_cons_iff, not_lt]
    constructor
    · rintro (hlt | ⟨heq, -⟩)
      · exact hlt.le
      · exact absurd heq hd
    · exact fun hle => .inl (lt_of_le_of_ne hle hd)
  | cons c a ih =>
    obtain ⟨d, b, rfl⟩ := exists_cons_of_lt h
    rw [List.cons_append, List.cons_append, List.cons_lt_cons_iff]
    rcases List.cons_lt_cons_iff.1 h with hcd | ⟨rfl, hab⟩
    · exact iff_of_true (.inl hcd) (not_undercuts_of_cons hcd.ne)
    · rw [undercuts_cons, ← ih hab fun hmem => hb (List.mem_cons_of_mem c hmem)]
      simp

/-- An alias ends where the first dot is. -/
theorem dotted_inj {a b s t : Text} (ha : '.' ∉ a) (hb : '.' ∉ b)
    (h : a ++ '.' :: s = b ++ '.' :: t) : a = b ∧ s = t := by
  have hcut := Text.cut?_eq_some_iff.2 ⟨h, hb⟩
  rw [Text.cut?_eq_some_iff.2 ⟨rfl, ha⟩] at hcut
  exact Prod.mk.inj (Option.some.inj hcut)

/-! What is held. -/

variable {settings : Settings} {pipes : List (Text × Pipe)} {c : Catalog}

theorem isAlias_of_validate (h : settings.validate = .ok ()) {fileAlias : Text}
    (hmem : fileAlias ∈ settings.files.keys) : Settings.isAlias fileAlias := by
  rw [Settings.validate] at h
  split_ifs at h
  cases hfind : settings.files.keys.find? (!Settings.isAlias ·) with
  | none => simpa using List.find?_eq_none.1 hfind fileAlias hmem
  | some name =>
    rw [hfind] at h
    cases h

theorem isAlias_of_fresh (h : fresh settings pipes = .ok c) {fileAlias : Text}
    (hmem : fileAlias ∈ settings.files.keys) : Settings.isAlias fileAlias := by
  obtain ⟨c', hmake, -⟩ := exists_of_bind_eq_ok h
  obtain ⟨_, hvalid, -⟩ := exists_of_bind_eq_ok hmake
  exact isAlias_of_validate hvalid hmem

/-- Whether each file is held under its alias and has its fragments under their names. -/
structure Labelled (c : Catalog) : Prop where
  isAlias : ∀ fileAlias file, c.files.get? fileAlias = some file → Settings.isAlias fileAlias
  fileAlias : ∀ fileAlias file, c.files.get? fileAlias = some file → file.fileAlias = fileAlias
  fragment : ∀ fileAlias file, c.files.get? fileAlias = some file →
    ∀ name f, file.fragments.get? name = some f → f.fileAlias = fileAlias ∧ f.name = name

theorem Whole.fragment {fs : FileSystem} {fileAlias : Text} {file : SqlFile}
    (h : Whole settings fs fileAlias file) {name : Text} {f : Fragment}
    (hf : file.fragments.get? name = some f) : f.fileAlias = fileAlias ∧ f.name = name := by
  obtain ⟨text, t, g, -, -, hg, hfragments, -⟩ := h.content
  rw [hfragments] at hf
  obtain ⟨_, _, _, _, -, -, -, hfragment, -⟩ := SqlFile.exists_of_get?_ofText hg hf
  obtain ⟨hfileAlias, hname, -⟩ := SqlFile.fragment_eq_ok_iff.1 hfragment
  exact ⟨hfileAlias, hname⟩

theorem exists_whole_of_run (h : fresh settings pipes = .ok c)
    {history : List (FileSystem × Operation)} {fileAlias : Text} {file : SqlFile}
    (hget : (run c history).files.get? fileAlias = some file) :
    ∃ fs, Whole settings fs fileAlias file := by
  obtain ⟨hsettings, hfiles⟩ := fresh_spec h
  rcases held_or_reads_of_run hget with hheld | ⟨_, fs, _, _, -, -, hreads⟩
  · rw [hfiles] at hheld
    cases hheld
  · rw [hsettings] at hreads
    exact ⟨fs, hreads.whole⟩

theorem labelled_run (h : fresh settings pipes = .ok c)
    (history : List (FileSystem × Operation)) : Labelled (run c history) := by
  refine ⟨fun fileAlias file hget => ?_, fun fileAlias file hget => ?_,
    fun fileAlias file hget name f hf => ?_⟩ <;> obtain ⟨fs, hw⟩ := exists_whole_of_run h hget
  · exact isAlias_of_fresh h (Dict.mem_keys_iff.2 ⟨_, hw.configured⟩)
  · exact hw.named
  · exact hw.fragment hf

theorem Labelled.dot_notMem (h : Labelled c) {fileAlias : Text} {file : SqlFile}
    (hget : c.files.get? fileAlias = some file) : '.' ∉ fileAlias := by
  have halias := h.isAlias fileAlias file hget
  simp only [Settings.isAlias, Bool.and_eq_true, Bool.not_eq_true', List.contains_eq_mem,
    decide_eq_false_iff_not] at halias
  exact halias.2

/-- Whether a fragment is held. -/
def Holds (c : Catalog) (f : Fragment) : Prop :=
  ∃ file, c.files.get? f.fileAlias = some file ∧ file.fragments.get? f.name = some f

theorem Holds.exists_mem {f : Fragment} (h : c.Holds f) :
    ∃ file, (f.fileAlias, file) ∈ c.files.entries :=
  h.imp fun _ hfile => Dict.mem_of_get? hfile.1

theorem Labelled.qualifiedName_inj (h : Labelled c) {f g : Fragment} (hf : c.Holds f)
    (hg : c.Holds g) (heq : f.qualifiedName = g.qualifiedName) : f = g := by
  obtain ⟨file, hfile, hf⟩ := hf
  obtain ⟨file', hfile', hg⟩ := hg
  obtain ⟨hfileAlias, hname⟩ := dotted_inj (h.dot_notMem hfile) (h.dot_notMem hfile') heq
  rw [hfileAlias, hfile'] at hfile
  obtain rfl := Option.some.inj hfile
  rw [hname, hg] at hf
  exact (Option.some.inj hf).symm

/-! What is listed. -/

/-- The qualified names of the fragments of a file. -/
def listed (entry : Text × SqlFile) : List Text :=
  entry.2.fragments.keys.map fun name => entry.1 ++ '.' :: name

theorem Labelled.names_eq (h : Labelled c) : c.names = c.files.entries.flatMap listed := by
  rw [names, Dict.values, List.flatMap_map]
  refine List.flatMap_congr fun entry hentry => ?_
  rw [listed, h.fileAlias _ _ (Dict.get?_of_mem hentry)]

theorem length_names (c : Catalog) : c.names.length = c.size := by
  have hfold : ∀ (files : List SqlFile) (n : Nat),
      n + (files.flatMap fun file =>
        file.fragments.keys.map fun name => file.fileAlias ++ '.' :: name).length =
      files.foldl (fun n file => n + file.fragments.size) n := by
    intro files
    induction files with
    | nil => exact fun n => rfl
    | cons file files ih =>
      intro n
      rw [List.flatMap_cons, List.length_append, List.length_map, Dict.length_keys,
        List.foldl_cons, ← ih, Nat.add_assoc]
  rw [size, ← hfold, Nat.zero_add]
  rfl

theorem Labelled.mem_listed_iff (h : Labelled c) {entry : Text × SqlFile}
    (hentry : entry ∈ c.files.entries) {n : Text} :
    n ∈ listed entry ↔ ∃ f, c.Holds f ∧ f.fileAlias = entry.1 ∧ f.qualifiedName = n := by
  obtain ⟨fileAlias, file⟩ := entry
  have hfile := Dict.get?_of_mem hentry
  rw [listed, List.mem_map]
  constructor
  · rintro ⟨name, hname, rfl⟩
    obtain ⟨f, hf⟩ := Dict.mem_keys_iff.1 hname
    obtain ⟨rfl, rfl⟩ := h.fragment _ _ hfile _ _ hf
    exact ⟨f, ⟨file, hfile, hf⟩, rfl, rfl⟩
  · rintro ⟨f, ⟨file', hfile', hf⟩, rfl, rfl⟩
    obtain rfl := Option.some.inj (hfile'.symm.trans hfile)
    exact ⟨f.name, Dict.mem_keys_iff.2 ⟨f, hf⟩, rfl⟩

theorem Labelled.mem_names_iff (h : Labelled c) {n : Text} :
    n ∈ c.names ↔ ∃ f, c.Holds f ∧ f.qualifiedName = n := by
  rw [h.names_eq, List.mem_flatMap]
  constructor
  · rintro ⟨entry, hentry, hn⟩
    obtain ⟨f, hf, -, heq⟩ := (h.mem_listed_iff hentry).1 hn
    exact ⟨f, hf, heq⟩
  · rintro ⟨f, hf, heq⟩
    obtain ⟨file, hentry⟩ := hf.exists_mem
    exact ⟨_, hentry, (h.mem_listed_iff hentry).2 ⟨f, hf, rfl, heq⟩⟩

theorem pairwise_listed (entry : Text × SqlFile) : (listed entry).Pairwise (· < ·) := by
  have hkeys : entry.2.fragments.keys.Pairwise (· < ·) :=
    List.pairwise_map.2 entry.2.fragments.ascending
  exact List.pairwise_map.2 (hkeys.imp fun hlt => List.append_left_lt (List.cons_lt_cons_self.2 hlt))

/-- The names ascend unless the alias of a fragment undercuts that of another one. -/
theorem Labelled.pairwise_names_iff (h : Labelled c) :
    c.names.Pairwise (· < ·) ↔
      ∀ f g, c.Holds f → c.Holds g → ¬Undercuts g.fileAlias f.fileAlias := by
  rw [h.names_eq, List.pairwise_flatMap, and_iff_right fun entry _ => pairwise_listed entry,
    c.files.ascending.pairwise_iff]
  constructor
  · -- an alias that another one undercuts is in front of that in the list
    intro hall f g hf hg hcuts
    obtain ⟨file, hd⟩ := hf.exists_mem
    obtain ⟨file', he⟩ := hg.exists_mem
    have hlt := lt_of_undercuts hcuts
    have hnames : f.qualifiedName < g.qualifiedName := hall _ hd _ he hlt _
      ((h.mem_listed_iff hd).2 ⟨f, hf, rfl, rfl⟩) _ ((h.mem_listed_iff he).2 ⟨g, hg, rfl, rfl⟩)
    exact (dotted_lt_iff hlt (h.dot_notMem (Dict.get?_of_mem he)) _ _).1 hnames hcuts
  · intro hall d hd e he hlt n hn n' hn'
    obtain ⟨f, hf, hfd, rfl⟩ := (h.mem_listed_iff hd).1 hn
    obtain ⟨g, hg, hge, rfl⟩ := (h.mem_listed_iff he).1 hn'
    have hdot := h.dot_notMem (Dict.get?_of_mem he)
    rw [← hfd, ← hge] at hlt
    rw [← hge] at hdot
    exact (dotted_lt_iff hlt hdot _ _).2 (hall f g hf hg)

theorem Labelled.nodup_names (h : Labelled c) : c.names.Nodup := by
  rw [h.names_eq, List.Nodup, List.pairwise_flatMap]
  refine ⟨fun entry _ => (pairwise_listed entry).imp Std.ne_of_lt, ?_⟩
  refine c.files.ascending.imp_of_mem fun {d e} hd he hlt n hn n' hn' heq => ?_
  obtain ⟨s, -, rfl⟩ := List.mem_map.1 hn
  obtain ⟨t, -, rfl⟩ := List.mem_map.1 hn'
  have halias := (dotted_inj (h.dot_notMem (Dict.get?_of_mem hd))
    (h.dot_notMem (Dict.get?_of_mem he)) heq).1
  exact Std.ne_of_lt hlt halias

/-- Whatever has been asked of a catalog that had read nothing at first: it lists the qualified
name of each fragment that it holds, once; and the bytes of the names ascend exactly if no alias of
a fragment undercuts that of another one. -/
theorem names_run (hfresh : fresh settings pipes = .ok c)
    (history : List (FileSystem × Operation)) :
    (run c history).names.Nodup ∧ (run c history).names.length = (run c history).size ∧
      (∀ n, n ∈ (run c history).names ↔ ∃! f, (run c history).Holds f ∧ f.qualifiedName = n) ∧
      (((run c history).names.map Text.bytes).Pairwise (· < ·) ↔
        ∀ f g, (run c history).Holds f → (run c history).Holds g →
          ¬Undercuts g.fileAlias f.fileAlias) := by
  have h := labelled_run hfresh history
  refine ⟨h.nodup_names, length_names _, fun n => ?_, ?_⟩
  · rw [h.mem_names_iff]
    refine ⟨?_, ExistsUnique.exists⟩
    rintro ⟨f, hf, rfl⟩
    exact ⟨f, ⟨hf, rfl⟩, fun g ⟨hg, heq⟩ => h.qualifiedName_inj hg hf heq⟩
  · rw [List.pairwise_map, ← h.pairwise_names_iff]
    simp only [Text.bytes_lt_bytes]

/-- Two aliases for one file. -/
def twice (first second : String) : Settings :=
  { Settings.default with
    files := Dict.ofList [(first.toList, "u.sql".toList), (second.toList, "u.sql".toList)] }

def oneFragment : FileSystem :=
  FileSystem.empty.write "u.sql".toList ⟨some "/*[a]*/\nselect 1;".toList, 1⟩

/-- The underscore comes behind the dot. -/
theorem names_run_underscore :
    ∃ c, fresh (twice "user" "user_admin") [] = .ok c ∧
      (run c [(oneFragment, .init)]).names = ["user.a".toList, "user_admin.a".toList] ∧
      (run c [(oneFragment, .init)]).names.Nodup ∧
      ∀ f g, (run c [(oneFragment, .init)]).Holds f → (run c [(oneFragment, .init)]).Holds g →
        ¬Undercuts g.fileAlias f.fileAlias := by
  have hfresh : fresh (twice "user" "user_admin") [] =
      .ok ⟨twice "user" "user_admin", ⟨':', ∅, true, Pipes.builtin⟩, ∅⟩ := rfl
  have hnames : (run ⟨twice "user" "user_admin", ⟨':', ∅, true, Pipes.builtin⟩, ∅⟩
      [(oneFragment, .init)]).names = ["user.a".toList, "user_admin.a".toList] := by cbv
  obtain ⟨hnodup, -, -, hascending⟩ := names_run hfresh [(oneFragment, .init)]
  refine ⟨_, hfresh, hnames, hnodup, hascending.1 ?_⟩
  rw [hnames]
  decide

/-- The dash comes before the dot. -/
theorem not_forall_names_ascending :
    ¬∀ settings pipes c history, fresh settings pipes = .ok c →
      ((run c history).names.map Text.bytes).Pairwise (· < ·) := by
  intro hall
  have hfresh : fresh (twice "user" "user-admin") [] =
      .ok ⟨twice "user" "user-admin", ⟨':', ∅, true, Pipes.builtin⟩, ∅⟩ := rfl
  have hnames : (run ⟨twice "user" "user-admin", ⟨':', ∅, true, Pipes.builtin⟩, ∅⟩
      [(oneFragment, .init)]).names = ["user.a".toList, "user-admin.a".toList] := by cbv
  have hsorted := hall _ _ _ [(oneFragment, .init)] hfresh
  rw [hnames] at hsorted
  revert hsorted
  decide

end Catalog

end SqlTemplate
