import Mathlib
import SqlTemplate.Proofs.Listing
import SqlTemplate.Proofs.Source

/-!
Getting what is listed.  A name is looked up without its modifier and without the blanks around it,
so that a listed fragment is got under its name exactly if the name has no caret and starts with no
blank.  Names of fragments come from headers and have no blanks; an alias can have some.
-/
namespace SqlTemplate

/-! The names that headers give. -/

namespace SqlFile

/-- Whether a text can be the name of a block. -/
def IsBlockName (name : Text) : Prop := name ≠ [] ∧ ∀ c ∈ name, Unicode.isBlank c = false

theorem isBlockName_of_headerName? {close : Char} {cs name : Text}
    (h : headerName? close cs = some name) : IsBlockName name := by
  induction cs generalizing name with
  | nil => cases h
  | cons c cs ih =>
    rw [headerName?] at h
    split at h
    · cases h
    rename_i hc
    have hc : Unicode.isBlank c = false := by simpa using hc
    split at h
    · obtain rfl := Option.some.inj h
      exact ⟨by simp, by simpa using hc⟩
    · obtain ⟨name', hname', rfl⟩ := Option.map_eq_some_iff.1 h
      exact ⟨by simp, List.forall_mem_cons.2 ⟨hc, (ih hname').2⟩⟩

theorem isBlockName_of_bracketed? {opening close : Char} {l name : Text}
    (h : bracketed? opening close l = some name) : IsBlockName name := by
  obtain ⟨cs, -, h⟩ := Option.bind_eq_some_iff.1 h
  split at h
  · split at h
    · exact isBlockName_of_headerName? h
    · cases h
  · cases h

theorem isBlockName_of_header? {kind : BlockKind} {l name : Text}
    (h : header? l = some (kind, name)) : IsBlockName name := by
  rw [header?] at h
  split at h
  · rename_i hname
    obtain ⟨-, rfl⟩ := Prod.mk.inj (Option.some.inj h)
    exact isBlockName_of_bracketed? hname
  · obtain ⟨name', hname', heq⟩ := Option.map_eq_some_iff.1 h
    obtain ⟨-, rfl⟩ := Prod.mk.inj heq
    exact isBlockName_of_bracketed? hname'

namespace Draft

variable {fileAlias terminator : Text} {d d' : Draft}

/-- Whether the open block and all fragments have the names of headers. -/
structure Headed (d : Draft) : Prop where
  current : ∀ b, d.current = some b → IsBlockName b.name
  fragments : ∀ name body, d.fragments.get? name = some body → IsBlockName name

theorem headed_empty : Headed .empty := by
  constructor <;> simp [Draft.empty]

theorem Headed.close (h : d.Headed) (hclose : d.close fileAlias = .ok d') : d'.Headed := by
  rcases close_cases hclose with ⟨-, rfl⟩ | ⟨b, hb, ⟨-, -, rfl⟩ | ⟨-, -, rfl⟩⟩
  · exact h
  · refine ⟨by simp, fun name body hget => ?_⟩
    rw [Dict.get?_insert] at hget
    split at hget
    · rename_i hname
      exact hname ▸ h.current b hb
    · exact h.fragments name body hget
  · exact ⟨by simp, h.fragments⟩

theorem Headed.start (h : d.Headed) {kind : BlockKind} {name : Text} (hname : IsBlockName name)
    (hstart : d.start fileAlias kind name = .ok d') : d'.Headed := by
  obtain ⟨d₁, hclose, hd'⟩ := exists_of_bind_eq_ok hstart
  obtain rfl := Except.ok.inj hd'
  refine ⟨fun b hb => ?_, (h.close hclose).fragments⟩
  obtain rfl := Option.some.inj hb
  exact hname

/-- The open block may go on. -/
theorem Headed.withBody (h : d.Headed) {b : OpenBlock} (hb : d.current = some b)
    (body : List Text) : Headed { d with current := some { b with body } } := by
  refine ⟨fun b' hb' => ?_, h.fragments⟩
  obtain rfl := Option.some.inj hb'
  exact h.current b hb

theorem Headed.bodyLine (h : d.Headed) {l : Text}
    (hline : d.bodyLine fileAlias terminator l = .ok d') : d'.Headed := by
  rcases bodyLine_cases hline with rfl | ⟨b, body, hb, rfl | hclose⟩
  · exact h
  · exact h.withBody hb body
  · exact (h.withBody hb body).close hclose

theorem Headed.describe (h : d.Headed) (ls : List Text) : (d.describe ls).Headed := by
  refine ⟨fun b hb => ?_, by rw [fragments_describe]; exact h.fragments⟩
  rw [Draft.describe] at hb
  split at hb
  · rename_i b' hb'
    split at hb
    · obtain rfl := Option.some.inj hb
      exact h.current b' hb'
    · exact h.current b hb
  · exact h.current b hb

theorem Headed.line (h : d.Headed) {l : Text}
    (hline : d.line fileAlias terminator l = .ok d') : d'.Headed := by
  rcases line_cases hline with ⟨comment, ls, rfl⟩ | ⟨_, rfl⟩ | ⟨_, _, hheader, hstart⟩ | hbody
  · have hcomment : Headed { d with comment } := ⟨h.current, h.fragments⟩
    exact hcomment.describe ls
  · exact ⟨h.current, h.fragments⟩
  · exact h.start (isBlockName_of_header? hheader) hstart
  · exact h.bodyLine hbody

theorem Headed.lines (h : d.Headed) {ls : List Text}
    (hlines : d.lines fileAlias terminator ls = .ok d') : d'.Headed := by
  induction ls generalizing d with
  | nil =>
    obtain rfl := Except.ok.inj hlines
    exact h
  | cons l ls ih =>
    obtain ⟨d₁, hline, hls⟩ := exists_of_bind_eq_ok hlines
    exact ih (h.line hline) hls

end Draft

theorem isBlockName_of_ofText {fileAlias text terminator name : Text} {file : SqlFile}
    {f : Fragment} (h : ofText fileAlias text terminator = .ok file)
    (hf : file.fragments.get? name = some f) : IsBlockName name := by
  obtain ⟨d, d', description, body, hlines, hclose, hbody, -, -⟩ := exists_of_get?_ofText h hf
  exact ((Draft.headed_empty.lines hlines).close hclose).fragments _ _ hbody

end SqlFile

namespace Catalog

/-! The names that are looked up as they are. -/

/-- Whether a name has no modifier and no blank in front. -/
def Callable (name : Text) : Prop :=
  '^' ∉ name ∧ ∀ c, name.head? = some c → Unicode.isBlank c = false

theorem Callable.plainName_eq {name : Text} (h : Callable name)
    (hlast : ∀ c, name.getLast? = some c → Unicode.isBlank c = false) : plainName name = name := by
  rw [plainName, Text.cut?_eq_none_iff.2 h.1]
  exact Text.IsTrim.trim_eq ⟨h.2, hlast⟩

theorem callable_plainName (name : Text) : Callable (plainName name) := by
  refine ⟨fun hmem => ?_, (Text.isTrim_trim _).head⟩
  have hfront := Text.trim_subset _ hmem
  split at hfront
  · rename_i hcut
    exact (Text.cut?_eq_some_iff.1 hcut).2 hfront
  · rename_i hcut
    exact Text.cut?_eq_none_iff.1 hcut hfront

variable {settings : Settings} {pipes : List (Text × Pipe)} {c : Catalog} {fs : FileSystem}
  {history : List (FileSystem × Operation)}

/-- A qualified name ends as the fragment's own name does, in no blank. -/
theorem getLast?_qualifiedName (h : fresh settings pipes = .ok c) {f : Fragment}
    (hf : (run c history).Holds f) (x : Char) (hx : f.qualifiedName.getLast? = some x) :
    Unicode.isBlank x = false := by
  obtain ⟨file, hfile, hget⟩ := hf
  obtain ⟨_, hwhole⟩ := exists_whole_of_run h hfile
  obtain ⟨text, t, g, -, -, hg, hfragments, -⟩ := hwhole.content
  rw [hfragments] at hget
  obtain ⟨hne, hblanks⟩ := SqlFile.isBlockName_of_ofText hg hget
  refine hblanks x (List.mem_of_getLast? ?_)
  rw [← hx, Fragment.qualifiedName, ← List.singleton_append, ← List.append_assoc,
    List.getLast?_append_of_ne_nil _ hne]

/-- What is found of a name has that name without what is not looked up. -/
theorem qualifiedName_of_find {name : Text} {f : Fragment} (h : find settings fs name = .ok f) :
    f.qualifiedName = plainName name := by
  rw [find] at h
  split at h
  · cases h
  rename_i fileAlias own hcut
  split at h
  · cases h
  rename_i path hpath
  obtain ⟨fragments, hfragments, h⟩ := exists_of_bind_eq_ok h
  obtain ⟨file, hload, hfragments⟩ := exists_of_bind_eq_ok hfragments
  obtain rfl := Except.ok.inj hfragments
  split at h
  · rename_i g hget
    obtain rfl := Except.ok.inj h
    have hreads : Reads settings fs fileAlias file := ⟨path, hpath, hload⟩
    obtain ⟨rfl, rfl⟩ := hreads.whole.fragment hget
    exact (Text.eq_append_of_cut? hcut).symm
  · cases h

/-! Files that have not changed. -/

/-- Whether the files that are held have the text now that they had when they were read. -/
def Unchanged (c : Catalog) (history : List (FileSystem × Operation)) (last : FileSystem) : Prop :=
  ∀ fileAlias file, (run c history).files.get? fileAlias = some file →
    ∃ fs ∈ history.map Prod.fst, Reads c.settings fs fileAlias file ∧
      (last.file? file.path).map File.content = (fs.file? file.path).map File.content

theorem Unchanged.load_eq (h : Unchanged c history fs) {fileAlias : Text} {file : SqlFile}
    (hfile : (run c history).files.get? fileAlias = some file) :
    c.settings.files.get? fileAlias = some file.path ∧
      (SqlFile.load fs fileAlias file.path c.settings.terminator).map SqlFile.fragments =
        .ok file.fragments := by
  obtain ⟨fs₁, -, hreads, hcontent⟩ := h fileAlias file hfile
  obtain ⟨hpath, -, -, hload⟩ := hreads.spec
  exact ⟨hpath, by rw [fragments_load_congr _ hcontent, hload]⟩

theorem Unchanged.upToDate (h : Unchanged c history fs) : UpToDate fs (run c history) := by
  intro fileAlias path file hpath hfile
  obtain ⟨hget, -⟩ := Option.filter_eq_some_iff.1 hfile
  obtain ⟨hpath', hload⟩ := h.load_eq hget
  rw [settings_run] at hpath ⊢
  obtain rfl := Option.some.inj (hpath'.symm.trans hpath)
  exact hload

theorem Unchanged.find_qualifiedName (h : Unchanged c history fs)
    (hlabelled : Labelled (run c history)) {f : Fragment} (hf : (run c history).Holds f)
    (hname : plainName f.qualifiedName = f.qualifiedName) :
    find c.settings fs f.qualifiedName = .ok f := by
  obtain ⟨file, hfile, hget⟩ := hf
  obtain ⟨hpath, hload⟩ := h.load_eq hfile
  have hcut : f.qualifiedName.cut? '.' = some (f.fileAlias, f.name) :=
    Text.cut?_eq_some_iff.2 ⟨rfl, hlabelled.dot_notMem hfile⟩
  simp only [find, hname, hcut, hpath, hload, bind, Except.bind, hget]

theorem unchanged_of_forall (h : fresh settings pipes = .ok c)
    (hmoments : ∀ moment ∈ history.map Prod.fst, moment = fs) : Unchanged c history fs := by
  obtain ⟨-, hfiles⟩ := fresh_spec h
  intro fileAlias file hfile
  rcases held_or_reads_of_run hfile with hheld | ⟨before, moment, op, after, hhistory, -, hreads⟩
  · rw [hfiles] at hheld
    cases hheld
  · have hmem : moment ∈ history.map Prod.fst := by simp [hhistory]
    exact ⟨moment, hmem, hreads, by rw [hmoments moment hmem]⟩

/-- Whatever has been asked of a catalog that had read nothing at first: if the files that it holds
have not changed since they were read, then a listed name without caret and blank in front gets the
fragment whose name it is; and no other listed name does. -/
theorem get_of_mem_names (hfresh : fresh settings pipes = .ok c)
    (hunchanged : Unchanged c history fs) :
    ∀ n ∈ (run c history).names, ∃ f, (run c history).Holds f ∧ f.qualifiedName = n ∧
      (((run c history).get fs n).1 = .ok f ↔ Callable n) ∧
      (Callable n → ((run c history).contains fs n).1 = true) := by
  have hlabelled := labelled_run hfresh history
  intro n hn
  obtain ⟨f, hf, rfl⟩ := hlabelled.mem_names_iff.1 hn
  have hget : ((run c history).get fs f.qualifiedName).1 = .ok f ↔ Callable f.qualifiedName := by
    rw [get_eq_find hunchanged.upToDate, settings_run]
    refine ⟨fun hfind => ?_, fun hcallable => ?_⟩
    · rw [qualifiedName_of_find hfind]
      exact callable_plainName _
    · exact hunchanged.find_qualifiedName hlabelled hf
        (hcallable.plainName_eq (getLast?_qualifiedName hfresh hf))
  refine ⟨f, hf, rfl, hget, fun hcallable => ?_⟩
  rw [contains_eq, hget.2 hcallable]
  rfl

/-- A file that stays as it is. -/
theorem get_of_mem_names_init :
    ∃ c, fresh oneFile [] = .ok c ∧
      (run c [(oneFileAt "/*[a]*/\nselect 1;" 1, .init)]).names = ["u.a".toList] ∧
      ((run c [(oneFileAt "/*[a]*/\nselect 1;" 1, .init)]).contains
        (oneFileAt "/*[a]*/\nselect 1;" 1) "u.a".toList).1 = true := by
  have hfresh : fresh oneFile [] = .ok ⟨oneFile, ⟨':', ∅, true, Pipes.builtin⟩, ∅⟩ := rfl
  have hnames : (run ⟨oneFile, ⟨':', ∅, true, Pipes.builtin⟩, ∅⟩
      [(oneFileAt "/*[a]*/\nselect 1;" 1, .init)]).names = ["u.a".toList] := by cbv
  have hunchanged : Unchanged _ [(oneFileAt "/*[a]*/\nselect 1;" 1, .init)]
      (oneFileAt "/*[a]*/\nselect 1;" 1) := unchanged_of_forall hfresh (by simp)
  have hall := get_of_mem_names hfresh hunchanged
  rw [hnames] at hall
  obtain ⟨f, -, -, -, hcontains⟩ := hall _ List.mem_cons_self
  exact ⟨_, hfresh, hnames, hcontains ⟨by decide, by rintro c ⟨⟩; rfl⟩⟩

/-- An alias that starts with a blank, and a file with a caret in a header. -/
def spaced : Settings :=
  { Settings.default with
    files := Dict.ofList [(" a".toList, "a.sql".toList), ("b".toList, "b.sql".toList)] }

def careted : FileSystem := twoFilesAt "/*[x]*/\n1;" "/*[x^y]*/\n1;" 1

/-- Both fragments are listed, and neither is found. -/
theorem not_contains_names :
    ∃ c, fresh spaced [] = .ok c ∧ Unchanged c [(careted, .init)] careted ∧
      (run c [(careted, .init)]).names = [" a.x".toList, "b.x^y".toList] ∧
      ∀ n ∈ (run c [(careted, .init)]).names,
        ((run c [(careted, .init)]).contains careted n).1 = false := by
  have hfresh : fresh spaced [] = .ok ⟨spaced, ⟨':', ∅, true, Pipes.builtin⟩, ∅⟩ := rfl
  have hnames : (run ⟨spaced, ⟨':', ∅, true, Pipes.builtin⟩, ∅⟩
      [(careted, .init)]).names = [" a.x".toList, "b.x^y".toList] := by cbv
  refine ⟨_, hfresh, unchanged_of_forall hfresh (by simp), hnames, ?_⟩
  rw [hnames]
  simp only [List.forall_mem_cons, List.not_mem_nil, false_implies, implies_true, and_true]
  exact ⟨by cbv, by cbv⟩

end Catalog

end SqlTemplate
