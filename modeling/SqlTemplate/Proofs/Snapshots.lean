import Mathlib
import SqlTemplate.Proofs.History

/-!
Whole snapshots.  Every file that a catalog holds is what one reading of it gave at one moment, and
an operation that meets a file which cannot be read leaves the catalog as it was, whatever other
files it has read by then.
-/
namespace SqlTemplate.Catalog

variable {fs : FileSystem} {c : Catalog}

/-- The file of a configured alias as it is held, unless it has changed. -/
def unchanged? (fs : FileSystem) (c : Catalog) (fileAlias : Text) : Option SqlFile :=
  (c.files.get? fileAlias).filter fun file => !file.isStale fs

/-- The file that has to be read, if any, to get the fragment of a qualified name. -/
def wanted (fs : FileSystem) (c : Catalog) (name : Text) : List (Text × Path) :=
  match (plainName name).cut? '.' with
  | none => []
  | some (fileAlias, _) =>
    match c.settings.files.get? fileAlias with
    | none => []
    | some path => if (c.current? fs fileAlias).isNone then [(fileAlias, path)] else []

/-- Those of some files that are not held as they are now. -/
def outdated (fs : FileSystem) (c : Catalog) (entries : List (Text × Path)) : List (Text × Path) :=
  entries.filter fun e => (c.unchanged? fs e.1).isNone

/-- The files that an operation has to read, by their aliases. -/
def toRead (fs : FileSystem) (c : Catalog) : Operation → List (Text × Path)
  | .init => c.settings.files.entries
  | .reload => c.outdated fs c.settings.files.entries
  | .names | .size => []
  | .get name | .getSql name | .contains name => c.wanted fs name
  | .render name _ | .prepare name _ | .inline name _ => c.wanted fs name

/-- Whether some of the files cannot be read, and `e` is what is wrong with one of these. -/
def FailsWith (fs : FileSystem) (terminator : Text) (files : List (Text × Path)) (e : Error) :
    Prop :=
  ∃ file ∈ files, SqlFile.load fs file.1 file.2 terminator = .error e

/-- Whether an answer says that an operation has failed for this reason.  Whoever asks only whether
a fragment is there is told no reason. -/
def Answer.Reports (e : Error) : Answer → Prop
  | .loaded result => result = .error e
  | .reloaded result => result = .error e
  | .fragment result => result = .error e
  | .source result => result = .error e
  | .rendering result => result = .error e
  | .statement result => result = .error e
  | .sql result => result = .error e
  | .contained found => found = false
  | .names _ | .size _ => False

/-! Operations that fail. -/

theorem FailsWith.head {terminator : Text} {file : Text × Path} {e : Error}
    (h : SqlFile.load fs file.1 file.2 terminator = .error e) (files : List (Text × Path)) :
    FailsWith fs terminator (file :: files) e := ⟨file, List.mem_cons_self, h⟩

theorem FailsWith.cons {terminator : Text} {files : List (Text × Path)} {e : Error}
    (h : FailsWith fs terminator files e) (file : Text × Path) :
    FailsWith fs terminator (file :: files) e := by
  obtain ⟨file', hmem, he⟩ := h
  exact ⟨file', List.mem_cons_of_mem file hmem, he⟩

/-- If the first file is in order, the one that cannot be read is behind it. -/
theorem FailsWith.tail {terminator : Text} {file : Text × Path} {files : List (Text × Path)}
    {e : Error} {f : SqlFile} (h : FailsWith fs terminator (file :: files) e)
    (hload : SqlFile.load fs file.1 file.2 terminator = .ok f) :
    FailsWith fs terminator files e := by
  obtain ⟨file', hmem, he⟩ := h
  rcases List.mem_cons.1 hmem with rfl | hmem
  · rw [hload] at he
    cases he
  · exact ⟨file', hmem, he⟩

theorem not_failsWith_nil {terminator : Text} {e : Error} : ¬FailsWith fs terminator [] e := by
  rintro ⟨_, hmem, -⟩
  cases hmem

theorem exists_loadAll_eq_error {terminator : Text} {entries : List (Text × Path)} {e : Error}
    (h : FailsWith fs terminator entries e) :
    ∃ e', FailsWith fs terminator entries e' ∧ loadAll fs terminator entries = .error e' := by
  induction entries with
  | nil => exact absurd h not_failsWith_nil
  | cons entry rest ih =>
    rw [loadAll]
    cases hload : SqlFile.load fs entry.1 entry.2 terminator with
    | error e' => exact ⟨e', .head hload rest, rfl⟩
    | ok f =>
      obtain ⟨e', hfails, hall⟩ := ih (h.tail hload)
      exact ⟨e', hfails.cons entry, by rw [hall]; rfl⟩

theorem exists_loadStale_eq_error {entries : List (Text × Path)} {e : Error}
    (h : FailsWith fs c.settings.terminator (c.outdated fs entries) e) :
    ∃ e', FailsWith fs c.settings.terminator (c.outdated fs entries) e' ∧
      loadStale fs c entries = .error e' := by
  induction entries with
  | nil => exact absurd h not_failsWith_nil
  | cons entry rest ih =>
    rw [loadStale]
    cases hheld : c.unchanged? fs entry.1 with
    | some file =>
      have houtdated : c.outdated fs (entry :: rest) = c.outdated fs rest :=
        List.filter_cons_of_neg (by simp [hheld])
      rw [houtdated] at h ⊢
      obtain ⟨e', hfails, hstale⟩ := ih h
      rw [unchanged?] at hheld
      rw [hheld]
      exact ⟨e', hfails, by rw [hstale]; rfl⟩
    | none =>
      have houtdated : c.outdated fs (entry :: rest) = entry :: c.outdated fs rest :=
        List.filter_cons_of_pos (by simp [hheld])
      rw [houtdated] at h ⊢
      rw [unchanged?] at hheld
      rw [hheld]
      dsimp only
      cases hload : SqlFile.load fs entry.1 entry.2 c.settings.terminator with
      | error e' => exact ⟨e', .head hload _, rfl⟩
      | ok f =>
        obtain ⟨e', hfails, hstale⟩ := ih (h.tail hload)
        exact ⟨e', hfails.cons entry, by rw [hstale]; rfl⟩

theorem init_of_failsWith {e : Error}
    (h : FailsWith fs c.settings.terminator c.settings.files.entries e) :
    ∃ e', FailsWith fs c.settings.terminator c.settings.files.entries e' ∧
      c.init fs = (.error e', c) := by
  obtain ⟨e', hfails, hall⟩ := exists_loadAll_eq_error h
  exact ⟨e', hfails, by rw [init, hall]⟩

theorem reload_of_failsWith {e : Error}
    (h : FailsWith fs c.settings.terminator (c.outdated fs c.settings.files.entries) e) :
    ∃ e', FailsWith fs c.settings.terminator (c.outdated fs c.settings.files.entries) e' ∧
      c.reload fs = (.error e', c) := by
  obtain ⟨e', hfails, hstale⟩ := exists_loadStale_eq_error h
  exact ⟨e', hfails, by rw [reload, hstale]⟩

theorem get_of_failsWith {name : Text} {e : Error}
    (h : FailsWith fs c.settings.terminator (c.wanted fs name) e) :
    c.get fs name = (.error e, c) := by
  obtain ⟨⟨fileAlias, path⟩, hmem, hload⟩ := h
  rw [wanted] at hmem
  rw [get]
  cases hcut : (plainName name).cut? '.' with
  | none =>
    simp only [hcut] at hmem
    cases hmem
  | some parts =>
    obtain ⟨fileAlias', own⟩ := parts
    cases hpath : c.settings.files.get? fileAlias' with
    | none =>
      simp only [hcut, hpath] at hmem
      cases hmem
    | some path' =>
      simp only [hcut, hpath] at hmem ⊢
      cases hcurrent : c.current? fs fileAlias' with
      | some file => simp [hcurrent] at hmem
      | none =>
        obtain ⟨rfl, rfl⟩ : fileAlias = fileAlias' ∧ path = path' := by
          simpa [hcurrent] using hmem
        rw [file, hcurrent]
        dsimp only
        rw [hload]

theorem use_of_failsWith {α : Type} {name : Text} {e : Error}
    (h : FailsWith fs c.settings.terminator (c.wanted fs name) e)
    (f : Renderer → Fragment → Except Error α) : c.use fs name f = (.error e, c) := by
  rw [use, get_of_failsWith h]

/-- An operation that meets a file which cannot be read says so and changes nothing. -/
theorem perform_of_failsWith {op : Operation} {e : Error}
    (h : FailsWith fs c.settings.terminator (c.toRead fs op) e) :
    (perform fs c op).2 = c ∧
      ∃ e', FailsWith fs c.settings.terminator (c.toRead fs op) e' ∧
        (perform fs c op).1.Reports e' := by
  cases op with
  | init =>
    obtain ⟨e', hfails, hinit⟩ := init_of_failsWith h
    dsimp only [perform]
    rw [hinit]
    exact ⟨rfl, e', hfails, rfl⟩
  | reload =>
    obtain ⟨e', hfails, hreload⟩ := reload_of_failsWith h
    dsimp only [perform]
    rw [hreload]
    exact ⟨rfl, e', hfails, rfl⟩
  | get name =>
    dsimp only [perform]
    rw [get_of_failsWith h]
    exact ⟨rfl, e, h, rfl⟩
  | contains name =>
    dsimp only [perform, contains]
    rw [get_of_failsWith h]
    exact ⟨rfl, e, h, rfl⟩
  | getSql name =>
    dsimp only [perform, getSql]
    rw [use_of_failsWith h]
    exact ⟨rfl, e, h, rfl⟩
  | render name args =>
    dsimp only [perform, render]
    rw [use_of_failsWith h]
    exact ⟨rfl, e, h, rfl⟩
  | prepare name args =>
    dsimp only [perform, prepare]
    rw [use_of_failsWith h]
    exact ⟨rfl, e, h, rfl⟩
  | inline name args =>
    dsimp only [perform, inline]
    rw [use_of_failsWith h]
    exact ⟨rfl, e, h, rfl⟩
  | names | size =>
    obtain ⟨_, hmem, -⟩ := h
    cases hmem

/-! Files that are held. -/

/-- Whether a file is what reading its configured path gives: the fragments and parts of the text
that is there, and the time of that text's last change. -/
structure Whole (s : Settings) (fs : FileSystem) (fileAlias : Text) (f : SqlFile) : Prop where
  configured : s.files.get? fileAlias = some f.path
  named : f.fileAlias = fileAlias
  content : ∃ text t g, fs.file? f.path = some ⟨some text, t⟩ ∧ f.modified = some t ∧
    SqlFile.ofText fileAlias text s.terminator = .ok g ∧
    f.fragments = g.fragments ∧ f.parts = g.parts

theorem fileAlias_ofText {fileAlias text terminator : Text} {f : SqlFile}
    (h : SqlFile.ofText fileAlias text terminator = .ok f) : f.fileAlias = fileAlias := by
  obtain ⟨_, -, h⟩ := exists_of_bind_eq_ok h
  obtain ⟨_, -, h⟩ := exists_of_bind_eq_ok h
  obtain ⟨_, -, h⟩ := exists_of_bind_eq_ok h
  rw [← Except.ok.inj h]

theorem Reads.whole {s : Settings} {fileAlias : Text} {f : SqlFile}
    (h : Reads s fs fileAlias f) : Whole s fs fileAlias f := by
  obtain ⟨path, hpath, hload⟩ := h
  obtain ⟨text, t, g, hfile, hg, rfl⟩ := exists_of_load hload
  have hnamed : g.fileAlias = fileAlias := fileAlias_ofText hg
  exact ⟨hpath, hnamed, text, t, g, hfile, rfl, hg, rfl, rfl⟩

/-- Whatever has been asked of a catalog that had read nothing at first, and whatever has become of
the files meanwhile: each file that it holds is whole as of one operation, since which it has been
held; and an operation that meets a file which cannot be read changes nothing. -/
theorem whole_run {settings : Settings} {pipes : List (Text × Pipe)} {c : Catalog}
    (hfresh : fresh settings pipes = .ok c) (history : List (FileSystem × Operation)) :
    (∀ fileAlias f, (run c history).files.get? fileAlias = some f →
      ∃ before fs op after, history = before ++ (fs, op) :: after ∧
        (run c (before ++ [(fs, op)])).files.get? fileAlias = some f ∧
        Whole settings fs fileAlias f) ∧
    ∀ fs op e, FailsWith fs settings.terminator ((run c history).toRead fs op) e →
      (perform fs (run c history) op).2 = run c history ∧
      ∃ e', FailsWith fs settings.terminator ((run c history).toRead fs op) e' ∧
        (perform fs (run c history) op).1.Reports e' := by
  obtain ⟨hsettings, hfiles⟩ := fresh_spec hfresh
  constructor
  · intro fileAlias f hget
    rcases held_or_reads_of_run hget with hheld | ⟨before, fs, op, after, hhistory, hheld, hreads⟩
    · rw [hfiles] at hheld
      cases hheld
    · rw [hsettings] at hreads
      exact ⟨before, fs, op, after, hhistory, hheld, hreads.whole⟩
  · intro fs op e hfails
    have hterminator : (run c history).settings.terminator = settings.terminator := by
      rw [settings_run, hsettings]
    rw [← hterminator] at hfails ⊢
    exact perform_of_failsWith hfails

/-- Settings with two files, the second one by a path from the root. -/
def twoFiles : Settings :=
  { Settings.default with
    files := Dict.ofList [("a".toList, "a.sql".toList), ("b".toList, "/work/b.sql".toList)] }

def twoFilesAt (a b : String) (modified : Int) : FileSystem :=
  (FileSystem.empty.write "a.sql".toList ⟨some a.toList, modified⟩).write "b.sql".toList
    ⟨some b.toList, modified⟩

/-- Both files are read at the first moment; at the second both have changed, and the second of
them has a block that is not closed. -/
def sound : FileSystem := twoFilesAt "/*[x]*/\n1;" "/*[y]*/\n1;" 1

def broken : FileSystem := twoFilesAt "/*[x]*/\n2;" "/*[y]*/\n--#if :v = 1\n2;" 2

/-- Bringing both files up to date reads the first one and fails for the second one. -/
theorem whole_run_broken :
    ∃ c, fresh twoFiles [] = .ok c ∧
      (∃ f, (run c [(sound, .init)]).files.get? "a".toList = some f ∧
        ∃ moment ∈ [(sound, Operation.init)], Whole twoFiles moment.1 "a".toList f) ∧
      (run c [(sound, .init)]).toRead broken .reload =
        [("a".toList, "a.sql".toList), ("b".toList, "/work/b.sql".toList)] ∧
      (SqlFile.load broken "a".toList "a.sql".toList twoFiles.terminator).isOk = true ∧
      (perform broken (run c [(sound, .init)]) .reload).2 = run c [(sound, .init)] := by
  have hfresh : fresh twoFiles [] = .ok ⟨twoFiles, ⟨':', ∅, true, Pipes.builtin⟩, ∅⟩ := rfl
  have hread : toRead broken (run ⟨twoFiles, ⟨':', ∅, true, Pipes.builtin⟩, ∅⟩ [(sound, .init)])
      .reload = [("a".toList, "a.sql".toList), ("b".toList, "/work/b.sql".toList)] := by cbv
  have hload : SqlFile.load broken "b".toList "/work/b.sql".toList twoFiles.terminator =
      .error (.badFragment "b.y".toList (.directive ⟨1, .unclosed .if⟩)) := by cbv
  have hheld : ((run ⟨twoFiles, ⟨':', ∅, true, Pipes.builtin⟩, ∅⟩
      [(sound, .init)]).files.get? "a".toList).isSome = true := by cbv
  obtain ⟨hwhole, hfails⟩ := whole_run hfresh [(sound, .init)]
  refine ⟨_, hfresh, ?_, hread, by cbv, ?_⟩
  · obtain ⟨f, hf⟩ := Option.isSome_iff_exists.1 hheld
    obtain ⟨before, fs, op, after, hhistory, -, hf'⟩ := hwhole _ f hf
    have hmem : (fs, op) ∈ [(sound, Operation.init)] := by
      rw [hhistory]
      simp
    exact ⟨f, hf, (fs, op), hmem, hf'⟩
  · have hsecond : ("b".toList, "/work/b.sql".toList) ∈
        [("a".toList, "a.sql".toList), ("b".toList, "/work/b.sql".toList)] := by simp
    exact (hfails broken .reload _ ⟨_, hread ▸ hsecond, hload⟩).1

end SqlTemplate.Catalog
