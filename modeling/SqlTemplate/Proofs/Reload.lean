import SqlTemplate.Proofs.Snapshots

/-!
Bringing a catalog up to date.  Files are read again only where the time of their last change
differs, and yet the catalog is left as if all of them had been read anew, with the same error if
one of them cannot be read.
-/
namespace SqlTemplate.Catalog

variable {fs fs' : FileSystem} {c : Catalog}

/-- Reading a path depends on the file that it leads to. -/
theorem load_congr {fileAlias : Text} {path : Path} (terminator : Text)
    (h : fs.file? path = fs'.file? path) :
    SqlFile.load fs fileAlias path terminator = SqlFile.load fs' fileAlias path terminator := by
  rw [load_eq, load_eq, h]

/-- Whether the files that are held unchanged are what reading them would give. -/
def InStep (fs : FileSystem) (c : Catalog) : Prop :=
  ∀ fileAlias path f, c.settings.files.get? fileAlias = some path →
    c.unchanged? fs fileAlias = some f →
    SqlFile.load fs fileAlias path c.settings.terminator = .ok f

theorem inStep_run {history : List (FileSystem × Operation)} (hfiles : c.files = ∅)
    (hdated : Dated c.settings (history.map Prod.fst ++ [fs])) : InStep fs (run c history) := by
  intro fileAlias path f hpath hf
  rw [settings_run] at hpath ⊢
  obtain ⟨hget, hstale⟩ := Option.filter_eq_some_iff.1 hf
  rcases held_or_reads_of_run hget with hheld | ⟨before, fs₁, op, after, hhistory, -, hreads⟩
  · rw [hfiles] at hheld
    cases hheld
  -- the file shows the same time as at the moment at which it was read
  obtain ⟨hpath', hmodified, hsome, -⟩ := hreads.spec
  obtain rfl := Option.some.inj (hpath'.symm.trans hpath)
  have hnow : fs.modified? f.path = f.modified := by simpa [SqlFile.isStale] using hstale
  have hfile : fs₁.file? f.path = fs.file? f.path :=
    hdated fs₁ (by simp [hhistory]) fs (by simp) _ (Dict.mem_of_get? hpath) hsome
      (hmodified.symm.trans hnow.symm)
  obtain ⟨path', hpath'', hload⟩ := hreads
  obtain rfl := Option.some.inj (hpath''.symm.trans hpath)
  rw [← hload]
  exact load_congr _ hfile.symm

/-- What is told of those files that are not held as they are now. -/
def reports (fs : FileSystem) (c : Catalog) (files : List (Text × SqlFile)) : List Reloaded :=
  (files.filter fun e => (c.unchanged? fs e.1).isNone).map fun e =>
    ⟨e.1, e.2.path, e.2.fragments.size⟩

theorem reports_cons_of_held {fileAlias : Text} {f : SqlFile}
    (h : c.unchanged? fs fileAlias = some f) (g : SqlFile) (files : List (Text × SqlFile)) :
    reports fs c ((fileAlias, g) :: files) = reports fs c files := by
  rw [reports, List.filter_cons_of_neg (by simp [h]), reports]

theorem reports_cons_of_outdated {fileAlias : Text} (h : c.unchanged? fs fileAlias = none)
    (g : SqlFile) (files : List (Text × SqlFile)) :
    reports fs c ((fileAlias, g) :: files) =
      ⟨fileAlias, g.path, g.fragments.size⟩ :: reports fs c files := by
  rw [reports, List.filter_cons_of_pos (by simp [h]), reports, List.map_cons]

theorem isNone_unchanged? (fs : FileSystem) (c : Catalog) (fileAlias : Text) :
    (c.unchanged? fs fileAlias).isNone = (c.files.get? fileAlias).all (SqlFile.isStale fs) := by
  rw [unchanged?]
  cases c.files.get? fileAlias with
  | none => rfl
  | some f => cases hf : f.isStale fs <;> simp [Option.filter, hf]

/-- Reading the files that have changed gives what reading all of them gives. -/
theorem loadStale_eq_loadAll (h : InStep fs c) {entries : List (Text × Path)}
    (hentries : ∀ e ∈ entries, c.settings.files.get? e.1 = some e.2) :
    loadStale fs c entries =
      (loadAll fs c.settings.terminator entries).map fun files => (reports fs c files, files) := by
  induction entries with
  | nil => rfl
  | cons entry rest ih =>
    obtain ⟨fileAlias, path⟩ := entry
    have hrest := ih fun e he => hentries e (List.mem_cons_of_mem _ he)
    rw [loadStale, loadAll]
    cases hheld : c.unchanged? fs fileAlias with
    | some f =>
      have hload := h fileAlias path f (hentries _ List.mem_cons_self) hheld
      have hfilter := hheld
      rw [unchanged?] at hfilter
      rw [hfilter, hload]
      dsimp only
      rw [hrest]
      cases loadAll fs c.settings.terminator rest with
      | error e => rfl
      | ok files =>
        change Except.ok (reports fs c files, _) = Except.ok (reports fs c _, _)
        rw [reports_cons_of_held hheld]
    | none =>
      have hfilter := hheld
      rw [unchanged?] at hfilter
      rw [hfilter]
      dsimp only
      cases SqlFile.load fs fileAlias path c.settings.terminator with
      | error e => rfl
      | ok f =>
        dsimp only [bind, Except.bind]
        rw [hrest]
        cases loadAll fs c.settings.terminator rest with
        | error e => rfl
        | ok files =>
          change Except.ok (_ :: reports fs c files, _) = Except.ok (reports fs c _, _)
          rw [reports_cons_of_outdated hheld]

theorem keys_of_loadAll {terminator : Text} {entries : List (Text × Path)}
    {files : List (Text × SqlFile)} (h : loadAll fs terminator entries = .ok files) :
    files.map Prod.fst = entries.map Prod.fst := by
  induction entries generalizing files with
  | nil =>
    obtain rfl := Except.ok.inj h
    rfl
  | cons entry rest ih =>
    obtain ⟨fileAlias, path⟩ := entry
    obtain ⟨f, -, h⟩ := exists_of_bind_eq_ok h
    obtain ⟨more, hmore, h⟩ := exists_of_bind_eq_ok h
    obtain rfl := Except.ok.inj h
    rw [List.map_cons, List.map_cons, ih hmore]

/-- The files read are in the order of their aliases. -/
theorem ascending_of_loadAll {terminator : Text} {d : Dict Path} {files : List (Text × SqlFile)}
    (h : loadAll fs terminator d.entries = .ok files) : Entries.Ascending files := by
  have hkeys := d.ascending
  rw [Entries.Ascending, ← List.pairwise_map (R := (· < ·))] at hkeys ⊢
  rwa [keys_of_loadAll h]

/-- What bringing all files up to date comes to. -/
theorem reload_eq (h : InStep fs c) :
    c.reload fs =
      match loadAll fs c.settings.terminator c.settings.files.entries with
      | .ok files => (.ok (reports fs c files), { c with files := .ofList files })
      | .error e => (.error e, c) := by
  rw [reload, loadStale_eq_loadAll h fun e he => Dict.get?_of_mem he]
  cases loadAll fs c.settings.terminator c.settings.files.entries <;> rfl

/-! The catalog that is left when all files could be read. -/

section

variable {files : List (Text × SqlFile)}

theorem reads_of_mem (h : loadAll fs c.settings.terminator c.settings.files.entries = .ok files)
    {e : Text × SqlFile} (he : e ∈ files) : Reads c.settings fs e.1 e.2 :=
  reads_of_loadAll h (fun _ he => Dict.get?_of_mem he) e he

theorem keys_ofList (h : loadAll fs c.settings.terminator c.settings.files.entries = .ok files) :
    (Dict.ofList files).keys = c.settings.files.keys := by
  rw [Dict.keys, Dict.entries_ofList (ascending_of_loadAll h), keys_of_loadAll h, Dict.keys]

theorem get?_ofList (h : loadAll fs c.settings.terminator c.settings.files.entries = .ok files)
    {e : Text × SqlFile} (he : e ∈ files) : (Dict.ofList files).get? e.1 = some e.2 := by
  refine Dict.get?_of_mem ?_
  rwa [Dict.entries_ofList (ascending_of_loadAll h)]

/-- None of the files that have just been read has to be read again. -/
theorem unchanged?_of_mem
    (h : loadAll fs c.settings.terminator c.settings.files.entries = .ok files)
    {e : Text × SqlFile} (he : e ∈ files) :
    unchanged? fs { c with files := .ofList files } e.1 = some e.2 := by
  obtain ⟨-, hmodified, -, -⟩ := (reads_of_mem h he).spec
  refine Option.filter_eq_some_iff.2 ⟨get?_ofList h he, ?_⟩
  simp [SqlFile.isStale, hmodified]

theorem inStep_of_loadAll
    (h : loadAll fs c.settings.terminator c.settings.files.entries = .ok files) :
    InStep fs { c with files := .ofList files } := by
  intro fileAlias path f hpath hf
  have hmem : (fileAlias, f) ∈ files :=
    Dict.mem_of_get?_ofList (Option.filter_eq_some_iff.1 hf).1
  obtain ⟨path', hpath', hload⟩ := reads_of_mem h hmem
  obtain rfl := Option.some.inj (hpath'.symm.trans hpath)
  exact hload

theorem reload_of_loadAll
    (h : loadAll fs c.settings.terminator c.settings.files.entries = .ok files) :
    reload fs { c with files := .ofList files } = (.ok [], { c with files := .ofList files }) := by
  have hreports : reports fs { c with files := .ofList files } files = [] := by
    rw [reports, List.filter_eq_nil_iff.2 fun e he => by simp [unchanged?_of_mem h he], List.map_nil]
  rw [reload_eq (inStep_of_loadAll h)]
  dsimp only
  rw [h]
  dsimp only
  rw [hreports]

/-- The files that are told of are those that were not held, or had changed. -/
theorem fileAlias_reports
    (h : loadAll fs c.settings.terminator c.settings.files.entries = .ok files) :
    (reports fs c files).map Reloaded.fileAlias =
      c.settings.files.keys.filter fun fileAlias =>
        (c.files.get? fileAlias).all (SqlFile.isStale fs) := by
  have hfilter : (fun e : Text × SqlFile => (c.unchanged? fs e.1).isNone) =
      (fun fileAlias => (c.files.get? fileAlias).all (SqlFile.isStale fs)) ∘ Prod.fst := by
    funext e
    exact isNone_unchanged? fs c e.1
  have hkeys : c.settings.files.keys = files.map Prod.fst := by
    rw [keys_of_loadAll h, Dict.keys]
  rw [reports, hkeys, List.filter_map, List.map_map, hfilter]
  rfl

/-- They are told of as they are held now. -/
theorem mem_reports (h : loadAll fs c.settings.terminator c.settings.files.entries = .ok files)
    {r : Reloaded} (hr : r ∈ reports fs c files) :
    ∃ f, (Dict.ofList files).get? r.fileAlias = some f ∧ r.path = f.path ∧
      r.count = f.fragments.size := by
  obtain ⟨e, he, rfl⟩ := List.mem_map.1 hr
  exact ⟨e.2, get?_ofList h (List.mem_of_mem_filter he), rfl, rfl⟩

end

/-- Bringing all files up to date succeeds if reading all of them anew does, with the same error
otherwise, and leaves the same catalog.  That holds all configured files as they are now, what has
been told of is what was not held or had changed, and doing it once more does nothing. -/
theorem reload_run {settings : Settings} {pipes : List (Text × Pipe)} {c : Catalog}
    {history : List (FileSystem × Operation)} {fs : FileSystem}
    (hfresh : fresh settings pipes = .ok c)
    (hdated : Dated settings (history.map Prod.fst ++ [fs])) :
    ((run c history).reload fs).1.map (fun _ => ()) = ((run c history).init fs).1 ∧
    ((run c history).reload fs).2 = ((run c history).init fs).2 ∧
    ∀ reloaded, ((run c history).reload fs).1 = .ok reloaded →
      ((run c history).reload fs).2.files.keys = settings.files.keys ∧
      (∀ fileAlias f, ((run c history).reload fs).2.files.get? fileAlias = some f →
        Whole settings fs fileAlias f) ∧
      reloaded.map Reloaded.fileAlias = settings.files.keys.filter (fun fileAlias =>
        ((run c history).files.get? fileAlias).all (SqlFile.isStale fs)) ∧
      (∀ r ∈ reloaded, ∃ f, ((run c history).reload fs).2.files.get? r.fileAlias = some f ∧
        r.path = f.path ∧ r.count = f.fragments.size) ∧
      ((run c history).reload fs).2.reload fs = (.ok [], ((run c history).reload fs).2) := by
  obtain ⟨hsettings, hfiles⟩ := fresh_spec hfresh
  have hrun : (run c history).settings = settings := by rw [settings_run, hsettings]
  rw [← hsettings] at hdated
  have hreload := reload_eq (inStep_run hfiles hdated)
  rw [init]
  cases hall : loadAll fs (run c history).settings.terminator
      (run c history).settings.files.entries with
  | error e =>
    rw [hall] at hreload
    rw [hreload]
    refine ⟨rfl, rfl, fun reloaded h => ?_⟩
    cases h
  | ok files =>
    rw [hall] at hreload
    rw [hreload]
    refine ⟨rfl, rfl, fun reloaded h => ?_⟩
    obtain rfl := Except.ok.inj h
    rw [← hrun]
    refine ⟨keys_ofList hall, fun fileAlias f hget => ?_, fileAlias_reports hall,
      fun r => mem_reports hall, reload_of_loadAll hall⟩
    exact (reads_of_mem hall (Dict.mem_of_get?_ofList hget)).whole

/-- The first file is back as it was at first, and the second one has changed again. -/
def mended : FileSystem :=
  (FileSystem.empty.write "a.sql".toList ⟨some "/*[x]*/\n1;".toList, 1⟩).write "b.sql".toList
    ⟨some "/*[y]*/\n3;".toList, 3⟩

/-- The catalog holds what it read at first, since the second file was broken in between. -/
theorem reload_run_mended :
    ∃ c, fresh twoFiles [] = .ok c ∧ Dated twoFiles [sound, broken, mended] ∧
      ((run c [(sound, .init), (broken, .reload)]).reload mended).2 =
        ((run c [(sound, .init), (broken, .reload)]).init mended).2 ∧
      ∃ reloaded, ((run c [(sound, .init), (broken, .reload)]).reload mended).1 = .ok reloaded ∧
        reloaded.map Reloaded.fileAlias = ["b".toList] := by
  have hfresh : fresh twoFiles [] = .ok ⟨twoFiles, ⟨':', ∅, true, Pipes.builtin⟩, ∅⟩ := rfl
  have hdated : Dated twoFiles [sound, broken, mended] := by decide
  have hok : (reload mended (run ⟨twoFiles, ⟨':', ∅, true, Pipes.builtin⟩, ∅⟩
      [(sound, .init), (broken, .reload)])).1.isOk = true := by cbv
  obtain ⟨-, hcatalog, htold⟩ :=
    @reload_run _ _ _ [(sound, .init), (broken, .reload)] _ hfresh hdated
  obtain ⟨reloaded, hreloaded⟩ := exists_of_isOk hok
  refine ⟨_, hfresh, hdated, hcatalog, reloaded, hreloaded, ?_⟩
  rw [(htold reloaded hreloaded).2.2.1]
  cbv

end SqlTemplate.Catalog
