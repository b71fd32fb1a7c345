import SqlTemplate.Catalog
import SqlTemplate.Proofs.Blocks
import SqlTemplate.Proofs.Dict

/-!
Catalogs over time.  What a catalog answers when it is asked for a fragment is a function of its
settings and of the files as they are, whatever it has been asked before.
-/
namespace SqlTemplate.Catalog

/-- What can be asked of a catalog. -/
inductive Operation where
  | init
  | reload
  | get (name : Text)
  | getSql (name : Text)
  | contains (name : Text)
  | names
  | size
  | render (name : Text) (args : Args)
  | prepare (name : Text) (args : Args)
  | inline (name : Text) (args : Args)

/-- What it answers. -/
inductive Answer where
  | loaded (result : Except Error Unit)
  | reloaded (result : Except Error (List Reloaded))
  | fragment (result : Except Error Fragment)
  | source (result : Except Error Text)
  | contained (found : Bool)
  | names (names : List Text)
  | size (n : Nat)
  | rendering (result : Except Error Rendering)
  | statement (result : Except Error Statement)
  | sql (result : Except Error Text)

/-- Whether an operation asks for a fragment by its name. -/
def Operation.asksFragment : Operation → Bool
  | init | reload | names | size => false
  | get _ | getSql _ | contains _ | render _ _ | prepare _ _ | inline _ _ => true

def perform (fs : FileSystem) (c : Catalog) : Operation → Answer × Catalog
  | .init => (c.init fs).map Answer.loaded id
  | .reload => (c.reload fs).map Answer.reloaded id
  | .get name => (c.get fs name).map Answer.fragment id
  | .getSql name => (c.getSql fs name).map Answer.source id
  | .contains name => (c.contains fs name).map Answer.contained id
  | .names => (.names c.names, c)
  | .size => (.size c.size, c)
  | .render name args => (c.render fs name args).map Answer.rendering id
  | .prepare name args => (c.prepare fs name args).map Answer.statement id
  | .inline name args => (c.inline fs name args).map Answer.sql id

/-- The operations of a history, each with the files as they are at its time. -/
def run (c : Catalog) : List (FileSystem × Operation) → Catalog
  | [] => c
  | (fs, op) :: rest => run (perform fs c op).2 rest

/-- A catalog with pipes of its own that has read nothing. -/
def fresh (settings : Settings) (pipes : List (Text × Pipe)) : Except Error Catalog := do
  let c ← make settings
  return pipes.foldl (fun c p => c.withPipe p.1 p.2) c

/-! What one operation does. -/

variable {fs fs' : FileSystem} {c c' : Catalog}

/-- Whether a file is what reading it under an alias of the settings gives. -/
def Reads (s : Settings) (fs : FileSystem) (fileAlias : Text) (f : SqlFile) : Prop :=
  ∃ path, s.files.get? fileAlias = some path ∧ SqlFile.load fs fileAlias path s.terminator = .ok f

/-- The same catalog but for some files that have been read now. -/
structure Updates (fs : FileSystem) (c c' : Catalog) : Prop where
  settings : c'.settings = c.settings
  renderer : c'.renderer = c.renderer
  files : ∀ fileAlias f, c'.files.get? fileAlias = some f →
    c.files.get? fileAlias = some f ∨ Reads c.settings fs fileAlias f

theorem Updates.refl (fs : FileSystem) (c : Catalog) : Updates fs c c :=
  ⟨rfl, rfl, fun _ _ h => Or.inl h⟩

theorem reads_of_loadAll {s : Settings} {entries : List (Text × Path)}
    {files : List (Text × SqlFile)} (h : loadAll fs s.terminator entries = .ok files)
    (hentries : ∀ e ∈ entries, s.files.get? e.1 = some e.2) :
    ∀ e ∈ files, Reads s fs e.1 e.2 := by
  induction entries generalizing files with
  | nil =>
    obtain rfl := Except.ok.inj h
    simp
  | cons entry rest ih =>
    obtain ⟨fileAlias, path⟩ := entry
    obtain ⟨f, hf, h⟩ := exists_of_bind_eq_ok h
    obtain ⟨more, hmore, h⟩ := exists_of_bind_eq_ok h
    obtain rfl := Except.ok.inj h
    intro e he
    rcases List.mem_cons.1 he with rfl | he
    · exact ⟨path, hentries _ List.mem_cons_self, hf⟩
    · exact ih hmore (fun e he => hentries e (List.mem_cons_of_mem _ he)) e he

theorem reads_of_loadStale {entries : List (Text × Path)} {reloaded : List Reloaded}
    {files : List (Text × SqlFile)} (h : loadStale fs c entries = .ok (reloaded, files))
    (hentries : ∀ e ∈ entries, c.settings.files.get? e.1 = some e.2) :
    ∀ e ∈ files, c.files.get? e.1 = some e.2 ∨ Reads c.settings fs e.1 e.2 := by
  induction entries generalizing reloaded files with
  | nil =>
    obtain ⟨rfl, rfl⟩ := Prod.mk.inj (Except.ok.inj h)
    simp
  | cons entry rest ih =>
    obtain ⟨fileAlias, path⟩ := entry
    have hrest := fun e he => hentries e (List.mem_cons_of_mem (fileAlias, path) he)
    rw [loadStale] at h
    split at h
    · rename_i f hf
      obtain ⟨⟨reloaded', more⟩, hmore, h⟩ := exists_of_bind_eq_ok h
      obtain ⟨rfl, rfl⟩ := Prod.mk.inj (Except.ok.inj h)
      intro e he
      rcases List.mem_cons.1 he with rfl | he
      · exact Or.inl (Option.filter_eq_some_iff.1 hf).1
      · exact ih hmore hrest e he
    · obtain ⟨f, hf, h⟩ := exists_of_bind_eq_ok h
      obtain ⟨⟨reloaded', more⟩, hmore, h⟩ := exists_of_bind_eq_ok h
      obtain ⟨rfl, rfl⟩ := Prod.mk.inj (Except.ok.inj h)
      intro e he
      rcases List.mem_cons.1 he with rfl | he
      · exact Or.inr ⟨path, hentries _ List.mem_cons_self, hf⟩
      · exact ih hmore hrest e he

theorem updates_init (fs : FileSystem) (c : Catalog) : Updates fs c (c.init fs).2 := by
  rw [init]
  split
  · rename_i files hfiles
    refine ⟨rfl, rfl, fun fileAlias f hf => Or.inr ?_⟩
    exact reads_of_loadAll hfiles (fun e he => Dict.get?_of_mem he) _ (Dict.mem_of_get?_ofList hf)
  · exact .refl fs c

theorem updates_reload (fs : FileSystem) (c : Catalog) : Updates fs c (c.reload fs).2 := by
  rw [reload]
  split
  · rename_i reloaded files hfiles
    refine ⟨rfl, rfl, fun fileAlias f hf => ?_⟩
    exact reads_of_loadStale hfiles (fun e he => Dict.get?_of_mem he) _
      (Dict.mem_of_get?_ofList hf)
  · exact .refl fs c

theorem updates_file (fs : FileSystem) {fileAlias : Text} {path : Path}
    (hpath : c.settings.files.get? fileAlias = some path) :
    Updates fs c (c.file fs fileAlias path).2 := by
  rw [file]
  split
  · exact .refl fs c
  · split
    · rename_i f hf
      refine ⟨rfl, rfl, fun other g hg => ?_⟩
      rw [Dict.get?_insert] at hg
      split at hg
      · rename_i heq
        obtain rfl := Option.some.inj hg
        exact Or.inr (heq ▸ ⟨path, hpath, hf⟩)
      · exact Or.inl hg
    · exact .refl fs c

theorem updates_get (fs : FileSystem) (c : Catalog) (name : Text) :
    Updates fs c (c.get fs name).2 := by
  unfold get
  dsimp only
  split
  · exact .refl fs c
  · split
    · exact .refl fs c
    · rename_i path hpath
      have hfile := updates_file fs hpath
      split
      · rename_i e c' hc'
        rwa [hc'] at hfile
      · rename_i f c' hc'
        rw [hc'] at hfile
        split <;> exact hfile

theorem updates_use {α : Type} (fs : FileSystem) (c : Catalog) (name : Text)
    (f : Renderer → Fragment → Except Error α) : Updates fs c (c.use fs name f).2 := by
  have hget := updates_get fs c name
  rw [use]
  split <;> rename_i hc' <;> rwa [hc'] at hget

theorem updates_perform (fs : FileSystem) (c : Catalog) (op : Operation) :
    Updates fs c (perform fs c op).2 := by
  cases op with
  | init => exact updates_init fs c
  | reload => exact updates_reload fs c
  | get name => exact updates_get fs c name
  | getSql name => exact updates_use fs c name fun _ f => .ok f.source
  | render name args => exact updates_use fs c name fun r f => r.render f.template args
  | prepare name args => exact updates_use fs c name fun r f => r.prepare f.template args
  | inline name args => exact updates_use fs c name fun r f => r.inline f.template args
  | contains name =>
    have hget := updates_get fs c name
    dsimp only [perform, Catalog.contains, Prod.map]
    split <;> rename_i hc' <;> rwa [hc'] at hget
  | names | size => exact .refl fs c

/-! What a whole history does. -/

theorem settings_run (c : Catalog) (history : List (FileSystem × Operation)) :
    (run c history).settings = c.settings := by
  induction history generalizing c with
  | nil => rfl
  | cons entry rest ih => rw [run, ih, (updates_perform entry.1 c entry.2).settings]

theorem renderer_run (c : Catalog) (history : List (FileSystem × Operation)) :
    (run c history).renderer = c.renderer := by
  induction history generalizing c with
  | nil => rfl
  | cons entry rest ih => rw [run, ih, (updates_perform entry.1 c entry.2).renderer]

/-- A file that is held at the end was held at the start or has been read on the way. -/
theorem held_or_reads_of_run {history : List (FileSystem × Operation)} {fileAlias : Text}
    {f : SqlFile} (h : (run c history).files.get? fileAlias = some f) :
    c.files.get? fileAlias = some f ∨
      ∃ before fs op after, history = before ++ (fs, op) :: after ∧
        (run c (before ++ [(fs, op)])).files.get? fileAlias = some f ∧
        Reads c.settings fs fileAlias f := by
  induction history generalizing c with
  | nil => exact Or.inl h
  | cons entry rest ih =>
    obtain ⟨fs, op⟩ := entry
    have hstep := updates_perform fs c op
    rcases ih h with hheld | ⟨before, fs', op', after, rfl, hheld, hreads⟩
    · refine (hstep.files fileAlias f hheld).imp_right fun hreads => ?_
      exact ⟨[], fs, op, rest, rfl, hheld, hreads⟩
    · rw [hstep.settings] at hreads
      exact Or.inr ⟨(fs, op) :: before, fs', op', after, rfl, hheld, hreads⟩

/-! Reading a file. -/

theorem load_eq (fs : FileSystem) (fileAlias : Text) (path : Path) (terminator : Text) :
    SqlFile.load fs fileAlias path terminator =
      match fs.file? path with
      | none => .error (.noFile fileAlias path)
      | some ⟨none, _⟩ => .error (.unreadable path .notUtf8)
      | some ⟨some text, t⟩ =>
        (SqlFile.ofText fileAlias text terminator).map fun file =>
          { file with path, modified := some t } := by
  rw [SqlFile.load, FileSystem.read, FileSystem.file?]
  rcases fs.node? path with _ | ⟨_ | text, t⟩ | _
  · rfl
  · rfl
  · dsimp only [bind, Except.bind]
    cases SqlFile.ofText fileAlias text terminator <;> rfl
  · rfl

/-- A file that has been read has the fragments of the text that is there. -/
theorem exists_of_load {fileAlias : Text} {path : Path} {terminator : Text} {f : SqlFile}
    (h : SqlFile.load fs fileAlias path terminator = .ok f) :
    ∃ text t g, fs.file? path = some ⟨some text, t⟩ ∧
      SqlFile.ofText fileAlias text terminator = .ok g ∧
      f = { g with path, modified := some t } := by
  rw [load_eq] at h
  rcases hfile : fs.file? path with _ | ⟨_ | text, t⟩ <;> rw [hfile] at h
  · cases h
  · cases h
  · dsimp only at h
    cases hg : SqlFile.ofText fileAlias text terminator with
    | error e =>
      rw [hg] at h
      cases h
    | ok g =>
      rw [hg] at h
      exact ⟨text, t, g, rfl, hg, (Except.ok.inj h).symm⟩

/-- What is found of a file depends on its text alone. -/
theorem fragments_load_congr {fileAlias : Text} {path : Path} (terminator : Text)
    (h : (fs.file? path).map File.content = (fs'.file? path).map File.content) :
    (SqlFile.load fs fileAlias path terminator).map SqlFile.fragments =
      (SqlFile.load fs' fileAlias path terminator).map SqlFile.fragments := by
  rw [load_eq, load_eq]
  rcases hfs : fs.file? path with _ | ⟨_ | text, t⟩ <;>
    rcases hfs' : fs'.file? path with _ | ⟨_ | text', t'⟩ <;> simp [hfs, hfs'] at h
  · rfl
  · rfl
  · subst h
    dsimp only
    cases SqlFile.ofText fileAlias text terminator <;> rfl

/-- The time of a file is that of what is there under its path. -/
theorem modified?_of_file? {path : Path} {f : File} (h : fs.file? path = some f) :
    fs.modified? path = some f.modified := by
  rw [FileSystem.file?] at h
  rw [FileSystem.modified?]
  split at h
  · rename_i g hnode
    obtain rfl := Option.some.inj h
    rw [hnode]
    rfl
  · cases h

theorem Reads.spec {s : Settings} {fileAlias : Text} {f : SqlFile} (h : Reads s fs fileAlias f) :
    s.files.get? fileAlias = some f.path ∧ f.modified = fs.modified? f.path ∧
      (fs.file? f.path).isSome ∧
      (SqlFile.load fs fileAlias f.path s.terminator).map SqlFile.fragments = .ok f.fragments := by
  obtain ⟨path, hpath, hload⟩ := h
  have hfragments := congrArg (Except.map SqlFile.fragments) hload
  obtain ⟨text, t, g, hfile, -, rfl⟩ := exists_of_load hload
  exact ⟨hpath, (modified?_of_file? hfile).symm, Option.isSome_of_eq_some hfile, hfragments⟩

/-! What is answered. -/

/-- The fragment of a qualified name in the files as they are. -/
def find (s : Settings) (fs : FileSystem) (name : Text) : Except Error Fragment :=
  let name := plainName name
  match name.cut? '.' with
  | none => .error (.unknownFragment name)
  | some (fileAlias, own) =>
    match s.files.get? fileAlias with
    | none => .error (.unknownFragment name)
    | some path => do
      let fragments ← (SqlFile.load fs fileAlias path s.terminator).map SqlFile.fragments
      match fragments.get? own with
      | some f => .ok f
      | none => .error (.unknownFragment name)

/-- Whether the files that need not be read anew have the fragments that reading them would give. -/
def UpToDate (fs : FileSystem) (c : Catalog) : Prop :=
  ∀ fileAlias path f, c.settings.files.get? fileAlias = some path →
    c.current? fs fileAlias = some f →
    (SqlFile.load fs fileAlias path c.settings.terminator).map SqlFile.fragments = .ok f.fragments

theorem fragments_file {fileAlias : Text} {path : Path} (h : UpToDate fs c)
    (hpath : c.settings.files.get? fileAlias = some path) :
    (c.file fs fileAlias path).1.map SqlFile.fragments =
      (SqlFile.load fs fileAlias path c.settings.terminator).map SqlFile.fragments := by
  rw [file]
  split
  · rename_i f hf
    exact (h fileAlias path f hpath hf).symm
  · split <;> rename_i hload <;> rw [hload]

theorem get_eq_find (h : UpToDate fs c) (name : Text) :
    (c.get fs name).1 = find c.settings fs name := by
  unfold get find
  dsimp only
  rcases (plainName name).cut? '.' with _ | ⟨fileAlias, own⟩
  · rfl
  dsimp only
  cases hpath : c.settings.files.get? fileAlias with
  | none => rfl
  | some path =>
    dsimp only
    rw [← fragments_file h hpath]
    rcases c.file fs fileAlias path with ⟨e | file, c'⟩
    · rfl
    · dsimp only [Except.map, bind, Except.bind]
      cases file.fragments.get? own <;> rfl

theorem use_eq {α : Type} (fs : FileSystem) (c : Catalog) (name : Text)
    (f : Renderer → Fragment → Except Error α) :
    (c.use fs name f).1 = (c.get fs name).1.bind (f c.renderer) := by
  have hrenderer := (updates_get fs c name).renderer
  rw [use]
  split <;> rename_i hc'
  · rw [hc'] at hrenderer
    rw [hc', Except.bind, ← hrenderer]
  · rw [hc', Except.bind]

theorem contains_eq (fs : FileSystem) (c : Catalog) (name : Text) :
    (c.contains fs name).1 = (c.get fs name).1.isOk := by
  rw [contains]
  split <;> rename_i hc' <;> rw [hc'] <;> rfl

/-- What is answered about a fragment depends on the fragment that is found, and the renderer. -/
theorem perform_congr {op : Operation} (hop : op.asksFragment) (hrenderer : c.renderer = c'.renderer)
    (hget : ∀ name, (c.get fs name).1 = (c'.get fs name).1) :
    (perform fs c op).1 = (perform fs c' op).1 := by
  cases op with
  | init | reload | names | size => cases hop
  | get name => simp only [perform, Prod.map, hget]
  | contains name => simp only [perform, Prod.map, contains_eq, hget]
  | getSql name => simp only [perform, Prod.map, getSql, use_eq, hget]
  | render name args => simp only [perform, Prod.map, render, use_eq, hget, hrenderer]
  | prepare name args => simp only [perform, Prod.map, prepare, use_eq, hget, hrenderer]
  | inline name args => simp only [perform, Prod.map, inline, use_eq, hget, hrenderer]

/-! When a catalog is up to date. -/

/-- Whether a configured path that leads to a file leads to the same one at all moments that show
the same time of the last change of what is there. -/
def Dated (s : Settings) (moments : List FileSystem) : Prop :=
  ∀ fs ∈ moments, ∀ fs' ∈ moments, ∀ e ∈ s.files.entries,
    (fs.file? e.2).isSome → fs.modified? e.2 = fs'.modified? e.2 → fs.file? e.2 = fs'.file? e.2

instance (s : Settings) (moments : List FileSystem) : Decidable (Dated s moments) :=
  inferInstanceAs (Decidable (∀ fs ∈ moments, ∀ fs' ∈ moments, ∀ e ∈ s.files.entries, _))

/-- Whether the text of a file stays what it is from the moment on at which the catalog holds it. -/
def Untouched (c : Catalog) (history : List (FileSystem × Operation)) (last : FileSystem) : Prop :=
  ∀ before fs op after, history = before ++ (fs, op) :: after →
    ∀ e ∈ c.settings.files.entries, (run c (before ++ [(fs, op)])).files.contains e.1 →
      ∀ fs' ∈ after.map Prod.fst ++ [last],
        (fs'.file? e.2).map File.content = (fs.file? e.2).map File.content

theorem upToDate_run {history : List (FileSystem × Operation)} (hfiles : c.files = ∅)
    (hdated : c.settings.checkModified = true → Dated c.settings (history.map Prod.fst ++ [fs]))
    (huntouched : c.settings.checkModified = false → Untouched c history fs) :
    UpToDate fs (run c history) := by
  intro fileAlias path f hpath hf
  rw [settings_run] at hpath ⊢
  obtain ⟨hget, hcurrent⟩ := Option.filter_eq_some_iff.1 hf
  -- a file that is held has been read at some moment, and its text is the same as it was then
  rcases held_or_reads_of_run hget with hheld | ⟨before, fs₁, op, after, hhistory, hheld, hreads⟩
  · rw [hfiles] at hheld
    cases hheld
  obtain ⟨hpath', hmodified, hsome, hfragments⟩ := hreads.spec
  obtain rfl := Option.some.inj (hpath'.symm.trans hpath)
  have hentry : (fileAlias, f.path) ∈ c.settings.files.entries := Dict.mem_of_get? hpath
  have hcontent : (fs.file? f.path).map File.content = (fs₁.file? f.path).map File.content := by
    cases hcheck : c.settings.checkModified with
    | true =>
      have hnow : fs.modified? f.path = f.modified := by
        simpa [settings_run, hcheck, SqlFile.isStale] using hcurrent
      rw [hdated hcheck fs₁ (by simp [hhistory]) fs (by simp) _ hentry hsome
        (hmodified.symm.trans hnow.symm)]
    | false =>
      have hcontains : (run c (before ++ [(fs₁, op)])).files.contains fileAlias :=
        Option.isSome_iff_exists.2 ⟨f, hheld⟩
      exact huntouched hcheck before fs₁ op after hhistory _ hentry hcontains fs (by simp)
  rw [fragments_load_congr _ hcontent, hfragments]

theorem upToDate_of_files (fs : FileSystem) (h : c.files = ∅) : UpToDate fs c := by
  intro fileAlias path f _ hf
  rw [current?, h] at hf
  cases hf

theorem withPipes_spec (c : Catalog) (pipes : List (Text × Pipe)) :
    (pipes.foldl (fun c p => c.withPipe p.1 p.2) c).settings = c.settings ∧
      (pipes.foldl (fun c p => c.withPipe p.1 p.2) c).files = c.files := by
  induction pipes generalizing c with
  | nil => exact ⟨rfl, rfl⟩
  | cons p rest ih => exact ih (c.withPipe p.1 p.2)

theorem fresh_spec {settings : Settings} {pipes : List (Text × Pipe)}
    (h : fresh settings pipes = .ok c) : c.settings = settings ∧ c.files = ∅ := by
  obtain ⟨c', hmake, h⟩ := exists_of_bind_eq_ok h
  obtain rfl := Except.ok.inj h
  obtain ⟨_, _, hmake⟩ := exists_of_bind_eq_ok hmake
  obtain ⟨renderer, _, hmake⟩ := exists_of_bind_eq_ok hmake
  obtain rfl := Except.ok.inj hmake
  exact withPipes_spec _ pipes

/-- A catalog answers whoever asks for a fragment as one that has read nothing yet, whatever it has
been asked before and whatever has become of the files since. -/
theorem perform_run {settings : Settings} {pipes : List (Text × Pipe)} {c : Catalog}
    {history : List (FileSystem × Operation)} {fs : FileSystem} {op : Operation}
    (hfresh : fresh settings pipes = .ok c) (hop : op.asksFragment)
    (hdated : settings.checkModified = true → Dated settings (history.map Prod.fst ++ [fs]))
    (huntouched : settings.checkModified = false → Untouched c history fs) :
    (perform fs (run c history) op).1 = (perform fs c op).1 := by
  obtain ⟨hsettings, hfiles⟩ := fresh_spec hfresh
  rw [← hsettings] at hdated huntouched
  refine perform_congr hop (renderer_run c history) fun name => ?_
  rw [get_eq_find (upToDate_run hfiles hdated huntouched), get_eq_find (upToDate_of_files fs hfiles),
    settings_run]

/-- Settings with one file, by a path from the root, which is read again when it has changed. -/
def oneFile : Settings :=
  { Settings.default with
    files := Dict.ofList [("u".toList, "/srv/users.sql".toList)], checkModified := true }

def oneFileAt (text : String) (modified : Int) : FileSystem :=
  FileSystem.empty.write "/srv/users.sql".toList ⟨some text.toList, modified⟩

/-- The file is read, gone when all files are brought up to date, and back with another text. -/
theorem perform_run_restored :
    ∃ c, fresh oneFile [] = .ok c ∧
      (perform (oneFileAt "/*[a]*/\nselect 2;" 3)
        (run c [(oneFileAt "/*[a]*/\nselect 1;" 1, .init), (.empty, .reload)])
        (.getSql "u.a".toList)).1 =
      (perform (oneFileAt "/*[a]*/\nselect 2;" 3) c (.getSql "u.a".toList)).1 :=
  ⟨⟨oneFile, ⟨':', ∅, true, Pipes.builtin⟩, ∅⟩, rfl,
    perform_run (show fresh oneFile [] = .ok _ from rfl) rfl (fun _ => by decide)
      (by simp [oneFile])⟩

end SqlTemplate.Catalog
