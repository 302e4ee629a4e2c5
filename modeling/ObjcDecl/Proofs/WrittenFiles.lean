import Mathlib.Data.List.Basic
import Mathlib.Data.List.Forall2
import Mathlib.Logic.Function.Basic
import ObjcDecl.Command.Run
import ObjcDecl.Proofs.OutputPaths

/-!
# Written files

The command that generates files renders both files of a unit before it
writes the first, and writes a file only if it does not have its content
already. So a unit that cannot be rendered leaves all files as they are; a
run that comes to its end leaves the two files with their contents and all
others untouched, and reports a file as changed exactly if it held something
else before; and a second run finds nothing to do (`generatesAtomically`).

Files are a map from paths to bytes here, and whatever is asked of the map
can be done: directories can be made, and files read and written. A file
whose bytes are no text cannot be read as one, but it can be replaced.
-/

namespace ObjcDecl

/-- Files by their paths, each with its bytes. -/
abbrev FileMap := String → Option ByteArray

namespace FileMap

/-- The text of the file at a path, if there is one and its bytes are
text. -/
def readText (m : FileMap) (path : String) : Option String := (m path).bind String.fromUTF8?

/-- The files with a text at a path. -/
def write (m : FileMap) (path text : String) : FileMap :=
  Function.update m path (some text.toByteArray)

/-- Access to a map that is passed along. -/
def access : FileAccess (StateM FileMap) where
  pathExists path := do pure ((← get) path).isSome
  readText path := do pure ((← get).readText path)
  makeDirectories _ := pure true
  writeText path text := do
    modify (·.write path text)
    pure true

/-- Whether the file at a path has the bytes of a text. -/
def Holds (m : FileMap) (path text : String) : Prop := m path = some text.toByteArray

/-- Why the file at a path has to be written to have a text. -/
inductive Outdated (m : FileMap) (path text : String) : Prop
  | absent (missing : m path = none)
  | unreadable {bytes : ByteArray} (there : m path = some bytes)
      (noText : String.fromUTF8? bytes = none)
  | different {bytes : ByteArray} {other : String} (there : m path = some bytes)
      (read : String.fromUTF8? bytes = some other) (differs : other ≠ text)

variable {m : FileMap} {path text : String}

/-- A text is read from its own bytes only. -/
theorem fromUTF8?_eq_some_iff {bytes : ByteArray} :
    String.fromUTF8? bytes = some text ↔ bytes = text.toByteArray := by
  unfold String.fromUTF8?
  constructor
  · intro h
    split at h
    · exact congrArg String.toByteArray (Option.some.inj h)
    · cases h
  · rintro rfl
    rw [dif_pos text.isValidUTF8]
    rfl

theorem readText_eq_some_iff : m.readText path = some text ↔ m.Holds path text := by
  rw [readText, Option.bind_eq_some_iff, Holds]
  constructor
  · rintro ⟨bytes, there, read⟩
    rw [there, fromUTF8?_eq_some_iff.mp read]
  · intro there
    exact ⟨_, there, fromUTF8?_eq_some_iff.mpr rfl⟩

/-- A file is outdated if a text is not what it holds. -/
theorem outdated_iff : m.Outdated path text ↔ ¬ m.Holds path text := by
  rw [← readText_eq_some_iff]
  constructor
  · rintro (missing | ⟨there, noText⟩ | ⟨there, read, differs⟩)
    · simp [readText, missing]
    · simp [readText, there, noText]
    · simpa [readText, there, read] using differs
  · intro other
    cases there : m path with
    | none => exact .absent there
    | some bytes =>
      cases read : String.fromUTF8? bytes with
      | none => exact .unreadable there read
      | some found =>
        refine .different there read fun same => other ?_
        rw [readText, there, Option.bind_some, read, same]

theorem holds_write (m : FileMap) (path text : String) : (m.write path text).Holds path text :=
  Function.update_self ..

theorem write_of_ne {other : String} (h : other ≠ path) : m.write path text other = m other :=
  Function.update_of_ne h ..

/-- Nothing is written by writing what is there. -/
theorem write_of_holds (h : m.Holds path text) : m.write path text = m := by
  rw [write, ← h, Function.update_eq_self]

/-! ## One file -/

/-- After a file has been looked at it has its content, and it is reported
as changed if its text was another. -/
theorem run_writeIfChanged (m : FileMap) (path directory text : String) :
    (access.writeIfChanged path directory text).run m =
      (some (m.readText path != some text), m.write path text) := by
  by_cases same : m.readText path = some text
  · have kept : m.write path text = m := write_of_holds (readText_eq_some_iff.mp same)
    have run : (access.writeIfChanged path directory text).run m = (some false, m) := by
      show StateT.run (if m.readText path == some text then _ else _) m = _
      rw [if_pos (by simpa using same)]
      rfl
    rw [run, kept, same, bne_self_eq_false]
  · have run : (access.writeIfChanged path directory text).run m =
        (some true, m.write path text) := by
      show StateT.run (if m.readText path == some text then _ else _) m = _
      rw [if_neg (by simpa using same)]
      rfl
    rw [run, bne_iff_ne.mpr same]

/-! ## Files in a row -/

/-- The path of a file in a directory. -/
def pathIn (directory : String) (f : GeneratedFile) : String := Path.join directory f.path

/-- The map after files have been written into a directory. -/
def writeAll (m : FileMap) (directory : String) (files : List GeneratedFile) : FileMap :=
  files.foldl (fun m f => m.write (pathIn directory f) f.content) m

/-- The files with what is reported of them: whether each had another text
before. -/
def changes (m : FileMap) (directory : String) (files : List GeneratedFile) :
    List Report.Written :=
  files.map fun f => (f, m.readText (pathIn directory f) != some f.content)

variable {directory : String} {files : List GeneratedFile}

theorem writeAll_of_forall_ne (h : ∀ f ∈ files, path ≠ pathIn directory f) :
    m.writeAll directory files path = m path := by
  induction files generalizing m with
  | nil => rfl
  | cons f fs ih =>
    rw [writeAll, List.foldl_cons, ← writeAll, ih fun g hg => h g (List.mem_cons_of_mem _ hg)]
    exact write_of_ne (h f List.mem_cons_self)

theorem holds_writeAll (distinct : (files.map (pathIn directory)).Nodup) :
    ∀ f ∈ files, (m.writeAll directory files).Holds (pathIn directory f) f.content := by
  induction files generalizing m with
  | nil => simp
  | cons f fs ih =>
    obtain ⟨fresh, distinct⟩ := List.nodup_cons.mp distinct
    rw [writeAll, List.foldl_cons, ← writeAll]
    intro g hg
    rcases List.mem_cons.mp hg with rfl | hg
    · -- the files after it leave it as it was written
      have other : ∀ h ∈ fs, pathIn directory g ≠ pathIn directory h :=
        fun h hh same => fresh (same ▸ List.mem_map_of_mem hh)
      rw [Holds, writeAll_of_forall_ne other]
      exact holds_write ..
    · exact ih distinct g hg

/-- Files that have their contents are written without a change. -/
theorem writeAll_of_holds (h : ∀ f ∈ files, m.Holds (pathIn directory f) f.content) :
    m.writeAll directory files = m := by
  induction files with
  | nil => rfl
  | cons f fs ih =>
    rw [writeAll, List.foldl_cons, write_of_holds (h f List.mem_cons_self), ← writeAll]
    exact ih fun g hg => h g (List.mem_cons_of_mem _ hg)

theorem changes_of_holds (h : ∀ f ∈ files, m.Holds (pathIn directory f) f.content) :
    m.changes directory files = files.map fun f => (f, false) := by
  refine List.map_congr_left fun f hf => ?_
  rw [readText_eq_some_iff.mpr (h f hf), bne_self_eq_false]

/-- A file under another path changes nothing of what is reported. -/
theorem changes_write (fresh : path ∉ files.map (pathIn directory)) :
    (m.write path text).changes directory files = m.changes directory files := by
  refine List.map_congr_left fun f hf => ?_
  have other : pathIn directory f ≠ path := fun same => fresh (same ▸ List.mem_map_of_mem hf)
  rw [readText, write_of_ne other, readText]

/-- Files under different paths are all written, and each is reported by
what the map held before. -/
theorem run_writeFiles (distinct : (files.map (pathIn directory)).Nodup) (m : FileMap) :
    (Command.writeFiles access directory files).run m =
      (some (m.changes directory files), m.writeAll directory files) := by
  induction files generalizing m with
  | nil => rfl
  | cons f fs ih =>
    obtain ⟨fresh, distinct⟩ := List.nodup_cons.mp distinct
    have first := run_writeIfChanged m (pathIn directory f) (Path.parent (pathIn directory f))
      f.content
    have others := ih distinct (m.write (pathIn directory f) f.content)
    rw [changes_write fresh] at others
    rw [pathIn] at first others
    rw [Command.writeFiles, StateT.run_bind, first]
    show StateT.run (Command.writeFiles access directory fs >>= _) _ = _
    rw [StateT.run_bind, others]
    rfl

end FileMap

/-! ## A run -/

/-- A file lies where its directory and its name say, in this order. -/
theorem Path.exists_append_join (directory file : String) :
    ∃ before, Path.join directory file = before ++ file := by
  unfold Path.join
  split
  · exact ⟨"", by simp⟩
  · split
    · exact ⟨directory, rfl⟩
    · exact ⟨directory ++ "/", rfl⟩

/-- Names that end differently give different paths. -/
theorem Path.join_ne {directory file file' : String}
    (h : file.toList.getLast? ≠ file'.toList.getLast?) (named : file ≠ "")
    (named' : file' ≠ "") :
    Path.join directory file ≠ Path.join directory file' := by
  intro same
  obtain ⟨before, hbefore⟩ := Path.exists_append_join directory file
  obtain ⟨before', hbefore'⟩ := Path.exists_append_join directory file'
  rw [hbefore, hbefore'] at same
  have last := congrArg (fun s : String => s.toList.getLast?) same
  simp only [String.toList_append,
    List.getLast?_append_of_ne_nil _ (mt String.toList_eq_nil_iff.mp named),
    List.getLast?_append_of_ne_nil _ (mt String.toList_eq_nil_iff.mp named')] at last
  exact h last

namespace SourceUnit

variable {u : SourceUnit} {o : Options}

/-- A unit with types has no files if one of them cannot be rendered. -/
theorem files_of_fault {name : String} (named : u.fileName = some name)
    (h : (∃ f, u.header o = .error f) ∨ ∃ f, u.implementation o = .error f) :
    ∃ f, u.files o = .error f := by
  cases rendered : u.files o with
  | error f => exact ⟨f, rfl⟩
  | ok files =>
    obtain ⟨header, implementation, hh, hi, -⟩ := (files_eq_ok_iff named).mp rendered
    rcases h with ⟨f, h⟩ | ⟨f, h⟩
    · rw [hh] at h
      cases h
    · rw [hi] at h
      cases h

theorem exists_fileName (h : u.types ≠ []) : ∃ name, u.fileName = some name := by
  obtain ⟨d, ds, types⟩ := List.exists_cons_of_ne_nil h
  exact ⟨_, by rw [fileName, types]; rfl⟩

end SourceUnit

namespace Command

open FileMap

/-- A run that generates the files of a unit in a directory, on a map of
files. -/
def runOn (m : FileMap) (directory : String) (dryRun : Bool) (u : SourceUnit) (o : Options) :
    Outcome × FileMap :=
  (generateFiles access directory dryRun u o).run m

/-- The text of a report with a line for each written file, after the source,
the types and the directory. -/
def reportText (u : SourceUnit) (directory : String) (fileLines : List String) : String :=
  String.join ((["Source: " ++ u.sourcePath, "Types (" ++ toString u.types.length ++ "):"] ++
    u.types.map (fun d => "  - " ++ d.type.name) ++
    ["", "Generated: " ++ directory] ++ fileLines).map (· ++ "\n"))

/-- The line for a written file: it has a `+` if the file was outdated, and
a `=` if it held its content already. -/
inductive FileLine (m : FileMap) (directory : String) (f : GeneratedFile) : String → Prop
  | changed (outdated : m.Outdated (Path.join directory f.path) f.content) :
      FileLine m directory f ("  + " ++ f.path)
  | unchanged (kept : m.Holds (Path.join directory f.path) f.content) :
      FileLine m directory f ("  = " ++ f.path)

/-- A run from `m` to `m'` writes the files of a unit into a directory. -/
structure Writes (u : SourceUnit) (o : Options) (directory : String) (files : List GeneratedFile)
    (m m' : FileMap) : Prop where
  /-- Every file is reported, as changed if it was outdated. -/
  reported : ∃ lines, List.Forall₂ (FileLine m directory) files lines ∧
    runOn m directory false u o = (⟨0, reportText u directory lines⟩, m')
  holds : ∀ f ∈ files, m'.Holds (Path.join directory f.path) f.content
  others : ∀ path, (∀ f ∈ files, path ≠ Path.join directory f.path) → m' path = m path
  /-- A run right after it finds every file as it should be. -/
  again : runOn m' directory false u o =
    (⟨0, reportText u directory (files.map fun f => "  = " ++ f.path)⟩, m')

/-- The ways in which a run can end. -/
structure Atomic (u : SourceUnit) (o : Options) (directory : String) : Prop where
  stopped : u.types ≠ [] →
    (∃ f, u.header o = .error f) ∨ (∃ f, u.implementation o = .error f) →
      ∀ m dryRun, runOn m directory dryRun u o = (⟨101, ""⟩, m)
  written : u.types ≠ [] → ∀ header implementation, u.header o = .ok header →
    u.implementation o = .ok implementation →
      ∃ name, u.fileName = some name ∧
        u.files o = .ok [⟨name ++ ".h", header⟩, ⟨name ++ ".m", implementation⟩] ∧
        ∀ m, ∃ m', Writes u o directory
          [⟨name ++ ".h", header⟩, ⟨name ++ ".m", implementation⟩] m m'
  noTypes : u.types = [] → ∀ m dryRun, (runOn m directory dryRun u o).2 = m
  dryRun : ∀ m, (runOn m directory true u o).2 = m

variable {u : SourceUnit} {o : Options} {directory : String} {files : List GeneratedFile}

/-- What is reported of a file follows what the map held before. -/
theorem fileLine_writtenLine (m : FileMap) (directory : String) (f : GeneratedFile) :
    FileLine m directory f
      (Report.writtenLine (f, m.readText (pathIn directory f) != some f.content)) := by
  by_cases kept : m.readText (pathIn directory f) = some f.content
  · have flag : (m.readText (pathIn directory f) != some f.content) = false := by simp [kept]
    rw [flag]
    exact .unchanged (readText_eq_some_iff.mp kept)
  · have flag : (m.readText (pathIn directory f) != some f.content) = true := by simp [kept]
    rw [flag]
    exact .changed (outdated_iff.mpr (mt readText_eq_some_iff.mpr kept))

/-- A file is outdated or it holds its content, and never both. -/
theorem FileLine.eq_of_holds {m : FileMap} {f : GeneratedFile} {line : String}
    (h : FileLine m directory f line)
    (kept : m.Holds (Path.join directory f.path) f.content) : line = "  = " ++ f.path := by
  cases h with
  | changed outdated => exact absurd kept (outdated_iff.mp outdated)
  | unchanged => rfl

theorem FileLine.eq_of_outdated {m : FileMap} {f : GeneratedFile} {line : String}
    (h : FileLine m directory f line)
    (outdated : m.Outdated (Path.join directory f.path) f.content) : line = "  + " ++ f.path := by
  cases h with
  | changed => rfl
  | unchanged kept => exact absurd kept (outdated_iff.mp outdated)

/-- Files under different paths are written in one run. -/
theorem writes_of_files (rendered : u.files o = .ok files)
    (distinct : (files.map (pathIn directory)).Nodup) (m : FileMap) :
    Writes u o directory files m (m.writeAll directory files) := by
  have run (m : FileMap) : runOn m directory false u o =
      (⟨0, reportText u directory ((m.changes directory files).map Report.writtenLine)⟩,
        m.writeAll directory files) := by
    rw [runOn, generateFiles, rendered]
    show StateT.run (writeFiles access directory files >>= _) m = _
    rw [StateT.run_bind, run_writeFiles distinct]
    rfl
  have holds := holds_writeAll (m := m) distinct
  refine ⟨⟨_, ?_, run m⟩, holds, fun _ => writeAll_of_forall_ne, ?_⟩
  · rw [changes, List.map_map, List.forall₂_map_right_iff]
    exact List.forall₂_same.mpr fun f _ => fileLine_writtenLine m directory f
  · rw [run, changes_of_holds holds, writeAll_of_holds holds, List.map_map]
    rfl

/-- A run that writes nothing leaves the files as they are. -/
theorem runOn_dryRun (m : FileMap) : (runOn m directory true u o).2 = m := by
  rw [runOn, generateFiles]
  cases u.files o <;> rfl

/-- A run of `generate` on a unit with types writes both files or, if one of
them cannot be rendered, nothing; it reports what it has changed, and has
nothing to change when it is repeated. Without types, and when asked only
for a preview, it writes nothing. -/
theorem generatesAtomically (u : SourceUnit) (o : Options) (directory : String) :
    Atomic u o directory where
  stopped := by
    intro types fault m dryRun
    obtain ⟨name, named⟩ := SourceUnit.exists_fileName types
    obtain ⟨f, failed⟩ := SourceUnit.files_of_fault named fault
    rw [runOn, generateFiles, failed]
    rfl
  written := by
    intro types header implementation h i
    obtain ⟨name, named⟩ := SourceUnit.exists_fileName types
    have rendered := (SourceUnit.files_eq_ok_iff named).mpr ⟨_, _, h, i, rfl⟩
    refine ⟨name, named, rendered, fun m => ⟨_, writes_of_files rendered ?_ m⟩⟩
    -- `h` and `m` tell the two paths apart
    have differ : Path.join directory (name ++ ".h") ≠ Path.join directory (name ++ ".m") :=
      Path.join_ne (by simp) (by simp) (by simp)
    simpa [pathIn] using differ
  noTypes := by
    intro types m dryRun
    have noName : u.fileName = none := by
      rw [SourceUnit.fileName, types]
      rfl
    rw [runOn, generateFiles, SourceUnit.files_of_no_name noName]
    cases dryRun <;> rfl
  dryRun := runOn_dryRun

/-- A unit with one class. -/
def lampUnit : SourceUnit := { sourcePath := "src/Lamp.java", types := [.ofClass "Lamp"] }

/-- The files before a run: the header has a text, and the implementation
has a byte that is in no text. -/
def lampFiles (header : String) : FileMap := fun path =>
  if path = "out/Lamp.h" then some header.toByteArray
  else if path = "out/Lamp.m" then some ⟨#[0xff]⟩
  else none

/-- Where the header is up to date, a run writes the implementation alone
and says so; a second run finds both files up to date. -/
theorem generatesAtomically_lamp :
    ∃ header implementation m', lampUnit.header {} = .ok header ∧
      lampUnit.implementation {} = .ok implementation ∧
      runOn (lampFiles header) "out" false lampUnit {} =
        (⟨0, "Source: src/Lamp.java\nTypes (1):\n  - Lamp\n\nGenerated: out\n" ++
          "  = Lamp.h\n  + Lamp.m\n"⟩, m') ∧
      m'.Holds "out/Lamp.h" header ∧ m'.Holds "out/Lamp.m" implementation ∧
      runOn m' "out" false lampUnit {} =
        (⟨0, "Source: src/Lamp.java\nTypes (1):\n  - Lamp\n\nGenerated: out\n" ++
          "  = Lamp.h\n  = Lamp.m\n"⟩, m') := by
  have types : lampUnit.types ≠ [] := by decide
  have headerPath : Path.join "out" ("Lamp" ++ ".h") = "out/Lamp.h" := by decide
  have implementationPath : Path.join "out" ("Lamp" ++ ".m") = "out/Lamp.m" := by decide
  obtain ⟨header, hheader⟩ : ∃ t, lampUnit.header {} = .ok t := ⟨_, rfl⟩
  obtain ⟨implementation, himplementation⟩ : ∃ t, lampUnit.implementation {} = .ok t := ⟨_, rfl⟩
  obtain ⟨name, named, -, run⟩ := (generatesAtomically lampUnit {} "out").written types header
    implementation hheader himplementation
  obtain rfl : "Lamp" = name := Option.some.inj named
  obtain ⟨m', written⟩ := run (lampFiles header)
  obtain ⟨lines, each, first⟩ := written.reported
  have second := written.again
  obtain ⟨headerHeld, others⟩ := List.forall_mem_cons.mp written.holds
  have implementationHeld := others _ List.mem_cons_self
  rw [headerPath] at headerHeld
  rw [implementationPath] at implementationHeld
  refine ⟨header, implementation, m', hheader, himplementation, ?_, headerHeld,
    implementationHeld, second⟩
  cases each with
  | cons headerLine rest =>
    cases rest with
    | cons implementationLine rest =>
      cases rest
      have kept : (lampFiles header).Holds (Path.join "out" ("Lamp" ++ ".h")) header := by
        rw [headerPath]
        rfl
      have outdated : (lampFiles header).Outdated (Path.join "out" ("Lamp" ++ ".m"))
          implementation := by
        rw [implementationPath]
        exact .unreadable rfl (by decide : String.fromUTF8? ⟨#[0xff]⟩ = none)
      rw [headerLine.eq_of_holds kept, implementationLine.eq_of_outdated outdated] at first
      exact first

end Command

end ObjcDecl
