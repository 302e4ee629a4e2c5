import ObjcDecl.Files.Tree
import ObjcDecl.GeneratedFiles
import ObjcDecl.Proofs.Emission
import ObjcDecl.Proofs.JsonText
import ObjcDecl.Proofs.Selectors
import ObjcDecl.Tree.Read
import ObjcDecl.Tree.Write

/-!
# Paths of generated files

A path that is a single name leads from any directory to one of its
children. The path of a generated file is put together from the package of
the first type and the name of the source file. The second is cut at `/`,
the first is not, so the files of a unit lie directly in the directory that
they are written into exactly if that package has no `/` in it
(`placedInside_iff`). A package that starts with `/` makes the path absolute,
and the directory has no say any more.
-/

namespace ObjcDecl

open Text Emission Json

/-! ## Single names -/

namespace Path

/-- A path that is a single name, and not a way to stay or to go up. -/
structure Single (path : String) : Prop where
  nonempty : path ≠ ""
  notHere : path ≠ "."
  notUp : path ≠ ".."
  noSlash : '/' ∉ path.toList

theorem names_append (directory file : String) :
    names (directory ++ "/" ++ file) = names directory ++ names file := by
  simp [names, splitOn_append]

theorem Single.names {file : String} (h : Single file) : names file = [file] := by
  rw [Path.names, splitOn_of_not_mem h.noSlash, List.map_singleton, String.ofList_toList]

theorem Single.not_isAbsolute {file : String} (h : Single file) : isAbsolute file = false := by
  rw [isAbsolute, beq_eq_false_iff_ne]
  intro first
  obtain ⟨cs, chars⟩ := List.head?_eq_some_iff.mp first
  exact h.noSlash (chars ▸ List.mem_cons_self)

/-- A path that is part of a valid one is valid. -/
theorem isValid_of_append {directory rest : String} (h : isValid (directory ++ rest) = true) :
    isValid directory = true := by
  simp only [isValid, String.utf8ByteSize_append, Bool.and_eq_true, decide_eq_true_eq,
    Bool.not_eq_true', String.toList_append, List.contains_append, Bool.or_eq_false_iff] at h ⊢
  exact ⟨by omega, h.2.1⟩

/-- A single name comes after the directory and one slash, which the
directory may end in itself. -/
theorem exists_join {directory file : String} (named : directory ≠ "") (h : Single file) :
    ∃ base, join directory file = base ++ "/" ++ file ∧
      (directory = base ++ "/" ∨ directory = base) := by
  have relative : ¬ (isAbsolute file || directory.isEmpty) = true := by
    simp [h.not_isAbsolute, named]
  rw [join, if_neg relative]
  split
  · next last =>
    obtain ⟨cs, chars⟩ := List.getLast?_eq_some_iff.mp (by simpa using last)
    have ends : directory = String.ofList cs ++ "/" := String.toList_injective (by simp [chars])
    exact ⟨String.ofList cs, by rw [← ends], .inl ends⟩
  · exact ⟨directory, rfl, .inr rfl⟩

end Path

/-! ## Places -/

namespace FileTree

open ObjcDecl.Path

variable {t : FileTree} {directory file path : String} {place : List String}

theorem follow_append (t : FileTree) (place ns ms : List String) :
    t.follow place (ns ++ ms) = (t.follow place ns).bind fun p => t.follow p ms := by
  induction ns generalizing place with
  | nil => rfl
  | cons n ns ih =>
    rw [List.cons_append, follow, follow]
    split
    · cases step place n with
      | none => rfl
      | some next => exact ih next
    · rfl

theorem place_eq_some_iff : t.place path = some place ↔
    (path ≠ "" ∧ isValid path = true) ∧ t.follow (t.start path) (names path) = some place := by
  rw [FileTree.place]
  split
  · next h =>
    constructor
    · nofun
    · rintro ⟨⟨named, valid⟩, -⟩
      simp [named, valid] at h
  · next h =>
    have usable : path ≠ "" ∧ isValid path = true := by simpa using h
    exact ⟨fun follows => ⟨usable, follows⟩, fun h => h.2⟩

/-- A path starts where its first character says. -/
theorem start_append (named : directory ≠ "") (rest : String) :
    t.start (directory ++ rest) = t.start directory := by
  have nonempty : directory.toList ≠ [] := mt String.toList_eq_nil_iff.mp named
  obtain ⟨c, cs, chars⟩ := List.exists_cons_of_ne_nil nonempty
  simp [start, isAbsolute, chars]

/-- A single name leads from a directory to its child of that name. -/
theorem follow_single (h : Single file) {above : List String}
    (hp : t.follow above [file] = some place) :
    t.isDirectory above = true ∧ place = above ++ [file] := by
  simp only [follow, step, h.nonempty, h.notHere, or_self, h.notUp, if_false] at hp
  split at hp
  · next directory =>
    split at hp
    · next next hnext =>
      split at hnext
      · exact ⟨directory, by rw [← Option.some.inj hp, ← Option.some.inj hnext]⟩
      · cases hnext
    · cases hp
  · cases hp

/-- A file with a single name is a child of the directory it is named
relative to. -/
theorem place_join (named : directory ≠ "") (h : Single file)
    (hp : t.place (join directory file) = some place) :
    ∃ above, t.place directory = some above ∧ t.isDirectory above = true ∧
      place = above ++ [file] := by
  obtain ⟨⟨-, valid⟩, follows⟩ := place_eq_some_iff.mp hp
  obtain ⟨base, whole, ends⟩ := exists_join named h
  obtain ⟨rest, begins⟩ : ∃ rest, join directory file = directory ++ rest := by
    rcases ends with rfl | rfl
    · exact ⟨file, whole⟩
    · exact ⟨"/" ++ file, by rw [whole, String.append_assoc]⟩
  have start : t.start (join directory file) = t.start directory := begins ▸ start_append named rest
  rw [start, whole, names_append, h.names, follow_append] at follows
  obtain ⟨above, before, last⟩ := Option.bind_eq_some_iff.mp follows
  obtain ⟨isDirectory, rfl⟩ := follow_single h last
  have reached : t.follow (t.start directory) (names directory) = some above := by
    rcases ends with slash | rfl
    · -- the empty name after the slash leads nowhere else
      have names : names directory = names base ++ [""] := by
        rw [slash, ← String.append_empty (s := base ++ "/"), names_append]
        rfl
      rw [names, follow_append, before, Option.bind_some]
      simp [follow, isDirectory, step]
    · exact before
  have valid : isValid directory = true := isValid_of_append (begins ▸ valid)
  exact ⟨above, place_eq_some_iff.mpr ⟨⟨named, valid⟩, reached⟩, isDirectory, rfl⟩

end FileTree

/-! ## Slashes in the name of the files -/

theorem uppercase_slash : Unicode.uppercase '/' = ['/'] := by decide

theorem slash_mem_capitalize {cs : List Char} (h : '/' ∈ cs) : '/' ∈ Unicode.capitalize cs := by
  cases cs with
  | nil => exact h
  | cons c cs =>
    rcases List.mem_cons.mp h with rfl | h
    · rw [Unicode.capitalize, uppercase_slash]
      exact List.mem_cons_self
    · exact List.mem_append_right _ h

/-- The parts of a package keep their slashes, and get none. -/
theorem slash_mem_packagePrefix_iff {package : String} :
    '/' ∈ (packagePrefix package).toList ↔ '/' ∈ package.toList := by
  constructor
  · intro h
    by_cases free : '/' ∈ package.toList
    · exact free
    · exact absurd h (not_mem_packagePrefix (by decide) (by decide) free)
  · intro h
    rw [← joinWith_splitOn '.' package.toList] at h
    rw [packagePrefix, String.toList_ofList, List.mem_flatMap]
    rcases mem_joinWith h with dot | ⟨piece, hpiece, h⟩
    · exact absurd dot (by decide)
    · exact ⟨piece, hpiece, slash_mem_capitalize h⟩

/-- A package that starts with a slash still does so as a prefix. -/
theorem isAbsolute_packagePrefix {package : String} (h : Path.isAbsolute package = true) :
    Path.isAbsolute (packagePrefix package) = true := by
  obtain ⟨cs, chars⟩ := List.head?_eq_some_iff.mp (by simpa [Path.isAbsolute] using h)
  have first : ∃ p ps, splitOn '.' package.toList = ('/' :: p) :: ps := by
    rw [chars, splitOn, splitWhere, if_neg (by decide)]
    cases splitWhere (· == '.') cs with
    | nil => exact ⟨_, _, rfl⟩
    | cons p ps => exact ⟨_, _, rfl⟩
  obtain ⟨p, ps, pieces⟩ := first
  rw [Path.isAbsolute, packagePrefix, String.toList_ofList, pieces, List.flatMap_cons,
    Unicode.capitalize, uppercase_slash]
  rfl

theorem slash_not_mem_mainTypeName (u : SourceUnit) : '/' ∉ u.mainTypeName.toList := by
  rw [SourceUnit.mainTypeName, String.toList_ofList]
  exact fun h => not_mem_afterLast '/' _ ((List.takeWhile_prefix _).subset h)

/-! ## The files of a unit -/

/-- Files that lie directly in the directory they are written into. -/
structure PlacedInside (files : List GeneratedFile) : Prop where
  single : ∀ f ∈ files, Path.Single f.path
  /-- Wherever the path of a file leads from a directory, it is a child of
  that directory. -/
  child : ∀ f ∈ files, ∀ (t : FileTree) (directory : String) (place : List String),
    directory ≠ "" → t.place (Path.join directory f.path) = some place →
      ∃ above, t.place directory = some above ∧ t.isDirectory above = true ∧
        place = above ++ [f.path]

section Files

variable {u : SourceUnit} {o : Options} {files : List GeneratedFile}

/-- A unit with types has two files, if both of its texts come about. -/
theorem SourceUnit.files_eq_ok_iff {name : String} (named : u.fileName = some name) :
    u.files o = .ok files ↔ ∃ header implementation, u.header o = .ok header ∧
      u.implementation o = .ok implementation ∧
        files = [⟨name ++ ".h", header⟩, ⟨name ++ ".m", implementation⟩] := by
  rw [SourceUnit.files, named]
  simp only [bind_eq_ok]
  constructor
  · rintro ⟨header, hh, implementation, hi, same⟩
    cases same
    exact ⟨header, implementation, hh, hi, rfl⟩
  · rintro ⟨header, implementation, hh, hi, rfl⟩
    exact ⟨header, hh, implementation, hi, rfl⟩

theorem SourceUnit.files_of_no_name (h : u.fileName = none) : u.files o = .ok [] := by
  rw [SourceUnit.files, h]

/-- Both paths are the name of the files and an ending. -/
theorem paths_eq (rendered : u.files o = .ok files) :
    files.map GeneratedFile.path = u.types.head?.toList.flatMap fun d =>
      [packagePrefix d.type.package ++ u.mainTypeName ++ ".h",
        packagePrefix d.type.package ++ u.mainTypeName ++ ".m"] := by
  cases first : u.types.head? with
  | none =>
    rw [SourceUnit.files_of_no_name (by rw [SourceUnit.fileName, first]; rfl)] at rendered
    cases rendered
    rfl
  | some d =>
    have named : u.fileName = some (packagePrefix d.type.package ++ u.mainTypeName) := by
      rw [SourceUnit.fileName, first]
      rfl
    obtain ⟨header, implementation, -, -, rfl⟩ := (SourceUnit.files_eq_ok_iff named).mp rendered
    rfl

theorem path_cases (rendered : u.files o = .ok files) {d : TypeDecl}
    (first : u.types.head? = some d) {f : GeneratedFile} (hf : f ∈ files) :
    f.path = packagePrefix d.type.package ++ u.mainTypeName ++ ".h" ∨
      f.path = packagePrefix d.type.package ++ u.mainTypeName ++ ".m" := by
  have member : f.path ∈ files.map GeneratedFile.path := List.mem_map_of_mem hf
  rw [paths_eq rendered, first] at member
  simpa using member

theorem exists_type_of_mem (rendered : u.files o = .ok files) {f : GeneratedFile}
    (hf : f ∈ files) : ∃ d, u.types.head? = some d := by
  have member : f.path ∈ files.map GeneratedFile.path := List.mem_map_of_mem hf
  rw [paths_eq rendered] at member
  obtain ⟨d, first, -⟩ := List.mem_flatMap.mp member
  exact ⟨d, Option.mem_toList.mp first⟩

theorem exists_mem_of_type (rendered : u.files o = .ok files) {d : TypeDecl}
    (first : u.types.head? = some d) : ∃ f, f ∈ files := by
  have paths := paths_eq rendered
  rw [first] at paths
  refine List.exists_mem_of_ne_nil _ fun none => ?_
  rw [none] at paths
  cases paths

theorem slash_mem_path_iff (rendered : u.files o = .ok files) {d : TypeDecl}
    (first : u.types.head? = some d) {f : GeneratedFile} (hf : f ∈ files) :
    '/' ∈ f.path.toList ↔ '/' ∈ d.type.package.toList := by
  have free := slash_not_mem_mainTypeName u
  rcases path_cases rendered first hf with path | path <;>
    simp [path, slash_mem_packagePrefix_iff, free]

/-- The ending of a file keeps its path from being a way to stay or to go
up. -/
theorem single_of_no_slash (rendered : u.files o = .ok files) {f : GeneratedFile} (hf : f ∈ files)
    (free : '/' ∉ f.path.toList) : Path.Single f.path := by
  obtain ⟨d, first⟩ := exists_type_of_mem rendered hf
  have last : f.path.toList.getLast? = some 'h' ∨ f.path.toList.getLast? = some 'm' := by
    rcases path_cases rendered first hf with path | path
    · exact .inl (by simp [path])
    · exact .inr (by simp [path])
  have ne {path : String} (h : path.toList.getLast? ≠ some 'h' ∧ path.toList.getLast? ≠ some 'm') :
      f.path ≠ path := by
    rintro rfl
    exact last.elim h.1 h.2
  exact ⟨ne (by decide), ne (by decide), ne (by decide), free⟩

/-- A package that starts with a slash overrules every directory. -/
theorem join_of_isAbsolute (rendered : u.files o = .ok files) {d : TypeDecl}
    (first : u.types.head? = some d) (absolute : Path.isAbsolute d.type.package = true)
    {f : GeneratedFile} (hf : f ∈ files) (directory : String) :
    Path.join directory f.path = f.path := by
  obtain ⟨cs, chars⟩ := List.head?_eq_some_iff.mp
    (by simpa [Path.isAbsolute] using isAbsolute_packagePrefix absolute)
  have absolute : Path.isAbsolute f.path = true := by
    rcases path_cases rendered first hf with path | path <;> simp [Path.isAbsolute, path, chars]
  rw [Path.join, absolute, Bool.true_or, if_pos rfl]

/-- Files with single names lie in the directory itself. -/
theorem placedInside_of_single (h : ∀ f ∈ files, Path.Single f.path) : PlacedInside files :=
  ⟨h, fun f hf _ _ _ named => FileTree.place_join named (h f hf)⟩

/-- The files of a unit lie directly in the output directory unless the
package of the first type has a slash in it. Then neither of the two does,
and if it starts with the slash, they lie where the package says. -/
theorem placedInside_iff (rendered : u.files o = .ok files) :
    (PlacedInside files ↔ ∀ d, u.types.head? = some d → '/' ∉ d.type.package.toList) ∧
      ∀ d, u.types.head? = some d →
        ('/' ∈ d.type.package.toList → ∀ f ∈ files, '/' ∈ f.path.toList) ∧
        (Path.isAbsolute d.type.package = true →
          ∀ f ∈ files, ∀ directory, Path.join directory f.path = f.path) := by
  refine ⟨⟨?_, ?_⟩, fun d first => ⟨?_, ?_⟩⟩
  · intro inside d first
    obtain ⟨f, hf⟩ := exists_mem_of_type rendered first
    rw [← slash_mem_path_iff rendered first hf]
    exact (inside.single f hf).noSlash
  · intro free
    refine placedInside_of_single fun f hf => single_of_no_slash rendered hf ?_
    obtain ⟨d, first⟩ := exists_type_of_mem rendered hf
    rw [slash_mem_path_iff rendered first hf]
    exact free d first
  · intro slash f hf
    exact (slash_mem_path_iff rendered first hf).mpr slash
  · intro absolute f hf
    exact join_of_isAbsolute rendered first absolute hf

end Files

/-- A nested class in a package with a version. -/
def release : SourceUnit := ⟨"src/Größe.java", [TypeDecl.ofClass "v1.2.Größe$Maß"]⟩

/-- The dots of a package are no separators of paths. -/
theorem placedInside_release :
    ∃ files, release.files {} = .ok files ∧
      files.map GeneratedFile.path = ["V12Größe.h", "V12Größe.m"] ∧
      PlacedInside files := by
  cases rendered : release.files {} with
  | error f => cases rendered
  | ok files =>
    refine ⟨files, rfl, by rw [paths_eq rendered]; decide, ?_⟩
    refine (placedInside_iff rendered).1.mpr fun d first => ?_
    cases first
    decide

/-- A class whose package starts with a slash. -/
def hosts : SourceUnit := ⟨"Hosts.java", [TypeDecl.ofClass "/etc/net.Hosts"]⟩

/-- A document can say so, and then its files are written next to those of
the machine, whatever the output directory is. -/
theorem not_placedInside_hosts :
    SourceUnit.ofText hosts.toText = .ok hosts ∧
      ∃ files, hosts.files {} = .ok files ∧
        files.map GeneratedFile.path = ["/etc/netHosts.h", "/etc/netHosts.m"] ∧
        (∀ f ∈ files, ∀ directory, Path.join directory f.path = f.path) ∧ ¬ PlacedInside files := by
  have decoded : SourceUnit.ofText hosts.toText = .ok hosts := by
    rw [SourceUnit.ofText, SourceUnit.toText, readText, ofText_render (by decide)]
    rfl
  refine ⟨decoded, ?_⟩
  cases rendered : hosts.files {} with
  | error f => cases rendered
  | ok files =>
    refine ⟨files, rfl, by rw [paths_eq rendered]; decide, fun f hf => ?_, fun inside => ?_⟩
    · exact join_of_isAbsolute rendered rfl rfl hf
    · obtain ⟨f, hf⟩ := exists_mem_of_type rendered rfl
      exact (inside.single f hf).noSlash ((slash_mem_path_iff rendered rfl hf).mpr (by decide))

end ObjcDecl
