import HipRand.PyLoading
import Mathlib.Data.List.Find

/-!
# Where the shared libraries are searched

`expand_paths` and `find_library` of `utils.py`, and the directories with which `hip.py`
and `hiprand.py` use them. `HIPRAND_PATHS` is computed at the import of `hiprand.py` and
keeps the directories that exist at that moment, so a search for `libhiprand.so` depends
on two states of the file system.

Results:
1. `findLibrary_eq`: a search finds the first of its files that exists.
2. `search_HIPRAND_PATHS`: the files of the search for `libhiprand.so`, in their order.
3. `library_after_run_iff`: in every run of accesses while the file system changes, which
   installations let the package load `libhiprand.so`.
-/

namespace HipRand.Py

open Transition

/-! ## `utils.py` -/

/-- `os.path.exists` at some moment. -/
abbrev FileSystem := String → Bool

/-- `os.path.join` of two paths. -/
def osPathJoin (a b : String) : String :=
  if b.toList.head? = some '/' then b
  else if a = "" ∨ a.toList.getLast? = some '/' then a ++ b
  else a ++ "/" ++ b

def expandPaths (fs : FileSystem) (paths : List (Option String)) (subpaths : List String) :
    List String :=
  paths.flatMap fun path =>
    match path with
    | none => []
    | some path =>
      if path = "" then []
      else subpaths.flatMap fun subpath =>
        let fullPath := osPathJoin path subpath
        if fs fullPath then [fullPath] else []

def findLibrary (fs : FileSystem) (paths : List (Option String)) (name : String) : String :=
  let paths := expandPaths fs paths ["", "lib", "lib64"]
  match paths.find? fun path => fs (osPathJoin path name) with
  | some path => osPathJoin path name
  | none => name

/-- The directories that `expand_paths` asks for. -/
def directories (paths : List (Option String)) (subpaths : List String) : List String :=
  paths.flatMap fun path =>
    match path with
    | none => []
    | some path => if path = "" then [] else subpaths.map (osPathJoin path)

/-- The files that `find_library` may return. -/
def search (paths : List (Option String)) (name : String) : List String :=
  (directories paths ["", "lib", "lib64"]).map fun path => osPathJoin path name

theorem flatMap_if_eq_filter (fs : FileSystem) (path : String) (subpaths : List String) :
    (subpaths.flatMap fun subpath =>
      if fs (osPathJoin path subpath) then [osPathJoin path subpath] else []) =
      (subpaths.map (osPathJoin path)).filter fs := by
  induction subpaths with
  | nil => rfl
  | cons subpath subpaths ih =>
    rw [List.flatMap_cons, ih, List.map_cons, List.filter_cons]
    split <;> rfl

theorem expandPaths_eq_filter (fs : FileSystem) (paths : List (Option String))
    (subpaths : List String) :
    expandPaths fs paths subpaths = (directories paths subpaths).filter fs := by
  unfold expandPaths directories
  rw [List.filter_flatMap]
  congr 1
  funext path
  cases path with
  | none => rfl
  | some path =>
    by_cases hempty : path = ""
    · simp [hempty]
    · simp only [if_neg hempty]
      exact flatMap_if_eq_filter fs path subpaths

/-- A file is in a directory that exists. -/
def ParentsExist (fs : FileSystem) (paths : List (Option String)) (name : String) : Prop :=
  ∀ dir ∈ directories paths ["", "lib", "lib64"], fs (osPathJoin dir name) → fs dir

/-- Asking for the directory first does not change what is found. -/
theorem findLibrary_eq {fs : FileSystem} {paths : List (Option String)} {name : String}
    (h : ParentsExist fs paths name) :
    findLibrary fs paths name = ((search paths name).find? fs).getD name := by
  have hfind : (expandPaths fs paths ["", "lib", "lib64"]).find?
        (fun path => fs (osPathJoin path name)) =
      (directories paths ["", "lib", "lib64"]).find? (fs <| osPathJoin · name) := by
    rw [expandPaths_eq_filter, List.find?_filter]
    refine List.find?_congr fun dir hdir => ?_
    cases hfile : fs (osPathJoin dir name) with
    | true => simp [h dir hdir hfile]
    | false => simp
  unfold findLibrary search
  dsimp only
  rw [hfind, List.find?_map]
  show _ = (((directories paths ["", "lib", "lib64"]).find? (fs <| osPathJoin · name)).map _).getD _
  split
  · next path hpath => rw [hpath]; rfl
  · next hnone => rw [hnone]; rfl

/-! ## The directories of `hip.py` and `hiprand.py` -/

section Directories

variable (getenv : String → Option String)

def HIP_PATHS : List (Option String) :=
  [getenv "ROCM_PATH", getenv "HIP_PATH", some "/opt/rocm", some "/opt/rocm/hip"]

def CUDA_PATHS : List (Option String) :=
  [getenv "CUDA_PATH", some "/opt/cuda"]

def HIPRAND_PATHS (fs : FileSystem) : List (Option String) :=
  [getenv "HIPRAND_PATH", getenv "ROCRAND_PATH"] ++
    (expandPaths fs (HIP_PATHS getenv) ["", "rocrand", "hiprand"]).map some

end Directories

theorem osPathJoin_ne_empty {a : String} (b : String) (h : a ≠ "") : osPathJoin a b ≠ "" := by
  unfold osPathJoin
  split
  · next habs =>
    rintro rfl
    cases habs
  · split
    · simp [h]
    · simp

theorem ne_empty_of_mem_directories {paths : List (Option String)} {subpaths : List String}
    {dir : String} (h : dir ∈ directories paths subpaths) : dir ≠ "" := by
  obtain ⟨path, -, hdir⟩ := List.mem_flatMap.mp h
  cases path with
  | none => cases hdir
  | some path =>
    by_cases hempty : path = ""
    · simp [hempty] at hdir
    · simp only [if_neg hempty] at hdir
      obtain ⟨subpath, -, rfl⟩ := List.mem_map.mp hdir
      exact osPathJoin_ne_empty subpath hempty

theorem directories_append (paths paths' : List (Option String)) (subpaths : List String) :
    directories (paths ++ paths') subpaths =
      directories paths subpaths ++ directories paths' subpaths :=
  List.flatMap_append

theorem directories_map_some {dirs : List String} (h : ∀ dir ∈ dirs, dir ≠ "")
    (subpaths : List String) :
    directories (dirs.map some) subpaths =
      dirs.flatMap fun dir => subpaths.map (osPathJoin dir) := by
  unfold directories
  rw [List.flatMap_map]
  exact List.flatMap_congr fun dir hdir => if_neg (h dir hdir)

/-- The search for a library in `HIPRAND_PATHS`: first where the environment says, and then
below those directories of HIP that existed at the import. -/
theorem search_HIPRAND_PATHS (getenv : String → Option String) (fs : FileSystem) (name : String) :
    search (HIPRAND_PATHS getenv fs) name =
      search [getenv "HIPRAND_PATH", getenv "ROCRAND_PATH"] name ++
        ((directories (HIP_PATHS getenv) ["", "rocrand", "hiprand"]).filter fs).flatMap fun dir =>
          ["", "lib", "lib64"].map fun subpath => osPathJoin (osPathJoin dir subpath) name := by
  unfold search HIPRAND_PATHS
  rw [directories_append, List.map_append, expandPaths_eq_filter, directories_map_some,
    List.map_flatMap]
  · rfl
  · intro dir hdir
    exact ne_empty_of_mem_directories (List.mem_of_mem_filter hdir)

/-! ## Every sequence of accesses -/

/-- What `hip.py` and `hiprand.py` saw when they were imported. -/
structure Imported where
  getenv : String → Option String
  fs : FileSystem

/-- What an access sees: the files, and what the dynamic loader does with a path or the
bare name of a library. -/
structure Moment where
  fs : FileSystem
  dlopen : String → Except String Unit

def Moment.attempt (m : Moment) (i : Imported) : Attempt
  | .libhiprand => m.dlopen (findLibrary m.fs (HIPRAND_PATHS i.getenv i.fs) "libhiprand.so")
  | .libamdhip64 => m.dlopen (findLibrary m.fs (HIP_PATHS i.getenv) "libamdhip64.so")
  | .libcudart => m.dlopen (findLibrary m.fs (CUDA_PATHS i.getenv) "libcudart.so")

/-- `libhiprand.so` is where the package searches for it. -/
def Installed (i : Imported) (fs : FileSystem) : Prop :=
  (∃ file ∈ search [i.getenv "HIPRAND_PATH", i.getenv "ROCRAND_PATH"] "libhiprand.so", fs file) ∨
    ∃ dir ∈ directories (HIP_PATHS i.getenv) ["", "rocrand", "hiprand"], i.fs dir ∧
      ∃ subpath ∈ ["", "lib", "lib64"], fs (osPathJoin (osPathJoin dir subpath) "libhiprand.so")

instance (i : Imported) (fs : FileSystem) : Decidable (Installed i fs) :=
  inferInstanceAs (Decidable (_ ∨ _))

/-- A file in a place of the search is in a directory, and is a library that loads. -/
structure Moment.Regular (m : Moment) (i : Imported) : Prop where
  parents : ParentsExist m.fs (HIPRAND_PATHS i.getenv i.fs) "libhiprand.so"
  loads : ∀ file ∈ search (HIPRAND_PATHS i.getenv i.fs) "libhiprand.so", m.fs file →
    m.dlopen file = .ok ()

/-- The runs of accesses after an import, while the files change. -/
def accesses (i : Imported) : System Globals (Moment × Via) where
  init g := g = .fresh
  step g l g' := loading.step g ⟨l.1.attempt i, l.2⟩ g'

theorem installed_iff {i : Imported} {fs : FileSystem} :
    Installed i fs ↔
      ∃ file ∈ search (HIPRAND_PATHS i.getenv i.fs) "libhiprand.so", fs file := by
  unfold Installed
  rw [search_HIPRAND_PATHS]
  simp only [List.mem_append, or_and_right, exists_or, List.mem_flatMap, List.mem_filter,
    List.mem_map]
  refine or_congr_right ⟨?_, ?_⟩
  · rintro ⟨dir, hdir, hthere, subpath, hsub, hfile⟩
    exact ⟨_, ⟨dir, ⟨hdir, hthere⟩, subpath, hsub, rfl⟩, hfile⟩
  · rintro ⟨_, ⟨dir, ⟨hdir, hthere⟩, subpath, hsub, rfl⟩, hfile⟩
    exact ⟨dir, hdir, hthere, subpath, hsub, hfile⟩

theorem Moment.Regular.attempt_iff {m : Moment} {i : Imported} (h : m.Regular i) :
    (∃ u, m.attempt i .libhiprand = .ok u) ↔
      Installed i m.fs ∨ m.dlopen "libhiprand.so" = .ok () := by
  rw [installed_iff]
  show (∃ u, m.dlopen (findLibrary m.fs _ _) = .ok u) ↔ _
  rw [findLibrary_eq h.parents]
  cases hfind : (search (HIPRAND_PATHS i.getenv i.fs) "libhiprand.so").find? m.fs with
  | none =>
    rw [or_iff_right fun ⟨file, hmem, hfile⟩ => List.find?_eq_none.mp hfind file hmem hfile]
    exact ⟨fun ⟨_, hu⟩ => hu, fun hu => ⟨(), hu⟩⟩
  | some file =>
    have hmem := List.mem_of_find?_eq_some hfind
    have hfile := List.find?_some hfind
    exact iff_of_true ⟨(), h.loads file hmem hfile⟩ (.inl ⟨file, hmem, hfile⟩)

/-- An access replaces the placeholder if it finds the library; nothing puts it back. -/
theorem access_library_iff (attempt : Attempt) (via : Via) (g : Globals) :
    (access attempt via g).globals.hiprand = .library ↔
      g.hiprand = .library ∨ ∃ u, attempt .libhiprand = .ok u := by
  rcases access_cases attempt via g with ⟨hl, _, hg⟩ | ⟨_, hfail, _, hg, _⟩ |
    ⟨_, hlib, _, _, hlibrary, _, _⟩ | ⟨_, hlib, _, _, hlibrary, _, _⟩
  · rw [hg]
    cases hglobal : g.hiprand with
    | library => exact iff_of_true rfl (.inl rfl)
    | placeholder => exact absurd (.inr hglobal) hl
  · rw [hg, or_iff_left fun ⟨u, hu⟩ => hfail u hu]
  · exact iff_of_true hlibrary (.inr hlib)
  · exact iff_of_true hlibrary (.inr hlib)

/-- In every run of accesses, the package holds the library if and only if at one of them
it was installed where `HIPRAND_PATH` or `ROCRAND_PATH` said at the import, or in a
directory of HIP that existed then already, or where the dynamic loader looks by itself. A
retry finds what was installed since the failure, but not in a new directory of HIP. -/
theorem library_after_run_iff {i : Imported} {ls : List (Moment × Via)} {g : Globals}
    (h : ∀ l ∈ ls, l.1.Regular i) (hrun : (accesses i).Run .fresh ls g) :
    g.hiprand = .library ↔
      ∃ l ∈ ls, Installed i l.1.fs ∨ l.1.dlopen "libhiprand.so" = .ok () := by
  induction hrun with
  | nil => exact iff_of_false nofun (by simp)
  | @snoc ls g g' l _ hstep ih =>
    have hls : ∀ l' ∈ ls, l'.1.Regular i := fun l' hl' => h l' (List.mem_append_left _ hl')
    have hl : l.1.Regular i := h l (List.mem_append_right _ (List.mem_singleton_self l))
    have hg : g' = (access (l.1.attempt i) l.2 g).globals := hstep
    rw [hg, access_library_iff, ih hls, hl.attempt_iff]
    simp only [List.mem_append, List.mem_singleton, or_and_right, exists_or, exists_eq_left]

/-- The library is in `dir`, one of the directories that exist. -/
def installedIn (dirs : List String) (dir : String) : Moment where
  fs path := (osPathJoin dir "libhiprand.so" :: dirs).contains path
  dlopen file :=
    if file = osPathJoin dir "libhiprand.so" then .ok ()
    else .error (file ++ ": cannot open shared object file")

/-- No variables, and `/opt/rocm` with nothing in it. -/
def emptyRocm : Imported where
  getenv _ := none
  fs path := ["/opt/rocm", "/opt/rocm/"].contains path

def newSubdirectory : Moment :=
  installedIn ["/opt/rocm", "/opt/rocm/", "/opt/rocm/hiprand", "/opt/rocm/hiprand/",
    "/opt/rocm/hiprand/lib", "/opt/rocm/hiprand/lib/"] "/opt/rocm/hiprand/lib"

def oldDirectory : Moment :=
  installedIn ["/opt/rocm", "/opt/rocm/", "/opt/rocm/lib", "/opt/rocm/lib/"] "/opt/rocm/lib"

/-- A library that is installed into `/opt/rocm/hiprand` after the import is not found, one
in `/opt/rocm/lib` is. -/
theorem library_after_run_iff_newSubdirectory :
    (access (newSubdirectory.attempt emptyRocm) .global .fresh).globals.hiprand ≠ .library ∧
      (access (oldDirectory.attempt emptyRocm) .global
        (access (newSubdirectory.attempt emptyRocm) .global .fresh).globals).globals.hiprand =
          .library := by
  have hnew : newSubdirectory.Regular emptyRocm :=
    ⟨by unfold ParentsExist; decide, by decide⟩
  have hold : oldDirectory.Regular emptyRocm :=
    ⟨by unfold ParentsExist; decide, by decide⟩
  have hfirst : (accesses emptyRocm).Run .fresh [(newSubdirectory, .global)] _ :=
    .snoc .nil rfl
  have hsecond : (accesses emptyRocm).Run .fresh
      [(newSubdirectory, .global), (oldDirectory, .global)] _ := hfirst.snoc rfl
  constructor
  · intro h
    have hfound := (library_after_run_iff (by simpa using hnew) hfirst).mp h
    exact absurd hfound (by decide)
  · exact (library_after_run_iff (by simp [hnew, hold]) hsecond).mpr
      ⟨(oldDirectory, .global), by simp, by decide⟩

end HipRand.Py
