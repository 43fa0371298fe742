import DatabaseDump.Dump.SideFile
import Mathlib.Data.List.Basic
import Mathlib.Data.List.TakeWhile

/-!
# Where side files lie

A side file has a path, and the path leads to a location once its double dots are taken
back. Which location that is depends on the names in the path only: a file that is there
or not decides whether the path can be opened, never where it leads.
-/

namespace DatabaseDump

namespace Folder

/-- Walking down ends where the names lead. -/
theorem eq_foldl_step_of_walk {folder : Folder} {location found : Location} {names : List String}
    (h : folder.walk location names = .ok found) : found = names.foldl Path.step location := by
  induction names generalizing location with
  | nil =>
    cases h
    rfl
  | cons name rest ih =>
    rw [walk] at h
    rw [List.foldl_cons, Path.step]
    split at h
    · rename_i hdots
      rw [if_pos hdots]
      exact ih h
    · rename_i hdots
      rw [if_neg hdots]
      split at h
      · cases h
      · dsimp only at h
        split at h
        · exact ih h
        · split at h
          · cases h
          · cases h

/-- A file lies in the directory that holds it, and its name is not two dots. -/
theorem exists_of_locateFile {folder : Folder} {path : Path} {location : Location}
    (h : folder.locateFile path = .ok location) :
    ∃ directory name, folder.locate path = .ok (directory, name) ∧ name ≠ ".."
      ∧ location = directory ++ [name] := by
  unfold locateFile at h
  split at h
  · cases h
  · cases hlocate : folder.locate path with
    | error fault =>
      rw [hlocate] at h
      cases h
    | ok found =>
      obtain ⟨directory, name⟩ := found
      rw [hlocate] at h
      refine ⟨directory, name, rfl, ?_⟩
      change (if name = ".." then _ else _) = _ at h
      split at h
      · cases h
      · rename_i hdots
        refine ⟨hdots, ?_⟩
        change (if maxNameBytes < name.utf8ByteSize then _ else _) = _ at h
        split at h
        · cases h
        · change (if folder.isDirectory (directory ++ [name]) then _ else _) = _ at h
          split at h
          · cases h
          · cases h
            rfl

/-- A file that can be opened for writing lies where its path leads. -/
theorem eq_names_of_openForWriting {folder : Folder} {path : Path} {location : Location}
    (hroot : path.root ≠ "") (h : folder.openForWriting path = .ok location) :
    location = path.collapsed.names := by
  have hlocated : folder.locateFile path = .ok location := by
    unfold openForWriting at h
    split at h
    · cases h
    · split at h
      · rename_i hlocated
        cases h
        exact hlocated
      · cases h
  obtain ⟨directory, name, hlocate, hdots, rfl⟩ := exists_of_locateFile hlocated
  -- with a root the walk starts there, and not at the working directory
  have hstart : folder.start path = [] := by
    rw [start, if_neg]
    simpa using hroot
  unfold locate at hlocate
  rw [hstart] at hlocate
  split at hlocate
  · cases hlocate
    exact absurd rfl hdots
  · rename_i last hlast
    cases hwalk : folder.walk [] path.names.dropLast with
    | error fault =>
      rw [hwalk] at hlocate
      cases hlocate
    | ok found =>
      rw [hwalk] at hlocate
      cases hlocate
      have hnames : path.names = path.names.dropLast ++ [name] :=
        (List.dropLast_append_getLast? name hlast).symm
      rw [Path.collapsed, hnames, List.foldl_append, ← eq_foldl_step_of_walk hwalk]
      rw [List.foldl_cons, List.foldl_nil, Path.step, if_neg hdots]

end Folder

namespace Dump.SideFile

/-- Where the side file of a table lies, by the directory that a dump works in. -/
def place (base : Location) (database table : Value) : Location :=
  (path ⟨"/", base⟩ database table).collapsed.names

theorem root_path_ne (base : Location) (database table : Value) :
    (path ⟨"/", base⟩ database table).root ≠ "" := by
  unfold path Path.join
  split
  · simp
  · rename_i h
    simpa using h

/-- **A side file that can be opened lies at its place.** -/
theorem eq_place_of_openForWriting {folder : Folder} {database table : Value} {location : Location}
    (h : folder.openForWriting (path folder.basePath database table) = .ok location) :
    location = place folder.base database table :=
  Folder.eq_names_of_openForWriting (root_path_ne folder.base database table) h

end Dump.SideFile

/-! ## Names that share a place -/

/-- A text without a slash is one name, unless it is empty or a single dot. -/
theorem Path.ofText_eq {s : String} (h : '/' ∉ s.toList) (hempty : s ≠ "") (hdot : s ≠ ".") :
    Path.ofText s = ⟨"", [s]⟩ := by
  have hroot : s.toList.takeWhile (· == '/') = [] := by
    refine List.takeWhile_eq_nil_iff.mpr fun hpos hslash => h ?_
    rw [← eq_of_beq hslash]
    exact List.get_mem ..
  have hnames : Path.namesOf s.toList = [s] := by
    rw [Path.namesOf, Text.splitOnChar_eq_splitOn, List.splitOn_eq_singleton h]
    simp [hempty, hdot]
  rw [Path.ofText, hnames, Path.rootOf, hroot]
  rfl

namespace Dump.SideFile

/-- The name of the side file of a table, without its ending. -/
def stem (database table : Value) : String := database.toText ++ "_" ++ table.toText

/-- A stem without a slash is one name below the working directory. -/
theorem place_eq (base : Location) {database table : Value}
    (h : '/' ∉ (stem database table).toList) :
    place base database table
      = base.foldl Path.step [] ++ [stem database table ++ ".csv"] := by
  have hslash : '/' ∉ (stem database table ++ ".csv").toList := by
    rw [String.toList_append]
    exact List.not_mem_append h (by decide)
  -- the ending has four characters, so the name is neither short nor made of dots only
  have hlong {short : String} (hshort : short.length < 4) :
      stem database table ++ ".csv" ≠ short := by
    rintro rfl
    rw [String.length_append] at hshort
    exact absurd hshort (Nat.not_lt.mpr (Nat.le_add_left ..))
  have hname := Path.ofText_eq hslash (hlong (by decide)) (hlong (by decide))
  have hpath : path ⟨"/", base⟩ database table
      = ⟨"/", base ++ [stem database table ++ ".csv"]⟩ := by
    change Path.join ⟨"/", base⟩ (.ofText (stem database table ++ ".csv")) = _
    rw [hname]
    rfl
  rw [place, hpath, Path.collapsed, List.foldl_append, List.foldl_cons, List.foldl_nil,
    Path.step, if_neg (hlong (by decide))]

/-- **Two such stems share a place only if they are the same.** -/
theorem place_eq_place_iff (base : Location) {database table database' table' : Value}
    (h : '/' ∉ (stem database table).toList) (h' : '/' ∉ (stem database' table').toList) :
    place base database table = place base database' table'
      ↔ stem database table = stem database' table' := by
  rw [place_eq base h, place_eq base h', List.append_cancel_left_eq, List.singleton_inj]
  exact String.append_left_inj _

end Dump.SideFile

end DatabaseDump
