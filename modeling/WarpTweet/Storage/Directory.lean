import Mathlib

/-!
# Directories of named files

A directory holds at most one file under each name, and a file knows its own
name. Reading, atomically replacing and listing are all that is needed of it:
replacing writes the whole new content under its name, whether or not there was a
file of that name before, and listing returns the names in order.
-/

namespace Storage

variable {α κ : Type} [DecidableEq κ] {key : α → κ}

/-- Files with pairwise distinct names. -/
structure Directory {α κ : Type} (key : α → κ) where
  files : List α
  nodup : (files.map key).Nodup

namespace Directory

variable {d : Directory key} {name : κ} {file : α}

/-- The file called `name`. -/
def get (d : Directory key) (name : κ) : Option α :=
  d.files.find? fun file => decide (key file = name)

/-- The names of the files, in the order a listing returns them. -/
def names (d : Directory key) : List κ :=
  d.files.map key

/-- A directory without files. -/
def empty : Directory key :=
  ⟨[], List.nodup_nil⟩

theorem key_of_get (h : d.get name = some file) : key file = name := by
  have hfound := List.find?_some h
  exact of_decide_eq_true hfound

theorem mem_files_of_get (h : d.get name = some file) : file ∈ d.files :=
  List.mem_of_find?_eq_some h

private theorem find?_eq_some_of_nodup {files : List α} (h : (files.map key).Nodup)
    (hmem : file ∈ files) : files.find? (fun f => decide (key f = key file)) = some file := by
  induction files with
  | nil => simp at hmem
  | cons other files ih =>
    simp only [List.map_cons, List.nodup_cons] at h
    rcases List.mem_cons.1 hmem with rfl | hmem
    · simp
    · have hne : key other ≠ key file := by
        intro heq
        exact h.1 (heq ▸ List.mem_map_of_mem hmem)
      simp [hne, ih h.2 hmem]

theorem get_of_mem_files (h : file ∈ d.files) : d.get (key file) = some file :=
  find?_eq_some_of_nodup d.nodup h

theorem file_unique {name' : κ} {file' : α}
    (h : d.get name = some file) (h' : d.get name' = some file') (hname : name = name') :
    file = file' := by
  subst hname
  exact Option.some.inj (h.symm.trans h')

theorem eq_of_key_eq {file' : α} (h : file ∈ d.files)
    (h' : file' ∈ d.files) (hkey : key file = key file') : file = file' :=
  file_unique (get_of_mem_files h) (get_of_mem_files h') hkey

theorem mem_names : name ∈ d.names ↔ ∃ file, d.get name = some file := by
  constructor
  · intro h
    obtain ⟨file, hfile, rfl⟩ := List.mem_map.1 h
    exact ⟨file, get_of_mem_files hfile⟩
  · rintro ⟨file, h⟩
    exact key_of_get h ▸ List.mem_map_of_mem (mem_files_of_get h)

end Directory

variable {file : α} {files : List α}
  [LT κ] [DecidableLT κ]

/-- Replace the file of the same name, or insert the file in the order of names. -/
def insertFile (key : α → κ) (file : α) : List α → List α
  | [] => [file]
  | other :: files =>
    if key other = key file then file :: files
    else if key file < key other then
      if key file ∈ files.map key then other :: insertFile key file files
      else file :: other :: files
    else other :: insertFile key file files

theorem mem_insertFile {f : α} (h : f ∈ insertFile key file files) : f = file ∨ f ∈ files := by
  induction files with
  | nil => simpa [insertFile] using h
  | cons other files ih =>
    simp only [insertFile] at h
    split_ifs at h
    all_goals simp only [List.mem_cons] at h ⊢
    all_goals tauto

theorem nodup_insertFile (h : (files.map key).Nodup) :
    ((insertFile key file files).map key).Nodup := by
  induction files with
  | nil => simp [insertFile]
  | cons other files ih =>
    simp only [List.map_cons, List.nodup_cons] at h
    have hrest : key other ≠ key file →
        ((other :: insertFile key file files).map key).Nodup := by
      intro hne
      simp only [List.map_cons, List.nodup_cons]
      refine ⟨?_, ih h.2⟩
      simp only [List.mem_map, not_exists, not_and]
      intro f hf hkey
      rcases mem_insertFile hf with rfl | hf
      · exact hne hkey.symm
      · exact h.1 (hkey ▸ List.mem_map_of_mem hf)
    simp only [insertFile]
    split_ifs with heq hlt hmem
    · simpa [← heq] using h
    · exact hrest heq
    · simp only [List.map_cons, List.nodup_cons, List.mem_cons, not_or]
      exact ⟨⟨fun hk => heq hk.symm, hmem⟩, h⟩
    · exact hrest heq

namespace Directory

variable {file : α} {files : List α} {d : Directory key}

/-- Write `file` under its name. -/
def put (d : Directory key) (file : α) : Directory key :=
  ⟨insertFile key file d.files, nodup_insertFile d.nodup⟩

private theorem find?_insertFile_self :
    (insertFile key file files).find? (fun f => decide (key f = key file)) = some file := by
  induction files with
  | nil => simp [insertFile]
  | cons other files ih =>
    simp only [insertFile]
    split_ifs with heq hlt hmem <;> simp [*]

private theorem find?_insertFile_of_ne {name : κ} (hne : name ≠ key file) :
    (insertFile key file files).find? (fun f => decide (key f = name)) =
      files.find? (fun f => decide (key f = name)) := by
  have hne' : key file ≠ name := fun h => hne h.symm
  induction files with
  | nil => simp [insertFile, hne']
  | cons other files ih =>
    simp only [insertFile]
    split_ifs with heq hlt hmem
    · have hother : key other ≠ name := fun h => hne (h.symm.trans heq)
      simp [hne', hother]
    · simp only [List.find?_cons, ih]
    · simp [hne']
    · simp only [List.find?_cons, ih]

@[simp]
theorem get_put_self : (d.put file).get (key file) = some file :=
  find?_insertFile_self

theorem get_put_of_ne {name : κ} (h : name ≠ key file) : (d.put file).get name = d.get name :=
  find?_insertFile_of_ne h

theorem mem_files_put {f : α} :
    f ∈ (d.put file).files ↔ f = file ∨ f ∈ d.files ∧ key f ≠ key file := by
  constructor
  · intro h
    by_cases hkey : key f = key file
    · left
      have hget := get_of_mem_files h
      rw [hkey, get_put_self, Option.some.injEq] at hget
      exact hget.symm
    · right
      have hget := get_of_mem_files h
      rw [get_put_of_ne hkey] at hget
      exact ⟨mem_files_of_get hget, hkey⟩
  · rintro (rfl | ⟨h, hkey⟩)
    · exact mem_files_of_get get_put_self
    · have hget := get_of_mem_files h
      rw [← get_put_of_ne hkey] at hget
      exact mem_files_of_get hget

private theorem insertFile_eq_map (h : (files.map key).Nodup) (hmem : key file ∈ files.map key) :
    insertFile key file files = files.map fun f => if key f = key file then file else f := by
  induction files with
  | nil => cases hmem
  | cons other files ih =>
    simp only [List.map_cons, List.nodup_cons, List.mem_cons] at h hmem
    by_cases heq : key other = key file
    · -- The names are distinct, so the rest has no other file of this name.
      have hrest : files.map (fun f => if key f = key file then file else f) = files := by
        refine List.map_congr_left (fun f hf => ?_) |>.trans (List.map_id _)
        have hne : key f ≠ key file := fun hf' => h.1 (heq ▸ hf' ▸ List.mem_map_of_mem hf)
        simp [hne]
      simp [insertFile, heq, hrest]
    · have hmem' : key file ∈ files.map key := hmem.resolve_left fun h => heq h.symm
      simp [insertFile, heq, hmem', ih h.2 hmem']

/-- A selection of the files that tells the old and the new file of a name alike, after
the file has been replaced. -/
theorem filter_put {old : α} {p : α → Bool}
    (hget : d.get (key file) = some old) (hp : p file = p old) : (d.put file).files.filter p =
      (d.files.filter p).map fun f => if key f = key file then file else f := by
  have hmem : key file ∈ d.files.map key := mem_names.2 ⟨old, hget⟩
  show (insertFile key file d.files).filter p = _
  rw [insertFile_eq_map d.nodup hmem, List.filter_map]
  refine congrArg _ (List.filter_congr fun f hf => ?_)
  by_cases heq : key f = key file
  · have hfound := get_of_mem_files hf
    rw [heq, hget, Option.some.injEq] at hfound
    simp [heq, hp, hfound]
  · simp [heq]

theorem names_put (hmem : key file ∈ d.names) : (d.put file).names = d.names := by
  show (insertFile key file d.files).map key = d.files.map key
  rw [insertFile_eq_map d.nodup hmem, List.map_map]
  refine List.map_congr_left fun f _ => ?_
  by_cases heq : key f = key file <;> simp [heq]

end Directory

end Storage
