import BranchingStory.Console.FileStore

/-!
Files and paths. What was written to a path is found there, and no other file has changed; a path
that is absolute stands for itself in every folder.
-/

namespace BranchingStory.Console

namespace FileStore

/-! ### Writing -/

theorem files_makeFolders (place names : List String) (s : FileStore) :
    (makeFolders place names s).2.files = s.files := by
  induction names generalizing place s with
  | nil => rfl
  | cons name rest ih =>
      rw [makeFolders]
      split
      · exact ih _ s
      · extract_lets next
        split
        · exact ih next s
        · split
          · rfl
          · exact ih next (s.addFolder next)

theorem file?_addFile (s : FileStore) (place other : List String) (text : Option String) :
    (s.addFile place text).file? other = if other = place then some text else s.file? other := by
  have hfilter : ∀ files : List (List String × Option String), other ≠ place →
      (files.filter (fun entry => entry.1 != place)).lookup other = files.lookup other := by
    intro files hne
    induction files with
    | nil => rfl
    | cons entry rest ih =>
        obtain ⟨spot, found⟩ := entry
        by_cases hspot : spot = place
        · have hother : (other == spot) = false := by simpa [hspot] using hne
          rw [List.filter_cons_of_neg (by simpa using hspot), List.lookup_cons, hother]
          exact ih
        · rw [List.filter_cons_of_pos (by simpa using hspot), List.lookup_cons, List.lookup_cons,
            ih]
  unfold file? addFile
  rw [List.lookup_cons]
  by_cases hsame : other = place
  · simp [hsame]
  · rw [if_neg hsame, show (other == place) = false by simpa using hsame]
    exact hfilter s.files hsame

theorem isFolder_congr {s s' : FileStore} (hfolders : s'.folders = s.folders) :
    s'.isFolder = s.isFolder := by
  funext place
  rw [isFolder, isFolder, hfolders]

/-- The place of a path is a matter of folders. -/
theorem locate?_congr {s s' : FileStore} (hfolders : s'.folders = s.folders)
    (folder : List String) (path : String) : s'.locate? folder path = s.locate? folder path := by
  have henter : s'.enter? = s.enter? := by
    funext place piece
    rw [enter?, enter?, isFolder_congr hfolders]
  rw [locate?, locate?, henter]

/-- A file that was written is found, and it is the only file that has changed. -/
theorem write_eq_true {s s' : FileStore} {folder : List String} {path text : String}
    (h : s.write folder path text = (true, s')) (keep : String → Bool) :
    s'.find folder keep path = .file (some text) ∧
      ∃ place, s'.locate? folder path = some place ∧
        ∀ other, s'.file? other = if other = place then some (some text) else s.file? other := by
  have hfiles := files_makeFolders (origin folder path) (PathText.names path).dropLast s
  unfold write at h
  split at h
  · cases h
  · rename_i made hmade
    rw [hmade] at hfiles
    split at h
    · cases h
    · rename_i place hplace
      split at h
      · cases h
      · rename_i hfolder
        cases h
        have hlocate : (made.addFile place (some text)).locate? folder path = some place :=
          (locate?_congr rfl folder path).trans hplace
        have hnot : (made.addFile place (some text)).isFolder place = false :=
          Bool.eq_false_iff.mpr hfolder
        have hfile := file?_addFile made place
        refine ⟨?_, place, hlocate, fun other => ?_⟩
        · unfold find
          rw [hlocate]
          simp [hnot, hfile]
        · rw [hfile, show made.file? other = s.file? other by rw [file?, file?, hfiles]]

/-! ### Writing again -/

theorem isFolder_addFolder {s : FileStore} {place spot : List String}
    (h : s.isFolder spot = true ∨ spot = place) : (s.addFolder place).isFolder spot = true := by
  unfold isFolder addFolder at *
  simp only [Bool.or_eq_true, List.contains_iff_mem, List.mem_cons] at h ⊢
  obtain (hroot | hmem) | heq := h
  · exact .inl hroot
  · exact .inr (.inr hmem)
  · exact .inr (.inl heq)

/-- Folders are made, never removed. -/
theorem isFolder_makeFolders (place names : List String) {s : FileStore} {spot : List String}
    (h : s.isFolder spot = true) : (makeFolders place names s).2.isFolder spot = true := by
  induction names generalizing place s with
  | nil => exact h
  | cons name rest ih =>
      rw [makeFolders]
      split
      · exact ih _ h
      · extract_lets next
        split
        · exact ih next h
        · split
          · exact h
          · exact ih next (isFolder_addFolder (.inl h))

/-- Where the folders are there, making them changes nothing. -/
theorem makeFolders_again {place names : List String} {s made s' : FileStore}
    (h : makeFolders place names s = (true, made))
    (hfolders : ∀ spot, made.isFolder spot = true → s'.isFolder spot = true) :
    makeFolders place names s' = (true, s') := by
  induction names generalizing place s with
  | nil => rfl
  | cons name rest ih =>
      rw [makeFolders] at h ⊢
      split at h
      · rename_i hname
        rw [if_pos hname]
        exact ih h
      · rename_i hname
        rw [if_neg hname]
        extract_lets next at h
        have hnext : ∀ {t : FileStore}, makeFolders next rest t = (true, made) →
            t.isFolder next = true → s'.isFolder next = true := by
          intro t ht hthere
          have hmade := isFolder_makeFolders next rest hthere
          rw [ht] at hmade
          exact hfolders next hmade
        split at h
        · rename_i hthere
          rw [if_pos (hnext h hthere)]
          exact ih h
        · split at h
          · cases h
          · rw [if_pos (hnext h (isFolder_addFolder (.inr rfl)))]
            exact ih h

/-- A file that was written can be written again. -/
theorem write_again {s s' : FileStore} {folder : List String} {path text : String}
    (h : s.write folder path text = (true, s')) (other : String) :
    (s'.write folder path other).1 = true := by
  unfold write at h
  split at h
  · cases h
  · rename_i made hmade
    split at h
    · cases h
    · rename_i place hplace
      split at h
      · cases h
      · rename_i hfolder
        cases h
        let written := made.addFile place (some text)
        have hagain : makeFolders (origin folder path) (PathText.names path).dropLast written =
            (true, written) := makeFolders_again hmade fun _ hspot => hspot
        have hlocate : written.locate? folder path = some place :=
          (locate?_congr rfl folder path).trans hplace
        have hnot : ¬ written.isFolder place = true := hfolder
        rw [write, hagain]
        simp only [hlocate, if_neg hnot]

end FileStore

/-! ### Absolute paths -/

namespace PathText

theorem isAbsolute_append {path : String} (h : isAbsolute path) (rest : String) :
    isAbsolute (path ++ rest) := by
  unfold isAbsolute at h ⊢
  rw [String.toList_append]
  cases hpath : path.toList with
  | nil => simp [hpath] at h
  | cons c cs => simpa [hpath] using h

theorem isAbsolute_join {folder : String} (h : isAbsolute folder) (path : String) :
    isAbsolute (join folder path) := by
  unfold join
  split
  · assumption
  · split
    · exact isAbsolute_append h path
    · exact isAbsolute_append (isAbsolute_append h "/") path

theorem join_of_isAbsolute {path : String} (h : isAbsolute path) (folder : String) :
    join folder path = path := if_pos h

end PathText

end BranchingStory.Console
