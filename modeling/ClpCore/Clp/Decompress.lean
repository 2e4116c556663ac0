import ClpCore.Clp.Decompression

/-!
# Which files `clp::decompress` decompresses, and what it reports

`clp::decompress` first creates the parent of the output directory and returns false where that
fails. Inside a `try` block it then opens the global metadata database, walks the archives it
lists and hands each file it selects to the file decompressor, which writes the file to a
temporary path and records that path in `temp_path_to_final_path`. It then runs the renaming pass
of `ClpCore.Clp.Decompression` and closes the database; a `TraceableException` thrown by any of
these calls makes it return false. Last it logs each requested path that no decompressed file had.
How it walks the archives depends on how many paths were requested: with none it decompresses
every file of every archive and restores each archive's empty directories; with one it asks the
database for the archives that hold that path and each of them for the files at it; with more it
walks every archive and skips each file whose path was not requested. Each archive is opened, its
dictionaries read, and closed after its files.

The database, the archive reader and the file decompressor are not part of this model: what
their iterators yield and which of their calls throw is an `ArchiveIndex`, whether
`create_directory` succeeds is a parameter, and so are `decompress_file` and
`decompress_empty_directories`. The results hold for every choice of them; where the renaming
pass needs something of the file decompressor, it is a hypothesis.

## Main definitions

- `PathSet` — `files_to_decompress`
- `ArchiveIndex` — what the database's and the archive reader's iterators yield
- `decompressFiles`, `decompressArchives` — the loops over an archive's files and over archives
- `decompressSelected` — the three ways of walking the archives
- `decompress` — the whole function
- `ArchiveIndex.holds` — whether a requested path is found

## Main results

- `decompressSelected_mem` — the paths recorded in `decompressed_files`
- `decompress_notFound` — the paths logged as not found
- `decompress_requested_only` — with paths requested, no other file is decompressed
- `decompress_moves` — `decompress` returns false only where `create_directory` fails, a call
  throws or a file's decompression fails, and otherwise moves every temporary file to a name of
  its own
-/

namespace ClpCore.Clp

/-- `files_to_decompress`, an `unordered_set<string>`: its paths in iteration order, each once. -/
structure PathSet where
  paths : List String
  nodup : paths.Nodup

/-- What `clp::decompress` reads through the global metadata database and the archive reader:
the archives and files their iterators yield, in order, the original path of each file, and
which of their calls return rather than throw a `TraceableException`. -/
structure ArchiveIndex (A F : Type) where
  /-- `global_metadata_db.get_archive_iterator()` -/
  archives : List A
  /-- `global_metadata_db.get_archive_iterator_for_file_path(file_path)` -/
  archivesForFilePath : String → List A
  /-- `archive_reader.get_file_iterator()` on the opened archive -/
  files : A → List F
  /-- `archive_reader.get_file_iterator(file_path)` on the opened archive -/
  filesForFilePath : A → String → List F
  /-- `file_metadata_ix.get_path(orig_path)` -/
  origPath : F → String
  /-- `global_metadata_db.open` returns -/
  dbOpens : Bool
  /-- `archive_reader.open` returns on the archive -/
  archiveOpens : A → Bool
  /-- `archive_reader.refresh_dictionaries()` returns on the opened archive -/
  refreshesDictionaries : A → Bool
  /-- `archive_reader.close()` returns on the opened archive -/
  archiveCloses : A → Bool
  /-- `global_metadata_db.close()` returns -/
  dbCloses : Bool

variable {A F σ α : Type}

/-- The loop over one archive's files: each file `select` keeps goes to `decompress_file`, and
`record` of it into `decompressed_files`; `none` at the first file whose decompression fails,
where `decompress` returns false. -/
def decompressFiles (decompressFile : σ → F → Option σ) (select : F → Bool) (record : F → String) :
    List F → σ → List String → Option (σ × List String)
  | [], s, decompressedFiles => some (s, decompressedFiles)
  | file :: files, s, decompressedFiles =>
    if select file then
      (decompressFile s file).bind fun s' =>
        decompressFiles decompressFile select record files s' (decompressedFiles.insert (record file))
    else decompressFiles decompressFile select record files s decompressedFiles

/-- The loop over the archives: `openArchive` is what is done on opening an archive before its
files are read, then the loop over the files `files` yields for it, then `closeArchive`; `none`
where one of them fails. -/
def decompressArchives (decompressFile : σ → F → Option σ) (select : F → Bool)
    (record : F → String) (openArchive : σ → A → Option σ) (closeArchive : A → Bool)
    (files : A → List F) : List A → σ → List String → Option (σ × List String)
  | [], s, decompressedFiles => some (s, decompressedFiles)
  | archive :: archives, s, decompressedFiles =>
    (openArchive s archive).bind fun s =>
      (decompressFiles decompressFile select record (files archive) s decompressedFiles).bind
        fun r => if closeArchive archive then
          decompressArchives decompressFile select record openArchive closeArchive files archives
            r.1 r.2
        else none

/-- `archive_reader.open` and `refresh_dictionaries` on an archive, then `afterOpen`; `none` where
one of them throws. -/
def ArchiveIndex.openArchive (idx : ArchiveIndex A F) (afterOpen : σ → A → Option σ) (s : σ)
    (archive : A) : Option σ :=
  if idx.archiveOpens archive && idx.refreshesDictionaries archive then afterOpen s archive
  else none

/-- The three ways `clp::decompress` walks the archives, by the number of paths requested; the
state it leaves and `decompressed_files`, or `none` where a file's decompression fails or a call
on an archive throws. With one path, each file the iterators yield is recorded under the
requested path. -/
def decompressSelected (idx : ArchiveIndex A F) (decompressFile : σ → F → Option σ)
    (decompressEmptyDirectories : σ → A → Option σ) (filesToDecompress : PathSet) (s : σ) :
    Option (σ × List String) :=
  match filesToDecompress.paths with
  | [] =>
    decompressArchives decompressFile (fun _ => true) idx.origPath
      (idx.openArchive decompressEmptyDirectories) idx.archiveCloses idx.files idx.archives s []
  | [filePath] =>
    decompressArchives decompressFile (fun _ => true) (fun _ => filePath)
      (idx.openArchive fun s _ => some s) idx.archiveCloses
      (fun archive => idx.filesForFilePath archive filePath) (idx.archivesForFilePath filePath) s []
  | paths =>
    decompressArchives decompressFile (fun file => paths.contains (idx.origPath file))
      idx.origPath (idx.openArchive fun s _ => some s) idx.archiveCloses idx.files idx.archives s []

/-- The state `clp::decompress` works on: the disk, and `temp_path_to_final_path`, which the file
decompressor fills. -/
structure DecompressState (α : Type) where
  fs : FileSystem α
  tempPathToFinalPath : List (String × String)

/-- The paths `clp::decompress` logs as not found in any archive: the requested paths that are not
in `decompressed_files` (none where no path was requested). -/
def notFound (filesToDecompress : PathSet) (decompressedFiles : List String) : List String :=
  filesToDecompress.paths.filter fun file => !decompressedFiles.contains file

/-- `clp::decompress`: `none` where it returns false; otherwise the file system it leaves and the
paths it logs as not found in any archive. `createDirectory` is whether `create_directory` of the
output directory's parent returns `ErrorCode_Success`. -/
def decompress (idx : ArchiveIndex A F) (createDirectory : Bool)
    (decompressFile : DecompressState α → F → Option (DecompressState α))
    (decompressEmptyDirectories : DecompressState α → A → Option (DecompressState α))
    (filesToDecompress : PathSet) (fs : FileSystem α) : Option (FileSystem α × List String) :=
  if !createDirectory then none
  else if !idx.dbOpens then none
  else do
    let r ← decompressSelected idx decompressFile decompressEmptyDirectories filesToDecompress
      ⟨fs, []⟩
    let fs' ← renameTempFiles r.1.fs r.1.tempPathToFinalPath
    if !idx.dbCloses then none
    else return (fs', notFound filesToDecompress r.2)

-- ════════════════════════════════════════════════════════════════════════
-- What the loops record
-- ════════════════════════════════════════════════════════════════════════

section Loops

variable {decompressFile : σ → F → Option σ} {select : F → Bool} {record : F → String}
  {openArchive : σ → A → Option σ} {closeArchive : A → Bool}

/-- What a run of the loop over an archive's files records: what was recorded before, and `record`
of each file it selects. -/
theorem decompressFiles_mem :
    ∀ {files : List F} {s s' : σ} {d d' : List String},
      decompressFiles decompressFile select record files s d = some (s', d') →
        ∀ path, path ∈ d' ↔ path ∈ d ∨ ∃ file ∈ files, select file = true ∧ record file = path
  | [], _, _, _, _, h, path => by cases h; simp
  | file :: files, s, s', d, d', h, path => by
    rw [decompressFiles] at h
    split at h
    · next hsel =>
      obtain ⟨s1, -, h⟩ := Option.bind_eq_some.mp h
      rw [decompressFiles_mem h, List.mem_insert_iff]
      constructor
      · rintro ((rfl | h) | ⟨f, hf, hs, rfl⟩)
        · exact .inr ⟨file, .head _, hsel, rfl⟩
        · exact .inl h
        · exact .inr ⟨f, .tail _ hf, hs, rfl⟩
      · rintro (h | ⟨f, hf | ⟨_, hf⟩, hs, rfl⟩)
        · exact .inl (.inr h)
        · exact .inl (.inl rfl)
        · exact .inr ⟨f, hf, hs, rfl⟩
    · next hsel =>
      rw [decompressFiles_mem h]
      refine or_congr_right ⟨fun ⟨f, hf, hs, hr⟩ => ⟨f, .tail _ hf, hs, hr⟩, ?_⟩
      rintro ⟨f, hf | ⟨_, hf⟩, hs, hr⟩
      · exact absurd hs hsel
      · exact ⟨f, hf, hs, hr⟩

theorem decompressArchives_mem {files : A → List F} :
    ∀ {archives : List A} {s s' : σ} {d d' : List String},
      decompressArchives decompressFile select record openArchive closeArchive files archives s d =
          some (s', d') →
        ∀ path, path ∈ d' ↔
          path ∈ d ∨ ∃ archive ∈ archives, ∃ file ∈ files archive,
            select file = true ∧ record file = path
  | [], _, _, _, _, h, path => by cases h; simp
  | archive :: archives, s, s', d, d', h, path => by
    obtain ⟨s1, -, h⟩ := Option.bind_eq_some.mp h
    obtain ⟨r, h1, h2⟩ := Option.bind_eq_some.mp h
    split at h2
    · rw [decompressArchives_mem h2, decompressFiles_mem h1, or_assoc]
      simp only [List.mem_cons, or_and_right, exists_or, exists_eq_left]
    · cases h2

variable (P : σ → Prop)

/-- The loop over an archive's files keeps every invariant that `decompress_file` keeps. -/
theorem decompressFiles_inv (hfile : ∀ s file s', decompressFile s file = some s' → P s → P s') :
    ∀ {files : List F} {s s' : σ} {d d' : List String},
      decompressFiles decompressFile select record files s d = some (s', d') → P s → P s'
  | [], _, _, _, _, h, hs => by cases h; exact hs
  | file :: files, s, s', d, d', h, hs => by
    rw [decompressFiles] at h
    split at h
    · obtain ⟨s1, h1, h⟩ := Option.bind_eq_some.mp h
      exact decompressFiles_inv hfile h (hfile _ _ _ h1 hs)
    · exact decompressFiles_inv hfile h hs

theorem decompressArchives_inv (hfile : ∀ s file s', decompressFile s file = some s' → P s → P s')
    (hopen : ∀ s archive s', openArchive s archive = some s' → P s → P s') {files : A → List F} :
    ∀ {archives : List A} {s s' : σ} {d d' : List String},
      decompressArchives decompressFile select record openArchive closeArchive files archives s d =
        some (s', d') → P s → P s'
  | [], _, _, _, _, h, hs => by cases h; exact hs
  | archive :: archives, s, s', d, d', h, hs => by
    obtain ⟨s1, h0, h⟩ := Option.bind_eq_some.mp h
    obtain ⟨r, h1, h2⟩ := Option.bind_eq_some.mp h
    split at h2
    · exact decompressArchives_inv hfile hopen h2
        (decompressFiles_inv P hfile h1 (hopen _ _ _ h0 hs))
    · cases h2

/-- The loop over an archive's files hands `decompress_file` only the files it selects. -/
theorem decompressFiles_congr {decompressFile' : σ → F → Option σ} :
    ∀ {files : List F}, (∀ file ∈ files, select file = true →
        ∀ s, decompressFile s file = decompressFile' s file) →
      ∀ s d, decompressFiles decompressFile select record files s d =
        decompressFiles decompressFile' select record files s d
  | [], _, _, _ => rfl
  | file :: files, h, s, d => by
    have ih := decompressFiles_congr fun f (hf : f ∈ files) => h f (.tail _ hf)
    rw [decompressFiles, decompressFiles]
    split
    · next hsel => simp only [h file (.head _) hsel s, ih]
    · exact ih s d

theorem decompressArchives_congr {decompressFile' : σ → F → Option σ} {files : A → List F} :
    ∀ {archives : List A}, (∀ archive ∈ archives, ∀ file ∈ files archive, select file = true →
        ∀ s, decompressFile s file = decompressFile' s file) →
      ∀ s d, decompressArchives decompressFile select record openArchive closeArchive files
          archives s d =
        decompressArchives decompressFile' select record openArchive closeArchive files archives s d
  | [], _, _, _ => rfl
  | archive :: archives, h, s, d => by
    simp only [decompressArchives, decompressFiles_congr (h archive (.head _)),
      decompressArchives_congr fun a ha => h a (.tail _ ha)]

end Loops

-- ════════════════════════════════════════════════════════════════════════
-- The three ways of walking the archives
-- ════════════════════════════════════════════════════════════════════════

section Selection

variable {idx : ArchiveIndex A F} {decompressFile : σ → F → Option σ}
  {decompressEmptyDirectories : σ → A → Option σ} {filesToDecompress : PathSet}

/-- Whether `clp::decompress` finds a file for the requested path `path`: with one path
requested, whether the archives the database lists for it yield any file at it; otherwise,
whether some archive holds a file whose original path is `path`. -/
def ArchiveIndex.holds (idx : ArchiveIndex A F) (filesToDecompress : PathSet) (path : String) :
    Bool :=
  match filesToDecompress.paths with
  | [filePath] =>
    (idx.archivesForFilePath filePath).any fun archive =>
      !(idx.filesForFilePath archive filePath).isEmpty
  | _ => idx.archives.any fun archive => (idx.files archive).any fun file => idx.origPath file == path

/-- **What `decompressed_files` holds.** After a run in which every decompression succeeds, a
requested path is in `decompressed_files` exactly when `decompress` found a file for it. -/
theorem decompressSelected_mem {s s' : σ} {d : List String}
    (h : decompressSelected idx decompressFile decompressEmptyDirectories filesToDecompress s =
      some (s', d))
    {path : String} (hpath : path ∈ filesToDecompress.paths) :
    path ∈ d ↔ idx.holds filesToDecompress path = true := by
  obtain ⟨paths, hnodup⟩ := filesToDecompress
  rcases paths with _ | ⟨filePath, _ | ⟨path', paths⟩⟩
  · cases hpath
  · obtain rfl := List.mem_singleton.mp hpath
    simp only [decompressSelected, ArchiveIndex.holds] at h ⊢
    simp only [decompressArchives_mem h, List.not_mem_nil, false_or, List.any_eq_true,
      Bool.not_eq_true', List.isEmpty_eq_false, and_true, exists_and_right]
    exact exists_congr fun _ => and_congr_right fun _ =>
      ⟨fun ⟨_, hf⟩ => List.ne_nil_of_mem hf, List.exists_mem_of_ne_nil _⟩
  · simp only [decompressSelected, ArchiveIndex.holds] at h ⊢
    simp only [decompressArchives_mem h, List.not_mem_nil, false_or, List.any_eq_true, beq_iff_eq]
    exact exists_congr fun _ => and_congr_right fun _ => exists_congr fun file =>
      and_congr_right fun _ => ⟨fun h => h.2, fun h => ⟨by simpa [h] using hpath, h⟩⟩

end Selection

-- ════════════════════════════════════════════════════════════════════════
-- The whole function
-- ════════════════════════════════════════════════════════════════════════

section Decompress

variable {idx : ArchiveIndex A F} {createDirectory : Bool}
  {decompressFile : DecompressState α → F → Option (DecompressState α)}
  {decompressEmptyDirectories : DecompressState α → A → Option (DecompressState α)}
  {filesToDecompress : PathSet}

theorem decompress_eq_some {fs fs' : FileSystem α} {report : List String}
    (h : decompress idx createDirectory decompressFile decompressEmptyDirectories filesToDecompress
      fs = some (fs', report)) :
    createDirectory = true ∧ idx.dbOpens = true ∧ idx.dbCloses = true ∧
      ∃ s d, decompressSelected idx decompressFile decompressEmptyDirectories filesToDecompress
          ⟨fs, []⟩ = some (s, d) ∧
        renameTempFiles s.fs s.tempPathToFinalPath = some fs' ∧
        report = notFound filesToDecompress d := by
  unfold decompress at h
  split at h
  · cases h
  split at h
  · cases h
  next hc ho =>
  obtain ⟨⟨s, d⟩, h1, h⟩ := Option.bind_eq_some.mp h
  obtain ⟨fs'', h2, h⟩ := Option.bind_eq_some.mp h
  split at h
  · cases h
  next hcl =>
  cases h
  exact ⟨by simpa using hc, by simpa using ho, by simpa using hcl, s, d, h1, h2, rfl⟩

/-- **What `clp::decompress` logs as not found.** When it returns true, the paths it logs are the
requested paths for which it found no file, in the request's order: with one path requested, the
path when the archives the database lists for it yield no file at it; with more, each path that
no archive holds a file at. A requested path that is not found does not make it return false. -/
theorem decompress_notFound {fs fs' : FileSystem α} {report : List String}
    (h : decompress idx createDirectory decompressFile decompressEmptyDirectories filesToDecompress fs =
      some (fs', report)) :
    report = filesToDecompress.paths.filter fun path => !idx.holds filesToDecompress path := by
  obtain ⟨-, -, -, s, d, h1, -, rfl⟩ := decompress_eq_some h
  exact List.filter_congr fun path hpath =>
    congrArg (!·) (Bool.eq_iff_iff.mpr (List.elem_iff.trans (decompressSelected_mem h1 hpath)))

/-- An archive holding `a.log` and `b.log`. -/
def logArchive : ArchiveIndex Unit String where
  archives := [()]
  archivesForFilePath _ := [()]
  files _ := ["a.log", "b.log"]
  filesForFilePath _ path := ["a.log", "b.log"].filter (· == path)
  origPath := id
  dbOpens := true
  archiveOpens _ := true
  refreshesDictionaries _ := true
  archiveCloses _ := true
  dbCloses := true

/-- Asked for `a.log` and `c.log`, `decompress` logs `c.log` as not found. -/
theorem decompress_notFound_missing :
    decompress logArchive true (fun s _ => some s) (fun s _ => some s) ⟨["a.log", "c.log"], by decide⟩
        rotatedLog = some (rotatedLog, ["c.log"]) ∧
      ["c.log"] = ["a.log", "c.log"].filter fun path =>
        !logArchive.holds ⟨["a.log", "c.log"], by decide⟩ path :=
  have h : decompress logArchive true (fun s _ => some s) (fun s _ => some s)
      ⟨["a.log", "c.log"], by decide⟩ rotatedLog = some (rotatedLog, ["c.log"]) := rfl
  ⟨h, decompress_notFound h⟩

/-- **`clp::decompress` decompresses only what was requested.** When paths are requested, and the
archive reader's iterator for a path yields only files at that path, `decompress` hands
`decompress_file` no file whose path was not requested: two file decompressors that agree on the
files at requested paths give the same outcome. -/
theorem decompress_requested_only
    {decompressFile' : DecompressState α → F → Option (DecompressState α)} {fs : FileSystem α}
    (hreq : filesToDecompress.paths ≠ [])
    (hiter : ∀ archive path file, file ∈ idx.filesForFilePath archive path →
      idx.origPath file = path)
    (hagree : ∀ s file, idx.origPath file ∈ filesToDecompress.paths →
      decompressFile s file = decompressFile' s file) :
    decompress idx createDirectory decompressFile decompressEmptyDirectories filesToDecompress fs =
      decompress idx createDirectory decompressFile' decompressEmptyDirectories filesToDecompress fs := by
  have hsel : decompressSelected idx decompressFile decompressEmptyDirectories filesToDecompress
      ⟨fs, []⟩ =
        decompressSelected idx decompressFile' decompressEmptyDirectories filesToDecompress
          ⟨fs, []⟩ := by
    obtain ⟨paths, hnodup⟩ := filesToDecompress
    rcases paths with _ | ⟨filePath, _ | ⟨path', paths⟩⟩
    · exact absurd rfl hreq
    · exact decompressArchives_congr (fun archive _ file hf _ s =>
        hagree s file (List.mem_singleton.mpr (hiter archive filePath file hf))) _ _
    · exact decompressArchives_congr (fun _ _ file _ hsel s => hagree s file (List.elem_iff.mp hsel))
        _ _
  simp only [decompress, hsel]

/-- Asked for `a.log` and `c.log`, `decompress` never hands `b.log` to the file decompressor: one
that would fail on it gives the same outcome. -/
theorem decompress_requested_only_b :
    (["a.log", "c.log"] ≠ []) ∧
      (∀ archive path file, file ∈ logArchive.filesForFilePath archive path →
        logArchive.origPath file = path) ∧
      (∀ (s : DecompressState Unit) file, logArchive.origPath file ∈ ["a.log", "c.log"] →
        some s = if file = "b.log" then none else some s) ∧
      decompress logArchive true (fun s _ => some s) (fun s _ => some s) ⟨["a.log", "c.log"], by decide⟩
          rotatedLog =
        decompress logArchive true (fun s file => if file = "b.log" then none else some s)
          (fun s _ => some s) ⟨["a.log", "c.log"], by decide⟩ rotatedLog :=
  have hiter : ∀ archive path file, file ∈ logArchive.filesForFilePath archive path →
      logArchive.origPath file = path := fun _ _ _ hf => by
    simpa [logArchive] using (List.mem_filter.mp hf).2
  have hagree : ∀ (s : DecompressState Unit) file, logArchive.origPath file ∈ ["a.log", "c.log"] →
      some s = if file = "b.log" then none else some s := fun s file hf => by
    rw [if_neg]
    rintro rfl
    revert hf
    decide
  ⟨by decide, hiter, hagree, decompress_requested_only (by decide) hiter hagree⟩

/-- What the renaming pass needs of `clp::decompress`'s state: each temporary path recorded once
and holding a file, on a disk with fewer than `SIZE_MAX` files. -/
structure DecompressState.Ready (s : DecompressState α) : Prop where
  nodup : (s.tempPathToFinalPath.map Prod.fst).Nodup
  exists_temp : ∀ p ∈ s.tempPathToFinalPath, s.fs.exists p.1 = true
  size_lt : s.fs.paths.length < sizeMax

theorem ArchiveIndex.openArchive_inv (P : σ → Prop) {afterOpen : σ → A → Option σ}
    (hafter : ∀ s archive s', afterOpen s archive = some s' → P s → P s') :
    ∀ s archive s', idx.openArchive afterOpen s archive = some s' → P s → P s' := by
  intro s archive s' h hs
  unfold ArchiveIndex.openArchive at h
  split at h
  · exact hafter s archive s' h hs
  · cases h

theorem decompressSelected_ready
    (hfile : ∀ s file s', decompressFile s file = some s' → s.Ready → s'.Ready)
    (hdirs : ∀ s archive s', decompressEmptyDirectories s archive = some s' → s.Ready → s'.Ready)
    {s s' : DecompressState α} {d : List String}
    (h : decompressSelected idx decompressFile decompressEmptyDirectories filesToDecompress s =
      some (s', d))
    (hs : s.Ready) : s'.Ready := by
  have hkeep : ∀ (s : DecompressState α) (archive : A) s', some s = some s' → s.Ready →
      s'.Ready := fun _ _ _ h hs => Option.some.inj h ▸ hs
  unfold decompressSelected at h
  split at h
  · exact decompressArchives_inv _ hfile (idx.openArchive_inv _ hdirs) h hs
  all_goals exact decompressArchives_inv _ hfile (idx.openArchive_inv _ hkeep) h hs

/-- **`clp::decompress` loses no file.** Let `decompress_file` keep each temporary file it records
ready for renaming (and `decompress_empty_directories` leave them so), on a disk with fewer than
`SIZE_MAX` files. Then `decompress` returns false exactly where `create_directory` fails, the
database's `open` or `close` throws, or the walk over the archives fails: a file's decompression
fails or a call on an archive throws. A rename never fails. Where nothing fails, it returns true
having moved every temporary file to a name of its own, as `Moved` says, leaving every other file
as it was. -/
theorem decompress_moves
    (hfile : ∀ s file s', decompressFile s file = some s' → s.Ready → s'.Ready)
    (hdirs : ∀ s archive s', decompressEmptyDirectories s archive = some s' → s.Ready → s'.Ready)
    {fs : FileSystem α} (hsize : fs.paths.length < sizeMax) :
    (decompress idx createDirectory decompressFile decompressEmptyDirectories filesToDecompress fs =
        none ↔
      createDirectory = false ∨ idx.dbOpens = false ∨
        decompressSelected idx decompressFile decompressEmptyDirectories filesToDecompress
          ⟨fs, []⟩ = none ∨ idx.dbCloses = false) ∧
    ∀ s d, createDirectory = true → idx.dbOpens = true → idx.dbCloses = true →
      decompressSelected idx decompressFile decompressEmptyDirectories filesToDecompress
        ⟨fs, []⟩ = some (s, d) →
      ∃ fs', decompress idx createDirectory decompressFile decompressEmptyDirectories
          filesToDecompress fs = some (fs', notFound filesToDecompress d) ∧
        Moved s.fs s.tempPathToFinalPath fs' := by
  have hmoves : ∀ s d, createDirectory = true → idx.dbOpens = true → idx.dbCloses = true →
      decompressSelected idx decompressFile decompressEmptyDirectories filesToDecompress
        ⟨fs, []⟩ = some (s, d) →
      ∃ fs', decompress idx createDirectory decompressFile decompressEmptyDirectories
          filesToDecompress fs = some (fs', notFound filesToDecompress d) ∧
        Moved s.fs s.tempPathToFinalPath fs' := by
    intro s d hc ho hcl h
    have hready := decompressSelected_ready hfile hdirs h ⟨List.nodup_nil, by simp, hsize⟩
    obtain ⟨fs', hrun, hmoved⟩ :=
      renameTempFiles_moves hready.nodup hready.exists_temp hready.size_lt
    exact ⟨fs', by simp [decompress, hc, ho, hcl, h, hrun], hmoved⟩
  refine ⟨⟨fun hnone => ?_, fun h => ?_⟩, hmoves⟩
  · by_contra hne
    simp only [not_or, Bool.not_eq_false, Option.ne_none_iff_exists'] at hne
    obtain ⟨hc, ho, ⟨⟨s, d⟩, hsel⟩, hcl⟩ := hne
    obtain ⟨fs', hsome, -⟩ := hmoves s d hc ho hcl hsel
    simp [hsome] at hnone
  · refine Option.eq_none_iff_forall_not_mem.mpr fun ⟨fs', report⟩ hsome => ?_
    obtain ⟨hc, ho, hcl, s, d, hsel, -⟩ := decompress_eq_some hsome
    rcases h with h | h | h | h <;> simp [h] at hc ho hcl hsel

/-- A file decompressor that finds each file `file` decompressed at the temporary path `file.1`
and records it. -/
def recordSuffixOne (s : DecompressState α) (file : String) : Option (DecompressState α) :=
  if s.fs.exists (file ++ ".1") = true ∧ file ++ ".1" ∉ s.tempPathToFinalPath.map Prod.fst then
    some ⟨s.fs, (file ++ ".1", file) :: s.tempPathToFinalPath⟩
  else some s

/-- Asked for `a.log` next to `a.log` and `a.log.1`, `decompress` moves the temporary file `a.log.1`
to `a.log.2`. -/
theorem decompress_moves_aLog :
    (∀ (s : DecompressState Unit) file s', recordSuffixOne s file = some s' → s.Ready → s'.Ready) ∧
      (∀ (s : DecompressState Unit) (_ : Unit) s', some s = some s' → s.Ready → s'.Ready) ∧
      rotatedLog.paths.length < sizeMax ∧
      ∃ fs', decompress logArchive true recordSuffixOne (fun s _ => some s) ⟨["a.log"], by decide⟩
        rotatedLog = some (fs', []) ∧ Moved rotatedLog [("a.log.1", "a.log")] fs' :=
  have hfile : ∀ (s : DecompressState Unit) file s', recordSuffixOne s file = some s' →
      s.Ready → s'.Ready := fun s file s' h hs => by
    unfold recordSuffixOne at h
    split at h <;> cases h
    · next hc =>
      exact ⟨List.nodup_cons.mpr ⟨hc.2, hs.nodup⟩,
        List.forall_mem_cons.mpr ⟨hc.1, hs.exists_temp⟩, hs.size_lt⟩
    · exact hs
  have hdirs : ∀ (s : DecompressState Unit) (_ : Unit) s', some s = some s' → s.Ready →
      s'.Ready := fun _ _ _ h hs => Option.some.inj h ▸ hs
  have hsize : rotatedLog.paths.length < sizeMax := by decide
  have hsel : decompressSelected logArchive recordSuffixOne (fun s _ => some s) ⟨["a.log"], by decide⟩
      ⟨rotatedLog, []⟩ = some (⟨rotatedLog, [("a.log.1", "a.log")]⟩, ["a.log"]) := rfl
  ⟨hfile, hdirs, hsize,
    (decompress_moves hfile hdirs hsize).2 _ _ rfl rfl rfl hsel⟩

end Decompress

end ClpCore.Clp
