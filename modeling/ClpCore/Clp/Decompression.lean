import ClpCore.TimestampPattern.Digits

/-!
# Moving decompressed files to their final paths

`clp::decompress` writes each decompressed file to a temporary path and, once every archive has
been read, renames each temporary file to the path the file had when it was compressed. Where a
file already exists at that path it tries `path.1`, `path.2`, … and takes the first name that is
free. This file models that renaming pass over a file system and shows that, in a file system
with fewer than `SIZE_MAX` files, the pass never overwrites a file: each temporary file ends at a
name derived from its final path, no two at the same name, and every other file keeps its path
and contents.

## Main definitions

- `FileSystem` — files by path, as `boost::filesystem::exists` and `rename` see them
- `findFinalPath` — the loop that looks for a free name
- `renameTempFiles` — the loop over `temp_path_to_final_path`
- `Moved` — what the pass does to the file system

## Main results

- `findFinalPath_fresh` — the loop finds a name that no file has
- `findFinalPath_first_free` — it is the first free name of `path`, `path.1`, `path.2`, …
- `renameTempFiles_moves` — the run theorem of the renaming pass: it does what `Moved` says
- `renameTempFiles_exact` — where no final path is taken, each file ends at its final path
-/

namespace ClpCore.Clp

/-- A file system: the contents of the file at each path, and the paths that hold a file. -/
structure FileSystem (α : Type) where
  contents : String → Option α
  paths : List String
  nodup : paths.Nodup
  mem_paths : ∀ path, path ∈ paths ↔ (contents path).isSome

variable {α : Type}

/-- `boost::filesystem::exists`. -/
def FileSystem.exists (fs : FileSystem α) (path : String) : Bool :=
  (fs.contents path).isSome

theorem rename_nodup {paths : List String} (h : paths.Nodup) (src dst : String) :
    (dst :: (paths.erase src).erase dst).Nodup :=
  List.nodup_cons.mpr ⟨fun hm => ((h.erase src).mem_erase_iff.mp hm).1 rfl, (h.erase src).erase dst⟩

theorem rename_mem_paths (fs : FileSystem α) (src dst : String) (c : α) (path : String) :
    path ∈ dst :: (fs.paths.erase src).erase dst ↔
      (if path = dst then some c else if path = src then none else fs.contents path).isSome := by
  rw [List.mem_cons, (fs.nodup.erase src).mem_erase_iff, fs.nodup.mem_erase_iff, fs.mem_paths]
  by_cases h1 : path = dst <;> by_cases h2 : path = src <;> simp [h1, h2]

/-- `rename`: the file at `src` moves to `dst`, replacing any file there; `none` where no file is
at `src` and `rename` returns an error. -/
def FileSystem.rename (fs : FileSystem α) (src dst : String) : Option (FileSystem α) :=
  match fs.contents src with
  | none => none
  | some c => some
    { contents := fun path => if path = dst then some c else if path = src then none
        else fs.contents path
      paths := dst :: (fs.paths.erase src).erase dst
      nodup := rename_nodup fs.nodup src dst
      mem_paths := rename_mem_paths fs src dst c }

/-- `SIZE_MAX`. -/
def sizeMax : Nat := 2 ^ 64 - 1

/-- The inner loop of the renaming pass: while a file exists at `path`, move on to the name
`finalPath.i`, for `i` up to `SIZE_MAX`; `fuel` counts the iterations left. -/
def findFinalPath (fs : FileSystem α) (finalPath : String) : Nat → Nat → String → String
  | 0, _, path => path
  | fuel + 1, i, path =>
    if fs.exists path then findFinalPath fs finalPath fuel (i + 1) (finalPath ++ "." ++ toString i)
    else path

/-- The renaming loop of `clp::decompress` over `temp_path_to_final_path`, in its iteration order;
`none` where a `rename` fails and `decompress` returns false. -/
def renameTempFiles (fs : FileSystem α) : List (String × String) → Option (FileSystem α)
  | [] => some fs
  | (tempPath, finalPath) :: rest => do
    let fs' ← fs.rename tempPath (findFinalPath fs finalPath (sizeMax - 1) 1 finalPath)
    renameTempFiles fs' rest

/-- The names the renaming pass may give a file whose final path is `finalPath`. -/
def IsCandidate (finalPath path : String) : Prop :=
  path = finalPath ∨ ∃ k, 1 ≤ k ∧ path = finalPath ++ "." ++ toString k

/-- What the renaming pass over `pairs` does to `fs`, leaving `fs'`: each temporary file ends at
its own name `dst`, one the pass may give a file with its final path, which held no file before
unless an earlier temporary file was moved away from it; and every file that was not a temporary
file keeps its path and contents. -/
def Moved (fs : FileSystem α) (pairs : List (String × String)) (fs' : FileSystem α) : Prop :=
  ∃ dsts : List String, dsts.length = pairs.length ∧ dsts.Nodup ∧
    (∀ p dst, (p, dst) ∈ pairs.zip dsts →
      IsCandidate p.2 dst ∧ fs'.contents dst = fs.contents p.1) ∧
    (∀ dst ∈ dsts, fs.exists dst = false ∨ dst ∈ pairs.map Prod.fst) ∧
    ∀ path, path ∉ pairs.map Prod.fst → fs.exists path = true →
      fs'.contents path = fs.contents path

-- ════════════════════════════════════════════════════════════════════════
-- Renaming one file
-- ════════════════════════════════════════════════════════════════════════

theorem FileSystem.exists_iff_mem (fs : FileSystem α) (path : String) :
    fs.exists path = true ↔ path ∈ fs.paths :=
  (fs.mem_paths path).symm

/-- **Step lemma**: renaming an existing file to a free name moves its contents there and leaves
every other path as it was. -/
theorem rename_fresh {fs : FileSystem α} {src dst : String} (hsrc : fs.exists src = true)
    (hdst : fs.exists dst = false) :
    ∃ fs', fs.rename src dst = some fs' ∧ fs'.paths.length = fs.paths.length ∧
      fs'.contents dst = fs.contents src ∧ fs'.contents src = none ∧
      ∀ path, path ≠ src → path ≠ dst → fs'.contents path = fs.contents path := by
  obtain ⟨c, hc⟩ := Option.isSome_iff_exists.mp hsrc
  have hne : src ≠ dst := by rintro rfl; rw [hsrc] at hdst; cases hdst
  have hsrc_mem := (fs.exists_iff_mem src).mp hsrc
  have hdst_mem : dst ∉ fs.paths.erase src := fun h =>
    absurd ((fs.exists_iff_mem dst).mpr (List.mem_of_mem_erase h)) (by rw [hdst]; decide)
  unfold FileSystem.rename
  split
  · next h => rw [hc] at h; cases h
  · next c' h =>
    rw [hc] at h
    cases h
    refine ⟨_, rfl, ?_, by simp [hc], by simp [hne], fun path h1 h2 => by simp [h1, h2]⟩
    have := List.length_pos_of_mem hsrc_mem
    simp only [List.length_cons, List.erase_of_not_mem hdst_mem, List.length_erase_of_mem hsrc_mem]
    omega

-- ════════════════════════════════════════════════════════════════════════
-- Looking for a free name
-- ════════════════════════════════════════════════════════════════════════

theorem toString_injective : Function.Injective (toString : Nat → String) := fun n m h => by
  have h' : digitsValue 0 (Nat.toDigits 10 n) = digitsValue 0 (Nat.toDigits 10 m) :=
    congrArg (fun s : String => digitsValue 0 s.toList) h
  rwa [digitsValue_toDigits, digitsValue_toDigits] at h'

/-- The names `finalPath.i` are distinct from `finalPath` and from each other. -/
theorem suffixed_ne (finalPath : String) (i : Nat) : finalPath ++ "." ++ toString i ≠ finalPath :=
  fun h => by
    have := congrArg String.length h
    rw [String.length_append, String.length_append, show ".".length = 1 from rfl] at this
    omega

theorem suffixed_inj (finalPath : String) {i j : Nat}
    (h : finalPath ++ "." ++ toString i = finalPath ++ "." ++ toString j) : i = j := by
  have := congrArg String.data h
  simp only [String.data_append, List.append_assoc, List.append_cancel_left_eq] at this
  exact toString_injective (String.ext this)

/-- A name the loop returns where a file exists: all the names it tried before were taken too. -/
theorem findFinalPath_of_exists (fs : FileSystem α) (finalPath : String) :
    ∀ fuel i path, fs.exists (findFinalPath fs finalPath fuel i path) = true →
      fs.exists path = true ∧ ∀ k < fuel, fs.exists (finalPath ++ "." ++ toString (i + k)) = true
  | 0, _, _, h => ⟨h, fun k hk => absurd hk (Nat.not_lt_zero k)⟩
  | fuel + 1, i, path, h => by
    rw [findFinalPath] at h
    split at h
    · next hp =>
      obtain ⟨h1, h2⟩ := findFinalPath_of_exists fs finalPath fuel (i + 1) _ h
      refine ⟨hp, fun k hk => ?_⟩
      rcases k with _ | k
      · exact h1
      · rw [show i + (k + 1) = i + 1 + k by omega]
        exact h2 k (by omega)
    · next hp => exact absurd h hp

theorem findFinalPath_isCandidate (fs : FileSystem α) (finalPath : String) :
    ∀ fuel i path, 1 ≤ i → IsCandidate finalPath path →
      IsCandidate finalPath (findFinalPath fs finalPath fuel i path)
  | 0, _, _, _, h => h
  | fuel + 1, i, path, hi, h => by
    rw [findFinalPath]
    split
    · exact findFinalPath_isCandidate fs finalPath fuel (i + 1) _ (by omega) (.inr ⟨i, hi, rfl⟩)
    · exact h

/-- **The loop finds a free name** when the file system has no more files than the loop has
iterations: the names it tries are distinct, so they cannot all be taken. -/
theorem findFinalPath_fresh (fs : FileSystem α) (finalPath : String) {fuel : Nat}
    (hsize : fs.paths.length ≤ fuel) :
    fs.exists (findFinalPath fs finalPath fuel 1 finalPath) = false := by
  by_contra hex
  obtain ⟨h0, hk⟩ := findFinalPath_of_exists fs finalPath fuel 1 finalPath
    (Bool.not_eq_false _ ▸ hex)
  have hnodup : (finalPath :: (List.range fuel).map fun k => finalPath ++ "." ++ toString (1 + k)).Nodup :=
    List.nodup_cons.mpr
      ⟨by simpa using fun k _ => suffixed_ne finalPath (1 + k),
        (List.nodup_range fuel).map fun k k' h => by have := suffixed_inj finalPath h; omega⟩
  have hsub : (finalPath :: (List.range fuel).map fun k => finalPath ++ "." ++ toString (1 + k)) ⊆
      fs.paths := by
    intro path hpath
    rcases List.mem_cons.mp hpath with rfl | hpath
    · exact (fs.exists_iff_mem _).mp h0
    · obtain ⟨k, hk', rfl⟩ := List.mem_map.mp hpath
      exact (fs.exists_iff_mem _).mp (hk k (List.mem_range.mp hk'))
  have := (hnodup.subperm hsub).length_le
  simp only [List.length_cons, List.length_map, List.length_range] at this
  omega

/-- What the loop returns: the name it started from, or the first `finalPath.k` from `k = i` on
that no file has when the name it started from is taken, or the last name it tried. -/
theorem findFinalPath_spec (fs : FileSystem α) (finalPath : String) :
    ∀ fuel i path, fs.exists (findFinalPath fs finalPath fuel i path) = false →
      findFinalPath fs finalPath fuel i path = path ∨
        ∃ k < fuel, findFinalPath fs finalPath fuel i path = finalPath ++ "." ++ toString (i + k) ∧
          fs.exists path = true ∧ ∀ j < k, fs.exists (finalPath ++ "." ++ toString (i + j)) = true
  | 0, _, _, _ => .inl rfl
  | fuel + 1, i, path, h => by
    rw [findFinalPath] at h ⊢
    split
    · next hp =>
      right
      rcases findFinalPath_spec fs finalPath fuel (i + 1) _ (by rwa [if_pos hp] at h) with
        h' | ⟨k, hk, h', hpi, hj⟩
      · exact ⟨0, by omega, h', hp, fun j hj => absurd hj (Nat.not_lt_zero j)⟩
      · refine ⟨k + 1, by omega, by rw [h']; congr 2; omega, hp, fun j hj' => ?_⟩
        rcases j with _ | j
        · exact hpi
        · rw [show i + (j + 1) = i + 1 + j by omega]
          exact hj j (by omega)
    · exact .inl rfl

/-- **The loop takes the first free name.** In a file system with no more files than the loop has
iterations, the name it returns is free, and it is `finalPath` when that is free, and otherwise
`finalPath.k` for the least `k ≥ 1` such that no file has that name. -/
theorem findFinalPath_first_free (fs : FileSystem α) (finalPath : String) {fuel : Nat}
    (hsize : fs.paths.length ≤ fuel) :
    fs.exists (findFinalPath fs finalPath fuel 1 finalPath) = false ∧
      (findFinalPath fs finalPath fuel 1 finalPath = finalPath ∨
        ∃ k, 1 ≤ k ∧ findFinalPath fs finalPath fuel 1 finalPath = finalPath ++ "." ++ toString k ∧
          fs.exists finalPath = true ∧
          ∀ j, 1 ≤ j → j < k → fs.exists (finalPath ++ "." ++ toString j) = true) := by
  have hfresh := findFinalPath_fresh fs finalPath hsize
  refine ⟨hfresh, ?_⟩
  rcases findFinalPath_spec fs finalPath fuel 1 finalPath hfresh with h | ⟨k, -, h, hp, hj⟩
  · exact .inl h
  · refine .inr ⟨1 + k, by omega, h, hp, fun j hj1 hjk => ?_⟩
    rw [show j = 1 + (j - 1) by omega]
    exact hj (j - 1) (by omega)

/-- A file system holding `a.log` and `a.log.1`. -/
def rotatedLog : FileSystem Unit where
  contents path := if path ∈ ["a.log", "a.log.1"] then some () else none
  paths := ["a.log", "a.log.1"]
  nodup := by decide
  mem_paths path := by by_cases h : path ∈ ["a.log", "a.log.1"] <;> simp [h]

/-- Next to `a.log` and `a.log.1`, the loop picks `a.log.2`. -/
theorem findFinalPath_first_free_rotated :
    rotatedLog.paths.length ≤ 2 ∧ findFinalPath rotatedLog "a.log" 2 1 "a.log" = "a.log.2" ∧
      rotatedLog.exists (findFinalPath rotatedLog "a.log" 2 1 "a.log") = false :=
  ⟨by decide, by decide, (findFinalPath_first_free rotatedLog "a.log" (by decide)).1⟩

-- ════════════════════════════════════════════════════════════════════════
-- The renaming pass
-- ════════════════════════════════════════════════════════════════════════

/-- **The renaming pass loses no file.** Given temporary files that exist, each named once, in a
file system with fewer than `SIZE_MAX` files, every `rename` succeeds and the pass moves each
temporary file to a name of its own, as `Moved` says. -/
theorem renameTempFiles_moves :
    ∀ {fs : FileSystem α} {pairs : List (String × String)}, (pairs.map Prod.fst).Nodup →
      (∀ p ∈ pairs, fs.exists p.1 = true) → fs.paths.length < sizeMax →
      ∃ fs', renameTempFiles fs pairs = some fs' ∧ Moved fs pairs fs'
  | fs, [], _, _, _ => ⟨fs, rfl, [], rfl, List.nodup_nil, by simp, by simp, fun _ _ _ => rfl⟩
  | fs, (temp, final) :: rest, hnodup, hexist, hsize => by
    obtain ⟨htemp, hnodup'⟩ := List.nodup_cons.mp hnodup
    obtain ⟨dst, hd⟩ : ∃ dst, findFinalPath fs final (sizeMax - 1) 1 final = dst := ⟨_, rfl⟩
    have hdst : fs.exists dst = false :=
      hd ▸ findFinalPath_fresh fs final (Nat.le_sub_one_of_lt hsize)
    obtain ⟨fs1, hfs1, hlen, hmoved, -, hframe⟩ := rename_fresh (hexist _ (.head _)) hdst
    -- every file other than the one moved keeps its contents
    have hframe' : ∀ path, path ≠ temp → fs.exists path = true →
        fs1.contents path = fs.contents path := fun path ht hex =>
      hframe path ht (by rintro rfl; rw [hex] at hdst; cases hdst)
    have hrest : ∀ p ∈ rest, p.1 ≠ temp := fun p hp h =>
      htemp (show temp ∈ _ from h ▸ List.mem_map_of_mem _ hp)
    obtain ⟨fs', hrun, dsts, hlen', hnd, hzip, hfresh, hkeep⟩ := renameTempFiles_moves hnodup'
      (fun p hp => by
        rw [FileSystem.exists, hframe' _ (hrest p hp) (hexist p (.tail _ hp))]
        exact hexist p (.tail _ hp))
      (hlen ▸ hsize)
    have hdst1 : fs1.exists dst = true := by
      rw [FileSystem.exists, hmoved]
      exact hexist _ (.head _)
    have hdst_rest : dst ∉ rest.map Prod.fst := fun h => by
      obtain ⟨p, hp, rfl⟩ := List.mem_map.mp h
      rw [hexist p (.tail _ hp)] at hdst
      cases hdst
    refine ⟨fs', ?_, dst :: dsts, by simp [hlen'], ?_, ?_, ?_, ?_⟩
    · rw [renameTempFiles, hd, hfs1]
      exact hrun
    · refine List.nodup_cons.mpr ⟨fun hmem => ?_, hnd⟩
      rcases hfresh _ hmem with h | h
      · rw [hdst1] at h; cases h
      · exact hdst_rest h
    · intro p d hp
      rcases List.mem_cons.mp (List.zip_cons_cons ▸ hp) with h | h
      · cases h
        exact ⟨hd ▸ findFinalPath_isCandidate fs final _ 1 final le_rfl (.inl rfl),
          (hkeep _ hdst_rest hdst1).trans hmoved⟩
      · have hpr := (List.of_mem_zip h).1
        rw [(hzip p d h).2, hframe' _ (hrest p hpr) (hexist p (.tail _ hpr))]
        exact ⟨(hzip p d h).1, rfl⟩
    · intro d hmem
      rcases List.mem_cons.mp hmem with rfl | hmem
      · exact .inl hdst
      · rcases hfresh d hmem with h | h
        · by_cases ht : d = temp
          · exact .inr (ht ▸ List.mem_cons_self _ _)
          · have hne : d ≠ dst := by rintro rfl; rw [hdst1] at h; cases h
            rw [FileSystem.exists, hframe _ ht hne] at h
            exact .inl h
        · exact .inr (List.mem_cons_of_mem _ h)
    · intro path hpath hex
      have ht : path ≠ temp := fun h => hpath (h ▸ List.mem_cons_self _ _)
      rw [hkeep path (fun h => hpath (List.mem_cons_of_mem _ h))
        (by rw [FileSystem.exists, hframe' _ ht hex]; exact hex), hframe' _ ht hex]

/-- **Where nothing is in the way, every file ends at its final path.** When the temporary files
exist, each named once, and their final paths are distinct and hold no file, the renaming pass
moves each temporary file to exactly its final path, removes the temporary file, and leaves every
other path as it was. -/
theorem renameTempFiles_exact :
    ∀ {fs : FileSystem α} {pairs : List (String × String)}, (pairs.map Prod.fst).Nodup →
      (pairs.map Prod.snd).Nodup → (∀ p ∈ pairs, fs.exists p.1 = true) →
      (∀ p ∈ pairs, fs.exists p.2 = false) →
      ∃ fs', renameTempFiles fs pairs = some fs' ∧
        (∀ p ∈ pairs, fs'.contents p.2 = fs.contents p.1 ∧ fs'.contents p.1 = none) ∧
        ∀ path, (∀ p ∈ pairs, path ≠ p.1 ∧ path ≠ p.2) → fs'.contents path = fs.contents path
  | fs, [], _, _, _, _ => ⟨fs, rfl, by simp, fun _ _ => rfl⟩
  | fs, (temp, final) :: rest, htemps, hfinals, hexist, hfree => by
    obtain ⟨htemp, htemps'⟩ := List.nodup_cons.mp htemps
    obtain ⟨hfinal, hfinals'⟩ := List.nodup_cons.mp hfinals
    have hpath : findFinalPath fs final (sizeMax - 1) 1 final = final := by
      rw [show sizeMax - 1 = sizeMax - 2 + 1 from rfl, findFinalPath,
        if_neg (by rw [hfree _ (.head _)]; decide)]
    -- a path that holds a file is no final path, and one that holds none is no temporary path
    have hne : ∀ p ∈ (temp, final) :: rest, ∀ q ∈ (temp, final) :: rest, p.1 ≠ q.2 :=
      fun p hp q hq h => by
        have hq' := hfree q hq
        rw [← h, hexist p hp] at hq'
        cases hq'
    have htemp' : ∀ p ∈ rest, p.1 ≠ temp := fun p hp h =>
      htemp (show temp ∈ _ from h ▸ List.mem_map_of_mem _ hp)
    have hfinal' : ∀ p ∈ rest, p.2 ≠ final := fun p hp h =>
      hfinal (show final ∈ _ from h ▸ List.mem_map_of_mem _ hp)
    obtain ⟨fs1, hfs1, -, hmoved, hgone, hframe⟩ :=
      rename_fresh (hexist _ (.head _)) (hfree _ (.head _))
    have hframe' : ∀ p ∈ rest,
        fs1.contents p.1 = fs.contents p.1 ∧ fs1.contents p.2 = fs.contents p.2 := fun p hp => ⟨hframe _ (htemp' p hp) (hne p (.tail _ hp) _ (.head _)),
        hframe _ (Ne.symm (hne _ (.head _) p (.tail _ hp))) (hfinal' p hp)⟩
    obtain ⟨fs', hrun, hmv, hkeep⟩ := renameTempFiles_exact htemps' hfinals'
      (fun p hp => by rw [FileSystem.exists, (hframe' p hp).1]; exact hexist p (.tail _ hp))
      (fun p hp => by rw [FileSystem.exists, (hframe' p hp).2]; exact hfree p (.tail _ hp))
    refine ⟨fs', by rw [renameTempFiles, hpath, hfs1]; exact hrun, fun p hp => ?_, fun path h => ?_⟩
    · rcases List.mem_cons.mp hp with rfl | hp
      · exact ⟨(hkeep _ fun q hq => ⟨Ne.symm (hne q (.tail _ hq) _ (.head _)),
            Ne.symm (hfinal' q hq)⟩).trans hmoved,
          (hkeep _ fun q hq => ⟨Ne.symm (htemp' q hq), hne _ (.head _) q (.tail _ hq)⟩).trans hgone⟩
      · exact ⟨(hmv p hp).1.trans (hframe' p hp).1, (hmv p hp).2⟩
    · rw [hkeep path fun q hq => h q (.tail _ hq), hframe path (h _ (.head _)).1 (h _ (.head _)).2]

/-- Moving `a.log.1` to the free final path `b.log` puts it there. -/
theorem renameTempFiles_exact_bLog :
    ([("a.log.1", "b.log")].map Prod.fst).Nodup ∧ ([("a.log.1", "b.log")].map Prod.snd).Nodup ∧
      (∀ p ∈ [("a.log.1", "b.log")], rotatedLog.exists p.1 = true) ∧
      (∀ p ∈ [("a.log.1", "b.log")], rotatedLog.exists p.2 = false) ∧
      ∃ fs', renameTempFiles rotatedLog [("a.log.1", "b.log")] = some fs' ∧
        fs'.contents "b.log" = some () ∧ fs'.contents "a.log.1" = none :=
  have h1 : ([("a.log.1", "b.log")].map Prod.fst).Nodup := by decide
  have h2 : ([("a.log.1", "b.log")].map Prod.snd).Nodup := by decide
  have h3 : ∀ p ∈ [("a.log.1", "b.log")], rotatedLog.exists p.1 = true := by decide
  have h4 : ∀ p ∈ [("a.log.1", "b.log")], rotatedLog.exists p.2 = false := by decide
  have ⟨fs', h, hmv, _⟩ := renameTempFiles_exact h1 h2 h3 h4
  ⟨h1, h2, h3, h4, fs', h, (hmv _ (.head _)).1, (hmv _ (.head _)).2⟩

end ClpCore.Clp
