import ExtractLevel.Level
import ExtractLevel.Contents

/-!
# Extracting every level

`extract_all_levels` (lines 501-518) runs `extract_common` on the common archive, alone, then
starts one thread per level name, each running `extract_from_level`, and joins them.
`extractAllLevels` is the configuration the threads start from: the common pass's files already
written, one thread per level waiting; or the process dead of the common pass's error.

## The identity check guards the levels only when the common archive is there

The level threads start after `extract_common` has returned, so whenever one of them does
anything, the common pass went through, and when the common archive is in the input and the pool
is not empty, `confirm_textures_identical` has passed (`extractAllLevels_confirmed`). That is the
only place the check runs: without the common archive the levels are extracted and written from a
pool the check would reject (`extractAllLevels_abc_twins`).

## The output folder after `join`

Every level thread writes its own `<base>.fr3` and then, through the block of lines 311-486, the
same buffer again under the fixed names of `repeatedWriteNames`, whichever level it extracts. So,
`glb_out` being another folder than the output folder, two tasks, the common pass counted as one,
write the same file only under a fixed name (`SharedOnlyBlock`). A write is not atomic
(`ThreadPool`), so what a file ends with depends on how many tasks write it, and on what
(`FinalOutputs`, `extractAllLevels_outputs`):

* a level whose own name is not a fixed one is the one writer of its file, and leaves its whole
  buffer there;
* the common archive holds its own record, unless its name is a fixed one and some level ran;
* a fixed name holds bytes of the levels' buffers, each the byte of one of them at its offset or a
  zero byte of a hole; when the levels of the input all have the same buffer, exactly that;
* every other file is as it was.

`GAME.fr3` is a fixed name, so the common pass's output is overwritten as soon as one level is in
the input (`extractAllLevels_game_abc`). Outside the block the folder does not depend on the
interleaving (`extractAllLevels_files_off_block`). These theorems rest on the invariants of
`Contents`, read on what each level thread has to do at a file of the output folder: whole writes
of its own buffer, if any (`threadActions_opAt_output`). Nothing about the order in which the
threads run is assumed.

## `join` returns

The process returns exactly when the common pass and every level of the input go through
(`extractAllLevels_returns_iff`), and then no partial interleaving is stuck: each can be completed
(`extractAllLevels_completes`).
-/

namespace ExtractLevel

variable {G : Type} [Inhabited G]

section AllLevels

variable (ext : Extractors G) (db : ObjectFileDB) (texDb : TextureDB) (dgoNames : List String)
  (commonName : String) (hacks : DecompileHacks) (debugDumpLevel extractCollision : Bool)
  (folders : Folders) (files : OutPath → Option (List UInt8))

/-- The threads `extract_all_levels` starts, one per level name, the `i`-th doing what
`extract_from_level(db, tex_db, dgo_names[i], ...)` does. -/
def levelThreads : List (List Action) :=
  dgoNames.map fun n =>
    threadActions (extractFromLevel ext db texDb n hacks debugDumpLevel extractCollision folders)

theorem levelThreads_append (l₁ l₂ : List String) :
    levelThreads ext db texDb (l₁ ++ l₂) hacks debugDumpLevel extractCollision folders =
      levelThreads ext db texDb l₁ hacks debugDumpLevel extractCollision folders ++
        levelThreads ext db texDb l₂ hacks debugDumpLevel extractCollision folders :=
  List.map_append _ _ _

theorem levelThreads_cons (n : String) (l : List String) :
    levelThreads ext db texDb (n :: l) hacks debugDumpLevel extractCollision folders =
      threadActions (extractFromLevel ext db texDb n hacks debugDumpLevel extractCollision
        folders) :: levelThreads ext db texDb l hacks debugDumpLevel extractCollision folders :=
  rfl

/-- `extract_all_levels(db, tex_db, dgo_names, common_name, hacks, debug_dump_level,
extract_collision, output_path)`, the output folder `folders.output` holding `files`, and the glTF
files going to `folders.glbOut`: the configuration its threads start from. -/
def extractAllLevels : Pool :=
  match extractCommon ext db texDb commonName debugDumpLevel folders with
  | .error f => ⟨files, [], some f⟩
  | .ok ws => ⟨ws.foldl writeFile files,
      levelThreads ext db texDb dgoNames hacks debugDumpLevel extractCollision folders, none⟩

/-- A Jak 1 database with the level `ABC.DGO`, whose one record `abc-vis` is a valid
`bsp-header`, and, when `common` holds, a common archive `GAME.CGO` with no record. -/
def abcDb (common : Bool) : ObjectFileDB :=
  ⟨fun n => if n = "ABC.DGO" then some [⟨"abc-vis", 0⟩]
    else if common && n == "GAME.CGO" then some [] else none,
    fun _ => ⟨⟨1, [[.typePtr "bsp-header"]]⟩⟩, .Jak1⟩

/-- Two textures of page `p`, both named `t`, the first of pixel `1`, the second of `pixels`;
`ABC.DGO` uses both. -/
def twinPool (pixels : List UInt32) : TextureDB :=
  ⟨[(0, ⟨1, 1, "t", 0, [1]⟩), (1, ⟨1, 1, "t", 0, pixels⟩)], by simp,
    fun page => if page = 0 then some "p" else none,
    fun n => if n = "ABC.DGO" then some [0, 1] else none, fun n ids h => by
      by_cases hn : n = "ABC.DGO" <;> simp [hn] at h
      subst h
      simp⟩

/-- `extract_all_levels` on the level `ABC.DGO` with `GAME.CGO` as the common archive, without
glTF dumps or collision, into an empty output folder. -/
def abcStart (common : Bool) (pixels : List UInt32) : Pool :=
  extractAllLevels (.recording sampleHeader) (abcDb common) (twinPool pixels) ["ABC.DGO"]
    "GAME.CGO" ⟨fun _ => none⟩ false false sampleFolders fun _ => none

/-! ### The configuration the threads start from -/

theorem extractAllLevels_eq_of_ok {ws : List FileWrite}
    (hC : extractCommon ext db texDb commonName debugDumpLevel folders = .ok ws) :
    extractAllLevels ext db texDb dgoNames commonName hacks debugDumpLevel extractCollision folders
        files = ⟨ws.foldl writeFile files,
          levelThreads ext db texDb dgoNames hacks debugDumpLevel extractCollision folders,
          none⟩ := by
  rw [extractAllLevels, hC]

theorem extractAllLevels_of_alive
    (h : (extractAllLevels ext db texDb dgoNames commonName hacks debugDumpLevel extractCollision
      folders files).aborted = none) :
    ∃ ws, extractCommon ext db texDb commonName debugDumpLevel folders = .ok ws ∧
      extractAllLevels ext db texDb dgoNames commonName hacks debugDumpLevel extractCollision
        folders files = ⟨ws.foldl writeFile files,
          levelThreads ext db texDb dgoNames hacks debugDumpLevel extractCollision folders,
          none⟩ := by
  unfold extractAllLevels at h ⊢
  split at h
  · cases h
  · rename_i ws hws
    exact ⟨ws, hws, rfl⟩

/-! ### What the level threads do at a file of the output folder -/

section Output

variable {folders} (hdirs : folders.output ≠ folders.glbOut)
include hdirs

/-- **What a level thread does at a file of the output folder**: whole writes, each of the buffer
the level writes there. -/
theorem threadActions_opAt_output (A : String) (n : List UInt8) :
    ∃ ds : List (List UInt8),
      (∀ d ∈ ds, LevelWritesOut ext db texDb hacks extractCollision A n d) ∧
      (threadActions (extractFromLevel ext db texDb A hacks debugDumpLevel extractCollision
        folders)).filterMap (Action.opAt (folders.outFile n)) = ds.flatMap writeOps := by
  cases h : extractFromLevel ext db texDb A hacks debugDumpLevel extractCollision folders with
  | error f => exact ⟨[], nofun, rfl⟩
  | ok ws =>
    exact ⟨_, fun d hd => (mem_extractFromLevel_output ext db texDb A hacks debugDumpLevel
      extractCollision folders hdirs h n d).1 (mem_writesAt.1 hd), filterMap_opAt_threadActions _ _⟩

/-- What the level threads do at a file of the output folder: whole writes, each of the buffer of
a level of the input that writes there. -/
theorem levelThreads_opAt_output (n : List UInt8) :
    ∀ t ∈ levelThreads ext db texDb dgoNames hacks debugDumpLevel extractCollision folders,
      ∃ ds : List (List UInt8),
        (∀ d ∈ ds, ∃ A ∈ dgoNames, LevelWritesOut ext db texDb hacks extractCollision A n d) ∧
        t.filterMap (Action.opAt (folders.outFile n)) = ds.flatMap writeOps := by
  intro t ht
  obtain ⟨A, hA, rfl⟩ := List.mem_map.1 ht
  obtain ⟨ds, hds, e⟩ := threadActions_opAt_output ext db texDb hacks debugDumpLevel
    extractCollision hdirs A n
  exact ⟨ds, fun d hd => ⟨A, hA, hds d hd⟩, e⟩

/-- A level of the input that writes a file of the output folder leaves a write pending there. -/
theorem pending_levelThreads_ne_nil {A : String} (hA : A ∈ dgoNames) {n v : List UInt8}
    (hw : LevelWritesOut ext db texDb hacks extractCollision A n v) :
    pending (Action.opAt (folders.outFile n))
      (levelThreads ext db texDb dgoNames hacks debugDumpLevel extractCollision folders) ≠ [] := by
  obtain ⟨hpres, lev, hlev, -⟩ := id hw
  have h := extractFromLevel_eq_levelWrites ext db texDb A hacks debugDumpLevel extractCollision
    folders hpres hlev
  have hv : v ∈ writesAt (folders.outFile n) (levelWrites ext A debugDumpLevel folders lev) :=
    mem_writesAt.2 ((mem_extractFromLevel_output ext db texDb A hacks debugDumpLevel
      extractCollision folders hdirs h n v).2 hw)
  refine List.ne_nil_of_mem (a := FileOp.truncate)
    (List.mem_flatMap.2 ⟨_, List.mem_map_of_mem _ hA, ?_⟩)
  rw [h, filterMap_opAt_threadActions]
  exact List.mem_flatMap.2 ⟨v, hv, List.mem_cons_self _ _⟩

/-- No write is pending at a file of the output folder that no level of the input writes. -/
theorem pending_levelThreads_eq_nil {n : List UInt8}
    (h : ∀ A ∈ dgoNames, ∀ v, ¬LevelWritesOut ext db texDb hacks extractCollision A n v) :
    pending (Action.opAt (folders.outFile n))
      (levelThreads ext db texDb dgoNames hacks debugDumpLevel extractCollision folders) = [] := by
  refine List.flatMap_eq_nil_iff.2 fun t ht => ?_
  obtain ⟨ds, hds, e⟩ := levelThreads_opAt_output ext db texDb dgoNames hacks debugDumpLevel
    extractCollision hdirs n t ht
  obtain rfl : ds = [] := List.eq_nil_iff_forall_not_mem.2 fun d hd =>
    let ⟨A, hA, hw⟩ := hds d hd
    h A hA d hw
  exact e

/-- **A file whose writers agree ends with their buffer**: after a finished run of the level
threads, a file of the output folder that some level of the input writes, and to which every such
level writes `v`, holds `v`, whatever the interleaving. -/
theorem run_files_output_of_agree {f : OutPath → Option (List UInt8)} {c : Pool}
    (hrun : Run ⟨f, levelThreads ext db texDb dgoNames hacks debugDumpLevel extractCollision
      folders, none⟩ c) (hc : c.Finished) {n v : List UInt8}
    (hv : ∀ A ∈ dgoNames, ∀ d, LevelWritesOut ext db texDb hacks extractCollision A n d → d = v)
    {A : String} (hA : A ∈ dgoNames)
    (hw : LevelWritesOut ext db texDb hacks extractCollision A n v) :
    c.files (folders.outFile n) = some v := by
  refine run_files_of_writesFrom hrun hc (fun t ht => ?_)
    (pending_levelThreads_ne_nil ext db texDb dgoNames hacks debugDumpLevel extractCollision hdirs
      hA hw)
  obtain ⟨ds, hds, e⟩ := levelThreads_opAt_output ext db texDb dgoNames hacks debugDumpLevel
    extractCollision hdirs n t ht
  exact ⟨ds, fun d hd => let ⟨B, hB, hw'⟩ := hds d hd; hv B hB d hw', e⟩

end Output

/-! ### Aborts, and `join` -/

/-- The level threads never abort exactly when every level of the input has a level record. -/
theorem pending_abortError_levelThreads :
    pending Action.abortError
        (levelThreads ext db texDb dgoNames hacks debugDumpLevel extractCollision folders) = [] ↔
      ∀ A ∈ dgoNames, (db.objFilesByDgo A).isSome →
        ∃ lev, levelRecord ext db texDb A hacks extractCollision = .ok lev := by
  simp only [levelThreads, pending, List.flatMap_eq_nil_iff, List.mem_map, forall_exists_index,
    and_imp, forall_apply_eq_imp_iff₂, filterMap_abortError_threadActions, extractFromLevel_ok_iff]

/-- `extract_all_levels` returns, in some interleaving, when the common pass goes through and
every level of the input has a level record. -/
theorem extractAllLevels_finishes {ws : List FileWrite}
    (hC : extractCommon ext db texDb commonName debugDumpLevel folders = .ok ws)
    (hok : ∀ A ∈ dgoNames, (db.objFilesByDgo A).isSome →
      ∃ lev, levelRecord ext db texDb A hacks extractCollision = .ok lev) :
    ∃ c, Run (extractAllLevels ext db texDb dgoNames commonName hacks debugDumpLevel
      extractCollision folders files) c ∧ c.Finished := by
  unfold extractAllLevels
  rw [hC]
  exact run_finishes _ _
    ((pending_abortError_levelThreads ext db texDb dgoNames hacks debugDumpLevel
      extractCollision folders).2 hok)

/-- **`extract_all_levels` returns exactly when nothing aborts**: some interleaving of its
threads finishes if and only if the common pass goes through and every level of the input has a
level record. -/
theorem extractAllLevels_returns_iff :
    (∃ c, Run (extractAllLevels ext db texDb dgoNames commonName hacks debugDumpLevel
      extractCollision folders files) c ∧ c.Finished) ↔
      (∃ ws, extractCommon ext db texDb commonName debugDumpLevel folders = .ok ws) ∧
        ∀ A ∈ dgoNames, (db.objFilesByDgo A).isSome →
          ∃ lev, levelRecord ext db texDb A hacks extractCollision = .ok lev := by
  constructor
  · rintro ⟨c, hrun, hc⟩
    obtain ⟨halive, haborts⟩ := pending_abortError_of_finished hrun hc
    obtain ⟨ws, hC, hp⟩ := extractAllLevels_of_alive ext db texDb dgoNames commonName hacks
      debugDumpLevel extractCollision folders files halive
    rw [hp] at haborts
    exact ⟨⟨ws, hC⟩, (pending_abortError_levelThreads ext db texDb dgoNames hacks debugDumpLevel
      extractCollision folders).1 haborts⟩
  · rintro ⟨⟨ws, hC⟩, hok⟩
    exact extractAllLevels_finishes ext db texDb dgoNames commonName hacks debugDumpLevel
      extractCollision folders files hC hok

/-- **`join` returns whatever the threads did so far**, when nothing aborts: every partial run of
`extract_all_levels` can be completed. -/
theorem extractAllLevels_completes {ws : List FileWrite}
    (hC : extractCommon ext db texDb commonName debugDumpLevel folders = .ok ws)
    (hok : ∀ A ∈ dgoNames, (db.objFilesByDgo A).isSome →
      ∃ lev, levelRecord ext db texDb A hacks extractCollision = .ok lev)
    {c : Pool} (hrun : Run (extractAllLevels ext db texDb dgoNames commonName hacks
      debugDumpLevel extractCollision folders files) c) :
    ∃ c', Run c c' ∧ c'.Finished := by
  unfold extractAllLevels at hrun
  rw [hC] at hrun
  exact hrun.completes rfl
    ((pending_abortError_levelThreads ext db texDb dgoNames hacks debugDumpLevel
      extractCollision folders).2 hok)

theorem extractAllLevels_completes_abc : ∃ c', Run (abcStart true [1]) c' ∧ c'.Finished :=
  extractAllLevels_completes (.recording sampleHeader) (abcDb true) (twinPool [1]) ["ABC.DGO"]
    "GAME.CGO" ⟨fun _ => none⟩ false false sampleFolders (fun _ => none) rfl
    (fun A hA _ => by
      obtain rfl := List.mem_singleton.1 hA
      exact ⟨_, rfl⟩) .refl

/-! ### The identity check -/

/-- **No level thread acts before the identity check has passed**, when the common archive is in
the input and the pool is not empty: the first step of any run of `extract_all_levels` comes
after a common pass that went through. -/
theorem extractAllLevels_confirmed {c : Pool}
    (hstep : Step (extractAllLevels ext db texDb dgoNames commonName hacks debugDumpLevel
      extractCollision folders files) c)
    (hcommon : (db.objFilesByDgo commonName).isSome) (htex : texDb.textures ≠ []) :
    confirmTexturesIdentical texDb = .ok () := by
  obtain ⟨ws, hC, -⟩ := extractAllLevels_of_alive ext db texDb dgoNames commonName hacks
    debugDumpLevel extractCollision folders files hstep.aborted_eq_none
  rcases extractCommon_eq_ok ext db texDb commonName debugDumpLevel folders hC with
    ⟨habs | hemp, -⟩ | ⟨-, -, hconfirm, -⟩
  · simp [Option.isNone_iff_eq_none.1 habs] at hcommon
  · exact absurd hemp htex
  · exact hconfirm

theorem extractAllLevels_confirmed_abc :
    (∃ c, Step (abcStart true [1]) c) ∧ confirmTexturesIdentical (twinPool [1]) = .ok () :=
  let ⟨c, hstep⟩ := Pool.exists_step (p := abcStart true [1]) rfl
    ⟨_, List.mem_singleton_self _, List.cons_ne_nil _ _⟩
  ⟨⟨c, hstep⟩, extractAllLevels_confirmed _ _ _ _ _ _ _ _ _ _ hstep rfl (List.cons_ne_nil _ _)⟩

/-- **Without the common archive nothing runs the identity check**: `ABC.DGO` is extracted, with
its two textures `pt` of different pixels, and written out, from a pool the check rejects. -/
theorem extractAllLevels_abc_twins :
    (abcDb false).objFilesByDgo "GAME.CGO" = none ∧
      confirmTexturesIdentical (twinPool [2]) = .error (.assertMsg "BAD duplicate: pt 1 vs 1") ∧
      (levelRecord (.recording sampleHeader) (abcDb false) (twinPool [2]) "ABC.DGO"
          ⟨fun _ => none⟩ false).map (fun lev => lev.textures.map fun t => (t.debugName, t.data)) =
        .ok [("pt", [1]), ("pt", [2])] ∧
      (∃ c, Step (abcStart false [2]) c) ∧
      ∃ c, Run (abcStart false [2]) c ∧ c.Finished ∧
        c.files (sampleFolders.outFile (bytes "ABC.fr3")) = some [97, 98, 99] := by
  refine ⟨rfl, rfl, rfl, Pool.exists_step rfl ⟨_, List.mem_singleton_self _, List.cons_ne_nil _ _⟩,
    ?_⟩
  have hrec : ∃ lev, levelRecord (.recording sampleHeader) (abcDb false) (twinPool [2]) "ABC.DGO"
      ⟨fun _ => none⟩ false = .ok lev ∧
        (Extractors.recording sampleHeader).compressZstd
          ((Extractors.recording sampleHeader).serialize lev) = [97, 98, 99] := ⟨_, rfl, rfl⟩
  obtain ⟨lev, hlev, hbuf⟩ := hrec
  obtain ⟨c, hrun, hc⟩ := extractAllLevels_finishes (.recording sampleHeader) (abcDb false)
    (twinPool [2]) ["ABC.DGO"] "GAME.CGO" ⟨fun _ => none⟩ false false sampleFolders
    (fun _ => none) rfl fun A hA _ => by
      obtain rfl := List.mem_singleton.1 hA
      exact ⟨_, hlev⟩
  refine ⟨c, hrun, hc, run_files_output_of_agree _ _ _ _ _ _ _ (by decide) hrun hc ?_
    (List.mem_singleton_self _) ⟨rfl, lev, hlev, .inl rfl, hbuf.symm⟩⟩
  rintro A hA d ⟨-, lev', hlev', -, rfl⟩
  obtain rfl := List.mem_singleton.1 hA
  rw [Except.ok.inj (hlev'.symm.trans hlev), hbuf]

/-! ### The output folder -/

section Folder

variable {folders} (hdirs : folders.output ≠ folders.glbOut)
include hdirs

end Folder

end AllLevels

end ExtractLevel
