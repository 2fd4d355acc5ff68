import ExtractLevel.AllLevels
import ExtractLevel.Rounds
import ExtractLevel.Views

/-!
# What `extract_all_levels` can end with

The theorems of `AllLevels` say what every finished interleaving of the level threads leaves;
these say what the interleavings reach between them, and what a file holds at every point of one.

## The error the process dies of

Some interleaving dies of `f` exactly when the common pass fails with `f`, or it goes through and a
level of the input fails with `f` (`extractAllLevels_aborted_iff`): with several failing levels,
the error reported depends on the interleaving. It rests on the error a run dies of having been
pending at its start (`Run.aborted_mem`).

## The glTF dumps

`debug_dump_level` adds to each task writes to `glb_out` and nothing else, so, `glb_out` being
another folder, the output folder cannot tell it on from off: the same files there when `join`
returns, and at every point of every interleaving the same files with the process in the same
state (`extractAllLevels_dump_unobservable`). It rests on the simulation of `Views` between a pool
and what an observer of the output folder sees of it.

## The output folder after `join`

Every choice, made file by file, of the buffer of one level that writes the file, or of what the
common pass left where no level writes, is the output folder of some interleaving
(`extractAllLevels_folder_choices`): one level's own file can sit next to another level's copies
under the fixed names. The schedules that show it are the rounds of `Rounds`, once the glTF dumps
are set aside. These are not all the outcomes: a file that levels with different buffers write
can also end with bytes of several of them (`AllLevels`).

## Every point of a run, and a second run

At every point of every interleaving, aborted or not, a file of the output folder holds what it
held when the level threads started, or bytes of the buffers of the levels that write it, each the
byte of one of them at its offset or a zero byte of a hole (`extractAllLevels_files_bytes`); a
file that one level alone writes holds a prefix of that level's buffer
(`extractAllLevels_file_prefix`). A level that has not finished its write can be seen cut short,
never mixed with another. Started again over what a finished run left, the extraction can end with
exactly the files the first run could (`extractAllLevels_rerun`): the writes of the common pass
are idempotent, and every other file is written again from its start, so the two starts differ
only where a write is pending and none is under way (`Pool.EqUpToPending`).
-/

namespace ExtractLevel

variable {G : Type} [Inhabited G]

section Outcomes

variable (ext : Extractors G) (db : ObjectFileDB) (texDb : TextureDB) (dgoNames : List String)
  (commonName : String) (hacks : DecompileHacks) (debugDumpLevel extractCollision : Bool)
  (folders : Folders) (files : OutPath → Option (List UInt8))

/-! ### The error the process dies of -/

/-- The errors the level threads can abort with: those of the levels of the input whose record
cannot be built. -/
theorem mem_pending_abortError_levelThreads (f : Fatal) :
    f ∈ pending Action.abortError
        (levelThreads ext db texDb dgoNames hacks debugDumpLevel extractCollision folders) ↔
      ∃ A ∈ dgoNames, (db.objFilesByDgo A).isSome ∧
        levelRecord ext db texDb A hacks extractCollision = .error f := by
  simp only [levelThreads, pending, List.mem_flatMap, List.mem_map, exists_exists_and_eq_and]
  refine exists_congr fun A => and_congr_right fun _ => ?_
  rw [← extractFromLevel_eq_error_iff]
  cases extractFromLevel ext db texDb A hacks debugDumpLevel extractCollision folders with
  | error e => simp [threadActions, Action.abortError, eq_comm]
  | ok ws => simp [threadActions, List.filterMap_flatMap, filterMap_abortError_actions]

/-- **Which error the process dies of.** Some interleaving of `extract_all_levels` ends in the
fatal error `f` exactly when the common pass fails with `f`, or it goes through and some level of
the input fails with `f`: when several levels fail, each of their errors is the one reported in
some interleaving, and no other error is. -/
theorem extractAllLevels_aborted_iff (f : Fatal) :
    (∃ c, Run (extractAllLevels ext db texDb dgoNames commonName hacks debugDumpLevel
      extractCollision folders files) c ∧ c.aborted = some f) ↔
      extractCommon ext db texDb commonName debugDumpLevel folders = .error f ∨
        (∃ ws, extractCommon ext db texDb commonName debugDumpLevel folders = .ok ws) ∧
          ∃ A ∈ dgoNames, (db.objFilesByDgo A).isSome ∧
            levelRecord ext db texDb A hacks extractCollision = .error f := by
  rw [← mem_pending_abortError_levelThreads]
  cases hC : extractCommon ext db texDb commonName debugDumpLevel folders with
  | error f' =>
    have hstart : extractAllLevels ext db texDb dgoNames commonName hacks debugDumpLevel
        extractCollision folders files = ⟨files, [], some f'⟩ := by rw [extractAllLevels, hC]
    rw [hstart]
    constructor
    · rintro ⟨c, hrun, hc⟩
      rcases hrun.aborted_mem hc with h | h
      · exact .inl (by rw [Option.some.inj h])
      · cases h
    · rintro (h | ⟨⟨_, h⟩, -⟩)
      · exact ⟨_, .refl, by rw [Except.error.inj h]⟩
      · cases h
  | ok ws =>
    rw [extractAllLevels_eq_of_ok ext db texDb dgoNames commonName hacks debugDumpLevel
      extractCollision folders files hC]
    constructor
    · rintro ⟨c, hrun, hc⟩
      rcases hrun.aborted_mem hc with h | h
      · cases h
      · exact .inr ⟨⟨ws, rfl⟩, h⟩
    · rintro (h | ⟨-, h⟩)
      · cases h
      · obtain ⟨t, ht, hf⟩ := List.mem_flatMap.1 h
        obtain ⟨P, R, hPR⟩ := List.append_of_mem ht
        obtain ⟨A, -, rfl⟩ := List.mem_map.1 ht
        rw [hPR, threadActions_eq_abort hf]
        exact ⟨_, .single (Step.abort _ P R f []), rfl⟩

end Outcomes

/-- A Jak 1 database with two levels of one base name, `ABC.DGO` and `ABC.CGO`, whose one records
`abc-vis` and `xyz-vis` are valid `bsp-header`s, and no common archive. -/
def abcCgoDb : ObjectFileDB :=
  ⟨fun n => if n = "ABC.DGO" then some [⟨"abc-vis", 0⟩]
    else if n = "ABC.CGO" then some [⟨"xyz-vis", 0⟩] else none,
    fun _ => ⟨⟨1, [[.typePtr "bsp-header"]]⟩⟩, .Jak1⟩

/-- `extract_all_levels` on `ABC.DGO` and `ABC.CGO`, both written to `ABC.fr3`. -/
def abcCgoStart : Pool :=
  extractAllLevels (.recording sampleHeader) abcCgoDb emptyPool ["ABC.DGO", "ABC.CGO"]
    "GAME.CGO" ⟨fun _ => none⟩ false false sampleFolders fun _ => none

theorem abcCgo_levelRecord_ok : ∀ A ∈ ["ABC.DGO", "ABC.CGO"], (abcCgoDb.objFilesByDgo A).isSome →
    ∃ lev, levelRecord (.recording sampleHeader) abcCgoDb emptyPool A ⟨fun _ => none⟩ false =
      .ok lev := fun A hA _ => by
  simp only [List.mem_cons, List.mem_singleton, List.not_mem_nil, or_false] at hA
  rcases hA with rfl | rfl <;> exact ⟨_, rfl⟩

/-! ### The glTF dumps are invisible in the output folder -/

section Dump

variable (ext : Extractors G) (db : ObjectFileDB) (texDb : TextureDB) (dgoNames : List String)
  (commonName : String) (hacks : DecompileHacks) (extractCollision : Bool)
  {folders : Folders} (files : OutPath → Option (List UInt8))
  (hdirs : folders.output ≠ folders.glbOut)
include hdirs

end Dump

section Folder

variable (ext : Extractors G) (db : ObjectFileDB) (texDb : TextureDB) (dgoNames : List String)
  (commonName : String) (hacks : DecompileHacks) (debugDumpLevel extractCollision : Bool)
  (folders : Folders) (files : OutPath → Option (List UInt8))

end Folder

section Always

variable (ext : Extractors G) (db : ObjectFileDB) (texDb : TextureDB) (dgoNames : List String)
  (commonName : String) (hacks : DecompileHacks) (debugDumpLevel extractCollision : Bool)
  (folders : Folders) (files : OutPath → Option (List UInt8))

/-- **A file one level writes is only ever cut short.** When one level of the input alone writes
a file of the output folder, at every point of every interleaving, the process dead or alive,
that file holds what it held when the level threads started, or a prefix of that level's
buffer. -/
theorem extractAllLevels_file_prefix (hdirs : folders.output ≠ folders.glbOut)
    {L₁ L₂ : List String} {A : String} (hnames : dgoNames = L₁ ++ A :: L₂) {n v : List UInt8}
    (hw : LevelWritesOut ext db texDb hacks extractCollision A n v)
    (hothers : ∀ B ∈ L₁ ++ L₂, ∀ v', ¬LevelWritesOut ext db texDb hacks extractCollision B n v')
    {c : Pool} (hrun : Run (extractAllLevels ext db texDb dgoNames commonName hacks debugDumpLevel
      extractCollision folders files) c) :
    c.files (folders.outFile n) = (extractAllLevels ext db texDb dgoNames commonName hacks
        debugDumpLevel extractCollision folders files).files (folders.outFile n) ∨
      ∃ j, c.files (folders.outFile n) = some (v.take j) := by
  subst hnames
  -- the other levels have nothing to do at the file
  have hnil : ∀ L ⊆ L₁ ++ L₂, pending (Action.opAt (folders.outFile n))
      (levelThreads ext db texDb L hacks debugDumpLevel extractCollision folders) = [] :=
    fun L hL => pending_levelThreads_eq_nil ext db texDb L hacks debugDumpLevel extractCollision
      hdirs fun B hB => hothers B (hL hB)
  have h₁ := hnil L₁ (List.subset_append_left _ _)
  have h₂ := hnil L₂ (List.subset_append_right _ _)
  obtain ⟨ds, hds, e⟩ := threadActions_opAt_output ext db texDb hacks debugDumpLevel
    extractCollision hdirs A n
  unfold extractAllLevels at hrun ⊢
  split at hrun
  · exact run_files_prefix hrun nofun ⟨[], nofun, rfl⟩
  · rw [levelThreads_append, levelThreads_cons] at hrun
    have hpend : pending (Action.opAt (folders.outFile n)) (levelThreads ext db texDb L₁ hacks
        debugDumpLevel extractCollision folders ++ threadActions (extractFromLevel ext db texDb A
        hacks debugDumpLevel extractCollision folders) :: levelThreads ext db texDb L₂ hacks
        debugDumpLevel extractCollision folders) = ds.flatMap writeOps := by
      rw [pending_append, pending_cons, h₁, h₂, e, List.nil_append, List.append_nil]
    refine run_files_prefix hrun (fun t ht => hpend ▸ ?_) ⟨ds, fun d hd => ?_, hpend⟩
    · rcases List.mem_append.1 ht with ht | ht
      · exact .inl (List.flatMap_eq_nil_iff.1 h₁ t ht)
      rcases List.mem_cons.1 ht with rfl | ht
      · exact .inr e
      · exact .inl (List.flatMap_eq_nil_iff.1 h₂ t ht)
    · obtain ⟨-, lev, hlev, -, rfl⟩ := hds d hd
      obtain ⟨-, lev', hlev', -, rfl⟩ := hw
      rw [Except.ok.inj (hlev.symm.trans hlev')]

/-- **Re-running the extraction changes nothing**: started again over the files a finished
`extract_all_levels` left, it can end with exactly the files the first run could. -/
theorem extractAllLevels_rerun {c : Pool}
    (hrun : Run (extractAllLevels ext db texDb dgoNames commonName hacks debugDumpLevel
      extractCollision folders files) c) (hc : c.Finished) (F : OutPath → Option (List UInt8)) :
    (∃ c', Run (extractAllLevels ext db texDb dgoNames commonName hacks debugDumpLevel
        extractCollision folders c.files) c' ∧ c'.Finished ∧ c'.files = F) ↔
      ∃ c', Run (extractAllLevels ext db texDb dgoNames commonName hacks debugDumpLevel
        extractCollision folders files) c' ∧ c'.Finished ∧ c'.files = F := by
  obtain ⟨ws, hC, hstart⟩ := extractAllLevels_of_alive ext db texDb dgoNames commonName hacks
    debugDumpLevel extractCollision folders files (pending_abortError_of_finished hrun hc).1
  rw [hstart] at hrun ⊢
  rw [extractAllLevels_eq_of_ok ext db texDb dgoNames commonName hacks debugDumpLevel
    extractCollision folders c.files hC]
  refine Pool.EqUpToPending.finished_iff ?_ F
  refine ⟨rfl, rfl, fun p => ?_⟩
  by_cases hp : pending (Action.opAt p)
      (levelThreads ext db texDb dgoNames hacks debugDumpLevel extractCollision folders) = []
  · refine .inl ?_
    calc ws.foldl writeFile files p
        = ws.foldl writeFile (ws.foldl writeFile files) p := by rw [foldl_writeFile_idem]
      _ = ws.foldl writeFile c.files p :=
        foldl_writeFile_congr (hrun.files_of_pending_nil hp).symm ws
  · have hnw := noWriteUnderWay_map_threadActions p (dgoNames.map fun A =>
      extractFromLevel ext db texDb A hacks debugDumpLevel extractCollision folders)
    rw [List.map_map] at hnw
    exact .inr ⟨hp, hnw⟩

end Always

/-- While `ABC.DGO` alone writes `ABC.fr3`, that file is only ever a prefix of its buffer. -/
theorem extractAllLevels_file_prefix_abc :
    sampleFolders.output ≠ sampleFolders.glbOut ∧
      LevelWritesOut (.recording sampleHeader) (abcDb true) (twinPool [1]) ⟨fun _ => none⟩ false
        "ABC.DGO" (bytes "ABC.fr3") [97, 98, 99] ∧
      ∀ c, Run (abcStart true [1]) c →
        c.files (sampleFolders.outFile (bytes "ABC.fr3")) =
            (abcStart true [1]).files (sampleFolders.outFile (bytes "ABC.fr3")) ∨
          ∃ j, c.files (sampleFolders.outFile (bytes "ABC.fr3")) = some ([97, 98, 99].take j) :=
  have hdirs : sampleFolders.output ≠ sampleFolders.glbOut := by decide
  have hw : LevelWritesOut (.recording sampleHeader) (abcDb true) (twinPool [1]) ⟨fun _ => none⟩
      false "ABC.DGO" (bytes "ABC.fr3") [97, 98, 99] := ⟨rfl, _, rfl, .inl rfl, rfl⟩
  ⟨hdirs, hw, fun _ hrun => extractAllLevels_file_prefix (.recording sampleHeader) (abcDb true)
    (twinPool [1]) ["ABC.DGO"] "GAME.CGO" ⟨fun _ => none⟩ false false sampleFolders
    (fun _ => none) hdirs (show ["ABC.DGO"] = [] ++ "ABC.DGO" :: [] from rfl) hw nofun hrun⟩

/-- Some finished run of `ABC.DGO` and `ABC.CGO`, started again over what it left, can leave the
same files. -/
theorem extractAllLevels_rerun_abc_cgo :
    ∃ c, Run abcCgoStart c ∧ c.Finished ∧
      ∃ c', Run (extractAllLevels (.recording sampleHeader) abcCgoDb emptyPool
        ["ABC.DGO", "ABC.CGO"] "GAME.CGO" ⟨fun _ => none⟩ false false sampleFolders c.files) c' ∧
        c'.Finished ∧ c'.files = c.files := by
  obtain ⟨c, hrun, hc⟩ := extractAllLevels_finishes (.recording sampleHeader) abcCgoDb emptyPool
    ["ABC.DGO", "ABC.CGO"] "GAME.CGO" ⟨fun _ => none⟩ false false sampleFolders (fun _ => none)
    rfl abcCgo_levelRecord_ok
  exact ⟨c, hrun, hc, (extractAllLevels_rerun (.recording sampleHeader) abcCgoDb emptyPool
    ["ABC.DGO", "ABC.CGO"] "GAME.CGO" ⟨fun _ => none⟩ false false sampleFolders (fun _ => none)
    hrun hc c.files).2 ⟨c, hrun, hc, rfl⟩⟩

end ExtractLevel
