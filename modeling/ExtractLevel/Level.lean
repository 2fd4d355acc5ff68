import ExtractLevel.BspFile
import ExtractLevel.Textures
import ExtractLevel.DrawableTrees

/-!
# Extracting one level

`extract_art_groups_from_level` (lines 113-125), `extract_bsp_from_level` (lines 127-216),
`extract_common` (lines 223-262) and `extract_from_level` (lines 264-499), each returning the files
it writes, in order, or the fatal error that ends the run.

`extract_from_level` builds its level record (`levelRecord`) from the archive's own records only.
After that it tests, twice, `db.obj_files_by_dgo.count(dgo_name) == 0`, the very test of its
early return, on a database nothing has changed; so the branches that would borrow the art groups
of `SNO.DGO` and `MIS.DGO` are never entered (`extractFromLevel_eq`). Two databases that agree on
the archive give the same record and the same writes (`extractFromLevel_agree`).

Its writes are `<base>.fr3`, then the same bytes again under each of the 174 names of the block of
lines 311-486 (`repeatedWriteNames`), then the optional glTF dumps (`levelWrites`). The block does
not depend on which level was extracted.
-/

namespace ExtractLevel

variable {G : Type}

/-! ### Names -/

/-- The test of line 120: the name is longer than three characters and its last three are
`-ag`, read on the characters (the same answer as on the bytes, `-ag` being ASCII). -/
def isArtGroupName (name : String) : Bool :=
  decide (3 < name.length) && substr name.data (sizeSub name.length 3) 3 == "-ag".data

/-- `fmt::format("{}.fr3", dgo_name.substr(0, dgo_name.length() - 4))`: the bytes of the
archive's name without its last four, with `.fr3` appended. -/
def fr3Name (dgoName : String) : List UInt8 :=
  substr (bytes dgoName) 0 (sizeSub (bytes dgoName).length 4) ++ bytes ".fr3"

/-- The names of the block of lines 311-486, in order. Two of them, `TSZ.fr3` and `VI1.fr3`,
occur twice. -/
def repeatedWriteNames : List (List UInt8) :=
  List.map bytes
  ["ATE.fr3", "ATO.fr3", "CAB.fr3", "CAP.fr3", "CAS.fr3", "CASCITY.fr3", "CASEXT.fr3", "CFA.fr3",
    "CFB.fr3", "CGA.fr3", "CGB.fr3", "CGC.fr3", "CIA.fr3", "CIB.fr3", "CMA.fr3", "CMB.fr3",
    "COA.fr3", "COB.fr3", "CPA.fr3", "CPO.fr3", "CTA.fr3", "CTB.fr3", "CTC.fr3", "CTYASHA.fr3",
    "CTYKORA.fr3", "CWI.fr3", "D3A.fr3", "D3B.fr3", "DEMO.fr3", "DG1.fr3", "DMI.fr3", "DRB.fr3",
    "DRI.fr3", "DRILLMTN.fr3", "FDA.fr3", "FDB.fr3", "FEA.fr3", "FEB.fr3", "FOB.fr3", "FOR.fr3",
    "FORDUMPC.fr3", "FORDUMPD.fr3", "FRA.fr3", "FRB.fr3", "GAME.fr3", "GARAGE.fr3", "GGA.fr3",
    "HALFPIPE.fr3", "HIDEOUT.fr3", "HIPHOG.fr3", "INTROCST.fr3", "KIOSK.fr3", "LASHGRD.fr3",
    "LASHTHRN.fr3", "LBBUSH.fr3", "LBOMBBOT.fr3", "LBRNERMK.fr3", "LCGUARD.fr3", "LCITYLOW.fr3",
    "LDJAKBRN.fr3", "LERLCHAL.fr3", "LERLTESS.fr3", "LERROL.fr3", "LGARCSTA.fr3", "LGUARD.fr3",
    "LHELLDOG.fr3", "LHIPOUT.fr3", "LINTCSTB.fr3", "LJAKDAX.fr3", "LJKDXASH.fr3", "LKEIRIFT.fr3",
    "LKIDDOGE.fr3", "LMEETBRT.fr3", "LOUTCSTB.fr3", "LPACKAGE.fr3", "LPORTRUN.fr3", "LPOWER.fr3",
    "LPROTECT.fr3", "LPRSNCST.fr3", "LPRTRACE.fr3", "LRACEBB.fr3", "LRACEBF.fr3", "LRACECB.fr3",
    "LRACECF.fr3", "LRACEDB.fr3", "LRACEDF.fr3", "LRACELIT.fr3", "LSACK.fr3", "LSAMERGD.fr3",
    "LSHUTTLE.fr3", "LSMYSBRT.fr3", "LTENTOB.fr3", "LTENTOUT.fr3", "LTESS.fr3", "LTHRNOUT.fr3",
    "LTRNKRKD.fr3", "LTRNTESS.fr3", "LTRNYSAM.fr3", "LWHACK.fr3", "LWIDEA.fr3", "LWIDEB.fr3",
    "LWIDEC.fr3", "LWIDESTA.fr3", "LYSAMSAM.fr3", "LYSKDCD.fr3", "MCN.fr3", "MTN.fr3", "MTX.fr3",
    "NEB.fr3", "NES.fr3", "NESTT.fr3", "ONINTENT.fr3", "ORACLE.fr3", "OUTROCST.fr3", "PAC.fr3",
    "PAE.fr3", "PALBOSS.fr3", "PALOUT.fr3", "PAR.fr3", "PAS.fr3", "PORTWALL.fr3", "PRI.fr3",
    "RUI.fr3", "SAG.fr3", "SEB.fr3", "SEW.fr3", "SKA.fr3", "STA.fr3", "STADBLMP.fr3", "STB.fr3",
    "STC.fr3", "STD.fr3", "STR.fr3", "SWB.fr3", "SWE.fr3", "TBO.fr3", "THR.fr3", "TITLE.fr3",
    "TOA.fr3", "TOB.fr3", "TOC.fr3", "TOD.fr3", "TOE.fr3", "TOMBEXT.fr3", "TSZ.fr3", "UNB.fr3",
    "UND.fr3", "VI1.fr3", "VIN.fr3", "BEA.fr3", "CIT.fr3", "DAR.fr3", "DEM.fr3", "FIC.fr3",
    "FIN.fr3", "INT.fr3", "JUB.fr3", "JUN.fr3", "LAV.fr3", "MAI.fr3", "MIS.fr3", "OGR.fr3",
    "ROB.fr3", "ROL.fr3", "SNO.fr3", "SUB.fr3", "SUN.fr3", "SWA.fr3", "TIT.fr3", "TRA.fr3",
    "TSZ.fr3", "VI1.fr3", "VI2.fr3", "VI3.fr3"]

/-! ### Art groups and the `bsp-header` -/

/-- `extract_art_groups_from_level(db, tex_db, tex_remap, dgo_name, level_data)`: every record
of the archive whose name ends in `-ag` goes to `extract_merc`; `obj_files_by_dgo.at` throws for
an archive that is not in the input. -/
def extractArtGroupsFromLevel (ext : Extractors G) (db : ObjectFileDB) (texDb : TextureDB)
    (texRemap : List TextureRemap) (dgoName : String) (levelData : Level G) :
    Except Fatal (Level G) := do
  let files ← mapAt db.objFilesByDgo dgoName
  pure (files.foldl (fun lev file => if isArtGroupName file.name
    then ext.extractMerc (db.lookupRecord file) texDb texRemap lev false db.version
    else lev) levelData)

/-- `ASSERT((int)trees.size() == length)` (line 149): the count, cast to a 32-bit `int`, is the
stored length. -/
def treeCountMatches (arr : DrawableTreeArray) : Bool :=
  Int.bmod arr.trees.length (2 ^ 32) == arr.length

/-- `extract_bsp_from_level(db, tex_db, dgo_name, hacks, extract_collision, level_data)`: the
texture remap table it returns and the level it leaves. Without a `bsp-header` file it warns and
returns an empty table, the level untouched. -/
def extractBspFromLevel (ext : Extractors G) (db : ObjectFileDB) (texDb : TextureDB)
    (dgoName : String) (hacks : DecompileHacks) (extractCollision : Bool) (levelData : Level G) :
    Except Fatal (List TextureRemap × Level G) := do
  let records ← mapAt db.objFilesByDgo dgoName
  let bspRec? ← getBspFile records dgoName
  match bspRec? with
  | none => pure ([], levelData)
  | some bspRec =>
    let levelName := bspLevelName bspRec
    let bspFile := db.lookupRecord bspRec
    let check ← isValidBsp bspFile.linkedData
    if check.isSome then .error (.assertFailed "ok") else
    let bspHeader := ext.readFromFile bspFile.linkedData db.version
    if !treeCountMatches bspHeader.drawableTreeArray then
      .error (.assertFailed
        "(int)bsp_header.drawable_tree_array.trees.size() == bsp_header.drawable_tree_array.length")
    else do
    let levelData ← extractDrawableTrees ext db texDb dgoName hacks extractCollision levelName
      bspHeader levelData
    pure (bspHeader.textureRemapTable, { levelData with levelName })

/-- The archive `TITLE.DGO`, whose only record `title` is a valid `bsp-header` without the
`-vis` suffix. -/
def titleDb : ObjectFileDB :=
  ⟨fun n => if n = "TITLE.DGO" then some [⟨"title", 0⟩] else none,
    fun _ => ⟨⟨1, [[.typePtr "bsp-header"]]⟩⟩, .Jak1⟩

/-- The fallback finds `title` for `TITLE.DGO`, and the level extracted from it is named `t`,
not `title`. -/
theorem extractBspFromLevel_title :
    getBspFile [⟨"title", 0⟩] "TITLE.DGO" = .ok (some ⟨"title", 0⟩) ∧
      (Prod.snd <$> extractBspFromLevel (.recording sampleHeader) titleDb emptyPool "TITLE.DGO"
        ⟨fun _ => none⟩ false default).map (·.levelName) = .ok (bytes "t") :=
  ⟨rfl, rfl⟩

/-- **When `extract_bsp_from_level` aborts.** With every tree the header reader decodes read as
the class its tag names, the call goes through exactly when the archive is in the input, holds at
most one `-vis` record, and the `bsp-header` record found, if any, is a valid one whose tree count
matches its stored length and, with collision extraction on, holds at most one collide tree. -/
theorem extractBspFromLevel_ok_iff (ext : Extractors G) (db : ObjectFileDB) (texDb : TextureDB)
    (dgoName : String) (hacks : DecompileHacks) (extractCollision : Bool) (levelData : Level G)
    (hcls : ∀ r, ∀ t ∈ (ext.readFromFile (db.lookupRecord r).linkedData
      db.version).drawableTreeArray.trees, t.cls = classOfTag t.myType) :
    (∃ res, extractBspFromLevel ext db texDb dgoName hacks extractCollision levelData = .ok res) ↔
      ∃ records, db.objFilesByDgo dgoName = some records ∧
        ∃ found, getBspFile records dgoName = .ok found ∧
          ∀ r, found = some r → isValidBsp (db.lookupRecord r).linkedData = .ok none ∧
            treeCountMatches (ext.readFromFile (db.lookupRecord r).linkedData
              db.version).drawableTreeArray = true ∧
            ¬(extractCollision = true ∧ 2 ≤ collideCount (ext.readFromFile
              (db.lookupRecord r).linkedData db.version).drawableTreeArray.trees) := by
  unfold extractBspFromLevel mapAt
  cases hrec : db.objFilesByDgo dgoName with
  | none => exact iff_of_false (fun ⟨_, h⟩ => nomatch h) (fun ⟨_, h, _⟩ => nomatch h)
  | some records =>
    simp only [ok_bind, Option.some.injEq, exists_eq_left']
    cases hb : getBspFile records dgoName with
    | error e => exact iff_of_false (fun ⟨_, h⟩ => nomatch h) (fun ⟨_, h, _⟩ => nomatch h)
    | ok found =>
      simp only [ok_bind, Except.ok.injEq, exists_eq_left']
      cases found with
      | none => exact iff_of_true ⟨_, rfl⟩ nofun
      | some r =>
        simp only [Option.some.injEq, forall_eq']
        cases hv : isValidBsp (db.lookupRecord r).linkedData with
        | error e => exact iff_of_false (fun ⟨_, h⟩ => nomatch h) fun h => nomatch h.1
        | ok check =>
          cases check with
          | some msg => exact iff_of_false (fun ⟨_, h⟩ => nomatch h) fun h => nomatch h.1
          | none =>
            rw [ok_bind, Option.isSome_none, if_neg Bool.false_ne_true, and_iff_right rfl]
            by_cases hc : treeCountMatches (ext.readFromFile (db.lookupRecord r).linkedData
              db.version).drawableTreeArray = true
            · rw [if_neg (by simp [hc]), and_iff_right hc, ← extractDrawableTrees_ok_iff ext db
                texDb dgoName hacks extractCollision (bspLevelName r) _ levelData (hcls r)]
              constructor
              · rintro ⟨res, hres⟩
                obtain ⟨lev, hlev, -⟩ := bind_eq_ok.1 hres
                exact ⟨lev, hlev⟩
              · rintro ⟨lev, hlev⟩
                exact ⟨_, by rw [hlev]; rfl⟩
            · rw [if_pos (by simp [hc])]
              exact iff_of_false (fun ⟨_, h⟩ => nomatch h) fun h => hc h.1

theorem extractBspFromLevel_ok_title :
    ∃ res, extractBspFromLevel (.recording sampleHeader) titleDb emptyPool "TITLE.DGO"
      ⟨fun _ => none⟩ true default = .ok res :=
  (extractBspFromLevel_ok_iff (.recording sampleHeader) titleDb emptyPool "TITLE.DGO"
    ⟨fun _ => none⟩ true default fun _ =>
      (by decide : ∀ t ∈ sampleHeader.drawableTreeArray.trees, t.cls = classOfTag t.myType)).2
    ⟨_, rfl, _, rfl, fun _ hr => by cases hr; exact ⟨rfl, rfl, by decide⟩⟩

/-! ### `extract_common` and `extract_from_level` -/

/-- The level record `extract_common` builds (lines 240-242): the archive's textures, then its
art groups with an empty remap table. -/
def commonRecord [Inhabited G] (ext : Extractors G) (db : ObjectFileDB) (texDb : TextureDB)
    (dgoName : String) : Except Fatal (Level G) := do
  let tfragLevel ← addAllTexturesFromLevel default dgoName texDb
  extractArtGroupsFromLevel ext db texDb [] dgoName tfragLevel

/-- `extract_common(db, tex_db, dgo_name, dump_levels, output_folder)`: nothing when the archive
is not in the input or the pool is empty; otherwise the identity check, then the record, written
compressed to `<base>.fr3` in the output folder, and `common.glb` in `glb_out` when dumping. -/
def extractCommon [Inhabited G] (ext : Extractors G) (db : ObjectFileDB) (texDb : TextureDB)
    (dgoName : String) (dumpLevels : Bool) (folders : Folders) : Except Fatal (List FileWrite) :=
  if (db.objFilesByDgo dgoName).isNone then .ok []
  else if texDb.textures.length = 0 then .ok []
  else do
    confirmTexturesIdentical texDb
    let tfragLevel ← commonRecord ext db texDb dgoName
    let compressed := ext.compressZstd (ext.serialize tfragLevel)
    pure (⟨folders.outFile (fr3Name dgoName), compressed⟩ ::
      if dumpLevels then
        [⟨folders.glbFile (bytes "common.glb"), ext.saveLevelForegroundAsGltf tfragLevel⟩]
      else [])

/-- The level record `extract_from_level` builds (lines 275-281): the archive's textures, its
`bsp-header` trees, then its art groups with the remap table the trees returned. -/
def levelRecord [Inhabited G] (ext : Extractors G) (db : ObjectFileDB) (texDb : TextureDB)
    (dgoName : String) (hacks : DecompileHacks) (extractCollision : Bool) :
    Except Fatal (Level G) := do
  let levelData ← addAllTexturesFromLevel default dgoName texDb
  let (texRemap, levelData) ← extractBspFromLevel ext db texDb dgoName hacks extractCollision
    levelData
  extractArtGroupsFromLevel ext db texDb texRemap dgoName levelData

/-- The files `extract_from_level` writes for a finished level (lines 299-498): the compressed
serialization under `<base>.fr3` in the output folder, the same bytes under every name of
`repeatedWriteNames` there, and the background and foreground glTF files in `glb_out` when
dumping. -/
def levelWrites (ext : Extractors G) (dgoName : String) (dumpLevel : Bool) (folders : Folders)
    (levelData : Level G) : List FileWrite :=
  let compressed := ext.compressZstd (ext.serialize levelData)
  ⟨folders.outFile (fr3Name dgoName), compressed⟩ ::
    repeatedWriteNames.map (fun n => ⟨folders.outFile n, compressed⟩) ++
    if dumpLevel then
      [⟨folders.glbFile (levelData.levelName ++ bytes "_background.glb"),
          ext.saveLevelBackgroundAsGltf levelData⟩,
        ⟨folders.glbFile (levelData.levelName ++ bytes "_foreground.glb"),
          ext.saveLevelForegroundAsGltf levelData⟩]
    else []

/-- The art groups of `borrowed` added to a level (lines 285-288 and 293-296): its bsp trees are
extracted into the level first, and their remap table handed to the art groups. -/
def borrowArtGroups (ext : Extractors G) (db : ObjectFileDB) (texDb : TextureDB)
    (hacks : DecompileHacks) (extractCollision : Bool) (borrowed : String) (levelData : Level G) :
    Except Fatal (Level G) := do
  let (texRemap, levelData) ← extractBspFromLevel ext db texDb borrowed hacks extractCollision
    levelData
  extractArtGroupsFromLevel ext db texDb texRemap borrowed levelData

/-- `extract_from_level(db, tex_db, dgo_name, hacks, dump_level, extract_collision,
output_folder)`. -/
def extractFromLevel [Inhabited G] (ext : Extractors G) (db : ObjectFileDB) (texDb : TextureDB)
    (dgoName : String) (hacks : DecompileHacks) (dumpLevel extractCollision : Bool)
    (folders : Folders) : Except Fatal (List FileWrite) :=
  if (db.objFilesByDgo dgoName).isNone then .ok []
  else do
    let levelData ← levelRecord ext db texDb dgoName hacks extractCollision
    if dgoName ≠ "SNO.DGO" ∧ (db.objFilesByDgo dgoName).isNone then do
      let _ ← borrowArtGroups ext db texDb hacks extractCollision "SNO.DGO" levelData
      pure []
    else if dgoName ≠ "MIS.DGO" ∧ (db.objFilesByDgo dgoName).isNone then do
      let _ ← borrowArtGroups ext db texDb hacks extractCollision "MIS.DGO" levelData
      pure []
    else pure (levelWrites ext dgoName dumpLevel folders levelData)

/-! ### The borrowing branches are dead -/

/-- **`extract_from_level` never borrows**: past its early return the archive is in the input,
so both tests `db.obj_files_by_dgo.count(dgo_name) == 0` fail, and the function writes what the
level record of the archive gives. -/
theorem extractFromLevel_eq [Inhabited G] (ext : Extractors G) (db : ObjectFileDB)
    (texDb : TextureDB) (dgoName : String) (hacks : DecompileHacks)
    (dumpLevel extractCollision : Bool) (folders : Folders) :
    extractFromLevel ext db texDb dgoName hacks dumpLevel extractCollision folders =
      if (db.objFilesByDgo dgoName).isNone then .ok []
      else levelWrites ext dgoName dumpLevel folders <$>
        levelRecord ext db texDb dgoName hacks extractCollision := by
  unfold extractFromLevel
  by_cases h : (db.objFilesByDgo dgoName).isNone
  · simp only [h, if_true]
  · simp only [h, Bool.false_eq_true, and_false, if_false]
    cases levelRecord ext db texDb dgoName hacks extractCollision <;> rfl

/-! ### What the two passes write to the output folder -/

/-- A finished level writes its buffer to the output folder under its own `.fr3` name and under
every name of the block, and nothing else there, `glb_out` being another folder. -/
theorem mem_levelWrites_output (ext : Extractors G) (dgoName : String) (dumpLevel : Bool)
    {folders : Folders} (hdirs : folders.output ≠ folders.glbOut) (levelData : Level G)
    (n d : List UInt8) :
    ⟨folders.outFile n, d⟩ ∈ levelWrites ext dgoName dumpLevel folders levelData ↔
      (n = fr3Name dgoName ∨ n ∈ repeatedWriteNames) ∧
        d = ext.compressZstd (ext.serialize levelData) := by
  unfold levelWrites
  split_ifs <;> simp [or_and_right, and_left_comm (a := _ ∈ repeatedWriteNames), eq_comm (b := d),
    Folders.outFile_ne_glbFile hdirs]

/-- Level `A` writes the buffer `v` to the file `n` of the output folder: the archive is in the
input, its level record is built, `n` is its own `.fr3` name or a fixed one, and `v` is the
compressed serialization of the record. -/
def LevelWritesOut [Inhabited G] (ext : Extractors G) (db : ObjectFileDB) (texDb : TextureDB)
    (hacks : DecompileHacks) (extractCollision : Bool) (A : String) (n v : List UInt8) : Prop :=
  (db.objFilesByDgo A).isSome ∧ ∃ lev, levelRecord ext db texDb A hacks extractCollision = .ok lev ∧
    (n = fr3Name A ∨ n ∈ repeatedWriteNames) ∧ v = ext.compressZstd (ext.serialize lev)

section Passes

variable [Inhabited G] (ext : Extractors G) (db : ObjectFileDB) (texDb : TextureDB)
  (dgoName : String) (hacks : DecompileHacks) (dumpLevel extractCollision : Bool)
  (folders : Folders)

/-- `extract_from_level` goes through exactly when the archive is absent or its level record can
be built. -/
theorem extractFromLevel_ok_iff :
    (∃ ws, extractFromLevel ext db texDb dgoName hacks dumpLevel extractCollision folders =
        .ok ws) ↔
      ((db.objFilesByDgo dgoName).isSome →
        ∃ lev, levelRecord ext db texDb dgoName hacks extractCollision = .ok lev) := by
  rw [extractFromLevel_eq]
  cases db.objFilesByDgo dgoName with
  | none => simp
  | some _ => cases levelRecord ext db texDb dgoName hacks extractCollision <;> simp

/-- `extract_from_level` aborts exactly when the archive is in the input and building its level
record aborts, and then with that record's error. -/
theorem extractFromLevel_eq_error_iff (f : Fatal) :
    extractFromLevel ext db texDb dgoName hacks dumpLevel extractCollision folders = .error f ↔
      (db.objFilesByDgo dgoName).isSome ∧
        levelRecord ext db texDb dgoName hacks extractCollision = .error f := by
  rw [extractFromLevel_eq]
  cases db.objFilesByDgo dgoName with
  | none => simp
  | some _ => cases levelRecord ext db texDb dgoName hacks extractCollision <;> simp

/-- `extract_from_level` on an archive of the input with a level record writes that record's
files. -/
theorem extractFromLevel_eq_levelWrites {lev : Level G}
    (hpres : (db.objFilesByDgo dgoName).isSome)
    (hlev : levelRecord ext db texDb dgoName hacks extractCollision = .ok lev) :
    extractFromLevel ext db texDb dgoName hacks dumpLevel extractCollision folders =
      .ok (levelWrites ext dgoName dumpLevel folders lev) := by
  rw [extractFromLevel_eq, if_neg (by simpa [Option.isNone_iff_eq_none,
    ← Option.isSome_iff_ne_none] using hpres), hlev]
  rfl

/-- What `extract_from_level` writes to the output folder: the buffer of the archive's level
record, under its `.fr3` name and the names of the block, when the archive is in the input. -/
theorem mem_extractFromLevel_output (hdirs : folders.output ≠ folders.glbOut)
    {ws : List FileWrite}
    (h : extractFromLevel ext db texDb dgoName hacks dumpLevel extractCollision folders = .ok ws)
    (n d : List UInt8) :
    ⟨folders.outFile n, d⟩ ∈ ws ↔
      LevelWritesOut ext db texDb hacks extractCollision dgoName n d := by
  rw [extractFromLevel_eq] at h
  cases hdb : db.objFilesByDgo dgoName with
  | none =>
    simp only [hdb, Option.isNone_none, if_true, Except.ok.injEq] at h
    simp [← h, LevelWritesOut, hdb]
  | some _ =>
    simp only [hdb, Option.isNone_some, Bool.false_eq_true, if_false] at h
    cases hr : levelRecord ext db texDb dgoName hacks extractCollision with
    | error e => simp [hr] at h
    | ok lev =>
      simp only [hr, map_ok, Except.ok.injEq] at h
      simp [← h, mem_levelWrites_output ext dgoName dumpLevel hdirs, LevelWritesOut, hdb, hr]

/-- **The inversion lemma of `extract_common`**: it writes nothing when the archive is absent or
the pool empty; otherwise the identity check has passed and it writes the compressed record to
`<base>.fr3`, then `common.glb` when dumping. -/
theorem extractCommon_eq_ok {ws : List FileWrite}
    (h : extractCommon ext db texDb dgoName dumpLevel folders = .ok ws) :
    ((db.objFilesByDgo dgoName).isNone ∨ texDb.textures = []) ∧ ws = [] ∨
      (db.objFilesByDgo dgoName).isSome ∧ texDb.textures ≠ [] ∧
        confirmTexturesIdentical texDb = .ok () ∧
        ∃ lev, commonRecord ext db texDb dgoName = .ok lev ∧
          ws = ⟨folders.outFile (fr3Name dgoName), ext.compressZstd (ext.serialize lev)⟩ ::
            if dumpLevel then
              [⟨folders.glbFile (bytes "common.glb"), ext.saveLevelForegroundAsGltf lev⟩]
            else [] := by
  unfold extractCommon at h
  by_cases habs : (db.objFilesByDgo dgoName).isNone
  · rw [if_pos habs] at h
    exact .inl ⟨.inl habs, (Except.ok.inj h).symm⟩
  by_cases hemp : texDb.textures.length = 0
  · rw [if_neg habs, if_pos hemp] at h
    exact .inl ⟨.inr (List.length_eq_zero.1 hemp), (Except.ok.inj h).symm⟩
  rw [if_neg habs, if_neg hemp] at h
  obtain ⟨u, hu, h⟩ := bind_eq_ok.1 h
  obtain ⟨lev, hlev, h⟩ := bind_eq_ok.1 h
  exact .inr ⟨Option.isSome_iff_ne_none.2 (by simpa using habs), fun h' => hemp (by simp [h']), hu,
    lev, hlev, (Except.ok.inj h).symm⟩

end Passes

/-! ### What the level record reads -/

/-- Two databases agree on archive `n`: the same records, the same decoded data behind each of
them, and the same game version. -/
structure AgreeOn (n : String) (db₁ db₂ : ObjectFileDB) : Prop where
  records : db₁.objFilesByDgo n = db₂.objFilesByDgo n
  data : ∀ rs, db₁.objFilesByDgo n = some rs → ∀ r ∈ rs, db₁.lookupRecord r = db₂.lookupRecord r
  version : db₁.version = db₂.version

section Agree

variable (ext : Extractors G) (texDb : TextureDB) (hacks : DecompileHacks)
  (extractCollision : Bool) {n : String} {db₁ db₂ : ObjectFileDB}

theorem extractDrawableTrees_version (h : db₁.version = db₂.version) (dgoName : String)
    (levelName : List UInt8) (bspHeader : BspHeader) (levelData : Level G) :
    extractDrawableTrees ext db₁ texDb dgoName hacks extractCollision levelName bspHeader
        levelData =
      extractDrawableTrees ext db₂ texDb dgoName hacks extractCollision levelName bspHeader
        levelData := by
  have htree : ∀ allTies, extractTree ext db₁ texDb dgoName hacks extractCollision levelName
      bspHeader allTies = extractTree ext db₂ texDb dgoName hacks extractCollision levelName
      bspHeader allTies := fun _ => by
    funext s t
    simp only [extractTree, atestDisableFlag, h]
  simp only [extractDrawableTrees, htree]

theorem extractArtGroupsFromLevel_agree (h : AgreeOn n db₁ db₂) (texRemap : List TextureRemap)
    (levelData : Level G) :
    extractArtGroupsFromLevel ext db₁ texDb texRemap n levelData =
      extractArtGroupsFromLevel ext db₂ texDb texRemap n levelData := by
  unfold extractArtGroupsFromLevel mapAt
  rw [← h.records]
  cases hrs : db₁.objFilesByDgo n with
  | none => simp only [error_bind]
  | some rs =>
    simp only [ok_bind, h.version]
    exact congrArg _ (List.foldl_ext _ _ _ fun lev r hr => by rw [h.data rs hrs r hr])

theorem extractBspFromLevel_agree (h : AgreeOn n db₁ db₂) (levelData : Level G) :
    extractBspFromLevel ext db₁ texDb n hacks extractCollision levelData =
      extractBspFromLevel ext db₂ texDb n hacks extractCollision levelData := by
  unfold extractBspFromLevel mapAt
  rw [← h.records]
  cases hrs : db₁.objFilesByDgo n with
  | none => simp only [error_bind]
  | some rs =>
    simp only [ok_bind]
    cases hb : getBspFile rs n with
    | error e => simp only [error_bind]
    | ok r? =>
      cases r? with
      | none => simp only [ok_bind]
      | some r =>
        simp only [ok_bind, h.data rs hrs r (mem_of_getBspFile hb), h.version,
          extractDrawableTrees_version ext texDb hacks extractCollision h.version]

theorem levelRecord_agree [Inhabited G] (h : AgreeOn n db₁ db₂) :
    levelRecord ext db₁ texDb n hacks extractCollision =
      levelRecord ext db₂ texDb n hacks extractCollision := by
  simp only [levelRecord, extractBspFromLevel_agree ext texDb hacks extractCollision h,
    extractArtGroupsFromLevel_agree ext texDb h]

end Agree

/-- **A level depends on its own archive only.** Two databases that agree on archive `dgoName`
(its records, the data behind them, the game version) give the same level record and the same
writes, whatever they hold for any other archive; and for every database the function writes
what the archive's own level record gives, the `SNO.DGO` and `MIS.DGO` branches never being
entered. -/
theorem extractFromLevel_agree [Inhabited G] (ext : Extractors G) (texDb : TextureDB)
    (dgoName : String) (hacks : DecompileHacks) (dumpLevel extractCollision : Bool)
    (folders : Folders) {db₁ db₂ : ObjectFileDB}
    (h : AgreeOn dgoName db₁ db₂) :
    levelRecord ext db₁ texDb dgoName hacks extractCollision =
        levelRecord ext db₂ texDb dgoName hacks extractCollision ∧
      extractFromLevel ext db₁ texDb dgoName hacks dumpLevel extractCollision folders =
        extractFromLevel ext db₂ texDb dgoName hacks dumpLevel extractCollision folders ∧
      ∀ db, extractFromLevel ext db texDb dgoName hacks dumpLevel extractCollision folders =
        if (db.objFilesByDgo dgoName).isNone then .ok []
        else levelWrites ext dgoName dumpLevel folders <$>
          levelRecord ext db texDb dgoName hacks extractCollision := by
  refine ⟨levelRecord_agree ext texDb hacks extractCollision h, ?_,
    fun db => extractFromLevel_eq ext db texDb dgoName hacks dumpLevel extractCollision folders⟩
  rw [extractFromLevel_eq, extractFromLevel_eq, h.records,
    levelRecord_agree ext texDb hacks extractCollision h]

/-- An output folder `out`, and `glb_out` apart from it. -/
def sampleFolders : Folders := ⟨"out", "glb_out"⟩

/-- `titleDb` with an archive `SNO.DGO` besides. -/
def titleSnoDb : ObjectFileDB :=
  { titleDb with
    objFilesByDgo := fun n => if n = "SNO.DGO" then some [⟨"sno-ag", 1⟩]
      else titleDb.objFilesByDgo n }

theorem extractFromLevel_agree_title :
    AgreeOn "TITLE.DGO" titleDb titleSnoDb ∧
      (levelRecord (.recording sampleHeader) titleDb emptyPool "TITLE.DGO" ⟨fun _ => none⟩ true =
          levelRecord (.recording sampleHeader) titleSnoDb emptyPool "TITLE.DGO"
            ⟨fun _ => none⟩ true ∧
        extractFromLevel (.recording sampleHeader) titleDb emptyPool "TITLE.DGO"
            ⟨fun _ => none⟩ false true sampleFolders =
          extractFromLevel (.recording sampleHeader) titleSnoDb emptyPool "TITLE.DGO"
            ⟨fun _ => none⟩ false true sampleFolders ∧
        ∀ db, extractFromLevel (.recording sampleHeader) db emptyPool "TITLE.DGO"
            ⟨fun _ => none⟩ false true sampleFolders =
          if (db.objFilesByDgo "TITLE.DGO").isNone then .ok []
          else levelWrites (.recording sampleHeader) "TITLE.DGO" false sampleFolders <$>
            levelRecord (.recording sampleHeader) db emptyPool "TITLE.DGO" ⟨fun _ => none⟩ true) :=
  have h : AgreeOn "TITLE.DGO" titleDb titleSnoDb := ⟨by decide, fun _ _ _ _ => rfl, rfl⟩
  ⟨h, extractFromLevel_agree _ _ _ _ _ _ _ h⟩

end ExtractLevel
