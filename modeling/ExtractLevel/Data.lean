import ExtractLevel.Basic

/-!
# The data `extract_level.cpp` reads and builds

The records of the object-file database and of the texture pool, the decoded `bsp-header`, the
output `tfrag3::Level`, and the collaborators the file calls but does not define. Their
declarations are not part of `extract_level.cpp`; each is modelled from the spec's data model
(§3) with the fields the file reads, and nothing else.

**Collaborators are parameters.** The geometry extractors, `BspHeader::read_from_file`, the
serializer, the compressor and the glTF exporter are bundled in `Extractors`, and every theorem
of the development holds for every choice of them. They are total: an extractor updates the
level record it is handed and returns. The geometry an extractor adds is of an arbitrary type
`G`, so nothing is assumed about it.

**Maps are lookups.** An `std::unordered_map` that the file only queries is a function to
`Option`; the one it iterates, the texture table, is a list in its iteration order whose keys are
distinct (`TextureDB.textures_nodup`). Theorems about the iteration hold for every such list,
hence for every iteration order.
-/

namespace ExtractLevel

/-! ### Object files -/

/-- `ObjectFileRecord`: one named object file of an archive, with an opaque handle telling apart
files that share a name. -/
structure ObjectFileRecord where
  name : String
  handle : ℕ
  deriving DecidableEq, Repr

/-- A decoded word of an object file: raw data, a pointer to a label, or a type tag naming a
symbol (`LinkedWord::TYPE_PTR`, read by `symbol_name()`). -/
inductive LinkedWord where
  | plainData (value : ℕ)
  | ptr (label : ℕ)
  | typePtr (symbolName : String)
  deriving DecidableEq, Repr

/-- `LinkedObjectFile`: the segment count and the words of each segment. -/
structure LinkedObjectFile where
  segments : ℕ
  wordsBySeg : List (List LinkedWord)
  deriving DecidableEq, Repr

/-- `ObjectFileData`, the decoded contents behind a record. -/
structure ObjectFileData where
  linkedData : LinkedObjectFile
  deriving DecidableEq, Repr

/-- The game an archive set belongs to (`db.version()`). -/
inductive GameVersion where
  | Jak1
  | Jak2
  deriving DecidableEq, Repr

/-- `ObjectFileDB`, read-only here: the records of each archive, the decoded data behind each
record, and the game version. -/
structure ObjectFileDB where
  /-- `obj_files_by_dgo`: the records of an archive, by archive name. -/
  objFilesByDgo : String → Option (List ObjectFileRecord)
  /-- `lookup_record`. -/
  lookupRecord : ObjectFileRecord → ObjectFileData
  version : GameVersion

/-! ### Textures -/

/-- `TextureDB::TextureData`: one texture of the pool. -/
structure TextureData where
  w : ℕ
  h : ℕ
  name : String
  page : ℕ
  rgbaBytes : List UInt32
  deriving DecidableEq, Repr

/-- `TextureDB`, the shared pool. -/
structure TextureDB where
  /-- `textures`, by texture id, in the map's iteration order. -/
  textures : List (ℕ × TextureData)
  /-- An id appears once. -/
  textures_nodup : (textures.map Prod.fst).Nodup
  /-- `tpage_names`: the name of each texture page. -/
  tpageNames : ℕ → Option String
  /-- `texture_ids_per_level`: the ids each level uses. -/
  textureIdsPerLevel : String → Option (List ℕ)
  /-- They come in ascending order, each once, as a `std::set` iterates. -/
  textureIdsPerLevel_sorted : ∀ n ids, textureIdsPerLevel n = some ids → ids.Pairwise (· < ·)

/-- `tfrag3::Texture`, a texture as the output level carries it. -/
structure Texture where
  comboId : ℕ
  w : ℕ
  h : ℕ
  debugTpageName : String
  debugName : String
  data : List UInt32
  loadToPool : Bool
  deriving DecidableEq, Repr

/-- `tfrag3::Level`, the output record: its name, its textures and the geometry the extractors
add. The name is a `std::string` cut out of a record's name by a byte count (line 138), so it is
kept as bytes, which need not be UTF-8 text. A default-constructed record has an empty name and
no textures. -/
structure Level (G : Type) where
  levelName : List UInt8
  textures : List Texture
  geometry : G
  deriving DecidableEq, Repr

instance {G : Type} [Inhabited G] : Inhabited (Level G) := ⟨⟨[], [], default⟩⟩

/-- `DecompileHacks`, as far as this file reads it: the texture ids a level is known to miss,
by level name. -/
structure DecompileHacks where
  missingTexturesByLevel : List UInt8 → Option (List (ℤ × ℤ))

/-! ### The decoded `bsp-header` -/

/-- The C++ class a drawable tree was decoded as, up to what `dynamic_cast` tells apart: the
class of the cast's target or a subclass of it. -/
inductive TreeClass where
  | drawableTreeTfrag
  | drawableTreeInstanceTie
  | drawableTreeInstanceShrub
  | drawableTreeCollideFragment
  | other
  deriving DecidableEq, Repr

/-- A drawable tree: its type tag (`my_type()`), its decoded class, and the words it was read
from, which only its extractor reads. -/
structure DrawableTree where
  myType : String
  cls : TreeClass
  data : List LinkedWord
  deriving DecidableEq, Repr

/-- `DrawableTreeArray`: the stored tree count and the trees. -/
structure DrawableTreeArray where
  length : ℤ
  trees : List DrawableTree
  deriving DecidableEq, Repr

/-- `TextureRemap`, one entry of the level's texture-id translation. -/
structure TextureRemap where
  originalTexid : ℕ
  newTexid : ℕ
  deriving DecidableEq, Repr

/-- `BspHeader`, as `read_from_file` decodes it. `texture_flags` is a fixed-size C array, so it
has a first element. -/
structure BspHeader where
  drawableTreeArray : DrawableTreeArray
  textureRemapTable : List TextureRemap
  textureFlags : List UInt16
  textureFlags_ne_nil : textureFlags ≠ []

/-! ### Collaborators and output -/

/-- The functions `extract_level.cpp` calls and other files define, with the arguments the file
passes (the type system and draw statistics apart). -/
structure Extractors (G : Type) where
  /-- `BspHeader::read_from_file`. -/
  readFromFile : LinkedObjectFile → GameVersion → BspHeader
  /-- `extract_tfrag(tree, name, remap, tex_db, expected_missing, level, dump, level_name,
  atest_disable)`. -/
  extractTfrag : DrawableTree → String → List TextureRemap → TextureDB → List (ℤ × ℤ) →
    Level G → Bool → List UInt8 → Bool → Level G
  /-- `extract_tie(tree, name, remap, tex_db, level, dump, version)`. -/
  extractTie : DrawableTree → String → List TextureRemap → TextureDB → Level G → Bool →
    GameVersion → Level G
  /-- `extract_shrub(tree, name, remap, tex_db, expected_missing, level, dump, version)`. -/
  extractShrub : DrawableTree → String → List TextureRemap → TextureDB → List (ℤ × ℤ) →
    Level G → Bool → GameVersion → Level G
  /-- `extract_collide_frags(tree, all_ties, name, level, dump)`. -/
  extractCollideFrags : DrawableTree → List DrawableTree → String → Level G → Bool → Level G
  /-- `extract_merc(ag_file, tex_db, remap, level, dump, version)`. -/
  extractMerc : ObjectFileData → TextureDB → List TextureRemap → Level G → Bool →
    GameVersion → Level G
  /-- `tfrag3::Level::serialize`, read back as the saved bytes. -/
  serialize : Level G → List UInt8
  /-- `compression::compress_zstd`. -/
  compressZstd : List UInt8 → List UInt8
  /-- The bytes `save_level_background_as_gltf` writes. -/
  saveLevelBackgroundAsGltf : Level G → List UInt8
  /-- The bytes `save_level_foreground_as_gltf` writes. -/
  saveLevelForegroundAsGltf : Level G → List UInt8

/-- The two folders the program writes to, each named by its path: the caller's `output_path`,
and `glb_out` under the project directory, `get_jak_project_dir() / "glb_out"`, which the model
does not compute. Nothing in the program keeps them apart, since a caller may pass the second as
the first; a statement that needs them apart says so. -/
structure Folders where
  output : String
  glbOut : String
  deriving DecidableEq, Repr

/-- A file: a folder and a name in it, the name as the bytes of the `std::string` it is formatted
into. Two paths are one file exactly when they are equal. -/
structure OutPath where
  dir : String
  name : List UInt8
  deriving DecidableEq, Repr

/-- `output_folder / name`. -/
def Folders.outFile (folders : Folders) (name : List UInt8) : OutPath := ⟨folders.output, name⟩

/-- `get_jak_project_dir() / "glb_out" / name`. -/
def Folders.glbFile (folders : Folders) (name : List UInt8) : OutPath := ⟨folders.glbOut, name⟩

@[simp] theorem Folders.outFile_dir (folders : Folders) (n : List UInt8) :
    (folders.outFile n).dir = folders.output := rfl

@[simp] theorem Folders.outFile_name (folders : Folders) (n : List UInt8) :
    (folders.outFile n).name = n := rfl

@[simp] theorem Folders.outFile_inj {folders : Folders} {n m : List UInt8} :
    folders.outFile n = folders.outFile m ↔ n = m :=
  ⟨congrArg OutPath.name, congrArg _⟩

/-- A file of the output folder is a file of `glb_out` only when the two folders are one. -/
theorem Folders.outFile_ne_glbFile {folders : Folders} (h : folders.output ≠ folders.glbOut)
    (n m : List UInt8) : folders.outFile n ≠ folders.glbFile m :=
  fun e => h (congrArg OutPath.dir e)

/-- One `write_binary_file` (or glTF save): a path and the bytes written there. -/
structure FileWrite where
  path : OutPath
  data : List UInt8
  deriving DecidableEq, Repr

end ExtractLevel
