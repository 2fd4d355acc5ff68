import ExtractLevel.Data

/-!
# Dispatching the drawable trees of a `bsp-header`

The two passes of `extract_bsp_from_level` over the decoded tree array (lines 157-212). The first
pass collects, by `dynamic_cast`, every tree of class `DrawableTreeInstanceTie`. The second walks
the trees in stored order and routes each by its type tag: the eight tfrag tags to
`extract_tfrag`, the tie and shrub tags to their extractors, the collide-fragment tag to
`extract_collide_frags` when collision extraction is on, and anything else nowhere. One counter
`i` numbers the calls across every kind, and `got_collide` lets one collide tree through.

The loop is stated once per tree (`extractTree_eq`) and then over every array
(`foldlM_extractTree`): from any state it makes, in order, the calls `plannedCalls` lists, and it
aborts exactly when collision extraction is on and a second collide tree turns up. For a whole
array (`extractDrawableTrees_spec`), with every tree decoded as the class its tag names, the level
is the result of the calls `plannedCalls` lists: the routed trees in stored order, the `k`-th
named `<dgo>-k` with its kind's suffix, names that are pairwise distinct, and every collide call
handed the tie trees of the whole array.
-/

namespace ExtractLevel

variable {G : Type}

/-! ### The routing table -/

/-- `tfrag_trees`: the eight tags routed to `extract_tfrag` (lines 157-160). -/
def tfragTrees : List String :=
  ["drawable-tree-tfrag", "drawable-tree-trans-tfrag", "drawable-tree-tfrag-trans",
   "drawable-tree-dirt-tfrag", "drawable-tree-tfrag-water", "drawable-tree-ice-tfrag",
   "drawable-tree-lowres-tfrag", "drawable-tree-lowres-trans-tfrag"]

/-- The extractor a tree goes to. -/
inductive TreeKind where
  | tfrag
  | tie
  | shrub
  | collide
  deriving DecidableEq, Repr

/-- What the identifier of a call of each kind ends in. -/
def TreeKind.suffix : TreeKind → String
  | .tfrag => ""
  | .tie => "-tie"
  | .shrub => "-shrub"
  | .collide => "-collide"

/-- The class a tree of each kind is cast to. -/
def TreeKind.cls : TreeKind → TreeClass
  | .tfrag => .drawableTreeTfrag
  | .tie => .drawableTreeInstanceTie
  | .shrub => .drawableTreeInstanceShrub
  | .collide => .drawableTreeCollideFragment

/-- The extractor a tag is routed to, as §4.3 lists them; collide fragments only when collision
extraction is on. -/
def treeKind (extractCollision : Bool) (tag : String) : Option TreeKind :=
  if tag ∈ tfragTrees then some .tfrag
  else if tag = "drawable-tree-instance-tie" then some .tie
  else if tag = "drawable-tree-instance-shrub" then some .shrub
  else if tag = "drawable-tree-collide-fragment" ∧ extractCollision then some .collide
  else none

/-- The class `read_from_file` decodes a tree of a given tag as: the class of its kind, and
another class for a tag no extractor takes. -/
def classOfTag (tag : String) : TreeClass :=
  ((treeKind true tag).map TreeKind.cls).getD .other

/-- The identifier of the call numbered `i`: `fmt::format("{}-{}", dgo_name, i)` with the kind's
suffix. -/
def treeName (dgoName : String) (i : ℕ) (kind : TreeKind) : String :=
  dgoName ++ "-" ++ toString i ++ kind.suffix

/-! ### The loop -/

/-- The locals of the second pass: the shared counter `i`, `got_collide`, and the level being
built. -/
structure TreeLoop (G : Type) where
  /-- The counter `i`, a signed 32-bit `int` in the source, bumped once per tree routed to an
  extractor. As a natural number it is the machine's value while fewer than `2 ^ 31` trees have
  been routed, which line 149 bounds: it asserts that the tree count, cast to `int`, is the
  stored length. -/
  i : ℕ
  gotCollide : Bool
  levelData : Level G

/-- `i++`, with the extractor call it numbers applied to the level. -/
def TreeLoop.call (s : TreeLoop G) (f : Level G → Level G) : TreeLoop G :=
  { s with i := s.i + 1, levelData := f s.levelData }

/-- `ASSERT(as_x)` after `auto as_x = dynamic_cast<X*>(tree)`. -/
def castCheck (tree : DrawableTree) (cls : TreeClass) (asName : String) : Except Fatal Unit :=
  if tree.cls = cls then .ok () else .error (.assertFailed asName)

section Loop

variable (ext : Extractors G) (db : ObjectFileDB) (texDb : TextureDB) (dgoName : String)
  (hacks : DecompileHacks) (extractCollision : Bool) (levelName : List UInt8)
  (bspHeader : BspHeader)

/-- The flag of lines 181-186: Jak 2 levels with bit 0 of the first texture flag set have alpha
test forced off. -/
def atestDisableFlag : Bool :=
  db.version = .Jak2 && (bspHeader.textureFlags.head bspHeader.textureFlags_ne_nil &&& 1) != 0

/-- One iteration of the second pass (lines 173-211). -/
def extractTree (allTies : List DrawableTree) (s : TreeLoop G) (drawTree : DrawableTree) :
    Except Fatal (TreeLoop G) :=
  if drawTree.myType ∈ tfragTrees then do
    castCheck drawTree .drawableTreeTfrag "as_tfrag_tree"
    let expectedMissingTextures := (hacks.missingTexturesByLevel levelName).getD []
    pure (s.call (ext.extractTfrag drawTree (dgoName ++ "-" ++ toString s.i)
      bspHeader.textureRemapTable texDb expectedMissingTextures · false levelName
      (atestDisableFlag db bspHeader)))
  else if drawTree.myType = "drawable-tree-instance-tie" then do
    castCheck drawTree .drawableTreeInstanceTie "as_tie_tree"
    pure (s.call (ext.extractTie drawTree (dgoName ++ "-" ++ toString s.i ++ "-tie")
      bspHeader.textureRemapTable texDb · false db.version))
  else if drawTree.myType = "drawable-tree-instance-shrub" then do
    castCheck drawTree .drawableTreeInstanceShrub "as_shrub_tree"
    pure (s.call (ext.extractShrub drawTree (dgoName ++ "-" ++ toString s.i ++ "-shrub")
      bspHeader.textureRemapTable texDb [] · false db.version))
  else if drawTree.myType = "drawable-tree-collide-fragment" ∧ extractCollision then do
    castCheck drawTree .drawableTreeCollideFragment "as_collide_frags"
    if s.gotCollide then .error (.assertFailed "!got_collide")
    else pure ({ s with gotCollide := true }.call (ext.extractCollideFrags drawTree allTies
      (dgoName ++ "-" ++ toString s.i ++ "-collide") · false))
  else pure s

/-- Both passes over the trees of the header (lines 163-212): collect the ties, then dispatch
every tree from `i = 0` and `got_collide = false`. -/
def extractDrawableTrees (levelData : Level G) : Except Fatal (Level G) := do
  let trees := bspHeader.drawableTreeArray.trees
  let allTies := trees.filter (·.cls = .drawableTreeInstanceTie)
  let s ← trees.foldlM (extractTree ext db texDb dgoName hacks extractCollision levelName
    bspHeader allTies) ⟨0, false, levelData⟩
  pure s.levelData

/-! ### The calls, as data -/

/-- One extractor call of the loop: its kind, its tree and its identifier. The other arguments
are the same for every call of one level. -/
structure ExtractCall where
  kind : TreeKind
  tree : DrawableTree
  name : String
  deriving DecidableEq, Repr

/-- What a call does to the level, the collide extractor being handed `allTies`. -/
def ExtractCall.run (allTies : List DrawableTree) (c : ExtractCall) (lev : Level G) :
    Level G :=
  match c.kind with
  | .tfrag => ext.extractTfrag c.tree c.name bspHeader.textureRemapTable texDb
      ((hacks.missingTexturesByLevel levelName).getD []) lev false levelName
      (atestDisableFlag db bspHeader)
  | .tie => ext.extractTie c.tree c.name bspHeader.textureRemapTable texDb lev false db.version
  | .shrub => ext.extractShrub c.tree c.name bspHeader.textureRemapTable texDb [] lev false
      db.version
  | .collide => ext.extractCollideFrags c.tree allTies c.name lev false

end Loop

/-- The calls the loop makes, as §4.3 states them: the trees an extractor takes, in stored
order, the `k`-th of them (counted from `i`) named `<dgo>-k` with its kind's suffix. -/
def plannedCalls (dgoName : String) (extractCollision : Bool) (i : ℕ)
    (trees : List DrawableTree) : List ExtractCall :=
  ((trees.filterMap fun t => (treeKind extractCollision t.myType).map fun kind => (kind, t)
    ).enumFrom i).map fun (k, kind, t) => ⟨kind, t, treeName dgoName k kind⟩

/-- The number of trees tagged as collide fragments. -/
def collideCount (trees : List DrawableTree) : ℕ :=
  (trees.filter (·.myType = "drawable-tree-collide-fragment")).length

/-! ### Routing facts -/

theorem treeKind_collideTag (extractCollision : Bool) :
    treeKind extractCollision "drawable-tree-collide-fragment" =
      if extractCollision then some .collide else none := by
  cases extractCollision <;> decide

/-- Only a collide fragment, and only with collision extraction on, goes to the collide
extractor. -/
theorem treeKind_eq_some_collide {extractCollision : Bool} {tag : String} :
    treeKind extractCollision tag = some .collide ↔
      tag = "drawable-tree-collide-fragment" ∧ extractCollision = true := by
  constructor
  · intro h
    unfold treeKind at h
    split_ifs at h with h₁ h₂ h₃ h₄ <;> first | exact h₄ | cases h
  · rintro ⟨rfl, rfl⟩
    rfl

/-- A tree routed to another extractor than the collide one is not tagged as a collide
fragment. -/
theorem ne_collideTag_of_treeKind {extractCollision : Bool} {tag : String} {kind : TreeKind}
    (h : treeKind extractCollision tag = some kind) (hk : kind ≠ .collide) :
    tag ≠ "drawable-tree-collide-fragment" := by
  rintro rfl
  rw [treeKind_collideTag] at h
  cases extractCollision <;> simp_all

/-- Turning collision extraction on routes no tree away from its extractor. -/
theorem treeKind_true_of_eq_some {extractCollision : Bool} {tag : String} {kind : TreeKind}
    (h : treeKind extractCollision tag = some kind) : treeKind true tag = some kind := by
  unfold treeKind at *
  split_ifs at h ⊢ <;> simp_all

/-- A tree decoded as the class its tag names has the class of the extractor it is routed to,
so the `dynamic_cast` of its branch succeeds. -/
theorem cls_of_treeKind {extractCollision : Bool} {t : DrawableTree} {kind : TreeKind}
    (hcls : t.cls = classOfTag t.myType) (h : treeKind extractCollision t.myType = some kind) :
    t.cls = kind.cls := by
  rw [hcls, classOfTag, treeKind_true_of_eq_some h]
  rfl

/-- A tree decoded as the class its tag names is a tie exactly when it is tagged as one. -/
theorem classOfTag_eq_tie_iff (tag : String) :
    classOfTag tag = .drawableTreeInstanceTie ↔ tag = "drawable-tree-instance-tie" := by
  unfold classOfTag treeKind
  split_ifs with h1 h2 h3 h4 <;> simp_all [TreeKind.cls]
  rintro rfl
  exact absurd h1 (by decide)

theorem collideCount_cons (t : DrawableTree) (l : List DrawableTree) :
    collideCount (t :: l) =
      collideCount l + if t.myType = "drawable-tree-collide-fragment" then 1 else 0 := by
  unfold collideCount
  rw [List.filter_cons]
  split_ifs <;> simp_all

theorem plannedCalls_cons (dgoName : String) (extractCollision : Bool) (i : ℕ)
    (t : DrawableTree) (l : List DrawableTree) :
    plannedCalls dgoName extractCollision i (t :: l) =
      match treeKind extractCollision t.myType with
      | none => plannedCalls dgoName extractCollision i l
      | some kind => ⟨kind, t, treeName dgoName i kind⟩ ::
          plannedCalls dgoName extractCollision (i + 1) l := by
  unfold plannedCalls
  cases h : treeKind extractCollision t.myType <;> simp [List.filterMap_cons, List.enumFrom_cons, h]

/-! ### Distinct identifiers -/

/-- **Identifiers do not collide**: the number and the kind are read back from the name. -/
theorem treeName_inj {dgoName : String} {i i' : ℕ} {kind kind' : TreeKind}
    (h : treeName dgoName i kind = treeName dgoName i' kind') : i = i' ∧ kind = kind' := by
  have hsuffix : ∀ k : TreeKind, ∀ c ∈ k.suffix.data.head?, ¬c.isDigit := by
    intro k c hc
    cases k <;> simp only [TreeKind.suffix] at hc <;> cases hc <;> decide
  have hd := List.append_cancel_left (List.append_cancel_left
    (by simpa only [treeName, String.ext_iff, String.data_append, List.append_assoc] using h))
  obtain ⟨hi, hk⟩ := digits_append_inj (toDigits_ten_isDigit i) (toDigits_ten_isDigit i')
    (hsuffix kind) (hsuffix kind') hd
  refine ⟨toDigits_ten_injective hi, ?_⟩
  cases kind <;> cases kind' <;> first | rfl | exact absurd hk (by decide)

theorem plannedCalls_names_nodup (dgoName : String) (extractCollision : Bool) (i : ℕ)
    (trees : List DrawableTree) :
    ((plannedCalls dgoName extractCollision i trees).map (·.name)).Nodup := by
  unfold plannedCalls
  rw [List.map_map]
  set routed := trees.filterMap fun t =>
    (treeKind extractCollision t.myType).map fun kind => (kind, t)
  have hfst : ((routed.enumFrom i).map Prod.fst).Nodup := by
    rw [List.enumFrom_map_fst]
    exact List.nodup_range' _ _
  refine List.Nodup.map_on (fun x hx y hy hxy => ?_) (hfst.of_map _)
  exact List.inj_on_of_nodup_map hfst hx hy (treeName_inj hxy).1

/-! ### The loop, step by step -/

section Loop

variable (ext : Extractors G) (db : ObjectFileDB) (texDb : TextureDB) (dgoName : String)
  (hacks : DecompileHacks) (extractCollision : Bool) (levelName : List UInt8)
  (bspHeader : BspHeader) (allTies : List DrawableTree)

/-- **One iteration**, for a tree decoded as the class its tag names: nothing for a tag no
extractor takes, one numbered call otherwise, and a second collide tree aborts. -/
theorem extractTree_eq (s : TreeLoop G) (t : DrawableTree) (hcls : t.cls = classOfTag t.myType) :
    extractTree ext db texDb dgoName hacks extractCollision levelName bspHeader allTies s t =
      match treeKind extractCollision t.myType with
      | none => .ok s
      | some .collide =>
        if s.gotCollide then .error (.assertFailed "!got_collide")
        else .ok ({ s with gotCollide := true }.call (ExtractCall.run ext db texDb hacks levelName
          bspHeader allTies ⟨.collide, t, treeName dgoName s.i .collide⟩))
      | some kind => .ok (s.call (ExtractCall.run ext db texDb hacks levelName bspHeader allTies
          ⟨kind, t, treeName dgoName s.i kind⟩)) := by
  unfold extractTree
  by_cases h₁ : t.myType ∈ tfragTrees
  · have hk : treeKind extractCollision t.myType = some .tfrag := if_pos h₁
    simp only [if_pos h₁, hk, castCheck, cls_of_treeKind hcls hk, TreeKind.cls, if_true, ok_bind,
      treeName, TreeKind.suffix, String.append_empty]
    rfl
  by_cases h₂ : t.myType = "drawable-tree-instance-tie"
  · have hk : treeKind extractCollision t.myType = some .tie := by
      rw [treeKind, if_neg h₁, if_pos h₂]
    simp only [if_neg h₁, if_pos h₂, hk, castCheck, cls_of_treeKind hcls hk, TreeKind.cls,
      if_true, ok_bind]
    rfl
  by_cases h₃ : t.myType = "drawable-tree-instance-shrub"
  · have hk : treeKind extractCollision t.myType = some .shrub := by
      rw [treeKind, if_neg h₁, if_neg h₂, if_pos h₃]
    simp only [if_neg h₁, if_neg h₂, if_pos h₃, hk, castCheck, cls_of_treeKind hcls hk,
      TreeKind.cls, if_true, ok_bind]
    rfl
  by_cases h₄ : t.myType = "drawable-tree-collide-fragment" ∧ extractCollision
  · have hk : treeKind extractCollision t.myType = some .collide := by
      rw [treeKind, if_neg h₁, if_neg h₂, if_neg h₃, if_pos h₄]
    simp only [if_neg h₁, if_neg h₂, if_neg h₃, if_pos h₄, hk, castCheck,
      cls_of_treeKind hcls hk, TreeKind.cls, if_true, ok_bind]
    rfl
  · have hk : treeKind extractCollision t.myType = none := by
      rw [treeKind, if_neg h₁, if_neg h₂, if_neg h₃, if_neg h₄]
    rw [if_neg h₁, if_neg h₂, if_neg h₃, if_neg h₄, hk]
    rfl

/-- The state a run of the loop over `l` ends in, when it does not abort: the counter advanced
by the calls made, `got_collide` set once a collide tree was taken, and the calls applied. -/
def loopResult (s : TreeLoop G) (l : List DrawableTree) : TreeLoop G :=
  ⟨s.i + (plannedCalls dgoName extractCollision s.i l).length,
    s.gotCollide || (extractCollision && decide (0 < collideCount l)),
    (plannedCalls dgoName extractCollision s.i l).foldl
      (fun lev c => c.run ext db texDb hacks levelName bspHeader allTies lev) s.levelData⟩

/-- **The whole loop**, from any state over any trees decoded as the classes their tags name: it
aborts exactly when collision extraction is on and a second collide tree turns up (one already
taken counting), and otherwise makes the calls `plannedCalls` lists, in order. -/
theorem foldlM_extractTree (l : List DrawableTree) (hcls : ∀ t ∈ l, t.cls = classOfTag t.myType)
    (s : TreeLoop G) :
    l.foldlM (extractTree ext db texDb dgoName hacks extractCollision levelName bspHeader allTies)
      s = if extractCollision = true ∧ 2 ≤ collideCount l + s.gotCollide.toNat
        then .error (.assertFailed "!got_collide")
        else .ok (loopResult ext db texDb dgoName hacks extractCollision levelName bspHeader
          allTies s l) := by
  induction l generalizing s with
  | nil =>
    obtain ⟨i, gc, lev⟩ := s
    cases gc <;> simp [loopResult, collideCount, plannedCalls]
  | cons t l ih =>
    have ih' := ih fun t' ht' => hcls t' (.tail _ ht')
    rw [List.foldlM_cons, extractTree_eq _ _ _ _ _ _ _ _ _ _ _ (hcls t (.head _)),
      collideCount_cons]
    obtain ⟨i, gc, lev⟩ := s
    cases hk : treeKind extractCollision t.myType with
    | none =>
      simp only [ok_bind]
      rw [ih']
      by_cases htag : t.myType = "drawable-tree-collide-fragment"
      · obtain rfl : extractCollision = false := by
          rw [htag, treeKind_collideTag] at hk
          cases extractCollision
          · rfl
          · cases hk
        simp [loopResult, plannedCalls_cons, collideCount_cons, htag, treeKind_collideTag]
      · simp [loopResult, plannedCalls_cons, hk, collideCount_cons, htag]
    | some kind =>
      cases kind with
      | collide =>
        obtain ⟨htag, rfl⟩ := treeKind_eq_some_collide.1 hk
        cases gc
        · simp only [ok_bind, ih', TreeLoop.call, loopResult, plannedCalls_cons, hk,
            List.length_cons, List.foldl_cons, collideCount_cons, if_pos htag, Bool.toNat_true,
            Bool.toNat_false, Nat.add_zero, Bool.true_or, Bool.false_or, Bool.true_and,
            Nat.zero_lt_succ, decide_True, Bool.false_eq_true, ↓reduceIte]
          split_ifs
          · rfl
          · congr 2; omega
        · simp [htag]
      | _ =>
        have htag := ne_collideTag_of_treeKind hk (by decide)
        simp only [ok_bind, ih', TreeLoop.call, loopResult, plannedCalls_cons, hk,
          collideCount_cons, if_neg htag, Nat.add_zero, List.length_cons, List.foldl_cons]
        split_ifs
        · rfl
        · congr 2; omega

end Loop

/-- The second pass aborts exactly when collision extraction is on and the array holds two or
more collide trees, every tree being decoded as the class its tag names. -/
theorem extractDrawableTrees_ok_iff (ext : Extractors G) (db : ObjectFileDB) (texDb : TextureDB)
    (dgoName : String) (hacks : DecompileHacks) (extractCollision : Bool) (levelName : List UInt8)
    (bspHeader : BspHeader) (levelData : Level G)
    (hcls : ∀ t ∈ bspHeader.drawableTreeArray.trees, t.cls = classOfTag t.myType) :
    (∃ lev, extractDrawableTrees ext db texDb dgoName hacks extractCollision levelName bspHeader
        levelData = .ok lev) ↔
      ¬(extractCollision = true ∧ 2 ≤ collideCount bspHeader.drawableTreeArray.trees) := by
  simp only [extractDrawableTrees, foldlM_extractTree _ _ _ _ _ _ _ _ _ _ hcls]
  split_ifs with h <;> simp_all

/-- **Dispatching a decoded tree array.** With every tree decoded as the class its tag names,
the second pass aborts exactly when collision extraction is on and the array holds two or more
collide trees. Otherwise the level is what the calls `plannedCalls` lists make of it, in stored
order, every collide call being handed the tie trees of the whole array; and the identifiers of
those calls are pairwise distinct. -/
theorem extractDrawableTrees_spec (ext : Extractors G) (db : ObjectFileDB) (texDb : TextureDB)
    (dgoName : String) (hacks : DecompileHacks) (extractCollision : Bool) (levelName : List UInt8)
    (bspHeader : BspHeader) (levelData : Level G)
    (hcls : ∀ t ∈ bspHeader.drawableTreeArray.trees, t.cls = classOfTag t.myType) :
    extractDrawableTrees ext db texDb dgoName hacks extractCollision levelName bspHeader
        levelData =
      (if extractCollision = true ∧ 2 ≤ collideCount bspHeader.drawableTreeArray.trees
        then .error (.assertFailed "!got_collide")
        else .ok ((plannedCalls dgoName extractCollision 0 bspHeader.drawableTreeArray.trees).foldl
          (fun lev c => c.run ext db texDb hacks levelName bspHeader
            (bspHeader.drawableTreeArray.trees.filter
              (·.myType = "drawable-tree-instance-tie")) lev) levelData)) ∧
    ((plannedCalls dgoName extractCollision 0 bspHeader.drawableTreeArray.trees).map
      (·.name)).Nodup := by
  refine ⟨?_, plannedCalls_names_nodup _ _ _ _⟩
  have hties : bspHeader.drawableTreeArray.trees.filter (·.cls = .drawableTreeInstanceTie) =
      bspHeader.drawableTreeArray.trees.filter (·.myType = "drawable-tree-instance-tie") :=
    List.filter_congr fun t ht => by simp only [hcls t ht, classOfTag_eq_tie_iff]
  unfold extractDrawableTrees
  simp only [hties, foldlM_extractTree _ _ _ _ _ _ _ _ _ _ hcls]
  split_ifs <;> simp_all [loopResult]

/-- Collaborators that record, in the level's geometry, the identifier of every geometry
extractor call, and serialize a level as the bytes of its name. `read_from_file` decodes
every file as `header`. -/
def Extractors.recording (header : BspHeader) : Extractors (List String) where
  readFromFile _ _ := header
  extractTfrag _ name _ _ _ lev _ _ _ := { lev with geometry := lev.geometry ++ [name] }
  extractTie _ name _ _ lev _ _ := { lev with geometry := lev.geometry ++ [name] }
  extractShrub _ name _ _ _ lev _ _ := { lev with geometry := lev.geometry ++ [name] }
  extractCollideFrags _ _ name lev _ := { lev with geometry := lev.geometry ++ [name] }
  extractMerc _ _ _ lev _ _ := lev
  serialize lev := lev.levelName
  compressZstd bytes := bytes
  saveLevelBackgroundAsGltf _ := []
  saveLevelForegroundAsGltf _ := []

/-- A header holding a tfrag tree, a tie tree and a collide tree, each decoded as its class. -/
def sampleHeader : BspHeader :=
  ⟨⟨3, [⟨"drawable-tree-tfrag", .drawableTreeTfrag, []⟩,
    ⟨"drawable-tree-instance-tie", .drawableTreeInstanceTie, []⟩,
    ⟨"drawable-tree-collide-fragment", .drawableTreeCollideFragment, []⟩]⟩,
    [], [0], List.cons_ne_nil _ _⟩

/-- The Jak 1 database with no archive. -/
def emptyDb : ObjectFileDB := ⟨fun _ => none, fun _ => ⟨⟨0, []⟩⟩, .Jak1⟩

/-- The empty texture pool. -/
def emptyPool : TextureDB :=
  ⟨[], List.nodup_nil, fun _ => none, fun _ => none, fun _ _ h => nomatch h⟩

theorem extractDrawableTrees_spec_sample :
    (∀ t ∈ sampleHeader.drawableTreeArray.trees, t.cls = classOfTag t.myType) ∧
    (extractDrawableTrees (.recording sampleHeader) emptyDb emptyPool "TEST.DGO" ⟨fun _ => none⟩
        true (bytes "test") sampleHeader default =
      (if true = true ∧ 2 ≤ collideCount sampleHeader.drawableTreeArray.trees
        then .error (.assertFailed "!got_collide")
        else .ok ((plannedCalls "TEST.DGO" true 0 sampleHeader.drawableTreeArray.trees).foldl
          (fun lev c => c.run (.recording sampleHeader) emptyDb emptyPool ⟨fun _ => none⟩
            (bytes "test")
            sampleHeader (sampleHeader.drawableTreeArray.trees.filter
              (·.myType = "drawable-tree-instance-tie")) lev) default)) ∧
      ((plannedCalls "TEST.DGO" true 0 sampleHeader.drawableTreeArray.trees).map
        (·.name)).Nodup) :=
  have hcls : ∀ t ∈ sampleHeader.drawableTreeArray.trees, t.cls = classOfTag t.myType := by
    decide
  ⟨hcls, extractDrawableTrees_spec _ _ _ _ _ _ _ _ _ hcls⟩

example : extractDrawableTrees (.recording sampleHeader) emptyDb emptyPool "TEST.DGO"
    ⟨fun _ => none⟩ true (bytes "test") sampleHeader default =
      .ok ⟨[], [], ["TEST.DGO-0", "TEST.DGO-1-tie", "TEST.DGO-2-collide"]⟩ := rfl

end ExtractLevel
