import ExtractLevel.Data

/-!
# Textures: copying a level's textures, and the identity check on the pool

`add_all_textures_from_level` (lines 74-94) and `confirm_textures_identical` (lines 96-111).

The identity check walks the pool once, remembering the bytes of the **first** texture seen under
each name and comparing every later one with those. The name is the page's name **followed by**
the texture's name, a plain concatenation. The loop invariant (`foldlM_confirmStep_ok_iff`) says
that the walk goes through exactly when every texture agrees with what the map already holds
and any two textures of the rest under one name have the same bytes; so comparing with the
first texture only misses no mismatch. The check passes exactly when every page has a name and
textures under equal concatenated names have equal bytes (`confirmTexturesIdentical_eq_ok_iff`),
whatever the iteration order. Two textures whose pairs differ but whose concatenations agree,
`("ab", "c")` and `("a", "bc")`, are held to the same bytes (`confirmTexturesIdentical_ab_c`).
-/

namespace ExtractLevel

variable {G : Type}

/-! ### `add_all_textures_from_level` -/

/-- The output texture made for id `id` (lines 80-91): `textures.at(id)` and
`tpage_names.at(page)` throw on a missing key. -/
def newTexture (texDb : TextureDB) (id : ℕ) : Except Fatal Texture := do
  let tex ← mapAt (fun i => texDb.textures.lookup i) id
  let debugTpageName ← mapAt texDb.tpageNames tex.page
  pure { comboId := id, w := tex.w, h := tex.h, debugTpageName,
         debugName := debugTpageName ++ tex.name, data := tex.rgbaBytes, loadToPool := true }

/-- `add_all_textures_from_level(lev, level_name, tex_db)`: on a level with no texture yet,
append one texture per id the pool lists for `level_name`, in the set's order. -/
def addAllTexturesFromLevel (lev : Level G) (levelName : String) (texDb : TextureDB) :
    Except Fatal (Level G) :=
  if lev.textures ≠ [] then .error (.assertFailed "lev.textures.empty()")
  else match texDb.textureIdsPerLevel levelName with
    | none => .ok lev
    | some ids => do
      let textures ← ids.mapM (newTexture texDb)
      pure { lev with textures := lev.textures ++ textures }

/-! ### `confirm_textures_identical` -/

/-- The name a texture is checked under: its page's name (`tpage_names.at`) followed by its
own. -/
def textureKey (texDb : TextureDB) (tex : TextureData) : Except Fatal String := do
  let pageName ← mapAt texDb.tpageNames tex.page
  pure (pageName ++ tex.name)

/-- One iteration of `confirm_textures_identical` (lines 98-109): the first texture under a
name is remembered, and a later one under that name must carry the same bytes. -/
def confirmStep (texDb : TextureDB) (texDupl : String → Option (List UInt32))
    (tex : ℕ × TextureData) : Except Fatal (String → Option (List UInt32)) := do
  let name ← textureKey texDb tex.2
  match texDupl name with
  | none => pure (Function.update texDupl name (some tex.2.rgbaBytes))
  | some prev =>
    if prev = tex.2.rgbaBytes then pure texDupl
    else .error (.assertMsg ("BAD duplicate: " ++ name ++ " " ++
      toString tex.2.rgbaBytes.length ++ " vs " ++ toString prev.length))

/-- `confirm_textures_identical(tex_db)`. -/
def confirmTexturesIdentical (texDb : TextureDB) : Except Fatal Unit := do
  let _ ← texDb.textures.foldlM (confirmStep texDb) (fun _ => none)
  pure ()

theorem textureKey_eq_ok {texDb : TextureDB} {tex : TextureData} {k : String} :
    textureKey texDb tex = .ok k ↔ ∃ p, texDb.tpageNames tex.page = some p ∧ p ++ tex.name = k := by
  unfold textureKey
  cases h : texDb.tpageNames tex.page <;> simp [mapAt, h]

section Loop

variable (texDb : TextureDB)

/-- Texture `t` has a name, and what the map `m` holds under it, if anything, is its bytes. -/
def AgreesWith (m : String → Option (List UInt32)) (t : ℕ × TextureData) : Prop :=
  ∃ k, textureKey texDb t.2 = .ok k ∧ ∀ v, m k = some v → v = t.2.rgbaBytes

/-- Any two textures of `l` under one name carry the same bytes. -/
def SameNameSameBytes (l : List (ℕ × TextureData)) : Prop :=
  ∀ t₁ ∈ l, ∀ t₂ ∈ l, ∀ k, textureKey texDb t₁.2 = .ok k → textureKey texDb t₂.2 = .ok k →
    t₁.2.rgbaBytes = t₂.2.rgbaBytes

theorem sameNameSameBytes_cons {t : ℕ × TextureData} {l : List (ℕ × TextureData)} {k : String}
    (hk : textureKey texDb t.2 = .ok k) :
    SameNameSameBytes texDb (t :: l) ↔ SameNameSameBytes texDb l ∧
      ∀ t' ∈ l, textureKey texDb t'.2 = .ok k → t'.2.rgbaBytes = t.2.rgbaBytes := by
  constructor
  · intro h
    exact ⟨fun a ha b hb => h a (.tail _ ha) b (.tail _ hb),
      fun t' ht' hk' => h t' (.tail _ ht') t (.head _) k hk' hk⟩
  · rintro ⟨hl, ht⟩ a ha b hb k' hka hkb
    rcases List.mem_cons.1 ha with rfl | ha' <;> rcases List.mem_cons.1 hb with rfl | hb'
    · rfl
    · rw [hk] at hka; cases hka; exact (ht b hb' hkb).symm
    · rw [hk] at hkb; cases hkb; exact ht a ha' hka
    · exact hl a ha' b hb' k' hka hkb

theorem agreesWith_iff {m : String → Option (List UInt32)} {t : ℕ × TextureData} {k : String}
    (hk : textureKey texDb t.2 = .ok k) :
    AgreesWith texDb m t ↔ ∀ v, m k = some v → v = t.2.rgbaBytes := by
  simp [AgreesWith, hk]

/-- **One iteration.** It goes through exactly when the texture agrees with what the map holds
under its name, and the map then holds its bytes there. -/
theorem confirmStep_eq_ok {m m' : String → Option (List UInt32)} {t : ℕ × TextureData}
    {k : String} (hk : textureKey texDb t.2 = .ok k) :
    confirmStep texDb m t = .ok m' ↔
      (∀ v, m k = some v → v = t.2.rgbaBytes) ∧ m' = Function.update m k (some t.2.rgbaBytes) := by
  simp only [confirmStep, hk, ok_bind]
  cases hm : m k with
  | none => simp [eq_comm]
  | some prev =>
    by_cases hp : prev = t.2.rgbaBytes
    · have hupd : Function.update m k (some t.2.rgbaBytes) = m :=
        hp ▸ hm ▸ Function.update_eq_self k m
      simp [hp, hupd, eq_comm]
    · simp [hp]

/-- Remembering `b` under `k`, where the map held nothing else, adds to what a texture must
agree with exactly the bytes of the textures named `k`. -/
theorem agreesWith_update {m : String → Option (List UInt32)} {k : String} {b : List UInt32}
    (hm : ∀ v, m k = some v → v = b) (t : ℕ × TextureData) :
    AgreesWith texDb (Function.update m k (some b)) t ↔
      AgreesWith texDb m t ∧ (textureKey texDb t.2 = .ok k → t.2.rgbaBytes = b) := by
  cases hk : textureKey texDb t.2 with
  | error e => simp [AgreesWith, hk]
  | ok k' =>
    rw [agreesWith_iff texDb hk, agreesWith_iff texDb hk]
    by_cases he : k' = k
    · subst he
      simp only [Function.update_same, Option.some.injEq, forall_eq', true_implies]
      exact ⟨fun h => ⟨fun v hv => (hm v hv).trans h, h.symm⟩, fun h => h.2.symm⟩
    · simp [Function.update_noteq he, he]

/-- **The loop invariant.** The walk over `l` from the map `m` goes through exactly when every
texture of `l` agrees with `m` and any two of `l` under one name carry the same bytes. -/
theorem foldlM_confirmStep_ok_iff (l : List (ℕ × TextureData))
    (m : String → Option (List UInt32)) :
    (∃ m', l.foldlM (confirmStep texDb) m = .ok m') ↔
      (∀ t ∈ l, AgreesWith texDb m t) ∧ SameNameSameBytes texDb l := by
  induction l generalizing m with
  | nil => simp [SameNameSameBytes]
  | cons t l ih =>
    cases hk : textureKey texDb t.2 with
    | error e => simp [List.foldlM_cons, confirmStep, AgreesWith, hk]
    | ok k =>
      rw [sameNameSameBytes_cons texDb hk, List.forall_mem_cons, agreesWith_iff texDb hk]
      simp only [List.foldlM_cons, bind_eq_ok, confirmStep_eq_ok texDb hk]
      constructor
      · rintro ⟨m', _, ⟨hA, rfl⟩, hl⟩
        obtain ⟨hagree, hs⟩ := (ih _).1 ⟨m', hl⟩
        have h := fun t' ht' => (agreesWith_update texDb hA t').1 (hagree t' ht')
        exact ⟨⟨hA, fun t' ht' => (h t' ht').1⟩, hs, fun t' ht' hk' => (h t' ht').2 hk'⟩
      · rintro ⟨⟨hA, hagree⟩, hs, hbytes⟩
        obtain ⟨m', hl⟩ := (ih _).2 ⟨fun t' ht' =>
          (agreesWith_update texDb hA t').2 ⟨hagree t' ht', hbytes t' ht'⟩, hs⟩
        exact ⟨m', _, ⟨hA, rfl⟩, hl⟩

end Loop

/-- **The identity check passes exactly** when every texture's page has a name and any two
textures whose page name followed by texture name agree carry the same bytes, for every pool and
every iteration order. -/
theorem confirmTexturesIdentical_eq_ok_iff (texDb : TextureDB) :
    confirmTexturesIdentical texDb = .ok () ↔
      (∀ t ∈ texDb.textures, (texDb.tpageNames t.2.page).isSome) ∧
      ∀ t₁ ∈ texDb.textures, ∀ t₂ ∈ texDb.textures, ∀ p₁ p₂,
        texDb.tpageNames t₁.2.page = some p₁ → texDb.tpageNames t₂.2.page = some p₂ →
        p₁ ++ t₁.2.name = p₂ ++ t₂.2.name → t₁.2.rgbaBytes = t₂.2.rgbaBytes := by
  have hrun : confirmTexturesIdentical texDb = .ok () ↔
      ∃ m', texDb.textures.foldlM (confirmStep texDb) (fun _ => none) = .ok m' := by
    unfold confirmTexturesIdentical
    cases texDb.textures.foldlM (confirmStep texDb) (fun _ => none) <;> simp
  have hnone : ∀ t, AgreesWith texDb (fun _ => none) t ↔
      (texDb.tpageNames t.2.page).isSome := fun t => by
    simp only [AgreesWith, textureKey_eq_ok, Option.isSome_iff_exists, reduceCtorEq,
      false_implies, implies_true, and_true]
    exact ⟨fun ⟨_, p, hp, _⟩ => ⟨p, hp⟩, fun ⟨p, hp⟩ => ⟨_, p, hp, rfl⟩⟩
  rw [hrun, foldlM_confirmStep_ok_iff]
  simp only [hnone, SameNameSameBytes, textureKey_eq_ok]
  refine and_congr_right fun _ => ⟨fun hs t₁ ht₁ t₂ ht₂ p₁ p₂ h₁ h₂ he =>
      hs t₁ ht₁ t₂ ht₂ _ ⟨p₁, h₁, rfl⟩ ⟨p₂, h₂, he.symm⟩,
    fun hs t₁ ht₁ t₂ ht₂ k ⟨p₁, h₁, e₁⟩ ⟨p₂, h₂, e₂⟩ =>
      hs t₁ ht₁ t₂ ht₂ p₁ p₂ h₁ h₂ (e₁.trans e₂.symm)⟩

/-- A pool of two textures, `c` on a page named `ab` and `bc` on a page named `a`, with different
bytes. -/
def abcPool : TextureDB :=
  ⟨[(0, ⟨1, 1, "c", 0, [1]⟩), (1, ⟨1, 1, "bc", 1, [2]⟩)], by decide,
    fun p => if p = 0 then some "ab" else if p = 1 then some "a" else none, fun _ => none,
    fun _ _ h => nomatch h⟩

/-- Two textures whose pairs of page name and texture name differ, `("ab", "c")` and
`("a", "bc")`, still stop the check: their concatenated names agree. -/
theorem confirmTexturesIdentical_ab_c :
    (∀ t₁ ∈ abcPool.textures, ∀ t₂ ∈ abcPool.textures,
      abcPool.tpageNames t₁.2.page = abcPool.tpageNames t₂.2.page → t₁.2.name = t₂.2.name →
        t₁.2.rgbaBytes = t₂.2.rgbaBytes) ∧
    confirmTexturesIdentical abcPool = .error (.assertMsg "BAD duplicate: abc 1 vs 1") :=
  ⟨by decide, rfl⟩

end ExtractLevel
