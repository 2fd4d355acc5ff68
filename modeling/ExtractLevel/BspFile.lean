import ExtractLevel.Data

/-!
# Finding and checking the `bsp-header` file

`get_bsp_file` (lines 25-49), `is_valid_bsp` (lines 54-72), and the level name that
`extract_bsp_from_level` derives from the record found (line 138).

`get_bsp_file` scans the records once for names ending in `-vis`, and a second such name trips
`ASSERT(!found)`. What the scan returns depends only on the list of `-vis` records
(`foldlM_visScanStep`), so the locator agrees with a reference stated on that list
(`getBspFile_eq_reference`): it aborts on two or more, returns the one record wherever it sits,
and otherwise falls back on the last record.

The level name drops the last four bytes of the record's name, however the record was found
(`bspLevelName`). For a `-vis` record that leaves the name without `-vis`; for a record found by
the fallback it cuts into the name itself, and only a name of fewer than four bytes comes through
whole, by the wrap of `length() - 4`.
-/

namespace ExtractLevel

/-! ### `get_bsp_file` -/

/-- The test of line 30: the name is longer than four characters and its last four are
`-vis`, read on the characters (the same answer as on the bytes, `-vis` being ASCII). -/
def isVisName (name : String) : Bool :=
  decide (4 < name.length) && substr name.data (sizeSub name.length 4) npos == "-vis".data

/-- The two locals of the scan, `found` and `result`. -/
structure VisScan where
  found : Bool
  result : Option ObjectFileRecord
  deriving DecidableEq, Repr

/-- One iteration of the scan (lines 30-34). -/
def visScanStep (s : VisScan) (file : ObjectFileRecord) : Except Fatal VisScan :=
  if isVisName file.name then
    if s.found then .error (.assertFailed "!found") else .ok ⟨true, some file⟩
  else .ok s

/-- The fallback of lines 37-47, for an archive without a `-vis` record: the last record, when
the archive's name ends in `.DGO` or `.CGO` and, with that cut off and lower-cased, is the last
record's name. -/
def lastRecordFallback (records : List ObjectFileRecord) (dgoName : String) :
    Option ObjectFileRecord :=
  if endsWith dgoName ".DGO" || endsWith dgoName ".CGO" then
    let expectedName := toLower (substr dgoName.data 0 (sizeSub dgoName.length 4))
    match records.getLast? with
    | some back => if expectedName = back.name.data then some back else none
    | none => none
  else none

/-- `get_bsp_file(records, dgo_name)`. -/
def getBspFile (records : List ObjectFileRecord) (dgoName : String) :
    Except Fatal (Option ObjectFileRecord) := do
  let scan ← records.foldlM visScanStep ⟨false, none⟩
  pure (if scan.result.isNone then lastRecordFallback records dgoName else scan.result)

/-! ### The reference -/

/-- A `-vis` record, read off its name: longer than four characters, ending in `-vis`. -/
def IsVisRecord (r : ObjectFileRecord) : Prop :=
  4 < r.name.length ∧ "-vis".data <:+ r.name.data

instance : DecidablePred IsVisRecord := fun _ => inferInstanceAs (Decidable (_ ∧ _))

/-- The locator as §4.1 describes it, stated on the list `V` of `-vis` records: two or more
are a fatal contradiction, one is the answer wherever it sits, and with none the last record is
the answer exactly when the archive's name ends in `.DGO` or `.CGO` and its lower-cased rest is
that record's name. -/
def bspFileReference (records : List ObjectFileRecord) (d : String) :
    Except Fatal (Option ObjectFileRecord) :=
  match records.filter (fun r => decide (IsVisRecord r)) with
  | [] => .ok (records.getLast?.filter fun last => decide
      ((".DGO".data <:+ d.data ∨ ".CGO".data <:+ d.data) ∧
        (d.data.take (d.length - 4)).map Char.toLower = last.name.data))
  | [r] => .ok (some r)
  | _ => .error (.assertFailed "!found")

/-! ### The scan -/

theorem isVisName_iff (name : String) :
    isVisName name = true ↔ 4 < name.length ∧ "-vis".data <:+ name.data := by
  unfold isVisName
  by_cases h : 4 < name.length
  · have hlen : name.data.length = name.length := rfl
    have hvis : "-vis".data.length = 4 := rfl
    have htake : ((name.data.drop (name.length - 4)).take npos) =
        name.data.drop (name.length - 4) :=
      List.take_of_length_le (by simp [npos, hlen]; omega)
    simp only [h, decide_True, Bool.true_and, beq_iff_eq, substr, List.drop_zero,
      sizeSub_of_le h.le, htake, true_and, List.suffix_iff_eq_drop, hvis, hlen]
    exact eq_comm
  · simp [h]

theorem isVisName_eq_decide (name : String) :
    isVisName name = decide (4 < name.length ∧ "-vis".data <:+ name.data) := by
  rw [Bool.eq_iff_iff, isVisName_iff, decide_eq_true_iff]

/-- Once a `-vis` record is held, the scan keeps it through records with no other, and aborts
on the next one. -/
theorem foldlM_visScanStep_found (l : List ObjectFileRecord) (r : ObjectFileRecord) :
    l.foldlM visScanStep ⟨true, some r⟩ =
      if l.filter (fun f => isVisName f.name) = [] then .ok ⟨true, some r⟩
      else .error (.assertFailed "!found") := by
  induction l with
  | nil => rfl
  | cons f l ih =>
    by_cases hf : isVisName f.name
    · simp [visScanStep, hf]
    · simpa [visScanStep, hf, List.filter_cons] using ih

/-- **The scan is decided by the `-vis` records alone**: none leaves the state as it was, one
is taken, and a second aborts. -/
theorem foldlM_visScanStep (l : List ObjectFileRecord) :
    l.foldlM visScanStep ⟨false, none⟩ =
      match l.filter (fun f => isVisName f.name) with
      | [] => .ok ⟨false, none⟩
      | [r] => .ok ⟨true, some r⟩
      | _ => .error (.assertFailed "!found") := by
  induction l with
  | nil => rfl
  | cons f l ih =>
    by_cases hf : isVisName f.name
    · simp only [List.foldlM_cons, visScanStep, hf, if_true, Bool.false_eq_true, if_false,
        ok_bind, foldlM_visScanStep_found, List.filter_cons]
      split_ifs with hl <;> simp [hl]
    · simpa [visScanStep, hf, List.filter_cons] using ih

/-! ### `get_bsp_file` agrees with the reference -/

theorem endsWith_dgo_or_cgo_iff (d : String) :
    (endsWith d ".DGO" || endsWith d ".CGO") = true ↔
      ".DGO".data <:+ d.data ∨ ".CGO".data <:+ d.data := by
  simp only [Bool.or_eq_true, endsWith_iff]

/-- The name the fallback expects, for an archive name that ends in `.DGO` or `.CGO`. -/
theorem expectedName_data {d : String} (h : ".DGO".data <:+ d.data ∨ ".CGO".data <:+ d.data) :
    toLower (substr d.data 0 (sizeSub d.length 4)) =
      (d.data.take (d.length - 4)).map Char.toLower := by
  have h4 : 4 ≤ d.length := by
    rcases h with h | h <;> exact h.length_le
  simp [toLower, substr, sizeSub_of_le h4, List.map_take]

theorem lastRecordFallback_eq (records : List ObjectFileRecord) (d : String) :
    lastRecordFallback records d = records.getLast?.filter fun last => decide
      ((".DGO".data <:+ d.data ∨ ".CGO".data <:+ d.data) ∧
        (d.data.take (d.length - 4)).map Char.toLower = last.name.data) := by
  unfold lastRecordFallback
  by_cases hd : ".DGO".data <:+ d.data ∨ ".CGO".data <:+ d.data
  · rw [if_pos ((endsWith_dgo_or_cgo_iff d).2 hd)]
    cases records.getLast? with
    | none => rfl
    | some back =>
      simp only [Option.filter, hd, true_and, expectedName_data hd]
      split_ifs <;> simp_all
  · rw [if_neg (mt (endsWith_dgo_or_cgo_iff d).1 hd)]
    cases records.getLast? <;> simp [Option.filter, hd]

/-- **`get_bsp_file` is the reference**, for every record list and archive name. -/
theorem getBspFile_eq_reference (records : List ObjectFileRecord) (d : String) :
    getBspFile records d = bspFileReference records d := by
  have hfilter : records.filter (fun f => isVisName f.name) =
      records.filter (fun r => decide (IsVisRecord r)) := by
    simp only [isVisName_eq_decide, IsVisRecord]
  unfold getBspFile bspFileReference
  rw [foldlM_visScanStep, hfilter]
  split <;> simp [lastRecordFallback_eq]

/-- The record found is one of the archive's records. -/
theorem mem_of_getBspFile {records : List ObjectFileRecord} {d : String} {r : ObjectFileRecord}
    (h : getBspFile records d = .ok (some r)) : r ∈ records := by
  rw [getBspFile_eq_reference] at h
  unfold bspFileReference at h
  split at h
  · cases hl : records.getLast? with
    | none => simp [hl] at h
    | some last =>
      simp only [hl, Option.filter, Except.ok.injEq] at h
      split at h <;> cases h
      exact List.mem_of_getLast?_eq_some hl
  · rename_i hv
    cases h
    exact (List.mem_filter.1 (hv ▸ List.mem_singleton_self _)).1
  · cases h

/-! ### `is_valid_bsp` -/

/-- `is_valid_bsp(file)`, with the line it logs when it says no: `none` is `true`, and `some msg`
is `false` after logging `msg`. The first word is read with `.at`, which throws on a file whose
one segment holds no word. -/
def isValidBsp (file : LinkedObjectFile) : Except Fatal (Option String) :=
  if file.segments ≠ 1 then
    .ok (some ("Got " ++ toString file.segments ++ " segments, but expected 1"))
  else do
    let seg ← listAt file.wordsBySeg 0
    let firstWord ← listAt seg 0
    match firstWord with
    | .typePtr name =>
      if name ≠ "bsp-header" then
        .ok (some ("Expected to get a bsp-header, but got " ++ name ++ " instead."))
      else .ok none
    | _ => .ok (some "Expected the first word to be a type pointer, but it wasn't.")

/-! ### The level name -/

/-- The level name of line 138: the bytes of the record's name without its last four, the count
taken in `size_t`. -/
def bspLevelName (rec : ObjectFileRecord) : List UInt8 :=
  substr (bytes rec.name) 0 (sizeSub (bytes rec.name).length 4)

end ExtractLevel
