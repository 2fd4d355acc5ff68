import ExtractLevel.ThreadPool

/-!
# What a file holds

Several threads may write one file at once, and `write_binary_file` is not atomic between them
(`ThreadPool`): a file they share can end with a mix of their buffers, holes included. What is
still guaranteed is said here, one path at a time.

* **Writers that agree** (`run_files_of_writesFrom`): when every write pending at a path carries
  the same bytes `v`, and there is one, the path holds exactly `v` once the run has finished, in
  whatever interleaving. In particular a file with one writer ends with that writer's whole
  buffer. The invariant (`AgreeingWrites`) is that the file is no longer than `v` and each byte
  of `v` is in place at its offset or still to be put there (`Covered`).
* **One writer, at every point** (`run_files_prefix`): when one thread alone writes a path, always
  `v`, the path holds at every point of every run, finished or not, aborted or not, what it held at
  the start or a prefix of `v`. A look, or an abort, in the middle of a write finds the file cut
  short, never holding bytes of another buffer (`OneWriter`).
* **Writers that disagree** (`run_files_bytesFrom`): whatever the buffers written to a path, it
  holds at every point what it held at the start or bytes of theirs, each the byte of one of them
  at its offset or a zero byte of a hole (`BytesFrom`), and only the latter once the run has
  finished (`run_files_bytesFrom_of_finished`). The invariant (`MixedWrites`) adds that every byte
  still to be put is one of those.

Both invariants are read on the content of the path and on the operations each thread still has
there (`opsAt`), and a step changes these in one way only (`Step.at`): one thread performs its next
operation there, or nothing changes there. A thread that writes `v` has a write under way from
some offset, then whole writes (`WritesFrom`); a truncation starts a write from offset `0`
(`WritesFrom.of_truncate`), and a put is the next byte of the write under way
(`WritesFrom.of_put`).
-/

namespace ExtractLevel

/-! ### What a step does at a path -/

/-- The operations each thread still has on `p`. -/
def opsAt (p : OutPath) (threads : List (List Action)) : List (List FileOp) :=
  threads.map (List.filterMap (Action.opAt p))

theorem flatten_opsAt (p : OutPath) (threads : List (List Action)) :
    (opsAt p threads).flatten = pending (Action.opAt p) threads := rfl

/-- **What a step does at a path**: nothing there, or one thread's next operation there. -/
theorem Step.at {c c' : Pool} (h : Step c c') (p : OutPath) :
    (c'.files p = c.files p ∧ opsAt p c'.threads = opsAt p c.threads) ∨
      ∃ pre post op rest, opsAt p c.threads = pre ++ (op :: rest) :: post ∧
        opsAt p c'.threads = pre ++ rest :: post ∧ c'.files p = op.apply (c.files p) := by
  cases h with
  | file files pre post q op rest =>
    by_cases hq : q = p
    · subst hq
      exact .inr ⟨pre.map (List.filterMap (Action.opAt q)),
        post.map (List.filterMap (Action.opAt q)), op, rest.filterMap (Action.opAt q),
        by simp [opsAt], by simp [opsAt], Function.update_same _ _ _⟩
    · exact .inl ⟨Function.update_noteq (Ne.symm hq) _ _, by simp [opsAt, hq]⟩
  | abort => exact .inl ⟨rfl, by simp [opsAt]⟩

/-- **Invariants of a path, along runs**: a property of a path's content and of the operations
still to come there that holds at the start of a run, that nothing elsewhere changes, and that the
next operation of any thread keeps, holds at every point of the run. -/
theorem Run.at {c₀ c : Pool} (h : Run c₀ c) (p : OutPath)
    (I : Option (List UInt8) → List (List FileOp) → Prop)
    (h₀ : I (c₀.files p) (opsAt p c₀.threads))
    (hstep : ∀ content pre post op rest, I content (pre ++ (op :: rest) :: post) →
      I (op.apply content) (pre ++ rest :: post)) :
    I (c.files p) (opsAt p c.threads) := by
  induction h with
  | refl => exact h₀
  | @tail c c' _ hs ih =>
    rcases hs.at p with ⟨hf, ho⟩ | ⟨pre, post, op, rest, ho, ho', hf⟩
    · rwa [hf, ho]
    · rw [hf, ho']
      exact hstep _ _ _ _ _ (ho ▸ ih)

/-! ### A thread that writes `v` -/

/-- The operations still to come on a path in a thread that writes `v` there: the bytes of a
write under way from offset `j` on, then whole writes, each of `v`. -/
def WritesFrom (v : List UInt8) (j : ℕ) (ops : List FileOp) : Prop :=
  ∃ ds : List (List UInt8), (∀ d ∈ ds, d = v) ∧ ops = putsFrom j (v.drop j) ++ ds.flatMap writeOps

/-- Whole writes of `v` are the operations of a thread with no write of `v` under way. -/
theorem writesFrom_length {v : List UInt8} {ds : List (List UInt8)} (h : ∀ d ∈ ds, d = v) :
    WritesFrom v v.length (ds.flatMap writeOps) :=
  ⟨ds, h, by simp [putsFrom]⟩

/-- A truncation starts the next whole write of `v`. -/
theorem WritesFrom.of_truncate {v : List UInt8} {j : ℕ} {ops : List FileOp}
    (h : WritesFrom v j (.truncate :: ops)) : WritesFrom v 0 ops := by
  obtain ⟨ds, hds, h⟩ := h
  cases hv : v.drop j with
  | cons b bs => simp [hv, putsFrom] at h
  | nil =>
    rw [hv, putsFrom, List.nil_append] at h
    cases ds with
    | nil => cases h
    | cons d ds =>
      obtain rfl := hds d (.head _)
      simp only [List.flatMap_cons, writeOps, List.cons_append, List.cons.injEq, true_and] at h
      exact ⟨ds, fun d hd => hds d (.tail _ hd), by simpa using h⟩

/-- A put is the next byte of the write under way. -/
theorem WritesFrom.of_put {v : List UInt8} {j i : ℕ} {b : UInt8} {ops : List FileOp}
    (h : WritesFrom v j (.put i b :: ops)) : i = j ∧ v[j]? = some b ∧ WritesFrom v (j + 1) ops := by
  obtain ⟨ds, hds, h⟩ := h
  by_cases hj : j < v.length
  · rw [List.drop_eq_getElem_cons hj, putsFrom, List.cons_append, List.cons.injEq,
      FileOp.put.injEq] at h
    obtain ⟨⟨rfl, rfl⟩, rfl⟩ := h
    exact ⟨rfl, List.getElem?_eq_getElem hj, ds, hds, rfl⟩
  · rw [List.drop_eq_nil_of_le (by omega), putsFrom, List.nil_append] at h
    cases ds with
    | nil => cases h
    | cons d ds => simp [writeOps] at h

/-- The whole write still to come puts every byte of `v` at its offset. -/
theorem exists_put_mem_putsFrom {v : List UInt8} {i : ℕ} (hi : i < v.length) :
    ∃ b, FileOp.put i b ∈ putsFrom 0 v := by
  suffices h : ∀ (j : ℕ) (bs : List UInt8), i < j + bs.length → j ≤ i →
      ∃ b, FileOp.put i b ∈ putsFrom j bs from h 0 v (by omega) (Nat.zero_le _)
  intro j bs
  induction bs generalizing j with
  | nil => intro h; simp at h; omega
  | cons b bs ih =>
    intro hlt hle
    rcases Nat.eq_or_lt_of_le hle with rfl | hlt'
    · exact ⟨b, .head _⟩
    · obtain ⟨b', hb'⟩ := ih (j + 1) (by simp at hlt; omega) hlt'
      exact ⟨b', .tail _ hb'⟩

/-! ### Writers that agree -/

/-- The file holds `l`, no longer than `v`, and each byte of `v` is in place or still to be put
at its offset by an operation of `pend`. -/
def Covered (v : List UInt8) (pend : List FileOp) (l : List UInt8) : Prop :=
  l.length ≤ v.length ∧ ∀ i < v.length, l[i]? = v[i]? ∨ ∃ b, FileOp.put i b ∈ pend

/-- With nothing still to put, a covered file holds exactly `v`. -/
theorem Covered.eq_of_nil {v l : List UInt8} (h : Covered v [] l) : l = v := by
  refine List.ext_getElem? fun i => ?_
  by_cases hi : i < v.length
  · simpa using h.2 i hi
  · rw [List.getElem?_eq_none (by have := h.1; omega), List.getElem?_eq_none (by omega)]

/-- Putting the byte of `v` at its offset keeps the file covered, that put done. -/
theorem Covered.putByte {v l : List UInt8} {pend pend' : List FileOp} {i : ℕ} {b : UInt8}
    (hc : Covered v pend l) (hb : v[i]? = some b)
    (hpend : ∀ m b', FileOp.put m b' ∈ pend → m ≠ i → FileOp.put m b' ∈ pend') :
    Covered v pend' (putByte l i b) := by
  have hi : i < v.length := (List.getElem?_eq_some_iff.1 hb).1
  refine ⟨by rw [length_putByte]; exact max_le hc.1 hi, fun m hm => ?_⟩
  by_cases hmi : m = i
  · subst hmi
    exact .inl (by rw [getElem?_putByte_self, hb])
  · rcases hc.2 m hm with h | ⟨b', hb'⟩
    · have hml : m < l.length := by
        by_contra hml
        rw [List.getElem?_eq_none (by omega), List.getElem?_eq_getElem hm] at h
        cases h
      exact .inl ((getElem?_putByte_of_ne b hmi hml).trans h)
    · exact .inr ⟨b', hpend m b' hb' hmi⟩

/-- The invariant of a path all of whose writes carry `v`, read on its content and on the
operations each thread still has there: every thread writes `v`, and either the file is covered,
or nothing has been done there yet, with a write still to come and none under way. -/
def AgreeingWrites (v : List UInt8) (content : Option (List UInt8)) (ops : List (List FileOp)) :
    Prop :=
  (∀ o ∈ ops, ∃ j, WritesFrom v j o) ∧
    ((∃ l, content = some l ∧ Covered v ops.flatten l) ∨
      (ops.flatten ≠ [] ∧ ∀ o ∈ ops, WritesFrom v v.length o))

/-- The next operation of any thread keeps the invariant. -/
theorem AgreeingWrites.step {v : List UInt8} {content : Option (List UInt8)}
    {pre post : List (List FileOp)} {op : FileOp} {rest : List FileOp}
    (h : AgreeingWrites v content (pre ++ (op :: rest) :: post)) :
    AgreeingWrites v (op.apply content) (pre ++ rest :: post) := by
  obtain ⟨hthreads, hfile⟩ := h
  simp only [List.mem_append, List.mem_cons] at hthreads
  obtain ⟨j, hj⟩ := hthreads _ (.inr (.inl rfl))
  have hothers : ∀ o ∈ pre ++ post, ∃ j, WritesFrom v j o := fun o ho =>
    hthreads o ((List.mem_append.1 ho).imp_right .inr)
  cases op with
  | truncate =>
    have h₀ := hj.of_truncate
    refine ⟨fun o ho => ?_, .inl ⟨[], rfl, Nat.zero_le _, fun i hi => .inr ?_⟩⟩
    · simp only [List.mem_append, List.mem_cons] at ho
      rcases ho with ho | rfl | ho
      · exact hothers o (List.mem_append_left _ ho)
      · exact ⟨0, h₀⟩
      · exact hothers o (List.mem_append_right _ ho)
    · obtain ⟨ds, -, hrest⟩ := h₀
      obtain ⟨b, hb⟩ := exists_put_mem_putsFrom hi
      exact ⟨b, by simp [hrest, hb]⟩
  | put i b =>
    obtain ⟨rfl, hb, hnext⟩ := hj.of_put
    refine ⟨fun o ho => ?_, ?_⟩
    · simp only [List.mem_append, List.mem_cons] at ho
      rcases ho with ho | rfl | ho
      · exact hothers o (List.mem_append_left _ ho)
      · exact ⟨_, hnext⟩
      · exact hothers o (List.mem_append_right _ ho)
    · rcases hfile with ⟨l, rfl, hc⟩ | ⟨-, hfresh⟩
      · refine .inl ⟨_, rfl, hc.putByte hb fun m b' hm hne => ?_⟩
        simp only [List.flatten_append, List.flatten_cons, List.mem_append, List.mem_cons,
          FileOp.put.injEq] at hm ⊢
        rcases hm with hm | (⟨rfl, -⟩ | hm) | hm
        · exact .inl hm
        · exact absurd rfl hne
        · exact .inr (.inl hm)
        · exact .inr (.inr hm)
      · have := (hfresh (.put i b :: rest) (by simp)).of_put.2.1
        simp at this

/-- **Writers that agree leave their bytes**: when every write pending at `p` carries `v`, and
there is one, `p` holds exactly `v` once the run has finished, in whatever interleaving. -/
theorem run_files_of_writesFrom {c₀ c : Pool} (h : Run c₀ c) (hc : c.Finished) {p : OutPath}
    {v : List UInt8} (hw : ∀ t ∈ c₀.threads, ∃ ds : List (List UInt8),
      (∀ d ∈ ds, d = v) ∧ t.filterMap (Action.opAt p) = ds.flatMap writeOps)
    (hsome : pending (Action.opAt p) c₀.threads ≠ []) : c.files p = some v := by
  have hinv := h.at p (AgreeingWrites v) ⟨fun o ho => ?_, .inr ⟨hsome, fun o ho => ?_⟩⟩
    fun _ _ _ _ _ hi => hi.step
  · have hnil : (opsAt p c.threads).flatten = [] := pending_eq_nil_of_finished _ hc
    rcases hinv.2 with ⟨l, hl, hcov⟩ | ⟨hne, -⟩
    · have hcov' : Covered v [] l := hnil ▸ hcov
      rw [hl, hcov'.eq_of_nil]
    · exact absurd hnil hne
  all_goals
    obtain ⟨t, ht, rfl⟩ := List.mem_map.1 ho
    obtain ⟨ds, hds, e⟩ := hw t ht
    rw [e]
  · exact ⟨_, writesFrom_length hds⟩
  · exact writesFrom_length hds

/-! ### One writer -/

/-- The invariant of a path that one thread alone writes, always `v`: the operations pending
there are that thread's, and either they are a write of `v` under way from some offset `j`, whose
first `j` bytes the file holds, or none is under way and the file is untouched. -/
def OneWriter (v : List UInt8) (start content : Option (List UInt8)) (ops : List (List FileOp)) :
    Prop :=
  (∀ o ∈ ops, o = [] ∨ o = ops.flatten) ∧
    ((content = start ∧ WritesFrom v v.length ops.flatten) ∨
      ∃ j, content = some (v.take j) ∧ WritesFrom v j ops.flatten)

/-- Where one thread's operations are all that is pending, the others have none. -/
theorem eq_nil_of_one {pre post : List (List FileOp)} {x : List FileOp} (hx : x ≠ [])
    (h : ∀ o ∈ pre ++ x :: post, o = [] ∨ o = (pre ++ x :: post).flatten) :
    ∀ o ∈ pre ++ post, o = [] := by
  have hlen : (pre ++ x :: post).flatten.length = pre.flatten.length + x.length +
      post.flatten.length := by simp [Nat.add_assoc]
  rcases h x (by simp) with h | h
  · exact absurd h hx
  · have h' := congrArg List.length h
    rw [hlen] at h'
    intro o ho
    rcases List.mem_append.1 ho with ho | ho
    · exact List.flatten_eq_nil_iff.1 (List.length_eq_zero.1 (by omega)) o ho
    · exact List.flatten_eq_nil_iff.1 (List.length_eq_zero.1 (by omega)) o ho

/-- The next operation of the one writer keeps the invariant. -/
theorem OneWriter.step {v : List UInt8} {start content : Option (List UInt8)}
    {pre post : List (List FileOp)} {op : FileOp} {rest : List FileOp}
    (h : OneWriter v start content (pre ++ (op :: rest) :: post)) :
    OneWriter v start (op.apply content) (pre ++ rest :: post) := by
  obtain ⟨hone, hfile⟩ := h
  have hnil := eq_nil_of_one (List.cons_ne_nil _ _) hone
  have hflat : ∀ x, (pre ++ x :: post).flatten = x := fun x => by
    simp [List.flatten_eq_nil_iff.2 fun o ho => hnil o (List.mem_append_left _ ho),
      List.flatten_eq_nil_iff.2 fun o ho => hnil o (List.mem_append_right _ ho)]
  rw [hflat] at hfile
  refine ⟨fun o ho => ?_, ?_⟩
  · rw [hflat]
    simp only [List.mem_append, List.mem_cons] at ho
    rcases ho with ho | rfl | ho
    · exact .inl (hnil o (List.mem_append_left _ ho))
    · exact .inr rfl
    · exact .inl (hnil o (List.mem_append_right _ ho))
  rw [hflat]
  cases op with
  | truncate =>
    obtain ⟨j, hj⟩ : ∃ j, WritesFrom v j (.truncate :: rest) := by
      rcases hfile with ⟨-, h⟩ | ⟨j, -, h⟩
      exacts [⟨_, h⟩, ⟨j, h⟩]
    exact .inr ⟨0, by simp [FileOp.apply], hj.of_truncate⟩
  | put i b =>
    rcases hfile with ⟨-, h⟩ | ⟨j, rfl, h⟩
    · have := h.of_put.2.1
      simp at this
    · obtain ⟨rfl, hb, hnext⟩ := h.of_put
      have hi : i < v.length := (List.getElem?_eq_some_iff.1 hb).1
      refine .inr ⟨i + 1, ?_, hnext⟩
      have e := putByte_length (v.take i) b
      rw [show (v.take i).length = i by simp; omega] at e
      simp only [FileOp.apply, Option.getD_some, List.take_succ, hb, Option.toList_some, e]

/-- **One writer, at every point**: when one thread alone has operations at `p`, whole writes of
`v`, then at every point of every run, finished or not, aborted or not, `p` holds what it held at
the start or a prefix of `v`. -/
theorem run_files_prefix {c₀ c : Pool} (h : Run c₀ c) {p : OutPath} {v : List UInt8}
    (hone : ∀ t ∈ c₀.threads, t.filterMap (Action.opAt p) = [] ∨
      t.filterMap (Action.opAt p) = pending (Action.opAt p) c₀.threads)
    (hw : ∃ ds : List (List UInt8), (∀ d ∈ ds, d = v) ∧
      pending (Action.opAt p) c₀.threads = ds.flatMap writeOps) :
    c.files p = c₀.files p ∨ ∃ j, c.files p = some (v.take j) := by
  obtain ⟨ds, hds, hpend⟩ := hw
  have hinv := h.at p (OneWriter v (c₀.files p)) ⟨fun o ho => ?_, .inl ⟨rfl, ?_⟩⟩
    fun _ _ _ _ _ hi => hi.step
  · rcases hinv.2 with ⟨hf, -⟩ | ⟨j, hf, -⟩
    exacts [.inl hf, .inr ⟨j, hf⟩]
  · obtain ⟨t, ht, rfl⟩ := List.mem_map.1 ho
    exact hone t ht
  · rw [flatten_opsAt, hpend]
    exact writesFrom_length hds

/-! ### Writers that disagree -/

/-- What a byte of a file is after a put: the byte put, a byte that was there, or a zero byte of
the hole before the byte put. -/
theorem getElem?_putByte {l : List UInt8} {offset m : ℕ} {b x : UInt8}
    (h : (putByte l offset b)[m]? = some x) :
    m = offset ∧ x = b ∨ l[m]? = some x ∨ m < offset ∧ x = 0 := by
  by_cases hm : m = offset
  · subst hm
    rw [getElem?_putByte_self] at h
    exact .inl ⟨rfl, (Option.some.inj h).symm⟩
  by_cases hl : m < l.length
  · exact .inr (.inl ((getElem?_putByte_of_ne b hm hl).symm.trans h))
  have hlen := (List.getElem?_eq_some_iff.1 h).1
  rw [length_putByte] at hlen
  refine .inr (.inr ⟨by omega, ?_⟩)
  unfold putByte at h
  rw [if_neg (by omega), List.append_assoc, List.getElem?_append_right (by omega),
    List.getElem?_append_left (by simp; omega), List.getElem?_replicate] at h
  simpa [show m - l.length < offset - l.length by omega, eq_comm] using h

/-- The file holds bytes of the buffers `W` allows: each is the byte of one of them at its offset,
or a zero byte of a hole. Such a file is no longer than the longest of those buffers. -/
def BytesFrom (W : List UInt8 → Prop) (l : List UInt8) : Prop :=
  ∀ (i : ℕ) (b : UInt8), l[i]? = some b → ∃ v, W v ∧ ∃ b', v[i]? = some b' ∧ (b = b' ∨ b = 0)

/-- Putting the byte of an allowed buffer at its offset keeps the file made of allowed bytes. -/
theorem BytesFrom.putByte {W : List UInt8 → Prop} {l : List UInt8} {i : ℕ} {b : UInt8}
    (h : BytesFrom W l) (hb : ∃ v, W v ∧ v[i]? = some b) : BytesFrom W (putByte l i b) := by
  obtain ⟨v, hv, hvb⟩ := hb
  intro m x hx
  rcases getElem?_putByte hx with ⟨rfl, rfl⟩ | hl | ⟨hlt, rfl⟩
  · exact ⟨v, hv, _, hvb, .inl rfl⟩
  · exact h m x hl
  · have hm : m < v.length := hlt.trans (List.getElem?_eq_some_iff.1 hvb).1
    exact ⟨v, hv, _, List.getElem?_eq_getElem hm, .inr rfl⟩

/-- The invariant of a path whose writes carry buffers that `W` allows: every byte still to be
put there is the byte of one of them at its offset, and either the file is made of their bytes, or
nothing has been done there yet, with an operation still to come and each thread's next one a
truncation. -/
def MixedWrites (W : List UInt8 → Prop) (start content : Option (List UInt8))
    (ops : List (List FileOp)) : Prop :=
  (∀ i b, FileOp.put i b ∈ ops.flatten → ∃ v, W v ∧ v[i]? = some b) ∧
    ((content = start ∧ ops.flatten ≠ [] ∧ ∀ o ∈ ops, ∀ op ∈ o.head?, op = .truncate) ∨
      ∃ l, content = some l ∧ BytesFrom W l)

/-- The next operation of any thread keeps the invariant. -/
theorem MixedWrites.step {W : List UInt8 → Prop} {start content : Option (List UInt8)}
    {pre post : List (List FileOp)} {op : FileOp} {rest : List FileOp}
    (h : MixedWrites W start content (pre ++ (op :: rest) :: post)) :
    MixedWrites W start (op.apply content) (pre ++ rest :: post) := by
  obtain ⟨hputs, hfile⟩ := h
  refine ⟨fun i b hb => hputs i b (by simp only [List.flatten_append, List.flatten_cons,
    List.mem_append, List.mem_cons] at hb ⊢; tauto), .inr ?_⟩
  cases op with
  | truncate => exact ⟨[], rfl, fun i b h => by simp at h⟩
  | put i b =>
    rcases hfile with ⟨-, -, hfresh⟩ | ⟨l, rfl, hl⟩
    · cases hfresh (.put i b :: rest) (by simp) _ rfl
    · exact ⟨_, rfl, hl.putByte (hputs i b (by simp))⟩

end ExtractLevel
