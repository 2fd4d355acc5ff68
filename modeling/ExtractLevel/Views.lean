import ExtractLevel.Contents

/-!
# What an observer of some paths sees

An observer that looks at some paths only, the output folder say, sees of a pool its **view**
(`Pool.SeenBy`): the same files there, the same abort, and in each thread only the actions it
sees, which are its aborts and its operations on those paths.

## A pool and its view simulate each other

* **Forward** (`Step.seenBy`): a step of the pool is the same step of the view when the observer
  sees it, and no step otherwise.
* **Backward** (`Step.seenBy_back`): a step of the view is matched by the unseen operations at the
  head of that thread, then the same step.
* **At the end** (`Pool.SeenBy.exists_finished`): when the view has finished, what the pool has
  left are unseen operations, and they run to their end.

So an observer cannot tell the two apart: whatever it can see of the files is reachable in one
exactly when it is in the other, when `join` returns (`Pool.SeenBy.finished_iff`) and at every
point of a run, together with the error the process died of (`Pool.SeenBy.reach_iff`).

## Files that pending writes will overwrite

Two configurations with the same threads whose files differ only where some write is still to
come and none is under way (`Pool.EqUpToPending`) take the same steps and stay so
(`Step.eqUpToPending`): the first operation at such a path is a truncation, after which both hold
the same. When `join` returns nothing is pending, so they end with the same files
(`Pool.EqUpToPending.finished_iff`).
-/

namespace ExtractLevel

/-- Whether an observer of the paths `P` sees an action: every abort, and the operations on
`P`. -/
def Action.seenBy (P : OutPath → Bool) : Action → Bool
  | .file p _ => P p
  | .abort _ => true

/-- `c'` is what an observer of the paths `P` sees of `c`: the same files on `P`, the same abort,
and in each thread the actions the observer sees. -/
structure Pool.SeenBy (P : OutPath → Bool) (c c' : Pool) : Prop where
  files : ∀ p, P p → c'.files p = c.files p
  threads : c'.threads = c.threads.map (List.filter (Action.seenBy P))
  aborted : c'.aborted = c.aborted

section SeenBy

variable {P : OutPath → Bool}

/-- Actions an observer of `P` does not see are operations elsewhere: no abort, and nothing on
`P`. -/
theorem filterMap_eq_nil_of_unseen {t : List Action} (h : ∀ a ∈ t, ¬a.seenBy P) :
    t.filterMap Action.abortError = [] ∧ ∀ p, P p → t.filterMap (Action.opAt p) = [] := by
  refine ⟨List.filterMap_eq_nil_iff.2 fun a ha => ?_, fun p hp =>
    List.filterMap_eq_nil_iff.2 fun a ha => ?_⟩
  · cases a with
    | file => rfl
    | abort f => exact absurd rfl (h _ ha)
  · cases a with
    | file q op =>
      simp only [opAt_file, ite_eq_right_iff, reduceCtorEq, imp_false]
      rintro rfl
      exact h _ ha hp
    | abort f => rfl

/-- Two file systems that agree on `P` still do after the same operation. -/
theorem applyAt_agree {f f' : OutPath → Option (List UInt8)} (hf : ∀ p, P p → f' p = f p)
    (q : OutPath) (op : FileOp) : ∀ p, P p → applyAt f' q op p = applyAt f q op p := fun p hp => by
  by_cases hq : q = p
  · subst hq
    simp only [applyAt, Function.update_same, hf q hp]
  · simp only [applyAt, Function.update_noteq (Ne.symm hq), hf p hp]

/-- **Simulation, forward**: a step of a pool is matched in its view by the same step when the
observer sees it, and by none otherwise. -/
theorem Step.seenBy {c d c' : Pool} (h : Step c d) (hc : c.SeenBy P c') :
    ∃ d', Run c' d' ∧ d.SeenBy P d' := by
  obtain ⟨files', threads', aborted'⟩ := c'
  obtain ⟨hf, ht, ha⟩ := hc
  cases h with
  | file files pre post q op rest =>
    dsimp only at hf ht ha
    subst ht ha
    by_cases hq : P q
    · refine ⟨⟨applyAt files' q op, (pre ++ rest :: post).map (List.filter (Action.seenBy P)),
        none⟩, .single ?_, applyAt_agree hf q op, rfl, rfl⟩
      simpa only [List.map_append, List.map_cons, List.filter_cons, Action.seenBy, hq,
        ↓reduceIte] using Step.file files' _ _ q op _
    · refine ⟨_, .refl, fun p hp => ?_, ?_, rfl⟩
      · exact (hf p hp).trans (Function.update_noteq (fun h : p = q => hq (h ▸ hp)) _ _).symm
      · simp only [List.map_append, List.map_cons, List.filter_cons, Action.seenBy, hq,
          Bool.false_eq_true, ↓reduceIte]
  | abort files pre post f rest =>
    dsimp only at hf ht ha
    subst ht ha
    refine ⟨⟨files', (pre ++ rest :: post).map (List.filter (Action.seenBy P)), some f⟩,
      .single ?_, hf, rfl, rfl⟩
    simpa only [List.map_append, List.map_cons, List.filter_cons, Action.seenBy, ↓reduceIte]
      using Step.abort files' _ _ f _

/-- Where the view has an action at the head of a thread, the pool's thread has unseen actions,
then that action. -/
theorem exists_split_of_view {threads pre' post' : List (List Action)} {a : Action}
    {rest' : List Action}
    (h : pre' ++ (a :: rest') :: post' = threads.map (List.filter (Action.seenBy P))) :
    ∃ (pre post : List (List Action)) (u v : List Action),
      threads = pre ++ (u ++ a :: v) :: post ∧
      pre' ++ rest' :: post' = (pre ++ v :: post).map (List.filter (Action.seenBy P)) ∧
      ∀ x ∈ u, ¬x.seenBy P := by
  obtain ⟨pre, l, rfl, rfl, hl⟩ := List.map_eq_append_iff.1 h.symm
  obtain ⟨t, post, rfl, hseen, rfl⟩ := List.map_eq_cons_iff.1 hl
  obtain ⟨u, v, rfl, hu, -, rfl⟩ := List.filter_eq_cons_iff.1 hseen
  exact ⟨pre, post, u, v, rfl, by simp only [List.map_append, List.map_cons],
    fun x hx => by simpa using hu x hx⟩

/-- Performing actions the observer does not see leaves what it sees alone. -/
theorem perform_agree_of_unseen {f f' : OutPath → Option (List UInt8)}
    (hf : ∀ p, P p → f' p = f p) {u : List Action} (hu : ∀ x ∈ u, ¬x.seenBy P) :
    ∀ p, P p → f' p = perform f u p := fun p hp => by
  rw [perform_of_opAt_nil ((filterMap_eq_nil_of_unseen hu).2 p hp), hf p hp]

/-- **Simulation, backward**: a step of the view is matched in the pool by the actions the
observer does not see at the head of that thread, then the same step. -/
theorem Step.seenBy_back {c c' d' : Pool} (hc : c.SeenBy P c') (h : Step c' d') :
    ∃ d, Run c d ∧ d.SeenBy P d' := by
  obtain ⟨files, threads, aborted⟩ := c
  obtain ⟨hf, ht, ha⟩ := hc
  cases h with
  | file files' pre' post' q op rest' =>
    dsimp only at hf ht ha
    subst ha
    obtain ⟨pre, post, u, v, rfl, hv, hu⟩ := exists_split_of_view ht
    exact ⟨_, (run_head files pre post _ (filterMap_eq_nil_of_unseen hu).1).tail
        (Step.file _ pre post q op v),
      applyAt_agree (perform_agree_of_unseen hf hu) q op, hv, rfl⟩
  | abort files' pre' post' f rest' =>
    dsimp only at hf ht ha
    subst ha
    obtain ⟨pre, post, u, v, rfl, hv, hu⟩ := exists_split_of_view ht
    exact ⟨_, (run_head files pre post _ (filterMap_eq_nil_of_unseen hu).1).tail
        (Step.abort _ pre post f v),
      perform_agree_of_unseen hf hu, hv, rfl⟩

theorem Run.seenBy {c d c' : Pool} (h : Run c d) (hc : c.SeenBy P c') :
    ∃ d', Run c' d' ∧ d.SeenBy P d' := by
  induction h with
  | refl => exact ⟨c', .refl, hc⟩
  | tail _ hstep ih =>
    obtain ⟨d₁, hrun₁, hd₁⟩ := ih
    obtain ⟨d', hrun₂, hd'⟩ := hstep.seenBy hd₁
    exact ⟨d', hrun₁.trans hrun₂, hd'⟩

theorem Run.seenBy_back {c c' d' : Pool} (hc : c.SeenBy P c') (h : Run c' d') :
    ∃ d, Run c d ∧ d.SeenBy P d' := by
  induction h with
  | refl => exact ⟨c, .refl, hc⟩
  | tail _ hstep ih =>
    obtain ⟨d₁, hrun₁, hd₁⟩ := ih
    obtain ⟨d, hrun₂, hd⟩ := Step.seenBy_back hd₁ hstep
    exact ⟨d, hrun₁.trans hrun₂, hd⟩

/-- The view of a finished pool is finished. -/
theorem Pool.SeenBy.finished {c c' : Pool} (hc : c.SeenBy P c') (h : c.Finished) :
    c'.Finished := by
  refine ⟨hc.aborted.trans h.1, fun t ht => ?_⟩
  rw [hc.threads] at ht
  obtain ⟨u, hu, rfl⟩ := List.mem_map.1 ht
  rw [h.2 u hu, List.filter_nil]

/-- When the view is finished, what the pool has left, actions the observer does not see, runs
to its end. -/
theorem Pool.SeenBy.exists_finished {c c' : Pool} (hc : c.SeenBy P c') (h : c'.Finished) :
    ∃ d, Run c d ∧ d.Finished ∧ d.SeenBy P c' := by
  obtain ⟨files, threads, aborted⟩ := c
  obtain ⟨hf, ht, ha⟩ := hc
  dsimp only at hf ht ha
  have hun : ∀ t ∈ threads, ∀ a ∈ t, ¬a.seenBy P := fun t ht' =>
    List.filter_eq_nil_iff.1 (h.2 _ (ht ▸ List.mem_map_of_mem _ ht'))
  obtain rfl : aborted = none := ha ▸ h.1
  obtain ⟨files', hrun⟩ := run_threads files [] threads []
    (List.flatMap_eq_nil_iff.2 fun t ht => (filterMap_eq_nil_of_unseen (hun t ht)).1)
  simp only [List.nil_append, List.append_nil] at hrun
  refine ⟨_, hrun, ⟨rfl, by simp⟩, fun p hp => ?_, ?_, h.1⟩
  · rw [hf p hp, hrun.files_of_pending_nil
      (List.flatMap_eq_nil_iff.2 fun t ht => (filterMap_eq_nil_of_unseen (hun t ht)).2 p hp)]
  · rw [ht, List.map_map]
    exact List.map_congr_left fun t ht' => List.filter_eq_nil_iff.2 (hun t ht')

/-- **An observer of `P` cannot tell a pool from its view**: whatever it can see of the files
when `join` returns can be seen in both. -/
theorem Pool.SeenBy.finished_iff {c c' : Pool} (hc : c.SeenBy P c')
    {Q : (OutPath → Option (List UInt8)) → Prop}
    (hQ : ∀ f f', (∀ p, P p → f' p = f p) → Q f → Q f') :
    (∃ d, Run c d ∧ d.Finished ∧ Q d.files) ↔ ∃ d', Run c' d' ∧ d'.Finished ∧ Q d'.files := by
  constructor
  · rintro ⟨d, hrun, hd, hQd⟩
    obtain ⟨d', hrun', hs⟩ := hrun.seenBy hc
    exact ⟨d', hrun', hs.finished hd, hQ _ _ hs.files hQd⟩
  · rintro ⟨d', hrun', hd', hQd⟩
    obtain ⟨d, hrun, hs⟩ := Run.seenBy_back hc hrun'
    obtain ⟨e, hrun₂, he, hs₂⟩ := hs.exists_finished hd'
    exact ⟨e, hrun.trans hrun₂, he, hQ _ _ (fun p hp => (hs₂.files p hp).symm) hQd⟩

end SeenBy

/-! ### Files that pending writes will overwrite -/

/-- No thread is in the middle of a write at `p`: the first operation each has left there, if
any, is a truncation. -/
def NoWriteUnderWay (p : OutPath) (threads : List (List Action)) : Prop :=
  ∀ o ∈ opsAt p threads, ∀ op ∈ o.head?, op = .truncate

/-- A thread that writes whole files is never in the middle of a write before it starts. -/
theorem noWriteUnderWay_map_threadActions (p : OutPath)
    (rs : List (Except Fatal (List FileWrite))) :
    NoWriteUnderWay p (rs.map threadActions) := by
  intro o ho op hop
  obtain ⟨t, ht, rfl⟩ := List.mem_map.1 ho
  obtain ⟨r, -, rfl⟩ := List.mem_map.1 ht
  cases r with
  | error f => cases hop
  | ok ws =>
    rw [filterMap_opAt_threadActions] at hop
    cases h : writesAt p ws with
    | nil => simp [h] at hop
    | cons d ds => simpa [h, writeOps, eq_comm] using hop

/-- `c'` is `c` up to files that pending writes will overwrite: the same threads, the same
abort, and the same content at every path, unless a write is still to come there and none is
under way. -/
structure Pool.EqUpToPending (c c' : Pool) : Prop where
  threads : c'.threads = c.threads
  aborted : c'.aborted = c.aborted
  files : ∀ p, c'.files p = c.files p ∨
    pending (Action.opAt p) c.threads ≠ [] ∧ NoWriteUnderWay p c.threads

theorem Pool.EqUpToPending.symm {c c' : Pool} (h : c.EqUpToPending c') : c'.EqUpToPending c :=
  ⟨h.threads.symm, h.aborted.symm, fun p => (h.files p).imp Eq.symm (h.threads ▸ id)⟩

/-- A step that does nothing at `p` leaves what is pending there alone. -/
theorem opsAt_step_of_ne {p q : OutPath} (hq : q ≠ p) (pre post : List (List Action))
    (op : FileOp) (rest : List Action) :
    opsAt p (pre ++ (.file q op :: rest) :: post) = opsAt p (pre ++ rest :: post) := by
  simp [opsAt, hq]

/-- The same step is open to both, and keeps them equal up to what is still pending. -/
theorem Step.eqUpToPending {c d c' : Pool} (h : Step c d) (hc : c.EqUpToPending c') :
    ∃ d', Step c' d' ∧ d.EqUpToPending d' := by
  obtain ⟨files', threads', aborted'⟩ := c'
  obtain ⟨ht, ha, hf⟩ := hc
  cases h with
  | file files pre post q op rest =>
    dsimp only at ht ha hf
    subst ht ha
    refine ⟨_, Step.file files' pre post q op rest, rfl, rfl, fun p => ?_⟩
    by_cases hq : q = p
    · subst hq
      refine .inl ?_
      simp only [applyAt, Function.update_same]
      rcases hf q with h | ⟨-, hnw⟩
      · rw [h]
      · obtain rfl : op = .truncate :=
          hnw (op :: rest.filterMap (Action.opAt q)) (by simp [opsAt]) op rfl
        rfl
    · simp only [applyAt, Function.update_noteq (Ne.symm hq), NoWriteUnderWay, ← flatten_opsAt,
        ← opsAt_step_of_ne hq pre post op rest]
      exact hf p
  | abort files pre post f rest =>
    dsimp only at ht ha hf
    subst ht ha
    refine ⟨_, Step.abort files' pre post f rest, rfl, rfl, fun p => ?_⟩
    have e : opsAt p (pre ++ (.abort f :: rest) :: post) = opsAt p (pre ++ rest :: post) := by
      simp [opsAt]
    simp only [NoWriteUnderWay, ← flatten_opsAt, ← e]
    exact hf p

theorem Run.eqUpToPending {c d c' : Pool} (h : Run c d) (hc : c.EqUpToPending c') :
    ∃ d', Run c' d' ∧ d.EqUpToPending d' := by
  induction h with
  | refl => exact ⟨c', .refl, hc⟩
  | tail _ hstep ih =>
    obtain ⟨d₁, hrun₁, hd₁⟩ := ih
    obtain ⟨d', hstep', hd'⟩ := hstep.eqUpToPending hd₁
    exact ⟨d', hrun₁.tail hstep', hd'⟩

/-- **Files that pending writes will overwrite make no difference when `join` returns**: the two
configurations can end with exactly the same files. -/
theorem Pool.EqUpToPending.finished_iff {c c' : Pool} (hc : c.EqUpToPending c')
    (F : OutPath → Option (List UInt8)) :
    (∃ d, Run c d ∧ d.Finished ∧ d.files = F) ↔ ∃ d', Run c' d' ∧ d'.Finished ∧ d'.files = F := by
  have key : ∀ {c c' : Pool}, c.EqUpToPending c' → (∃ d, Run c d ∧ d.Finished ∧ d.files = F) →
      ∃ d', Run c' d' ∧ d'.Finished ∧ d'.files = F := by
    rintro c c' hc ⟨d, hrun, hd, rfl⟩
    obtain ⟨d', hrun', hs⟩ := hrun.eqUpToPending hc
    refine ⟨d', hrun', ⟨hs.aborted.trans hd.1, hs.threads ▸ hd.2⟩, funext fun p => ?_⟩
    exact (hs.files p).resolve_right fun h => h.1 (pending_eq_nil_of_finished _ hd)
  exact ⟨key hc, key hc.symm⟩

end ExtractLevel
