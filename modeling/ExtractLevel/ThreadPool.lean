import ExtractLevel.Data
import Mathlib.Logic.Relation

/-!
# The thread pool

`SimpleThreadGroup::run(f, n)` starts `n` threads, the `i`-th running `f(i)`, and `join` waits
for all of them. The threads of `extract_all_levels` only read what no one writes, so what one
thread does reaches another only through the files they write.

## Writing a file is not one step

`file_util::write_binary_file(path, data, size)` (in `common/util`, not in this file) opens the
file with `fopen(path, "wb")`, which truncates it, hands the bytes over with `fwrite`, and closes
it. Nothing makes that atomic between threads: another thread can open the same file between the
truncation and the last byte, and each stream keeps its own offset. So a write is a sequence of
operations on its file (`writeOps`): the truncation, then each byte put at its offset
(`putsFrom`). A byte put past the end of a file that another thread has truncated meanwhile leaves
a hole, read back as zero bytes (`putByte`). The C library may hand the bytes over in pieces of
any size, and the system may carry out a large piece in parts; a step per byte covers every way
of cutting them. A write that no other thread interleaves with leaves the file holding exactly
its data (`perform_actions`, `writeFile`).

## Threads, steps, runs

A thread is the list of its effects in program order: operations on files, or the fatal error
that ends the whole process. A configuration (`Pool`) holds the files, what each thread has left
to do, and the error the process died of, if any. A step (`Step`) lets any thread with something
left perform its next action, so every interleaving of the threads is a run (`Run`); `join`
returns in a configuration where no thread has anything left and nothing aborted
(`Pool.Finished`).

What is still to come is read through one function, `pending`, which collects what a selector
picks out of the remaining actions: the operations on one path (`Action.opAt`) or the aborts
(`Action.abortError`). The facts about runs that the theorems on `extract_all_levels` rest on:

* **A path no thread will touch keeps its content**, at every point of every run
  (`Run.files_of_pending_nil`).
* **A finished run met no abort** (`pending_abortError_of_finished`), and the error a process
  dies of was pending (`Run.aborted_mem`).
* **A pool in which no thread aborts finishes**, its threads running one after the other
  (`run_finishes`), and every partial run of it can be completed (`Run.completes`).

What a file holds when several threads write it is the subject of `Contents`.
-/

namespace ExtractLevel

/-! ### Writing a file -/

/-- A byte written at `offset` of a file that holds `l`: over the byte there, or past the end,
the gap up to it read back as zero bytes. -/
def putByte (l : List UInt8) (offset : ℕ) (b : UInt8) : List UInt8 :=
  if offset < l.length then l.set offset b else l ++ List.replicate (offset - l.length) 0 ++ [b]

/-- One operation of `write_binary_file` on its file: the truncation of `fopen(path, "wb")`, or a
byte of `fwrite` landing at its offset. -/
inductive FileOp where
  | truncate
  | put (offset : ℕ) (byte : UInt8)
  deriving DecidableEq, Repr

/-- What a file holds after an operation; a file that is not there is created. -/
def FileOp.apply : FileOp → Option (List UInt8) → Option (List UInt8)
  | .truncate, _ => some []
  | .put offset b, c => some (putByte (c.getD []) offset b)

/-- The bytes `bs`, put one after the other from `offset` on. -/
def putsFrom (offset : ℕ) : List UInt8 → List FileOp
  | [] => []
  | b :: bs => .put offset b :: putsFrom (offset + 1) bs

/-- `write_binary_file(path, data, size)` on its file: the truncation, then every byte at its
offset. -/
def writeOps (data : List UInt8) : List FileOp := .truncate :: putsFrom 0 data

/-- The files after the operation `op` on `path`. -/
def applyAt (files : OutPath → Option (List UInt8)) (path : OutPath) (op : FileOp) :
    OutPath → Option (List UInt8) :=
  Function.update files path (op.apply (files path))

/-- The files after a `write_binary_file` that no other thread interleaves with. The write
truncates the file and then puts its bytes (`writeOps`), which is not atomic; alone, it leaves the
file holding the data (`perform_actions`). The common pass, which runs before any level thread is
started, writes so. -/
def writeFile (files : OutPath → Option (List UInt8)) (w : FileWrite) :
    OutPath → Option (List UInt8) :=
  Function.update files w.path (some w.data)

theorem length_putByte (l : List UInt8) (offset : ℕ) (b : UInt8) :
    (putByte l offset b).length = max l.length (offset + 1) := by
  unfold putByte
  split_ifs with h
  · rw [List.length_set]
    omega
  · simp only [List.length_append, List.length_replicate, List.length_singleton]
    omega

@[simp] theorem getElem?_putByte_self (l : List UInt8) (offset : ℕ) (b : UInt8) :
    (putByte l offset b)[offset]? = some b := by
  unfold putByte
  split_ifs with h
  · exact List.getElem?_set_self h
  · rw [List.getElem?_append_right (by simp; omega)]
    simp [show offset - (l.length + (offset - l.length)) = 0 by omega]

/-- A byte put elsewhere leaves the bytes of the file in place. -/
theorem getElem?_putByte_of_ne {l : List UInt8} {offset m : ℕ} (b : UInt8) (hm : m ≠ offset)
    (hl : m < l.length) : (putByte l offset b)[m]? = l[m]? := by
  unfold putByte
  split_ifs
  · exact List.getElem?_set_ne (Ne.symm hm)
  · rw [List.append_assoc, List.getElem?_append_left hl]

/-- A byte put at the end of the file is appended to it. -/
theorem putByte_length (l : List UInt8) (b : UInt8) : putByte l l.length b = l ++ [b] := by
  simp [putByte]

/-- What a thread does to the outside world: an operation on a file, or the abort of the
process. -/
inductive Action where
  | file (path : OutPath) (op : FileOp)
  | abort (f : Fatal)
  deriving DecidableEq, Repr

/-- The operation an action performs on `path`, if it is one. -/
def Action.opAt (path : OutPath) : Action → Option FileOp
  | .file p op => if p = path then some op else none
  | .abort _ => none

/-- The error an action aborts the process with, if it aborts. -/
def Action.abortError : Action → Option Fatal
  | .file _ _ => none
  | .abort f => some f

/-- The actions of a `write_binary_file`. -/
def FileWrite.actions (w : FileWrite) : List Action := (writeOps w.data).map (.file w.path)

/-- The actions of a thread that computes `r`: its writes, one after the other, when it succeeds,
and the abort otherwise. Every fatal check of `extract_level.cpp` comes before the first write of
its function, so an aborting thread writes nothing. -/
def threadActions : Except Fatal (List FileWrite) → List Action
  | .ok ws => ws.flatMap FileWrite.actions
  | .error f => [.abort f]

/-- The contents the writes `ws` write at `path`, in order. -/
def writesAt (path : OutPath) (ws : List FileWrite) : List (List UInt8) :=
  ws.filterMap fun w => if w.path = path then some w.data else none

/-- The files after a thread performs `as` with no other thread in between. -/
def perform (files : OutPath → Option (List UInt8)) : List Action → OutPath → Option (List UInt8)
  | [] => files
  | .file p op :: as => perform (applyAt files p op) as
  | .abort _ :: as => perform files as

@[simp] theorem opAt_file (path p : OutPath) (op : FileOp) :
    Action.opAt path (.file p op) = if p = path then some op else none := rfl

@[simp] theorem opAt_abort (path : OutPath) (f : Fatal) : Action.opAt path (.abort f) = none :=
  rfl

theorem mem_writesAt {path : OutPath} {ws : List FileWrite} {d : List UInt8} :
    d ∈ writesAt path ws ↔ ⟨path, d⟩ ∈ ws := by
  simp only [writesAt, List.mem_filterMap, Option.ite_none_right_eq_some, Option.some.injEq]
  exact ⟨fun ⟨w, hw, hp, hd⟩ => hp ▸ hd ▸ hw, fun h => ⟨_, h, rfl, rfl⟩⟩

/-- The operations a write performs at `path`: all of them when it writes there. -/
theorem filterMap_opAt_actions (path : OutPath) (w : FileWrite) :
    w.actions.filterMap (Action.opAt path) = if w.path = path then writeOps w.data else [] := by
  simp only [FileWrite.actions, List.filterMap_map, Function.comp_def, opAt_file]
  split_ifs <;> simp

/-- **The operations a thread performs at a path**: one whole write per content it writes
there, in order. -/
theorem filterMap_opAt_threadActions (path : OutPath) (ws : List FileWrite) :
    (threadActions (.ok ws)).filterMap (Action.opAt path) =
      (writesAt path ws).flatMap writeOps := by
  induction ws with
  | nil => rfl
  | cons w ws ih =>
    simp only [threadActions, List.flatMap_cons, List.filterMap_append, filterMap_opAt_actions]
      at ih ⊢
    rw [ih]
    by_cases hw : w.path = path <;> simp [writesAt, hw]

theorem filterMap_abortError_actions (w : FileWrite) :
    w.actions.filterMap Action.abortError = [] := by
  simp [FileWrite.actions, List.filterMap_map, Function.comp_def, Action.abortError]

theorem filterMap_abortError_threadActions {r : Except Fatal (List FileWrite)} :
    (threadActions r).filterMap Action.abortError = [] ↔ ∃ ws, r = .ok ws := by
  cases r with
  | error f => simp [threadActions, Action.abortError]
  | ok ws => simp [threadActions, List.filterMap_flatMap, filterMap_abortError_actions]

/-- The thread of a computation that aborts is that one abort. -/
theorem threadActions_eq_abort {r : Except Fatal (List FileWrite)} {f : Fatal}
    (h : f ∈ (threadActions r).filterMap Action.abortError) : threadActions r = [.abort f] := by
  cases r with
  | ok ws => simp [filterMap_abortError_threadActions.2 ⟨ws, rfl⟩] at h
  | error f' =>
    simp only [threadActions, List.filterMap_cons, Action.abortError, List.filterMap_nil,
      List.mem_singleton] at h
    rw [h]
    rfl

/-- Operations elsewhere leave a path alone. -/
theorem perform_of_opAt_nil {files : OutPath → Option (List UInt8)} {as : List Action}
    {path : OutPath} (h : as.filterMap (Action.opAt path) = []) :
    perform files as path = files path := by
  induction as generalizing files with
  | nil => rfl
  | cons a as ih =>
    cases a with
    | abort f => exact ih (by simpa using h)
    | file p op =>
      by_cases hp : p = path
      · simp [hp] at h
      · simp only [List.filterMap_cons, opAt_file, hp, ↓reduceIte] at h
        rw [perform, ih h]
        exact Function.update_noteq (Ne.symm hp) _ _

/-- Writes elsewhere leave a path alone. -/
theorem foldl_writeFile_of_forall_ne {ws : List FileWrite} {path : OutPath}
    (h : ∀ w ∈ ws, w.path ≠ path) (files : OutPath → Option (List UInt8)) :
    ws.foldl writeFile files path = files path := by
  induction ws generalizing files with
  | nil => rfl
  | cons w ws ih =>
    rw [List.foldl_cons, ih (fun w' hw' => h w' (.tail _ hw'))]
    exact Function.update_noteq (h w (.head _)).symm _ _

/-- A path's content after some writes depends on the files before only through that path. -/
theorem foldl_writeFile_congr {f g : OutPath → Option (List UInt8)} {p : OutPath}
    (h : f p = g p) (ws : List FileWrite) : ws.foldl writeFile f p = ws.foldl writeFile g p := by
  induction ws generalizing f g with
  | nil => exact h
  | cons w ws ih =>
    refine ih ?_
    by_cases hw : w.path = p
    · subst hw
      simp only [writeFile, Function.update_same]
    · simp only [writeFile, Function.update_noteq (Ne.symm hw), h]

/-- A path some of the writes go to ends with the last of them, whatever it held before. -/
theorem foldl_writeFile_of_mem {ws : List FileWrite} {p : OutPath} (h : ∃ w ∈ ws, w.path = p)
    (f g : OutPath → Option (List UInt8)) : ws.foldl writeFile f p = ws.foldl writeFile g p := by
  induction ws generalizing f g with
  | nil => obtain ⟨w, hw, -⟩ := h; cases hw
  | cons w ws ih =>
    by_cases hws : ∃ w' ∈ ws, w'.path = p
    · exact ih hws _ _
    · obtain rfl : w.path = p := by
        obtain ⟨w', hw', hp⟩ := h
        rcases List.mem_cons.1 hw' with rfl | hw'
        · exact hp
        · exact absurd ⟨w', hw', hp⟩ hws
      push_neg at hws
      simp only [List.foldl_cons, foldl_writeFile_of_forall_ne hws, writeFile,
        Function.update_same]

/-- **Writes are idempotent**: doing the same writes twice leaves what doing them once does. -/
theorem foldl_writeFile_idem (ws : List FileWrite) (f : OutPath → Option (List UInt8)) :
    ws.foldl writeFile (ws.foldl writeFile f) = ws.foldl writeFile f := by
  funext p
  by_cases h : ∃ w ∈ ws, w.path = p
  · exact foldl_writeFile_of_mem h _ _
  · push_neg at h
    exact foldl_writeFile_of_forall_ne h _

/-! ### Configurations and steps -/

/-- A configuration of the process. -/
structure Pool where
  /-- The files as they are now. -/
  files : OutPath → Option (List UInt8)
  /-- What each thread has left to do. -/
  threads : List (List Action)
  /-- The error the process died of, if it did. -/
  aborted : Option Fatal

/-- One step: a thread with something left does its next action, unless the process has
aborted. -/
inductive Step : Pool → Pool → Prop
  | file (files : OutPath → Option (List UInt8)) (pre post : List (List Action)) (path : OutPath)
      (op : FileOp) (rest : List Action) :
      Step ⟨files, pre ++ (.file path op :: rest) :: post, none⟩
        ⟨applyAt files path op, pre ++ rest :: post, none⟩
  | abort (files : OutPath → Option (List UInt8)) (pre post : List (List Action)) (f : Fatal)
      (rest : List Action) :
      Step ⟨files, pre ++ (.abort f :: rest) :: post, none⟩ ⟨files, pre ++ rest :: post, some f⟩

/-- A run: any number of steps, in any interleaving. -/
def Run : Pool → Pool → Prop := Relation.ReflTransGen Step

/-- `join` has returned: no thread has anything left, and the process did not abort. -/
def Pool.Finished (p : Pool) : Prop := p.aborted = none ∧ ∀ t ∈ p.threads, t = []

/-- What `sel` picks out of the actions still to come, thread after thread. -/
def pending {α : Type} (sel : Action → Option α) (threads : List (List Action)) : List α :=
  threads.flatMap (List.filterMap sel)

section Pending

variable {α : Type} (sel : Action → Option α)

@[simp] theorem pending_nil : pending sel [] = [] := rfl

@[simp] theorem pending_cons (t : List Action) (ts : List (List Action)) :
    pending sel (t :: ts) = t.filterMap sel ++ pending sel ts := rfl

@[simp] theorem pending_append (ts ts' : List (List Action)) :
    pending sel (ts ++ ts') = pending sel ts ++ pending sel ts' :=
  List.flatMap_append _ _ _

theorem pending_eq_nil_of_finished {p : Pool} (h : p.Finished) : pending sel p.threads = [] := by
  simp only [pending, List.flatMap_eq_nil_iff]
  intro t ht
  simp [h.2 t ht]

end Pending

section Steps

variable {c c' : Pool}

theorem Step.aborted_eq_none (h : Step c c') : c.aborted = none := by
  cases h <;> rfl

/-- **Progress**: a process that is alive and has a thread with something left can step. -/
theorem Pool.exists_step {p : Pool} (h : p.aborted = none) (ht : ∃ t ∈ p.threads, t ≠ []) :
    ∃ c, Step p c := by
  obtain ⟨files, threads, aborted⟩ := p
  obtain ⟨t, ht, hne⟩ := ht
  obtain ⟨pre, post, rfl⟩ := List.append_of_mem ht
  cases h
  cases t with
  | nil => exact absurd rfl hne
  | cons a rest =>
    cases a with
    | file path op => exact ⟨_, .file files pre post path op rest⟩
    | abort f => exact ⟨_, .abort files pre post f rest⟩

/-- **A step takes at most one action away**: whatever a selector sees pending after a step was
pending before it, in the same order. -/
theorem Step.pending_sublist {α : Type} (sel : Action → Option α) (h : Step c c') :
    List.Sublist (pending sel c'.threads) (pending sel c.threads) := by
  cases h <;>
  · simp only [pending_append, pending_cons]
    exact .append_left (.append_right ((List.sublist_cons_self _ _).filterMap sel) _) _

/-- A step touches only a path that some operation pending there is for. -/
theorem Step.files_of_pending_nil (h : Step c c') {path : OutPath}
    (hp : pending (Action.opAt path) c.threads = []) : c'.files path = c.files path := by
  cases h with
  | file files pre post p op rest =>
    by_cases hpp : p = path
    · simp [hpp] at hp
    · exact Function.update_noteq (Ne.symm hpp) _ _
  | abort => rfl

/-- A step of a process that is still alive performs no abort. -/
theorem Step.pending_abortError (h : Step c c') (hc' : c'.aborted = none) :
    pending Action.abortError c'.threads = pending Action.abortError c.threads := by
  cases h with
  | file => simp [Action.abortError]
  | abort => cases hc'

/-- A step from a configuration with no abort to come leaves the process alive. -/
theorem Step.aborted_of_pending_nil (h : Step c c')
    (hp : pending Action.abortError c.threads = []) : c'.aborted = none := by
  cases h with
  | file => rfl
  | abort => simp [Action.abortError] at hp

end Steps

/-! ### Runs -/

section Runs

variable {c₀ c : Pool}

theorem Run.pending_sublist {α : Type} (sel : Action → Option α) (h : Run c₀ c) :
    List.Sublist (pending sel c.threads) (pending sel c₀.threads) := by
  induction h with
  | refl => exact .refl _
  | tail _ hstep ih => exact (hstep.pending_sublist sel).trans ih

/-- **A path no thread will touch keeps its content**, at every point of every run. -/
theorem Run.files_of_pending_nil (h : Run c₀ c) {path : OutPath}
    (hp : pending (Action.opAt path) c₀.threads = []) : c.files path = c₀.files path := by
  induction h with
  | refl => rfl
  | @tail c c' hrun hstep ih =>
    rw [hstep.files_of_pending_nil (List.eq_nil_of_sublist_nil (hp ▸ Run.pending_sublist _ hrun)),
      ih]

theorem Run.aborted_eq_none (h : Run c₀ c) (hc : c.aborted = none) : c₀.aborted = none := by
  induction h with
  | refl => exact hc
  | tail _ hstep ih => exact ih hstep.aborted_eq_none

/-- **An abort stops everything**: a run that ends alive started with the aborts it has left. -/
theorem Run.pending_abortError (h : Run c₀ c) (hc : c.aborted = none) :
    pending Action.abortError c.threads = pending Action.abortError c₀.threads := by
  induction h with
  | refl => rfl
  | tail _ hstep ih => rw [hstep.pending_abortError hc, ih hstep.aborted_eq_none]

/-- A finished run started alive, with no abort to come. -/
theorem pending_abortError_of_finished (h : Run c₀ c) (hc : c.Finished) :
    c₀.aborted = none ∧ pending Action.abortError c₀.threads = [] :=
  ⟨h.aborted_eq_none hc.1, h.pending_abortError hc.1 ▸ pending_eq_nil_of_finished _ hc⟩

/-- **The error a process dies of was pending**: an abort reached along a run was the
configuration's own, or one of the aborts its threads had to come. -/
theorem Run.aborted_mem (h : Run c₀ c) {f : Fatal} (hc : c.aborted = some f) :
    c₀.aborted = some f ∨ f ∈ pending Action.abortError c₀.threads := by
  induction h with
  | refl => exact .inl hc
  | @tail c c' hrun hstep ih =>
    cases hstep with
    | file => cases hc
    | abort files pre post f' rest =>
      cases hc
      exact .inr ((Run.pending_sublist _ hrun).subset (by simp [Action.abortError]))

/-- A run from a live configuration with no abort to come stays alive, with no abort to come. -/
theorem Run.alive_of_pending_nil (h : Run c₀ c) (h₀ : c₀.aborted = none)
    (hp : pending Action.abortError c₀.threads = []) :
    c.aborted = none ∧ pending Action.abortError c.threads = [] := by
  induction h with
  | refl => exact ⟨h₀, hp⟩
  | tail _ hstep ih =>
    exact ⟨hstep.aborted_of_pending_nil ih.2,
      List.eq_nil_of_sublist_nil (ih.2 ▸ hstep.pending_sublist _)⟩

end Runs

/-! ### Schedules -/

/-- A thread performs the actions at its head, none an abort, the others waiting. -/
theorem run_head (files : OutPath → Option (List UInt8)) (pre post : List (List Action))
    {as : List Action} (t : List Action) (h : as.filterMap Action.abortError = []) :
    Run ⟨files, pre ++ (as ++ t) :: post, none⟩ ⟨perform files as, pre ++ t :: post, none⟩ := by
  induction as generalizing files with
  | nil => exact .refl
  | cons a as ih =>
    cases a with
    | file p op =>
      exact .head (Step.file files pre post p op _) (ih _ (by simpa [Action.abortError] using h))
    | abort f => simp [Action.abortError] at h

/-- Threads with no abort to come run to their ends one after the other, the threads around them
waiting. -/
theorem run_threads (files : OutPath → Option (List UInt8)) (pre ts post : List (List Action))
    (h : pending Action.abortError ts = []) :
    ∃ files', Run ⟨files, pre ++ ts ++ post, none⟩
      ⟨files', pre ++ ts.map (fun _ => []) ++ post, none⟩ := by
  induction ts generalizing files pre with
  | nil => exact ⟨files, .refl⟩
  | cons t ts ih =>
    simp only [pending_cons, List.append_eq_nil] at h
    have hrun₁ := run_head files pre (ts ++ post) [] (by simpa using h.1)
    obtain ⟨files₂, hrun₂⟩ := ih (perform files t) (pre ++ [[]]) h.2
    simp only [List.append_assoc, List.cons_append, List.singleton_append, List.map_cons,
      List.append_nil] at hrun₁ hrun₂ ⊢
    exact ⟨files₂, hrun₁.trans hrun₂⟩

/-- **A pool in which no thread aborts finishes**, when its threads run one after the other. -/
theorem run_finishes (files : OutPath → Option (List UInt8)) (threads : List (List Action))
    (h : pending Action.abortError threads = []) :
    ∃ c, Run ⟨files, threads, none⟩ c ∧ c.Finished := by
  obtain ⟨files', hrun⟩ := run_threads files [] threads [] h
  exact ⟨_, by simpa using hrun, rfl, by simp⟩

/-- **`join` always returns when no thread aborts**: every run from a live configuration with no
abort to come can be completed. -/
theorem Run.completes {c₀ c : Pool} (h : Run c₀ c) (h₀ : c₀.aborted = none)
    (hp : pending Action.abortError c₀.threads = []) : ∃ c', Run c c' ∧ c'.Finished := by
  obtain ⟨hc, hpc⟩ := h.alive_of_pending_nil h₀ hp
  obtain ⟨files, threads, aborted⟩ := c
  cases hc
  exact run_finishes files threads hpc

end ExtractLevel
