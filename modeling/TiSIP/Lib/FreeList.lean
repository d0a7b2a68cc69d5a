import Mathlib.Logic.Function.Basic
import Mathlib.Data.List.Basic

namespace FreeList

variable {Cell : Type*} {next : Cell → Cell} {start middle stop : Cell} {cells more : List Cell}

/-- The cells that are found from `start` by following `next` up to `stop`. -/
def Threads (next : Cell → Cell) (stop : Cell) : Cell → List Cell → Prop
  | start, [] => start = stop
  | start, cell :: rest => start = cell ∧ Threads next stop (next cell) rest

theorem Threads.congr {other : Cell → Cell} (threads : Threads next stop start cells)
    (same : ∀ cell ∈ cells, other cell = next cell) : Threads other stop start cells := by
  induction cells generalizing start with
  | nil => exact threads
  | cons cell rest ih =>
    obtain ⟨first, after⟩ := threads
    refine ⟨first, ?_⟩
    rw [same cell List.mem_cons_self]
    exact ih after fun other member => same other (List.mem_cons_of_mem _ member)

theorem Threads.push [DecidableEq Cell] (threads : Threads next stop start cells) {cell : Cell} (fresh : cell ∉ cells) :
    Threads (Function.update next cell start) stop cell (cell :: cells) := by
  refine ⟨rfl, ?_⟩
  rw [Function.update_self]
  apply threads.congr
  intro other member
  apply Function.update_of_ne
  rintro rfl
  exact fresh member

theorem Threads.append (threads : Threads next middle start cells) (rest : Threads next stop middle more) :
    Threads next stop start (cells ++ more) := by
  induction cells generalizing start with
  | nil =>
    have same : start = middle := threads
    rw [same]
    exact rest
  | cons cell others ih => exact ⟨threads.1, ih threads.2⟩

theorem threads_row (cell : Nat → Cell) (first count : Nat)
    (links : ∀ i, first ≤ i → i < first + count → next (cell i) = cell (i + 1)) :
    Threads next (cell (first + count)) (cell first) ((List.range' first count).map cell) := by
  induction count generalizing first with
  | zero => rfl
  | succ count ih =>
    rw [List.range'_succ, List.map_cons]
    refine ⟨rfl, ?_⟩
    rw [links first (by omega) (by omega)]
    have rest := ih (first + 1) fun i low high => links i (by omega) (by omega)
    rwa [show first + 1 + count = first + (count + 1) by omega] at rest

end FreeList
