/-
  File:      Gem5Sc/VirtualChannel.lean
  Subject:   The two kinds of virtual channel (`InputVC`, `OutputVC`): a bounded FIFO of packets
             with its counters.

  `OutputVC::trySend` calls the port that owns the channel and stands in `Port.lean`.
-/
import Gem5Sc.Packet

namespace Gem5Sc

/-- `struct InputVC` with its `Stats`. -/
structure InputVC where
  id : Nat := 0
  priority : Nat := 0
  buffer : List PacketId := []
  capacity : Nat := 0
  enqueued : UInt64 := 0
  dropped : UInt64 := 0
  processed : UInt64 := 0
  deriving DecidableEq, Repr, Inhabited

namespace InputVC

/-- `buffer.push(pkt)` and its counter. -/
def push (vc : InputVC) (p : PacketId) : InputVC :=
  { vc with buffer := vc.buffer ++ [p], enqueued := vc.enqueued + 1 }

/-- `stats.dropped++`. -/
def countDropped (vc : InputVC) : InputVC := { vc with dropped := vc.dropped + 1 }

/-- `InputVC::enqueue`. -/
def enqueue (vc : InputVC) (p : PacketId) : Bool × InputVC :=
  if vc.buffer.length ≥ vc.capacity then (false, vc) else (true, vc.push p)

/-- `InputVC::pop`. -/
def pop (vc : InputVC) : InputVC :=
  match vc.buffer with
  | [] => vc
  | _ :: rest => { vc with buffer := rest, processed := vc.processed + 1 }

/-- `InputVC::full`. -/
def full (vc : InputVC) : Bool := vc.buffer.length ≥ vc.capacity

@[simp] theorem push_buffer (vc : InputVC) (p : PacketId) :
    (vc.push p).buffer = vc.buffer ++ [p] := rfl

@[simp] theorem countDropped_buffer (vc : InputVC) : vc.countDropped.buffer = vc.buffer := rfl

@[simp] theorem pop_buffer (vc : InputVC) : vc.pop.buffer = vc.buffer.tail := by
  unfold pop
  cases h : vc.buffer with
  | nil => simp [h]
  | cons p rest => rfl

@[simp] theorem pop_capacity (vc : InputVC) : vc.pop.capacity = vc.capacity := by
  unfold pop
  cases vc.buffer <;> rfl

theorem enqueue_of_full {vc : InputVC} (h : vc.full = true) (p : PacketId) :
    vc.enqueue p = (false, vc) := by
  have hlen : vc.capacity ≤ vc.buffer.length := by simpa [full] using h
  simp [enqueue, hlen]

theorem enqueue_of_not_full {vc : InputVC} (h : vc.full = false) (p : PacketId) :
    vc.enqueue p = (true, vc.push p) := by
  have hlen : ¬ vc.capacity ≤ vc.buffer.length := by simpa [full] using h
  simp [enqueue, hlen]

end InputVC

/-- `struct OutputVC` with its `Stats`. -/
structure OutputVC where
  id : Nat := 0
  priority : Nat := 0
  buffer : List PacketId := []
  capacity : Nat := 0
  enqueued : UInt64 := 0
  forwarded : UInt64 := 0
  dropped : UInt64 := 0
  deriving DecidableEq, Repr, Inhabited

namespace OutputVC

/-- `buffer.push(pkt)` and its counter. -/
def push (vc : OutputVC) (p : PacketId) : OutputVC :=
  { vc with buffer := vc.buffer ++ [p], enqueued := vc.enqueued + 1 }

/-- `stats.dropped++`. -/
def countDropped (vc : OutputVC) : OutputVC := { vc with dropped := vc.dropped + 1 }

/-- `OutputVC::enqueue`. -/
def enqueue (vc : OutputVC) (p : PacketId) : Bool × OutputVC :=
  if vc.buffer.length ≥ vc.capacity then (false, vc) else (true, vc.push p)

/-- `buffer.pop()` and `stats.forwarded++`, the end of a successful `trySend`. -/
def popForwarded (vc : OutputVC) : OutputVC :=
  { vc with buffer := vc.buffer.tail, forwarded := vc.forwarded + 1 }

/-- `OutputVC::full`. -/
def full (vc : OutputVC) : Bool := vc.buffer.length ≥ vc.capacity

@[simp] theorem push_buffer (vc : OutputVC) (p : PacketId) :
    (vc.push p).buffer = vc.buffer ++ [p] := rfl
@[simp] theorem countDropped_buffer (vc : OutputVC) : vc.countDropped.buffer = vc.buffer := rfl
@[simp] theorem popForwarded_buffer (vc : OutputVC) :
    vc.popForwarded.buffer = vc.buffer.tail := rfl

theorem enqueue_of_full {vc : OutputVC} (h : vc.full = true) (p : PacketId) :
    vc.enqueue p = (false, vc) := by
  have hlen : vc.capacity ≤ vc.buffer.length := by simpa [full] using h
  simp [enqueue, hlen]

theorem enqueue_of_not_full {vc : OutputVC} (h : vc.full = false) (p : PacketId) :
    vc.enqueue p = (true, vc.push p) := by
  have hlen : ¬ vc.capacity ≤ vc.buffer.length := by simpa [full] using h
  simp [enqueue, hlen]

end OutputVC

/-! ## Lists of channels -/

/-- Replacing an entry by one that agrees with it in `g` changes no entry in `g`. -/
theorem apply_getD_set {α β : Type} (g : α → β) {l : List α} {d : α} {i : Nat} {x : α}
    (hx : g x = g (l.getD i d)) (j : Nat) : g ((l.set i x).getD j d) = g (l.getD j d) := by
  by_cases hi : i < l.length
  · by_cases hij : i = j
    · subst hij
      have hself : (l.set i x).getD i d = x := by simp [hi]
      rw [hself, hx]
    · have hne : (l.set i x).getD j d = l.getD j d := by simp [hij]
      rw [hne]
  · rw [List.set_eq_of_length_le (Nat.le_of_not_lt hi)]

end Gem5Sc
