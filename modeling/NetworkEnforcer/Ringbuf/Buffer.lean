import Mathlib.Logic.Function.Basic
import Mathlib.Data.List.Range

/-!
# The ring buffer (`internal/ringbuf/buffer.go`)

Every method holds the mutex of the buffer from start to end, so a method is one step.  The capacity
is positive and every slot exists, by the type.
-/

namespace NetworkEnforcer.Ringbuf

def maxBufferEntries : Nat := 10000

structure Buffer (T : Type) where
  capacity : Nat
  buf : Fin capacity → T
  pos : Nat
  capacity_pos : 0 < capacity

namespace Buffer

variable {T : Type}

/-- `NewWithSize`; the slots hold the zero value until they are written. -/
def newWithSize [Inhabited T] (size : Int) : Buffer T where
  capacity := if size ≤ 0 then maxBufferEntries else size.toNat
  buf _ := default
  pos := 0
  capacity_pos := by
    split
    · decide
    · omega

/-- `New`. -/
def new [Inhabited T] : Buffer T := newWithSize maxBufferEntries

/-- The slot of the record with this number. -/
def slot (b : Buffer T) (i : Nat) : Fin b.capacity := ⟨i % b.capacity, Nat.mod_lt _ b.capacity_pos⟩

/-- `Record`, with the answer whether an older record was overwritten. -/
def record (b : Buffer T) (rec : T) : Bool × Buffer T :=
  (decide (b.capacity ≤ b.pos),
    { b with buf := Function.update b.buf (b.slot b.pos) rec, pos := b.pos + 1 })

/-- The number of records that a drain would return. -/
def size (b : Buffer T) : Nat := min b.pos b.capacity

/-- `Drain`: the buffered records, newest first. -/
def drain (b : Buffer T) : List T × Buffer T :=
  ((List.range b.size).map fun i => b.buf (b.slot (b.pos - 1 - i)), { b with pos := 0 })

@[simp] lemma drain_length (b : Buffer T) : b.drain.1.length = b.size := by simp [drain]

@[simp] lemma drain_size (b : Buffer T) : b.drain.2.size = 0 := by simp [drain, size]

/-- **A record takes a new place, or the place of the record that is overwritten.** -/
theorem record_size (b : Buffer T) (rec : T) :
    (b.record rec).2.size + (if (b.record rec).1 then 1 else 0) = b.size + 1 := by
  simp only [record, size, decide_eq_true_eq]
  split <;> omega

end Buffer

end NetworkEnforcer.Ringbuf
