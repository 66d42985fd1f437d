import Mathlib.Data.List.OfFn
import NetworkEnforcer.Ringbuf.Buffer

/-!
# The ring buffer keeps the newest elements

Three levels.  `GoBuffer` is the code: a slice, two integers and index expressions that can fail.
`Buffer` has a slot for every index.  `sinceDrain` is what a buffer is for: the elements recorded since
the previous drain, of which a drain returns the newest.

* `record_ofBuffer`, `drain_ofBuffer` — the code does what `Buffer` does, and no index fails;
* `Represents.record`, `Represents.drain` — one operation keeps the slots in step with the history;
* `run_represents` — so does every sequence of operations;
* `ringBuffer_keeps_newest` — what a drain returns and a record answers after any of them.
-/

namespace NetworkEnforcer.Ringbuf

variable {T : Type}

/-! ## The code -/

/-- `Buffer` as it is laid out: the slice `buf` and two integers. -/
structure GoBuffer (T : Type) where
  buf : List T
  pos : Int
  capacity : Int

/-- The value of `s[i]`; `none` is the run-time panic of an index out of range. -/
def indexSlice (s : List T) (i : Int) : Option T := if 0 ≤ i then s[i.toNat]? else none

/-- The assignment `s[i] = x`. -/
def assignSlice (s : List T) (i : Int) (x : T) : Option (List T) :=
  if 0 ≤ i ∧ i < s.length then some (s.set i.toNat x) else none

/-- The remainder `a % b`, of the sign of `a`; `none` is the run-time panic of a division by zero. -/
def goRem (a b : Int) : Option Int := if b = 0 then none else some (a.tmod b)

namespace GoBuffer

/-- `NewWithSize`. -/
def newWithSize [Inhabited T] (size : Int) : GoBuffer T :=
  let size : Int := if size ≤ 0 then maxBufferEntries else size
  { buf := List.replicate size.toNat default, pos := 0, capacity := size }

/-- `Record`. -/
def record (b : GoBuffer T) (rec : T) : Option (Bool × GoBuffer T) := do
  let dropped := decide (b.capacity ≤ b.pos)
  let idx ← goRem b.pos b.capacity
  let buf ← assignSlice b.buf idx rec
  return (dropped, { b with buf := buf, pos := b.pos + 1 })

/-- The loop of `Drain` over `i`, with the records collected so far. -/
def collect (b : GoBuffer T) : List Nat → List T → Option (List T)
  | [], records => some records
  | i :: is, records => do
    let idx ← goRem (b.pos - 1 - i) b.capacity
    let rec ← indexSlice b.buf idx
    collect b is (records ++ [rec])

/-- `Drain`. -/
def drain (b : GoBuffer T) : Option (List T × GoBuffer T) :=
  let n := min b.pos b.capacity
  if n = 0 then some ([], b)
  else do
    let records ← b.collect (List.range n.toNat) []
    return (records, { b with pos := 0 })

end GoBuffer

/-- One call of a method. -/
inductive Op (T : Type) where
  | record (rec : T)
  | drain

/-- The buffer after a call. -/
def GoBuffer.apply (b : GoBuffer T) : Op T → Option (GoBuffer T)
  | .record rec => (b.record rec).map Prod.snd
  | .drain => b.drain.map Prod.snd

/-- The buffer after a sequence of calls; `none` if one of them fails. -/
def GoBuffer.run (b : GoBuffer T) (ops : List (Op T)) : Option (GoBuffer T) :=
  ops.foldlM GoBuffer.apply b

/-! ## What a buffer is for -/

/-- One call, on the elements recorded since the previous drain, newest first. -/
def recordedSince (since : List T) : Op T → List T
  | .record rec => rec :: since
  | .drain => []

/-- The elements recorded since the previous drain, newest first. -/
def sinceDrain (ops : List (Op T)) : List T := ops.foldl recordedSince []

@[simp] lemma sinceDrain_record (ops : List (Op T)) (rec : T) :
    sinceDrain (ops ++ [.record rec]) = rec :: sinceDrain ops := by
  simp [sinceDrain, recordedSince]

/-- The capacity of a buffer of the given size. -/
def capacityOf (size : Int) : Nat := if size ≤ 0 then maxBufferEntries else size.toNat

/-! ## The code and the slots -/

section Code

variable (b : Buffer T)

/-- The slice and the integers of a buffer. -/
def GoBuffer.ofBuffer : GoBuffer T where
  buf := List.ofFn b.buf
  pos := b.pos
  capacity := b.capacity

lemma goRem_capacity (i : Nat) : goRem i b.capacity = some ((b.slot i : Nat) : Int) := by
  have hpos := b.capacity_pos
  rw [goRem, if_neg (by omega)]
  rfl

lemma indexSlice_slot (i : Nat) :
    indexSlice (List.ofFn b.buf) ((b.slot i : Nat) : Int) = some (b.buf (b.slot i)) := by
  rw [indexSlice, if_pos (by omega), Int.toNat_natCast, List.getElem?_ofFn, dif_pos (b.slot i).isLt]

lemma assignSlice_slot (i : Nat) (rec : T) :
    assignSlice (List.ofFn b.buf) ((b.slot i : Nat) : Int) rec =
      some (List.ofFn (Function.update b.buf (b.slot i) rec)) := by
  have hlt := (b.slot i).isLt
  rw [assignSlice, if_pos ⟨by omega, by rw [List.length_ofFn]; omega⟩, Int.toNat_natCast]
  congr 1
  apply List.ext_getElem (by simp)
  intro j hj hj'
  rw [List.getElem_set, List.getElem_ofFn, List.getElem_ofFn, Function.update_apply]
  simp only [Fin.ext_iff, eq_comm]

theorem record_ofBuffer (rec : T) :
    (GoBuffer.ofBuffer b).record rec =
      some ((b.record rec).1, GoBuffer.ofBuffer (b.record rec).2) := by
  have hidx : goRem (b.pos : Int) (b.capacity : Int) = some ((b.slot b.pos : Nat) : Int) :=
    goRem_capacity b b.pos
  simp [GoBuffer.record, GoBuffer.ofBuffer, hidx, assignSlice_slot, Buffer.record]

/-- The index stays in range on the way down from the newest element. -/
lemma collect_ofBuffer {is : List Nat} (his : ∀ i ∈ is, i < b.pos) (records : List T) :
    (GoBuffer.ofBuffer b).collect is records =
      some (records ++ is.map fun i => b.buf (b.slot (b.pos - 1 - i))) := by
  induction is generalizing records with
  | nil => simp [GoBuffer.collect]
  | cons i is ih =>
    have hi : i < b.pos := his i (List.mem_cons_self ..)
    -- the counter does not go below zero
    have hcast : (b.pos : Int) - 1 - (i : Int) = ((b.pos - 1 - i : Nat) : Int) := by omega
    have hidx : goRem ((GoBuffer.ofBuffer b).pos - 1 - i) (GoBuffer.ofBuffer b).capacity =
        some ((b.slot (b.pos - 1 - i) : Nat) : Int) := by
      show goRem ((b.pos : Int) - 1 - i) b.capacity = _
      rw [hcast, goRem_capacity]
    have hget : indexSlice (GoBuffer.ofBuffer b).buf ((b.slot (b.pos - 1 - i) : Nat) : Int) =
        some (b.buf (b.slot (b.pos - 1 - i))) := indexSlice_slot b _
    simp [GoBuffer.collect, hidx, hget, ih fun j hj => his j (List.mem_cons_of_mem _ hj)]

theorem drain_ofBuffer :
    (GoBuffer.ofBuffer b).drain = some (b.drain.1, GoBuffer.ofBuffer b.drain.2) := by
  have hmin : min (GoBuffer.ofBuffer b).pos (GoBuffer.ofBuffer b).capacity = (b.size : Int) := by
    show min (b.pos : Int) b.capacity = ((min b.pos b.capacity : Nat) : Int)
    omega
  rw [GoBuffer.drain, hmin]
  by_cases hsize : b.size = 0
  · have hpos : b.pos = 0 := by
      have := b.capacity_pos
      rw [Buffer.size] at hsize
      omega
    rw [if_pos (by omega)]
    simp [GoBuffer.ofBuffer, Buffer.drain, hsize, hpos]
  · have hrange : ∀ i ∈ List.range b.size, i < b.pos := by
      intro i hi
      rw [List.mem_range, Buffer.size] at hi
      omega
    rw [if_neg (by omega), Int.toNat_natCast, collect_ofBuffer b hrange]
    rfl

lemma newWithSize_ofBuffer [Inhabited T] (size : Int) :
    (GoBuffer.newWithSize size : GoBuffer T) = GoBuffer.ofBuffer (Buffer.newWithSize size) := by
  by_cases h : size ≤ 0
  · simp [GoBuffer.newWithSize, GoBuffer.ofBuffer, Buffer.newWithSize, h]
  · simp [GoBuffer.newWithSize, GoBuffer.ofBuffer, Buffer.newWithSize, h]
    omega

end Code

/-! ## The slots and the history -/

/-- The newest elements of the history are in their slots; the other slots hold anything. -/
structure Represents (b : Buffer T) (since : List T) : Prop where
  pos : b.pos = since.length
  cell : ∀ i (h : i < since.length), i < b.capacity → b.buf (b.slot (b.pos - 1 - i)) = since[i]

/-- Numbers that are less than the capacity apart have different slots. -/
lemma slot_sub_ne (b : Buffer T) {p d : Nat} (h0 : 0 < d) (hd : d < b.capacity) (hp : d ≤ p) :
    b.slot (p - d) ≠ b.slot p := by
  intro h
  have hmod : p % b.capacity = (p - d) % b.capacity := (congrArg Fin.val h).symm
  have hzero := Nat.sub_mod_eq_zero_of_mod_eq hmod
  rw [Nat.sub_sub_self hp, Nat.mod_eq_of_lt hd] at hzero
  omega

namespace Represents

variable {b : Buffer T} {since : List T}

lemma newWithSize [Inhabited T] (size : Int) : Represents (Buffer.newWithSize size) ([] : List T) :=
  ⟨rfl, fun _ h => absurd h (Nat.not_lt_zero _)⟩

lemma record (h : Represents b since) (rec : T) : Represents (b.record rec).2 (rec :: since) := by
  refine ⟨congrArg (· + 1) h.pos, ?_⟩
  intro i hi hcap
  have hlt : i < since.length + 1 := hi
  have hroom : i < b.capacity := hcap
  show Function.update b.buf (b.slot b.pos) rec (b.slot (b.pos + 1 - 1 - i)) = _
  cases i with
  | zero => simp
  | succ i =>
    have hidx : b.pos + 1 - 1 - (i + 1) = b.pos - (i + 1) := by omega
    have hle : i + 1 ≤ b.pos := by
      rw [h.pos]
      omega
    have hne := slot_sub_ne b (Nat.succ_pos i) hroom hle
    rw [hidx, Function.update_of_ne hne, List.getElem_cons_succ, ← h.cell i (by omega) (by omega)]
    congr 2
    omega

lemma drain (b : Buffer T) : Represents b.drain.2 [] :=
  ⟨rfl, fun _ h => absurd h (Nat.not_lt_zero _)⟩

/-- A drain returns the newest elements. -/
lemma drained (h : Represents b since) : b.drain.1 = since.take b.capacity := by
  have hsize : b.size = min b.capacity since.length := by
    rw [Buffer.size, h.pos, Nat.min_comm]
  apply List.ext_getElem
  · rw [Buffer.drain_length, hsize, List.length_take]
  · intro i hi hi'
    rw [Buffer.drain_length, hsize] at hi
    simp only [Buffer.drain, List.getElem_map, List.getElem_range, List.getElem_take]
    exact h.cell i (by omega) (by omega)

end Represents

/-! ## Whole runs -/

/-- One call. -/
lemma apply_represents {b : Buffer T} {since : List T} (h : Represents b since) (op : Op T) :
    ∃ b', (GoBuffer.ofBuffer b).apply op = some (GoBuffer.ofBuffer b') ∧
      b'.capacity = b.capacity ∧ Represents b' (recordedSince since op) := by
  cases op with
  | record rec =>
    refine ⟨(b.record rec).2, ?_, rfl, h.record rec⟩
    rw [GoBuffer.apply, record_ofBuffer]
    rfl
  | drain =>
    refine ⟨b.drain.2, ?_, rfl, .drain b⟩
    rw [GoBuffer.apply, drain_ofBuffer]
    rfl

lemma run_represents {b : Buffer T} {since : List T} (h : Represents b since) (ops : List (Op T)) :
    ∃ b', (GoBuffer.ofBuffer b).run ops = some (GoBuffer.ofBuffer b') ∧
      b'.capacity = b.capacity ∧ Represents b' (ops.foldl recordedSince since) := by
  induction ops generalizing b since with
  | nil => exact ⟨b, rfl, rfl, h⟩
  | cons op ops ih =>
    obtain ⟨b₁, hstep, hcap₁, h₁⟩ := apply_represents h op
    obtain ⟨b₂, hrun, hcap₂, h₂⟩ := ih h₁
    refine ⟨b₂, ?_, hcap₂.trans hcap₁, h₂⟩
    rw [GoBuffer.run, List.foldlM_cons, hstep]
    exact hrun

/-- A new buffer after any calls. -/
lemma run_newWithSize [Inhabited T] (size : Int) (ops : List (Op T)) :
    ∃ b : Buffer T, (GoBuffer.newWithSize size).run ops = some (GoBuffer.ofBuffer b) ∧
      b.capacity = capacityOf size ∧ Represents b (sinceDrain ops) := by
  rw [newWithSize_ofBuffer]
  exact run_represents (.newWithSize size) ops

/-- The position counts the elements since the previous drain, so that it stays an `int` as long as
fewer than `2 ^ 63` of them are recorded without a drain. -/
theorem run_pos [Inhabited T] {size : Int} {ops : List (Op T)} {b : GoBuffer T}
    (h : (GoBuffer.newWithSize size).run ops = some b) : b.pos = (sinceDrain ops).length := by
  obtain ⟨b', hrun, -, hrep⟩ := run_newWithSize size ops
  rw [h, Option.some.injEq] at hrun
  rw [hrun, ← hrep.pos]
  rfl

/-- An element is lost from the end exactly when the newest did not all fit. -/
lemma take_cons_discards {n : Nat} (hn : 0 < n) (x : T) (since : List T) :
    (∃ kept y, since.take n = kept ++ [y] ∧ (x :: since).take n = x :: kept) ↔
      n ≤ since.length := by
  obtain ⟨m, rfl⟩ : ∃ m, n = m + 1 := ⟨n - 1, by omega⟩
  rw [List.take_succ_cons]
  constructor
  · rintro ⟨kept, y, hkept, hnew⟩
    have hlen := congrArg List.length hkept
    have hlen' := congrArg List.length (List.cons.inj hnew).2
    rw [List.length_take, List.length_append, List.length_singleton] at hlen
    rw [List.length_take] at hlen'
    omega
  · intro hle
    have hlt : m < since.length := hle
    refine ⟨since.take m, since[m], ?_, rfl⟩
    rw [List.take_append_getElem]

/-- **The ring buffer keeps the newest elements**: after any calls on a new buffer, none of which fails,
a drain returns the newest of the elements recorded since the previous drain, as many as fit, and a
record answers whether it drops one of them.  The position is an unbounded integer here and an `int` in the
code: by `run_pos` they are the same as long as no `2 ^ 63` elements are recorded without a drain. -/
theorem ringBuffer_keeps_newest [Inhabited T] (size : Int) (ops : List (Op T)) :
    ∃ b : GoBuffer T, (GoBuffer.newWithSize size).run ops = some b ∧
      (∃ b', b.drain = some ((sinceDrain ops).take (capacityOf size), b')) ∧
      ∀ rec, ∃ dropped b', b.record rec = some (dropped, b') ∧
        (dropped = true ↔ ∃ kept old, (sinceDrain ops).take (capacityOf size) = kept ++ [old] ∧
          (sinceDrain (ops ++ [.record rec])).take (capacityOf size) = rec :: kept) := by
  obtain ⟨b, hrun, hcap, hrep⟩ := run_newWithSize (T := T) size ops
  refine ⟨GoBuffer.ofBuffer b, hrun, ⟨GoBuffer.ofBuffer b.drain.2, ?_⟩, ?_⟩
  · rw [drain_ofBuffer, hrep.drained, hcap]
  · intro rec
    refine ⟨_, _, record_ofBuffer b rec, ?_⟩
    have hpos : 0 < capacityOf size := hcap ▸ b.capacity_pos
    rw [sinceDrain_record, take_cons_discards hpos, ← hcap, ← hrep.pos]
    exact decide_eq_true_iff

end NetworkEnforcer.Ringbuf
