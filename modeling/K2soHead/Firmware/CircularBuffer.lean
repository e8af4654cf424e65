import K2soHead.Library.Rings

/-!
# `uni_circular_buffer.c`

The queue of output reports that a pad's channel could not take at once.  A cell keeps a
copy of the report; of the copy only the first `data_len` bytes are ever read, and they are
the model's `data`.
-/

namespace K2soHead

/-- `UNI_CIRCULAR_BUFFER_SIZE`; one of the cells stays free. -/
def CIRCULAR_BUFFER_SIZE : ℕ := 32

/-- `UNI_CIRCULAR_BUFFER_DATA_SIZE`. -/
def CIRCULAR_BUFFER_DATA_SIZE : ℕ := 128

/-- `UNI_CIRCULAR_BUFFER_ERROR_..`. -/
inductive CircularBufferError where
  | ok
  | bufferFull
  | bufferEmpty
  | bufferTooBig
  deriving DecidableEq

/-- `uni_circular_buffer_data_t`. -/
structure CircularBufferData where
  cid : Int16 := 0
  data : List UInt8 := []
  deriving DecidableEq

/-- `uni_circular_buffer_t`. -/
structure CircularBuffer where
  buffer : Fin CIRCULAR_BUFFER_SIZE → CircularBufferData := fun _ => {}
  headIdx : Fin CIRCULAR_BUFFER_SIZE := ⟨0, by decide⟩
  tailIdx : Fin CIRCULAR_BUFFER_SIZE := ⟨0, by decide⟩

namespace CircularBuffer

/-- `idx++; if (idx == SIZE) idx = 0;`. -/
def bump (idx : Fin CIRCULAR_BUFFER_SIZE) : Fin CIRCULAR_BUFFER_SIZE := Ring.next idx

def isEmpty (b : CircularBuffer) : Bool := b.headIdx = b.tailIdx

def isFull (b : CircularBuffer) : Bool :=
  b.tailIdx.val + 1 = b.headIdx.val ∨
    b.headIdx.val = 0 ∧ b.tailIdx.val = CIRCULAR_BUFFER_SIZE - 1

def put (cid : Int16) (data : List UInt8) (b : CircularBuffer) :
    CircularBuffer × CircularBufferError :=
  if b.isFull then (b, .bufferFull)
  else if CIRCULAR_BUFFER_DATA_SIZE ≤ data.length then (b, .bufferTooBig)
  else
    ({ b with
        buffer := Function.update b.buffer b.tailIdx ⟨cid, data⟩
        tailIdx := bump b.tailIdx }, .ok)

def get (b : CircularBuffer) : CircularBuffer × Option CircularBufferData :=
  if b.isEmpty then (b, none)
  else ({ b with headIdx := bump b.headIdx }, some (b.buffer b.headIdx))

/-- `uni_circular_buffer_reset`. -/
def reset (b : CircularBuffer) : CircularBuffer :=
  { b with headIdx := ⟨0, by decide⟩, tailIdx := ⟨0, by decide⟩ }

/-! ## The reports in it -/

/-- The cells between the indices. -/
def count (b : CircularBuffer) : ℕ :=
  if b.headIdx.val ≤ b.tailIdx.val then b.tailIdx.val - b.headIdx.val
  else b.tailIdx.val + CIRCULAR_BUFFER_SIZE - b.headIdx.val

/-- The reports that wait, oldest first. -/
def waiting (b : CircularBuffer) : List CircularBufferData := Ring.entries b.buffer b.headIdx b.count

/-- The reports `xs` wait in the buffer. -/
def Holds (b : CircularBuffer) (xs : List CircularBufferData) : Prop :=
  Ring.Holds b.buffer b.headIdx b.tailIdx xs

variable {b : CircularBuffer} {xs : List CircularBufferData}

theorem Holds.count_eq (h : b.Holds xs) : b.count = xs.length := by
  have hroom := h.room
  have hhead := b.headIdx.isLt
  have htail := Ring.walk_val b.headIdx h.room
  rw [← h.tail] at htail
  rw [count]
  split at htail <;> split <;> omega

theorem Holds.waiting_eq (h : b.Holds xs) : b.waiting = xs := by
  rw [waiting, h.count_eq, h.entries]

theorem isFull_iff_next (b : CircularBuffer) :
    b.isFull = true ↔ Ring.next b.tailIdx = b.headIdx := by
  have htail := b.tailIdx.isLt
  have hhead := b.headIdx.isLt
  rw [isFull, decide_eq_true_eq, Fin.ext_iff, Ring.next_val]
  split <;> omega

theorem Holds.isEmpty_iff (h : b.Holds xs) : b.isEmpty = true ↔ xs = [] := by
  rw [isEmpty, decide_eq_true_eq]
  exact h.head_eq_tail_iff

theorem Holds.isFull_iff (h : b.Holds xs) :
    b.isFull = true ↔ xs.length + 1 = CIRCULAR_BUFFER_SIZE :=
  b.isFull_iff_next.trans h.next_eq_head_iff

theorem holds_start : ({} : CircularBuffer).Holds [] := Ring.Holds.start _ _

theorem holds_reset (b : CircularBuffer) : b.reset.Holds [] := Ring.Holds.start _ _

/-- `put` refuses, or adds the report at the back. -/
theorem Holds.put (h : b.Holds xs) (cid : Int16) (data : List UInt8) :
    (b.put cid data).2 ≠ .ok ∧ (b.put cid data).1 = b ∧
        (xs.length + 1 = CIRCULAR_BUFFER_SIZE ∨ CIRCULAR_BUFFER_DATA_SIZE ≤ data.length) ∨
      (b.put cid data).2 = .ok ∧ (b.put cid data).1.Holds (xs ++ [⟨cid, data⟩]) ∧
        xs.length + 1 < CIRCULAR_BUFFER_SIZE ∧ data.length < CIRCULAR_BUFFER_DATA_SIZE := by
  have hroom := h.room
  unfold CircularBuffer.put
  split
  · rename_i hfull
    exact .inl ⟨by simp, rfl, .inl (h.isFull_iff.mp hfull)⟩
  · rename_i hfull
    rw [h.isFull_iff] at hfull
    split
    · rename_i hbig
      exact .inl ⟨by simp, rfl, .inr hbig⟩
    · rename_i hfits
      have hless : xs.length + 1 < CIRCULAR_BUFFER_SIZE := by omega
      exact .inr ⟨rfl, Ring.Holds.put h hless ⟨cid, data⟩, hless, by omega⟩

theorem Holds.get_nil (h : b.Holds []) : b.get = (b, none) := by
  rw [CircularBuffer.get, if_pos (h.isEmpty_iff.mpr rfl)]

/-- `get` hands out the oldest report. -/
theorem Holds.get_cons {e : CircularBufferData} (h : b.Holds (e :: xs)) :
    b.get.2 = some e ∧ b.get.1.Holds xs := by
  have hfilled : ¬ b.isEmpty = true := by
    rw [h.isEmpty_iff]
    exact List.cons_ne_nil e xs
  rw [CircularBuffer.get, if_neg hfilled]
  exact ⟨congrArg some h.head_eq, Ring.Holds.get h⟩

end CircularBuffer

end K2soHead
