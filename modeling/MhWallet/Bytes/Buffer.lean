import Mathlib.Tactic.Common

/-!
Contract: growable byte buffers read and written at positions.

A buffer is read through `byteAt`, which is zero beyond the end, so that
growing a buffer with zeros changes no byte of it.

Owns: overwriting at a position with zero growth, checked slices, fixed-width
chunking, and the byte-level equations of the three.
-/

namespace MhWallet.Bytes

/-- The byte at a position, zero beyond the end. -/
def byteAt (data : List UInt8) (position : Nat) : UInt8 :=
  data.getD position 0

theorem byteAt_of_le {data : List UInt8} {position : Nat}
    (beyond : data.length ≤ position) : byteAt data position = 0 := by
  simp [byteAt, List.getD_eq_getElem?_getD, List.getElem?_eq_none beyond]

theorem byteAt_eq_getElem {data : List UInt8} {position : Nat}
    (within : position < data.length) : byteAt data position = data[position] := by
  simp [byteAt, List.getD_eq_getElem?_getD, List.getElem?_eq_getElem within]

@[simp] theorem byteAt_replicate_zero (count position : Nat) :
    byteAt (List.replicate count 0) position = 0 := by
  by_cases within : position < count
  · rw [byteAt_eq_getElem (by simpa using within)]
    simp
  · exact byteAt_of_le (by simpa using within)

theorem byteAt_append (left right : List UInt8) (position : Nat) :
    byteAt (left ++ right) position =
      if position < left.length then byteAt left position
      else byteAt right (position - left.length) := by
  simp only [byteAt, List.getD_eq_getElem?_getD, List.getElem?_append]
  split <;> rfl

theorem byteAt_take (data : List UInt8) (count position : Nat) :
    byteAt (data.take count) position =
      if position < count then byteAt data position else 0 := by
  simp only [byteAt, List.getD_eq_getElem?_getD, List.getElem?_take]
  split <;> rfl

theorem byteAt_drop (data : List UInt8) (count position : Nat) :
    byteAt (data.drop count) position = byteAt data (count + position) := by
  simp [byteAt, List.getD_eq_getElem?_getD]

/-- Two buffers of one length with the same bytes are equal. -/
theorem eq_of_byteAt {left right : List UInt8}
    (lengths : left.length = right.length)
    (bytes : ∀ position, position < left.length →
      byteAt left position = byteAt right position) : left = right := by
  apply List.ext_getElem lengths
  intro position leftWithin rightWithin
  rw [← byteAt_eq_getElem leftWithin, ← byteAt_eq_getElem rightWithin]
  exact bytes position leftWithin

/-! ## Overwriting -/

/-- Store `content` at `position`, growing the buffer with zeros where it is
too short. -/
def overwrite (data : List UInt8) (position : Nat) (content : List UInt8) :
    List UInt8 :=
  data.take position ++ List.replicate (position - data.length) 0 ++ content ++
    data.drop (position + content.length)

@[simp] theorem overwrite_length (data : List UInt8) (position : Nat)
    (content : List UInt8) :
    (overwrite data position content).length =
      max data.length (position + content.length) := by
  simp only [overwrite, List.length_append, List.length_take,
    List.length_replicate, List.length_drop]
  omega

theorem byteAt_overwrite (data : List UInt8) (position : Nat)
    (content : List UInt8) (target : Nat) :
    byteAt (overwrite data position content) target =
      if position ≤ target ∧ target < position + content.length then
        byteAt content (target - position)
      else byteAt data target := by
  have leading : (data.take position ++
      List.replicate (position - data.length) 0).length = position := by
    simp only [List.length_append, List.length_take, List.length_replicate]
    omega
  rw [overwrite, byteAt_append, byteAt_append, List.length_append, leading]
  by_cases before : target < position
  · rw [if_pos (by omega), if_pos before, if_neg (by omega), byteAt_append,
      byteAt_take, List.length_take, byteAt_replicate_zero]
    split
    · rfl
    · rw [byteAt_of_le (by omega)]
  · by_cases inside : target < position + content.length
    · rw [if_pos inside, if_neg before, if_pos ⟨by omega, inside⟩]
    · rw [if_neg inside, if_neg (by omega), byteAt_drop]
      congr 1
      omega

/-- Overwriting a whole buffer replaces it. -/
theorem overwrite_zero_of_length {data content : List UInt8}
    (lengths : data.length ≤ content.length) :
    overwrite data 0 content = content := by
  simp [overwrite, List.drop_eq_nil_of_le lengths]

/-! ## Slices -/

/-- The bytes in `[start, stop)`, when these bounds are in order and in the
buffer. -/
def slice? (data : List UInt8) (start stop : Nat) : Option (List UInt8) :=
  if start ≤ stop ∧ stop ≤ data.length then
    some ((data.drop start).take (stop - start))
  else none

theorem slice?_of_le {data : List UInt8} {start stop : Nat}
    (ordered : start ≤ stop) (within : stop ≤ data.length) :
    slice? data start stop = some ((data.drop start).take (stop - start)) := by
  rw [slice?, if_pos ⟨ordered, within⟩]

theorem slice?_of_not {data : List UInt8} {start stop : Nat}
    (outside : ¬ (start ≤ stop ∧ stop ≤ data.length)) :
    slice? data start stop = none := by
  rw [slice?, if_neg outside]

theorem length_of_slice? {data part : List UInt8} {start stop : Nat}
    (sliced : slice? data start stop = some part) :
    part.length = stop - start ∧ start ≤ stop ∧ stop ≤ data.length := by
  rw [slice?] at sliced
  split at sliced
  next bounds =>
    simp only [Option.some.injEq] at sliced
    subst sliced
    simp only [List.length_take, List.length_drop]
    omega
  next => simp at sliced

theorem byteAt_of_slice? {data part : List UInt8} {start stop position : Nat}
    (sliced : slice? data start stop = some part)
    (within : position < stop - start) :
    byteAt part position = byteAt data (start + position) := by
  rw [slice?] at sliced
  split at sliced
  next bounds =>
    simp only [Option.some.injEq] at sliced
    subst sliced
    rw [byteAt_take, if_pos within, byteAt_drop]
  next => simp at sliced

/-! ## Parts of a buffer -/

/-- The buffer holds `part` at `position`. -/
def PartAt (data : List UInt8) (position : Nat) (part : List UInt8) : Prop :=
  ∃ before after, data = before ++ (part ++ after) ∧ before.length = position

namespace PartAt

variable {data : List UInt8} {position : Nat}

/-- A part is the slice between its ends. -/
theorem slice {part : List UInt8} (found : PartAt data position part) :
    slice? data position (position + part.length) = some part := by
  obtain ⟨before, after, rfl, rfl⟩ := found
  have within : before.length + part.length ≤ (before ++ (part ++ after)).length := by
    simp only [List.length_append]
    omega
  rw [slice?_of_le (Nat.le_add_right _ _) within, List.drop_left, Nat.add_sub_cancel_left,
    List.take_left]

/-- A part that is put together lies there piece by piece. -/
theorem split {first second : List UInt8} (found : PartAt data position (first ++ second)) :
    PartAt data position first ∧ PartAt data (position + first.length) second := by
  obtain ⟨before, after, rfl, rfl⟩ := found
  exact ⟨⟨before, second ++ after, by rw [List.append_assoc], rfl⟩,
    ⟨before ++ first, after, by simp only [List.append_assoc], List.length_append⟩⟩

/-- A part of one byte. -/
theorem head {byte : UInt8} (found : PartAt data position [byte]) :
    data[position]? = some byte := by
  obtain ⟨before, after, rfl, rfl⟩ := found
  simp

end PartAt

/-! ## Fixed-width chunks -/

/-- The number of chunks of `width` bytes that hold `length` bytes. -/
def chunkCount (width length : Nat) : Nat := (length + width - 1) / width

/-- The `index`-th chunk of `width` bytes. -/
def chunk (width : Nat) (data : List UInt8) (index : Nat) : List UInt8 :=
  (data.drop (width * index)).take width

/-- Consecutive chunks of `width` bytes, the last one possibly shorter. -/
def chunks (width : Nat) (data : List UInt8) : List (List UInt8) :=
  (List.range (chunkCount width data.length)).map (chunk width data)

theorem chunk_length (width : Nat) (data : List UInt8) (index : Nat) :
    (chunk width data index).length = min width (data.length - width * index) := by
  simp [chunk]

theorem byteAt_chunk (width : Nat) (data : List UInt8) (index position : Nat) :
    byteAt (chunk width data index) position =
      if position < width then byteAt data (width * index + position) else 0 := by
  rw [chunk, byteAt_take, byteAt_drop]

theorem chunk_drop (width : Nat) (data : List UInt8) (index : Nat) :
    chunk width (data.drop width) index = chunk width data (index + 1) := by
  rw [chunk, chunk, List.drop_drop, Nat.mul_succ, Nat.add_comm]

theorem chunkCount_zero (width : Nat) : chunkCount width 0 = 0 := by
  unfold chunkCount
  rcases Nat.eq_zero_or_pos width with zero | positive
  · simp [zero]
  · exact Nat.div_eq_of_lt (by omega)

theorem chunkCount_succ {width length : Nat} (positive : 0 < width)
    (nonempty : 0 < length) :
    chunkCount width length = chunkCount width (length - width) + 1 := by
  rw [chunkCount, chunkCount]
  by_cases short : length ≤ width
  · have none : length - width + width - 1 = width - 1 := by omega
    have one : length + width - 1 = (length - 1) + width := by omega
    rw [none, one, Nat.add_div_right _ positive, Nat.div_eq_of_lt (by omega),
      Nat.div_eq_of_lt (by omega)]
  · have step : length + width - 1 = (length - width + width - 1) + width := by
      omega
    rw [step, Nat.add_div_right _ positive]

@[simp] theorem chunks_nil (width : Nat) : chunks width [] = [] := by
  simp [chunks, chunkCount_zero]

/-- Peeling off the first chunk. -/
theorem chunks_of_ne_nil {width : Nat} {data : List UInt8}
    (positive : 0 < width) (nonempty : data ≠ []) :
    chunks width data = data.take width :: chunks width (data.drop width) := by
  have lengthPositive := List.length_pos_iff.mpr nonempty
  rw [chunks, chunkCount_succ positive lengthPositive,
    List.range_succ_eq_map, List.map_cons, List.map_map, chunks,
    List.length_drop]
  congr 1
  apply List.map_congr_left
  intro index _
  exact (chunk_drop width data index).symm

/-- Chunking loses nothing and repeats nothing. -/
theorem chunks_flatten {width : Nat} (positive : 0 < width) (data : List UInt8) :
    (chunks width data).flatten = data := by
  induction size : data.length using Nat.strongRecOn generalizing data with
  | _ size inductionHypothesis =>
      by_cases empty : data = []
      · simp [empty]
      · have lengthPositive := List.length_pos_iff.mpr empty
        rw [chunks_of_ne_nil positive empty, List.flatten_cons,
          inductionHypothesis _ (by rw [List.length_drop]; omega) _ rfl,
          List.take_append_drop]

end MhWallet.Bytes
