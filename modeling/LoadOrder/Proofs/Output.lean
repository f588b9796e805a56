/-
# What failed writes leave

However little a medium takes at a time, and wherever it fails, a write leaves a start of the bytes
it was given behind those that were there before. So an output can always be cut back to what it
held before the write.

Main statements:
- `commit_of_ok`: a commit that succeeds has put down all bytes and flushed them once;
- `exists_part_of_commit`: every commit puts down a start of them;
- `commit_of_room`: a commit succeeds where there is room and the flush is not due to fail;
- `contents_truncate`: cutting removes that start and nothing else.
-/
import LoadOrder.Output

namespace LoadOrder.Output

/-! ## Writing -/

/-- No more bytes are taken than there are. -/
theorem share_le (output : Output) (n : Nat) : output.share n ≤ n := by
  have hroom : output.room n ≤ n := by
    unfold room
    cases output.medium.capacity with
    | none => exact Nat.le_refl n
    | some capacity => exact Nat.min_le_left n _
  unfold share
  cases output.medium.chunk with
  | none => exact hroom
  | some chunk => exact Nat.le_trans (Nat.min_le_left _ chunk) hroom

/-- An attempt that does not fail puts down the bytes that it takes. -/
theorem write_of_ok {output after : Output} {bytes : List UInt8} {n : Nat}
    (h : output.write bytes = (.ok n, after)) :
    n ≤ bytes.length ∧
      after = { output with contents := output.contents ++ bytes.take n } := by
  unfold write at h
  split at h
  · simp at h
  · obtain ⟨hn, hafter⟩ := Prod.mk.inj h
    obtain rfl := Except.ok.inj hn
    exact ⟨share_le output _, hafter.symm⟩

/-- An attempt that fails puts down nothing. -/
theorem write_of_error {output after : Output} {bytes : List UInt8} {fault : OutputFault}
    (h : output.write bytes = (.error fault, after)) : after = output := by
  unfold write at h
  split at h
  · exact (Prod.mk.inj h).2.symm
  · simp at h

/-- Attempts put down a start of the bytes, and all of them if they succeed. -/
theorem exists_take_of_writeWithin (attempts : Nat) (bytes : List UInt8) (output : Output) :
    ∃ k, k ≤ bytes.length ∧
      (output.writeWithin attempts bytes).2 =
        { output with contents := output.contents ++ bytes.take k } ∧
      ((output.writeWithin attempts bytes).1 = .ok () → k = bytes.length) := by
  induction attempts generalizing bytes output with
  | zero =>
    cases bytes with
    | nil => exact ⟨0, Nat.le_refl 0, by simp [writeWithin], fun _ => rfl⟩
    | cons b bytes => exact ⟨0, Nat.zero_le _, by simp [writeWithin], by simp [writeWithin]⟩
  | succ attempts ih =>
    cases bytes with
    | nil => exact ⟨0, Nat.le_refl 0, by simp [writeWithin], fun _ => rfl⟩
    | cons b bytes =>
      unfold writeWithin
      split
      · next h =>
        rw [write_of_error h]
        exact ⟨0, Nat.zero_le _, by simp, by simp⟩
      · next h =>
        rw [(write_of_ok h).2]
        exact ⟨0, Nat.zero_le _, by simp, by simp⟩
      · next n after h =>
        -- the other attempts take `k` of the bytes that this one has left
        obtain ⟨hn, rfl⟩ := write_of_ok h
        obtain ⟨k, hk, hafter, hok⟩ := ih ((b :: bytes).drop (n + 1))
          { output with contents := output.contents ++ (b :: bytes).take (n + 1) }
        rw [List.length_drop] at hk hok
        refine ⟨n + 1 + k, by omega, ?_, fun h => by have := hok h; omega⟩
        rw [hafter, List.append_assoc, ← List.take_add]

/-- Where there is room for some bytes, an attempt takes at least one of them. -/
theorem exists_write_of_room {output : Output} {bytes : List UInt8} (hbytes : bytes ≠ [])
    (hroom : ∀ capacity ∈ output.medium.capacity,
      output.contents.length + bytes.length ≤ capacity)
    (hchunk : output.medium.chunk ≠ some 0) :
    ∃ n, (output.write bytes).1 = .ok (n + 1) := by
  have hpos := List.length_pos_iff.2 hbytes
  have hall : output.room bytes.length = bytes.length := by
    unfold room
    cases hcapacity : output.medium.capacity with
    | none => rfl
    | some capacity =>
      have := hroom capacity hcapacity
      exact Nat.min_eq_left (by omega)
  have hshare : 0 < output.share bytes.length := by
    unfold share
    rw [hall]
    cases hlimit : output.medium.chunk with
    | none => exact hpos
    | some chunk =>
      have hne : chunk ≠ 0 := fun h => hchunk (by rw [hlimit, h])
      exact Nat.lt_min.2 ⟨hpos, Nat.pos_of_ne_zero hne⟩
  refine ⟨output.share bytes.length - 1, ?_⟩
  unfold write
  rw [if_neg (by rw [hall]; omega), Nat.sub_add_cancel hshare]

/-- Where there is room for all bytes, as many attempts as there are bytes take them all. -/
theorem writeWithin_of_room (attempts : Nat) (bytes : List UInt8) (output : Output)
    (hattempts : bytes.length ≤ attempts)
    (hroom : ∀ capacity ∈ output.medium.capacity,
      output.contents.length + bytes.length ≤ capacity)
    (hchunk : output.medium.chunk ≠ some 0) :
    (output.writeWithin attempts bytes).1 = .ok () := by
  induction attempts generalizing bytes output with
  | zero =>
    obtain rfl := List.eq_nil_of_length_eq_zero (Nat.le_zero.1 hattempts)
    rfl
  | succ attempts ih =>
    cases bytes with
    | nil => rfl
    | cons b bytes =>
      obtain ⟨n, hn⟩ := exists_write_of_room (List.cons_ne_nil b bytes) hroom hchunk
      rcases hwrite : output.write (b :: bytes) with ⟨result, after⟩
      rw [hwrite] at hn
      obtain rfl := hn
      obtain ⟨hle, rfl⟩ := write_of_ok hwrite
      rw [writeWithin, hwrite]
      refine ih _ _ ?_ ?_ hchunk
      · rw [List.length_drop]
        omega
      · -- the bytes that were taken have moved from the rest to the contents
        intro capacity hcapacity
        have := hroom capacity hcapacity
        rw [List.length_append, List.length_take, List.length_drop]
        omega

/-- A whole write that succeeds puts down all bytes. -/
theorem writeAll_of_ok (output : Output) (bytes : List UInt8)
    (h : (output.writeAll bytes).1 = .ok ()) :
    (output.writeAll bytes).2 = { output with contents := output.contents ++ bytes } := by
  obtain ⟨k, -, hafter, hok⟩ := exists_take_of_writeWithin bytes.length bytes output
  rw [writeAll, hafter, hok h, List.take_length]

/-- A whole write puts down a start of the bytes. -/
theorem exists_part_of_writeAll (output : Output) (bytes : List UInt8) :
    ∃ part, part <+: bytes ∧
      (output.writeAll bytes).2 = { output with contents := output.contents ++ part } := by
  obtain ⟨k, -, hafter, -⟩ := exists_take_of_writeWithin bytes.length bytes output
  exact ⟨bytes.take k, List.take_prefix k bytes, hafter⟩

/-! ## Committing and cutting back -/

/-- A commit that succeeds puts down all bytes and has flushed them. -/
theorem commit_of_ok (output : Output) (bytes : List UInt8)
    (h : (output.commit bytes).1 = .ok ()) :
    (output.commit bytes).2 =
      { output with contents := output.contents ++ bytes, flushes := output.flushes + 1 } := by
  unfold commit at h ⊢
  split at h
  · simp at h
  · next after hw =>
    have hafter : after = { output with contents := output.contents ++ bytes } := by
      have := writeAll_of_ok output bytes (by rw [hw])
      rwa [hw] at this
    rw [hafter, flush]

/-- A commit that fails puts down a start of the bytes; the medium and the truncations asked for
are as before. -/
theorem exists_part_of_commit (output : Output) (bytes : List UInt8) :
    ∃ part, part <+: bytes ∧
      (output.commit bytes).2.contents = output.contents ++ part ∧
      (output.commit bytes).2.medium = output.medium ∧
      (output.commit bytes).2.truncations = output.truncations := by
  obtain ⟨part, hpart, hafter⟩ := exists_part_of_writeAll output bytes
  refine ⟨part, hpart, ?_⟩
  unfold commit
  split
  · next hw =>
    rw [hw] at hafter
    obtain rfl := hafter
    exact ⟨rfl, rfl, rfl⟩
  · next hw =>
    rw [hw] at hafter
    obtain rfl := hafter
    exact ⟨rfl, rfl, rfl⟩

/-- A commit succeeds where there is room for all bytes and the next flush is not the one to fail. -/
theorem commit_of_room {output : Output} {bytes : List UInt8}
    (hroom : ∀ capacity ∈ output.medium.capacity,
      output.contents.length + bytes.length ≤ capacity)
    (hchunk : output.medium.chunk ≠ some 0)
    (hflush : output.flushes + 1 ≠ output.medium.failingFlush) :
    (output.commit bytes).1 = .ok () := by
  have hwritten : (output.writeAll bytes).1 = .ok () :=
    writeWithin_of_room _ _ _ (Nat.le_refl _) hroom hchunk
  have hafter := writeAll_of_ok output bytes hwritten
  unfold commit
  rcases h : output.writeAll bytes with ⟨result, after⟩
  rw [h] at hwritten hafter
  obtain rfl := hwritten
  obtain rfl := hafter
  exact if_neg hflush

/-- Cutting notes the length that was asked for. -/
@[simp] theorem truncations_truncate (output : Output) (length : Nat) :
    (output.truncate length).2.truncations = output.truncations ++ [length] := by
  unfold truncate
  split <;> rfl

/-- Cutting leaves the medium as it is. -/
@[simp] theorem medium_truncate (output : Output) (length : Nat) :
    (output.truncate length).2.medium = output.medium := by
  unfold truncate
  split <;> rfl

/-- Cutting to the length of what was there before removes what came after it. -/
theorem contents_truncate {output : Output} {kept part : List UInt8}
    (h : output.contents = kept ++ part) :
    (output.truncate kept.length).2.contents =
      if output.medium.truncateFails then kept ++ part else kept := by
  unfold truncate
  split
  · exact h
  · simp [cut, h]

end LoadOrder.Output
