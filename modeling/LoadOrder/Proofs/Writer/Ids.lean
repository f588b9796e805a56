/-
# How many ids a writer has given

A writer gives an id to a type only in a load of that type, and one at most. So the id that it gives
next is the number of ids that it has given, and every id that it still knows of is one of them.

Main statements:
- `registry_load`, `registry_perform`: what becomes of the registry;
- `given_performAll`: the ids that were given in a run.
-/
import LoadOrder.Proofs.Registry.Renaming
import LoadOrder.Proofs.Writer.LostLines
import LoadOrder.Proofs.Writer.Operations

namespace LoadOrder.Writer

variable {σ : Type} [Catalog σ]

/-- A load leaves the registry as it is, or gives an id to its type, which held none. -/
theorem registry_load (type : LoadedType) (origin : Option Origin) (writer : Writer σ) :
    (writer.load type origin).state.registry = writer.registry ∨
      writer.registry.idOf type.identity = none ∧
        (writer.load type origin).state.registry =
          (writer.registry.assign type.identity).2 := by
  have hloads := loads_load type origin writer
  generalize (writer.load type origin).result = outcome at hloads
  generalize (writer.load type origin).state = after at hloads ⊢
  cases hloads with
  | off | refused | sinkless | known | rejected | interrupted => exact .inl rfl
  | imageless =>
    left
    simp
  | recorded sink hready catalog hjudged hwritten =>
    exact .inr ⟨hjudged.1, registry_written hjudged sink⟩
  | failed sink hready catalog hjudged error hwritten =>
    right
    simpa using ⟨hjudged.1, registry_written hjudged sink⟩

/-- An operation leaves the registry as it is, has it forget a type, or gives an id to a type that held
none. -/
theorem registry_perform (operation : Operation) (writer : Writer σ) :
    (writer.perform operation).registry = writer.registry ∨
      (∃ identity, (writer.perform operation).registry = writer.registry.forget identity) ∨
      ∃ identity, writer.registry.idOf identity = none ∧
        (writer.perform operation).registry = (writer.registry.assign identity).2 := by
  cases operation with
  | init launch directory =>
    left
    rw [perform]
    rcases init_cases launch directory writer with hsame | ⟨sink, path, place, -, -, -, hstate⟩
    · rw [hsame]
    · rw [hstate]
  | attach sink hopen =>
    left
    rw [perform]
    rcases attach_cases sink writer with hsame | ⟨-, hstate⟩
    · rw [hsame]
    · rw [hstate]
  | call call =>
    cases call with
    | load type origin =>
      rcases registry_load type origin writer with hsame | ⟨hnew, hassigned⟩
      · exact .inl hsame
      · exact .inr (.inr ⟨type.identity, hnew, hassigned⟩)
    | unload identity => exact .inr (.inl ⟨identity, rfl⟩)
    | close =>
      left
      simp [perform, call]
    | idOf | live | outputPath | isEnabled => exact .inl rfl

/-! ## Counting ids -/

/-- How many ids are given in the course of operations. -/
def idsGiven (writer : Writer σ) : List Operation → Nat
  | [] => 0
  | operation :: rest =>
    (if (writer.perform operation).registry.nextId = writer.registry.nextId then 0 else 1) +
      (writer.perform operation).idsGiven rest

/-- The ids that are given in two parts of a run. -/
theorem idsGiven_append (writer : Writer σ) (front back : List Operation) :
    writer.idsGiven (front ++ back) =
      writer.idsGiven front + (writer.performAll front).idsGiven back := by
  induction front generalizing writer with
  | nil => exact (Nat.zero_add _).symm
  | cons operation rest ih =>
    rw [List.cons_append, idsGiven, idsGiven, ih, Nat.add_assoc]
    rfl

/-- A new type is given one id. -/
theorem nextId_assign_ne {registry : Registry} {identity : TypeIdentity}
    (hnew : registry.idOf identity = none) :
    (registry.assign identity).2.nextId ≠ registry.nextId := by
  rw [(Registry.assign_of_idOf_none hnew).2]
  simp

/-- An operation that gives an id counts. -/
theorem idsGiven_cons_of_assign {writer : Writer σ} {operation : Operation}
    {identity : TypeIdentity} (hnew : writer.registry.idOf identity = none)
    (h : (writer.perform operation).registry = (writer.registry.assign identity).2)
    (rest : List Operation) :
    writer.idsGiven (operation :: rest) = 1 + (writer.perform operation).idsGiven rest := by
  have hcounts : (writer.perform operation).registry.nextId ≠ writer.registry.nextId := by
    rw [h]
    exact nextId_assign_ne hnew
  rw [idsGiven, if_neg hcounts]

/-- An operation adds the ids that it gives to those that were given before. -/
theorem given_perform {count : Nat} {writer : Writer σ} (h : writer.registry.Given count)
    (operation : Operation) :
    (writer.perform operation).registry.Given (count + writer.idsGiven [operation]) := by
  rcases registry_perform operation writer with hsame | ⟨identity, hforgot⟩ | ⟨identity, hnew, hgiven⟩
  · have hnone : writer.idsGiven [operation] = 0 := by simp [idsGiven, hsame]
    rw [hnone, hsame]
    exact h
  · have hnone : writer.idsGiven [operation] = 0 := by simp [idsGiven, hforgot]
    rw [hnone, hforgot]
    exact h.forget identity
  · rw [idsGiven_cons_of_assign hnew hgiven, hgiven]
    exact h.assign hnew

/-- The ids that were given after operations. -/
theorem given_performAll {count : Nat} {writer : Writer σ} (h : writer.registry.Given count)
    (operations : List Operation) :
    (writer.performAll operations).registry.Given (count + writer.idsGiven operations) := by
  induction operations generalizing count writer with
  | nil => exact h
  | cons operation rest ih =>
    have hall : writer.idsGiven (operation :: rest) =
        writer.idsGiven [operation] + (writer.perform operation).idsGiven rest :=
      writer.idsGiven_append [operation] rest
    rw [hall, ← Nat.add_assoc]
    exact ih (given_perform h operation)

end LoadOrder.Writer
