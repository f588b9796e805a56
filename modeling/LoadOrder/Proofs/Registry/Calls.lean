/-
# Registries, call by call

A registry is asked for the ids of types, told to forget types, and asked questions. Which types hold
ids can be told from the calls alone: a type is live from the call that asks for its id up to the call
that forgets it. A call that asks for the id of any other type is granted a new one. So an id outlives
the type that it was given to, and the grants of a run are what the registry has to agree with.

Main statements:
- `live_concat_iff`, `lastId_concat`: what one call makes of the live types, and one grant of the ids;
- `Remembers.call`: a registry that remembers what was granted remembers it after one more call;
- `remembers_after`: so it does after any calls;
- `ids_are_given_once`: ids, next id, live types and answers in a run.
-/
import LoadOrder.Proofs.Registry.Renaming
import Mathlib.Data.Finset.Card
import Mathlib.Data.List.Infix
import Mathlib.Data.List.Range

namespace LoadOrder.Registry

/-! ## Calls -/

/-- What is asked of a registry. -/
inductive Call where
  | assign (identity : TypeIdentity)
  | forget (identity : TypeIdentity)
  | idOf (identity : TypeIdentity)
  | hasId (identity : TypeIdentity)
  deriving DecidableEq, Repr

/-- The type that a call is about. -/
def Call.identity : Call → TypeIdentity
  | assign identity | forget identity | idOf identity | hasId identity => identity

/-- What a registry answers. -/
inductive Reply where
  | given (id : RecordId)
  | held (id : Option RecordId)
  | flag (flag : Bool)
  deriving DecidableEq, Repr

/-- The id that an answer shows. -/
def Reply.id? : Reply → Option RecordId
  | .given id => some id
  | .held id => id
  | .flag _ => none

/-- The answer to a call, and the registry after it. A type that is forgotten is answered with the id
that it held. Questions leave the registry as it is. -/
def call (registry : Registry) : Call → Reply × Registry
  | .assign identity => (.given (registry.assign identity).1, (registry.assign identity).2)
  | .forget identity => (.held (registry.idOf identity), registry.forget identity)
  | .idOf identity => (.held (registry.idOf identity), registry)
  | .hasId identity => (.flag (registry.hasId identity), registry)

/-- The registry after calls. -/
def after (registry : Registry) (calls : List Call) : Registry :=
  calls.foldl (fun registry call => (registry.call call).2) registry

/-- The answers to calls, in order. -/
def replies (registry : Registry) : List Call → List Reply
  | [] => []
  | call :: rest => (registry.call call).1 :: (registry.call call).2.replies rest

/-! ## Live types -/

/-- A type is live after calls if one of them asks for its id and none behind that one forgets it. -/
def Live (calls : List Call) (identity : TypeIdentity) : Prop :=
  ∃ back, .assign identity :: back <:+ calls ∧ .forget identity ∉ back

instance (calls : List Call) (identity : TypeIdentity) : Decidable (Live calls identity) :=
  decidable_of_iff
    (∃ back ∈ calls.tails, back.head? = some (.assign identity) ∧ .forget identity ∉ back.tail) (by
      constructor
      · rintro ⟨back, hback, hhead, hkept⟩
        obtain ⟨rest, rfl⟩ := List.head?_eq_some_iff.1 hhead
        exact ⟨rest, (List.mem_tails _ _).1 hback, hkept⟩
      · rintro ⟨back, hback, hkept⟩
        exact ⟨_, (List.mem_tails _ _).2 hback, rfl, hkept⟩)

/-- No type is live before the first call. -/
@[simp] theorem not_live_nil (identity : TypeIdentity) : ¬ Live [] identity := by
  rintro ⟨back, hback, -⟩
  exact absurd (List.suffix_nil.1 hback) (List.cons_ne_nil _ _)

/-- A type is live after one more call if that asks for its id, or if the type was live before and is
not forgotten. -/
@[simp] theorem live_concat_iff (calls : List Call) (call : Call) (identity : TypeIdentity) :
    Live (calls ++ [call]) identity ↔
      call = .assign identity ∨ Live calls identity ∧ call ≠ .forget identity := by
  constructor
  · rintro ⟨back, hback, hkept⟩
    rcases List.suffix_concat_iff.1 hback with hnil | ⟨front, hfront, hsuffix⟩
    · exact absurd hnil (List.cons_ne_nil _ _)
    -- the call that asks for the id is the last one, or comes before it
    rcases List.cons_eq_append_iff.1 hfront with ⟨rfl, hlast⟩ | ⟨rest, rfl, rfl⟩
    · exact .inl (List.cons.inj hlast).1
    · right
      rw [List.mem_append, List.mem_singleton, not_or] at hkept
      exact ⟨⟨rest, hsuffix, hkept.1⟩, Ne.symm hkept.2⟩
  · rintro (rfl | ⟨⟨back, hback, hkept⟩, hne⟩)
    · exact ⟨[], List.suffix_append calls _, List.not_mem_nil⟩
    · refine ⟨back ++ [call], ?_, ?_⟩
      · exact List.suffix_concat_iff.2 (.inr ⟨_, rfl, hback⟩)
      · rw [List.mem_append, List.mem_singleton, not_or]
        exact ⟨hkept, Ne.symm hne⟩

/-- The types that are live after calls. -/
def liveTypes (calls : List Call) : Finset TypeIdentity :=
  (calls.map Call.identity).toFinset.filter (Live calls)

/-- Every live type is among those that the calls are about. -/
@[simp] theorem mem_liveTypes_iff (calls : List Call) (identity : TypeIdentity) :
    identity ∈ liveTypes calls ↔ Live calls identity := by
  rw [liveTypes, Finset.mem_filter, List.mem_toFinset, and_iff_right_iff_imp]
  rintro ⟨back, hback, -⟩
  exact List.mem_map_of_mem (hback.subset List.mem_cons_self)

/-- The size of a registry is the number of types that hold ids in it. -/
theorem size_eq_card {registry : Registry} {types : Finset TypeIdentity}
    (h : ∀ identity, registry.hasId identity = true ↔ identity ∈ types) :
    registry.size = types.card := by
  have hkeys : registry.ids.keys.toFinset = types := by
    ext identity
    rw [List.mem_toFinset, Std.ExtTreeMap.mem_keys, Std.ExtTreeMap.mem_iff_isSome_getElem?, ← h,
      hasId, idOf]
  calc registry.size = registry.ids.keys.length := Std.ExtTreeMap.length_keys.symm
    _ = registry.ids.keys.toFinset.card :=
        (List.toFinset_card_of_nodup Std.ExtTreeMap.nodup_keys).symm
    _ = types.card := by rw [hkeys]

/-! ## Grants -/

/-- An id that was newly given to a type. -/
structure Grant where
  identity : TypeIdentity
  id : RecordId
  deriving DecidableEq, Repr

/-- What is granted by a call that comes after others: the id of a type that is not live, if the call
asks for it. -/
def grant (registry : Registry) (past : List Call) : Call → Option Grant
  | .assign identity =>
    if Live past identity then none else some { identity, id := (registry.assign identity).1 }
  | .forget _ | .idOf _ | .hasId _ => none

/-- All that is granted by calls that come after others, in order. -/
def grants (registry : Registry) (past : List Call) : List Call → List Grant
  | [] => []
  | call :: rest =>
    (registry.grant past call).toList ++ (registry.call call).2.grants (past ++ [call]) rest

/-- The grants of a run go on from where its first part ended. -/
theorem grants_append (registry : Registry) (past front back : List Call) :
    registry.grants past (front ++ back) =
      registry.grants past front ++ (registry.after front).grants (past ++ front) back := by
  induction front generalizing registry past with
  | nil =>
    rw [List.append_nil]
    rfl
  | cons call rest ih =>
    rw [List.cons_append, grants, grants, ih, List.append_assoc, after, after, List.foldl_cons,
      List.append_assoc, List.singleton_append]

/-- The id that a type was granted last. -/
def lastId (grants : List Grant) (identity : TypeIdentity) : Option RecordId :=
  (grants.reverse.find? fun grant => grant.identity = identity).map Grant.id

/-- A grant settles the id of its type, and leaves the other types theirs. -/
@[simp] theorem lastId_concat (grants : List Grant) (grant : Grant) (identity : TypeIdentity) :
    lastId (grants ++ [grant]) identity =
      if grant.identity = identity then some grant.id else lastId grants identity := by
  rw [lastId, List.reverse_append, List.reverse_singleton, List.singleton_append, List.find?_cons]
  by_cases h : grant.identity = identity
  · simp [h]
  · simp [h, lastId]

/-- The id that a type was granted last is one that it was granted. -/
theorem mem_of_lastId {grants : List Grant} {identity : TypeIdentity} {id : RecordId}
    (h : lastId grants identity = some id) : { identity, id } ∈ grants := by
  obtain ⟨grant, hfind, rfl⟩ := Option.map_eq_some_iff.1 h
  have hidentity : grant.identity = identity := by simpa using List.find?_some hfind
  rw [← hidentity]
  exact List.mem_reverse.1 (List.mem_of_find?_eq_some hfind)

/-! ## One call -/

/-- A registry that remembers what was granted in past calls: the ids are those from zero on, the next
one comes behind them, and the live types hold the ids that they were granted last. -/
structure Remembers (past : List Call) (given : List Grant) (registry : Registry) : Prop where
  ids : given.map Grant.id = (List.range given.length).map UInt32.ofNat
  count : registry.Given given.length
  live : ∀ identity, registry.hasId identity = true ↔ Live past identity
  held : ∀ identity id, registry.idOf identity = some id → lastId given identity = some id

/-- A new registry has nothing to remember. -/
theorem remembers_new : Remembers [] [] {} := by
  have hnone : ∀ identity, (({} : Registry)).idOf identity = none :=
    fun _ => Std.ExtTreeMap.getElem?_empty
  refine ⟨rfl, given_new, ?_, ?_⟩
  · intro identity
    simp [hasId, hnone]
  · intro identity id hid
    simp [hnone] at hid

section

variable {past : List Call} {given : List Grant} {registry : Registry} {identity : TypeIdentity}

/-- A type that is not live holds no id. -/
theorem Remembers.idOf_eq_none (h : Remembers past given registry) (hnew : ¬ Live past identity) :
    registry.idOf identity = none := by
  rw [← h.live identity] at hnew
  simpa [hasId] using hnew

/-- A live type keeps the id that it was granted last, and the registry does not change. -/
theorem Remembers.assign_of_live (h : Remembers past given registry) (hlive : Live past identity) :
    ∃ id, lastId given identity = some id ∧ registry.assign identity = (id, registry) := by
  obtain ⟨id, hid⟩ := Option.isSome_iff_exists.1 ((h.live identity).2 hlive)
  exact ⟨id, h.held identity id hid, assign_of_idOf hid⟩

/-- Nothing is to be remembered of a call that changes neither the registry nor which types are live.
-/
theorem Remembers.quiet (h : Remembers past given registry) {call : Call}
    (hquiet : ∀ identity, Live (past ++ [call]) identity ↔ Live past identity) :
    Remembers (past ++ [call]) given registry :=
  ⟨h.ids, h.count, fun identity => (h.live identity).trans (hquiet identity).symm, h.held⟩

/-- A type that is not live is granted the next id. -/
theorem Remembers.assign_new (h : Remembers past given registry) (hnew : ¬ Live past identity) :
    Remembers (past ++ [.assign identity]) (given ++ [{ identity, id := registry.nextId }])
      (registry.assign identity).2 := by
  have hnone := h.idOf_eq_none hnew
  have hid := (assign_of_idOf_none hnone).1
  constructor
  case ids =>
    rw [List.map_append, h.ids, List.length_append, List.length_singleton, List.range_succ,
      List.map_append, h.count.nextId]
    rfl
  case count =>
    rw [List.length_append]
    exact h.count.assign hnone
  case live =>
    intro other
    rw [live_concat_iff, ← h.live other, hasId, hasId]
    by_cases heq : other = identity
    · simp [heq]
    · simp [heq, Ne.symm heq]
  case held =>
    intro other id hother
    by_cases heq : other = identity
    · simpa [heq, hid] using hother
    · have hheld := h.held other id (by simpa [heq] using hother)
      simp [Ne.symm heq, hheld]

/-- A type that is forgotten is no longer live. What was granted stays granted. -/
theorem Remembers.forget (h : Remembers past given registry) (identity : TypeIdentity) :
    Remembers (past ++ [.forget identity]) given (registry.forget identity) := by
  refine ⟨h.ids, h.count.forget identity, ?_, ?_⟩
  · intro other
    rw [live_concat_iff, ← h.live other, hasId, hasId]
    by_cases heq : other = identity
    · simp [heq]
    · simp [heq, Ne.symm heq]
  · intro other id hother
    obtain ⟨-, hid⟩ : other ≠ identity ∧ registry.idOf other = some id := by simpa using hother
    exact h.held other id hid

/-- **One call.** A registry that remembers what was granted remembers it after one more call, with
what that call is granted. -/
theorem Remembers.call (h : Remembers past given registry) (call : Call) :
    Remembers (past ++ [call]) (given ++ (registry.grant past call).toList)
      (registry.call call).2 := by
  cases call with
  | assign identity =>
    by_cases hlive : Live past identity
    · obtain ⟨id, -, hassign⟩ := h.assign_of_live hlive
      rw [grant, if_pos hlive, Option.toList_none, List.append_nil, Registry.call, hassign]
      apply h.quiet
      intro other
      by_cases heq : other = identity
      · simp [heq, hlive]
      · simp [Ne.symm heq]
    · rw [grant, if_neg hlive, (assign_of_idOf_none (h.idOf_eq_none hlive)).1]
      exact h.assign_new hlive
  | forget identity =>
    rw [grant, Option.toList_none, List.append_nil]
    exact h.forget identity
  | idOf identity | hasId identity =>
    rw [grant, Option.toList_none, List.append_nil]
    apply h.quiet
    intro other
    simp

/-- No answer shows an id that was not granted by then. -/
theorem Remembers.lt_of_reply (h : Remembers past given registry) (call : Call) {id : RecordId}
    (hid : (registry.call call).1.id? = some id) :
    id.toNat < (given ++ (registry.grant past call).toList).length := by
  cases call with
  | assign identity =>
    -- after the call, the type holds the id that it was answered with
    refine (h.call (.assign identity)).count.held identity id ?_
    simpa [Registry.call, Reply.id?] using hid
  | forget identity | idOf identity =>
    have hlt := h.count.held identity id hid
    rw [List.length_append]
    omega
  | hasId identity => simp [Registry.call, Reply.id?] at hid

/-! ## Runs -/

/-- A registry that remembers what was granted remembers what calls are granted after it. -/
theorem Remembers.after (h : Remembers past given registry) (calls : List Call) :
    Remembers (past ++ calls) (given ++ registry.grants past calls) (registry.after calls) := by
  induction calls generalizing past given registry with
  | nil =>
    rw [grants, List.append_nil, List.append_nil]
    exact h
  | cons call rest ih =>
    -- after the first call, that call is one of the past
    have hrest := ih (h.call call)
    rw [List.append_assoc, List.append_assoc, List.singleton_append] at hrest
    exact hrest

/-- All ids that the answers to calls show were granted by then. -/
theorem Remembers.lt_of_mem_replies (h : Remembers past given registry) {calls : List Call}
    {reply : Reply} (hreply : reply ∈ registry.replies calls) {id : RecordId}
    (hid : reply.id? = some id) : id.toNat < (given ++ registry.grants past calls).length := by
  induction calls generalizing past given registry with
  | nil => simp [replies] at hreply
  | cons call rest ih =>
    rw [grants, ← List.append_assoc]
    rcases List.mem_cons.1 hreply with rfl | hrest
    · have hlt := h.lt_of_reply call hid
      rw [List.length_append]
      omega
    · exact ih (h.call call) hrest

/-! ## Fewer grants than ids -/

/-- As long as there are ids left, the next one is the number of those that were granted. -/
theorem Remembers.toNat_nextId (h : Remembers past given registry)
    (hfew : given.length < UInt32.size) : registry.nextId.toNat = given.length := by
  rw [h.count.nextId, UInt32.toNat_ofNat_of_lt' hfew]

/-- As long as there are ids left, they are granted in ascending order from zero on. -/
theorem Remembers.toNat_ids (h : Remembers past given registry)
    (hfew : given.length < UInt32.size) :
    given.map (fun grant => grant.id.toNat) = List.range given.length := by
  have hids := map_toNat_ids h.ids hfew
  rwa [List.map_map] at hids

/-- As long as there are ids left, none is granted twice. -/
theorem Remembers.nodup_ids (h : Remembers past given registry)
    (hfew : given.length < UInt32.size) : (given.map Grant.id).Nodup := by
  apply List.Nodup.of_map UInt32.toNat
  rw [map_toNat_ids h.ids hfew]
  exact List.nodup_range

/-- As long as there are ids left, no two types hold the same one. -/
theorem Remembers.eq_of_idOf (h : Remembers past given registry)
    (hfew : given.length < UInt32.size) {identity other : TypeIdentity} {id : RecordId}
    (hid : registry.idOf identity = some id) (hother : registry.idOf other = some id) :
    identity = other := by
  -- both are granted the id last, and it is granted once
  have hmem := mem_of_lastId (h.held identity id hid)
  have hmemOther := mem_of_lastId (h.held other id hother)
  exact congrArg Grant.identity
    (List.inj_on_of_nodup_map (h.nodup_ids hfew) hmem hmemOther rfl)

/-- As long as there are ids left, all that are held come before the next one. -/
theorem Remembers.lt_nextId (h : Remembers past given registry)
    (hfew : given.length < UInt32.size) {identity : TypeIdentity} {id : RecordId}
    (hid : registry.idOf identity = some id) : id < registry.nextId := by
  rw [UInt32.lt_iff_toNat_lt, h.toNat_nextId hfew]
  exact h.count.held identity id hid

/-- As many types hold ids as are live. -/
theorem Remembers.size_eq (h : Remembers past given registry) :
    registry.size = (liveTypes past).card := by
  apply size_eq_card
  intro identity
  simp [h.live identity]

end

/-! ## New registries -/

/-- A registry that was new remembers what its calls were granted. -/
theorem remembers_after (calls : List Call) :
    Remembers calls (({} : Registry).grants [] calls) (({} : Registry).after calls) :=
  remembers_new.after calls

/-- No fewer ids are granted in a longer run. -/
theorem length_grants_le {front calls : List Call} (h : front <+: calls) :
    (({} : Registry).grants [] front).length ≤ (({} : Registry).grants [] calls).length := by
  obtain ⟨back, rfl⟩ := h
  rw [grants_append, List.length_append]
  exact Nat.le_add_right _ _

/-- **Ids are given once.** In a run of a new registry that is granted fewer ids than there are, the
grants have the ids from zero on, in order, and none of them twice, whatever was forgotten in between.
The next id is the number of grants and never falls back. Exactly the live types hold ids, no two of
them the same one, and all of them ids before the next one; the registry is of their number. A live
type that asks for its id is answered with the one that it was granted last, and nothing changes. Any
other type is answered with an id behind all that any answer has shown before. -/
theorem ids_are_given_once (calls : List Call)
    (hfew : (({} : Registry).grants [] calls).length < UInt32.size) :
    let registry := ({} : Registry).after calls
    let given := ({} : Registry).grants [] calls
    given.map (fun grant => grant.id.toNat) = List.range given.length ∧
    (given.map Grant.id).Nodup ∧
    registry.nextId.toNat = given.length ∧
    (∀ front, front <+: calls → (({} : Registry).after front).nextId ≤ registry.nextId) ∧
    (∀ identity, registry.hasId identity = true ↔ Live calls identity) ∧
    (∀ identity other id, registry.idOf identity = some id → registry.idOf other = some id →
      identity = other) ∧
    (∀ identity id, registry.idOf identity = some id → id < registry.nextId) ∧
    registry.size = (liveTypes calls).card ∧
    ∀ front identity, front ++ [.assign identity] <+: calls →
      let before := ({} : Registry).after front
      (Live front identity →
        ∃ id, lastId (({} : Registry).grants [] front) identity = some id ∧
          before.assign identity = (id, before)) ∧
      (¬ Live front identity →
        ∀ reply ∈ ({} : Registry).replies front, ∀ id, reply.id? = some id →
          id < (before.assign identity).1) := by
  have h := remembers_after calls
  refine ⟨h.toNat_ids hfew, h.nodup_ids hfew, h.toNat_nextId hfew, ?_, h.live,
    fun _ _ _ => h.eq_of_idOf hfew, fun _ _ => h.lt_nextId hfew, h.size_eq, ?_⟩
  · intro front hfront
    have hle := length_grants_le hfront
    rw [UInt32.le_iff_toNat_le, h.toNat_nextId hfew,
      (remembers_after front).toNat_nextId (hle.trans_lt hfew)]
    exact hle
  · intro front identity hcut
    have hbefore := remembers_after front
    refine ⟨hbefore.assign_of_live, ?_⟩
    intro hnew reply hreply id hid
    -- the front of a run is granted no more ids than the run
    have hle := length_grants_le ((List.prefix_append front _).trans hcut)
    rw [(assign_of_idOf_none (hbefore.idOf_eq_none hnew)).1, UInt32.lt_iff_toNat_lt,
      hbefore.toNat_nextId (hle.trans_lt hfew)]
    exact remembers_new.lt_of_mem_replies hreply hid

/-- A type that was forgotten and asks for its id again gets another one, behind the id of a type that
came after it. -/
theorem ids_are_given_once_of_return :
    let front : List Call := [.assign ⟨7⟩, .assign ⟨8⟩, .forget ⟨7⟩, .assign ⟨8⟩]
    let calls := front ++ [.assign ⟨7⟩]
    (({} : Registry).grants [] calls).length < UInt32.size ∧
    ¬ Live front ⟨7⟩ ∧
    .given 1 ∈ ({} : Registry).replies front ∧
    (({} : Registry).after calls).nextId.toNat = 3 ∧
    (({} : Registry).after calls).size = 2 ∧
    1 < ((({} : Registry).after front).assign ⟨7⟩).1 := by
  have hrun :
      let front : List Call := [.assign ⟨7⟩, .assign ⟨8⟩, .forget ⟨7⟩, .assign ⟨8⟩]
      let calls := front ++ [.assign ⟨7⟩]
      (({} : Registry).grants [] calls).length < UInt32.size ∧
      (({} : Registry).grants [] calls).length = 3 ∧
      (liveTypes calls).card = 2 ∧
      ¬ Live front ⟨7⟩ ∧
      .given 1 ∈ ({} : Registry).replies front := by
    decide +kernel
  obtain ⟨hfew, hthree, htwo, hnew, hreply⟩ := hrun
  obtain ⟨-, -, hnext, -, -, -, -, hsize, hcut⟩ := ids_are_given_once _ hfew
  exact ⟨hfew, hnew, hreply, hnext.trans hthree, hsize.trans htwo,
    (hcut _ _ (List.prefix_refl _)).2 hnew _ hreply 1 rfl⟩

end LoadOrder.Registry
