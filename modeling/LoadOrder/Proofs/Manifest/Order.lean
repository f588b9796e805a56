/-
# The order of longer manifests

The check compares an id with the one before it and looks a reference up among the ids that it has
seen. What it accepts is an order of the whole list: ids grow from each entry to all later ones, and
references lead back.

Main statements:
- `checkOrderFrom_append`: a check goes on where the check of the first entries ended;
- `checkOrder_concat`: one more entry keeps the order if its id is above the last one and it refers
  to ids that are there already;
- `ordered_iff_inPlace`: the order of a list, entry by entry;
- `orderFault_eq_some_iff`: what the check finds wrong with an entry behind entries in order;
- `order_is_checked_exactly`: which lists pass the check, and for which entry the others fail.
-/
import LoadOrder.Manifest.Order
import Mathlib.Data.List.Induction

namespace LoadOrder

/-- A list with one more element has its last place behind the list, and the others in it. -/
theorem concat_eq_append_cons_iff {α : Type} {list before after : List α} {last element : α} :
    list ++ [last] = before ++ element :: after ↔
      (list = before ∧ last = element ∧ after = []) ∨
        ∃ rest, list = before ++ element :: rest ∧ after = rest ++ [last] := by
  constructor
  · intro h
    rcases List.eq_nil_or_concat after with rfl | ⟨rest, other, rfl⟩
    · obtain ⟨rfl, hlast⟩ := List.append_inj' h rfl
      exact Or.inl ⟨rfl, List.singleton_inj.1 hlast, rfl⟩
    · rw [List.concat_eq_append, ← List.cons_append, ← List.append_assoc] at h
      obtain ⟨rfl, hlast⟩ := List.append_inj' h rfl
      obtain rfl := List.singleton_inj.1 hlast
      exact Or.inr ⟨rest, rfl, List.concat_eq_append⟩
  · rintro (⟨rfl, rfl, rfl⟩ | ⟨rest, rfl, rfl⟩)
    · rfl
    · rw [List.append_assoc, List.cons_append]

namespace Manifest

/-- A check goes on from where the check of the first entries ended. -/
theorem checkOrderFrom_append (record : Nat) (written : List RecordId) (front back : List Entry) :
    checkOrderFrom record written (front ++ back) = (do
      checkOrderFrom record written front
      checkOrderFrom (record + front.length) ((front.map Entry.id).reverse ++ written) back) := by
  induction front generalizing record written with
  | nil => rfl
  | cons entry rest ih =>
    rw [List.cons_append, checkOrderFrom, checkOrderFrom]
    cases orderFault written entry with
    | some fault => rfl
    | none =>
      have hrecord : record + (entry :: rest).length = record + 1 + rest.length := by
        rw [List.length_cons]
        omega
      rw [ih, hrecord, List.map_cons, List.reverse_cons, List.append_assoc]
      rfl

/-- An entry is in order after ids that it exceeds and that hold all it refers to. -/
theorem orderFault_eq_none {written : List RecordId} {entry : Entry}
    (hid : ∀ previous ∈ written.head?, previous < entry.id)
    (hdependencies : ∀ id ∈ entry.dependencies, id ∈ written) :
    orderFault written entry = none := by
  have hhead : (written.head?.filter fun previous => decide (entry.id ≤ previous)) = none := by
    rw [Option.filter_eq_none_iff]
    intro previous hprevious
    have hlt := hid previous hprevious
    simpa using hlt
  have hfind : entry.dependencies.find? (fun id => decide (id ∉ written)) = none := by
    rw [List.find?_eq_none]
    intro id hmem
    simpa using hdependencies id hmem
  rw [orderFault, hhead, hfind]
  rfl

/-- One more entry is looked at if nothing was wrong with the entries before. -/
theorem checkOrder_concat_eq (entries : List Entry) (last : Entry) :
    checkOrder (entries ++ [last]) = (do
      checkOrder entries
      match orderFault (entries.map Entry.id).reverse last with
      | some fault => .error (.outOfOrder (entries.length + 1) fault.text)
      | none => .ok ()) := by
  rw [checkOrder, checkOrderFrom_append, List.append_nil, Nat.add_comm 1]
  rfl

/-- An entry that is in order after a list in order can be put at its end. -/
theorem checkOrder_concat {entries : List Entry} {entry : Entry}
    (hentries : checkOrder entries = .ok ())
    (h : orderFault (entries.map Entry.id).reverse entry = none) :
    checkOrder (entries ++ [entry]) = .ok () := by
  rw [checkOrder_concat_eq, hentries, h]
  rfl

/-! ## Entries in their places -/

/-- An entry that is in its place behind others: its id is above all of theirs, and it refers to
none but them. -/
structure InPlace (before : List Entry) (entry : Entry) : Prop where
  above : ∀ earlier ∈ before, earlier.id < entry.id
  written : ∀ id ∈ entry.dependencies, ∃ earlier ∈ before, earlier.id = id

/-- Ids grow along the whole list, and entries refer to earlier ones only. -/
structure Ordered (entries : List Entry) : Prop where
  growing : entries.Pairwise fun earlier later => earlier.id < later.id
  backward : ∀ before entry after, entries = before ++ entry :: after →
    ∀ id ∈ entry.dependencies, ∃ earlier ∈ before, earlier.id = id

/-- What is wrong with an entry that is not in its place. That its id does not grow is said first,
and of several ids that were not written the first one is named. -/
inductive Misplaced (before : List Entry) (entry : Entry) : OrderFault → Prop where
  | notAbove {previous : Entry} (hlast : before.getLast? = some previous)
      (hid : entry.id ≤ previous.id) :
      Misplaced before entry (.notAbove entry.name entry.id previous.id)
  | unwritten {known rest : List RecordId} {missing : RecordId}
      (habove : ∀ earlier ∈ before, earlier.id < entry.id)
      (hsplit : entry.dependencies = known ++ missing :: rest)
      (hknown : ∀ id ∈ known, ∃ earlier ∈ before, earlier.id = id)
      (hmissing : ∀ earlier ∈ before, earlier.id ≠ missing) :
      Misplaced before entry (.unwritten entry.name missing)

/-- The first entry of a list that is not in its place, and the ones before it. -/
structure FirstMisplaced (entries before : List Entry) (entry : Entry) : Prop where
  split : ∃ after, entries = before ++ entry :: after
  inPlace : ∀ front earlier back, before = front ++ earlier :: back → InPlace front earlier
  misplaced : ¬ InPlace before entry

/-- Nothing is out of order where nothing is. -/
theorem ordered_nil : Ordered [] := by
  refine ⟨List.Pairwise.nil, ?_⟩
  intro before entry after h
  exact absurd h (by simp)

/-- One more entry keeps a list in order exactly if it is in its place. -/
theorem ordered_concat_iff {entries : List Entry} {last : Entry} :
    Ordered (entries ++ [last]) ↔ Ordered entries ∧ InPlace entries last := by
  constructor
  · intro h
    obtain ⟨hgrowing, -, habove⟩ := List.pairwise_append.1 h.growing
    refine ⟨⟨hgrowing, ?_⟩, ⟨?_, ?_⟩⟩
    · intro before entry after hsplit
      refine h.backward before entry (after ++ [last]) ?_
      rw [hsplit, List.append_assoc, List.cons_append]
    · exact fun earlier hearlier => habove earlier hearlier last List.mem_cons_self
    · exact h.backward entries last [] rfl
  · rintro ⟨h, hlast⟩
    refine ⟨?_, ?_⟩
    · rw [List.pairwise_append]
      refine ⟨h.growing, List.pairwise_singleton _ _, ?_⟩
      intro earlier hearlier later hlater
      obtain rfl := List.mem_singleton.1 hlater
      exact hlast.above earlier hearlier
    · intro before entry after hsplit
      rcases concat_eq_append_cons_iff.1 hsplit with ⟨rfl, rfl, -⟩ | ⟨rest, hrest, -⟩
      · exact hlast.written
      · exact h.backward before entry rest hrest

/-- A list is in order exactly if each of its entries is in its place behind the ones before it. -/
theorem ordered_iff_inPlace {entries : List Entry} :
    Ordered entries ↔
      ∀ before entry after, entries = before ++ entry :: after → InPlace before entry := by
  induction entries using List.reverseRecOn with
  | nil =>
    refine ⟨fun _ before entry after h => ?_, fun _ => ordered_nil⟩
    exact absurd h (by simp)
  | append_singleton entries last ih =>
    rw [ordered_concat_iff, ih]
    constructor
    · rintro ⟨hinner, hlast⟩ before entry after hsplit
      rcases concat_eq_append_cons_iff.1 hsplit with ⟨rfl, rfl, -⟩ | ⟨rest, hrest, -⟩
      · exact hlast
      · exact hinner before entry rest hrest
    · intro h
      refine ⟨?_, h entries last [] rfl⟩
      intro before entry after hsplit
      refine h before entry (after ++ [last]) ?_
      rw [hsplit, List.append_assoc, List.cons_append]

/-! ## The fault of an entry -/

/-- An id is above all that grow up to the last one exactly if it is above the last one. -/
theorem above_iff_of_ordered {before : List Entry} (h : Ordered before) (id : RecordId) :
    (∀ earlier ∈ before, earlier.id < id) ↔ ∀ last ∈ before.getLast?, last.id < id := by
  rcases List.eq_nil_or_concat before with rfl | ⟨front, last, rfl⟩
  · simp
  · rw [List.concat_eq_append] at h ⊢
    obtain ⟨-, hlast⟩ := ordered_concat_iff.1 h
    rw [List.getLast?_concat]
    constructor
    · rintro habove other hother
      obtain rfl := Option.mem_some_iff.1 hother
      exact habove _ (List.mem_append_right _ List.mem_cons_self)
    · intro habove earlier hearlier
      have hid := habove last rfl
      rcases List.mem_append.1 hearlier with hearlier | hearlier
      · exact UInt32.lt_trans (hlast.above earlier hearlier) hid
      · rwa [List.mem_singleton.1 hearlier]

/-- The ids that were written are those of the entries. -/
theorem mem_reverse_ids_iff {before : List Entry} {id : RecordId} :
    id ∈ (before.map Entry.id).reverse ↔ ∃ earlier ∈ before, earlier.id = id := by
  rw [List.mem_reverse, List.mem_map]

/-- The last id is the one that is written at the head. -/
theorem head?_reverse_ids (before : List Entry) :
    (before.map Entry.id).reverse.head? = before.getLast?.map Entry.id := by
  rw [List.head?_reverse, List.getLast?_map]

/-- Behind entries in order it is enough to compare with the last id. -/
theorem filter_head?_eq_none_iff {before : List Entry} (h : Ordered before) (entry : Entry) :
    ((before.map Entry.id).reverse.head?.filter fun previous => entry.id ≤ previous) = none ↔
      ∀ earlier ∈ before, earlier.id < entry.id := by
  rw [above_iff_of_ordered h, head?_reverse_ids, Option.filter_eq_none_iff]
  simp

/-- The check finds what is wrong with an entry behind entries in order. -/
theorem orderFault_eq_some_iff {before : List Entry} (h : Ordered before) {entry : Entry}
    {fault : OrderFault} :
    orderFault (before.map Entry.id).reverse entry = some fault ↔ Misplaced before entry fault := by
  constructor
  · intro hfault
    unfold orderFault at hfault
    split at hfault
    · next previous hprevious =>
      rw [head?_reverse_ids, Option.filter_eq_some_iff, Option.map_eq_some_iff] at hprevious
      obtain ⟨⟨last, hlast, rfl⟩, hid⟩ := hprevious
      obtain rfl := Option.some.inj hfault
      exact .notAbove hlast (by simpa using hid)
    · next hnone =>
      obtain ⟨missing, hfind, rfl⟩ := Option.map_eq_some_iff.1 hfault
      obtain ⟨hmissing, known, rest, hsplit, hknown⟩ := List.find?_eq_some_iff_append.1 hfind
      refine .unwritten ((filter_head?_eq_none_iff h entry).1 hnone) hsplit ?_ ?_
      · intro id hid
        have hwritten := hknown id hid
        rw [← mem_reverse_ids_iff]
        simpa using hwritten
      · rw [decide_eq_true_iff, mem_reverse_ids_iff] at hmissing
        exact fun earlier hearlier hid => hmissing ⟨earlier, hearlier, hid⟩
  · intro hfault
    unfold orderFault
    cases hfault with
    | @notAbove previous hlast hid =>
      have hprevious : ((before.map Entry.id).reverse.head?.filter fun previous =>
          entry.id ≤ previous) = some previous.id := by
        rw [head?_reverse_ids, hlast, Option.map_some, Option.filter_some,
          if_pos (decide_eq_true hid)]
      rw [hprevious]
    | @unwritten known rest missing habove hsplit hknown hmissing =>
      have hfind : entry.dependencies.find?
          (fun id => decide (id ∉ (before.map Entry.id).reverse)) = some missing := by
        rw [List.find?_eq_some_iff_append]
        refine ⟨?_, known, rest, hsplit, ?_⟩
        · rw [decide_eq_true_iff, mem_reverse_ids_iff]
          rintro ⟨earlier, hearlier, hid⟩
          exact hmissing earlier hearlier hid
        · intro id hid
          have hwritten := mem_reverse_ids_iff.2 (hknown id hid)
          simpa using hwritten
      rw [(filter_head?_eq_none_iff h entry).2 habove, hfind]
      rfl

/-- The check finds nothing wrong with an entry exactly if it is in its place. -/
theorem orderFault_eq_none_iff {before : List Entry} (h : Ordered before) {entry : Entry} :
    orderFault (before.map Entry.id).reverse entry = none ↔ InPlace before entry := by
  constructor
  · intro hnone
    unfold orderFault at hnone
    split at hnone
    · simp at hnone
    · next hhead =>
      rw [Option.map_eq_none_iff, List.find?_eq_none] at hnone
      refine ⟨(filter_head?_eq_none_iff h entry).1 hhead, ?_⟩
      intro id hid
      have hwritten := hnone id hid
      rw [← mem_reverse_ids_iff]
      simpa using hwritten
  · intro hplace
    refine orderFault_eq_none ?_ fun id hid => mem_reverse_ids_iff.2 (hplace.written id hid)
    intro previous hprevious
    rw [head?_reverse_ids] at hprevious
    obtain ⟨last, hlast, rfl⟩ := Option.map_eq_some_iff.1 hprevious
    exact hplace.above last (List.mem_of_getLast? hlast)

/-! ## The check of a list -/

/-- A list passes the check exactly if it is in order. -/
theorem checkOrder_eq_ok_iff (entries : List Entry) :
    checkOrder entries = .ok () ↔ Ordered entries := by
  induction entries using List.reverseRecOn with
  | nil => exact iff_of_true rfl ordered_nil
  | append_singleton entries last ih =>
    rw [checkOrder_concat_eq, ordered_concat_iff, ← ih]
    cases hcheck : checkOrder entries with
    | error error => simp [bind, Except.bind]
    | ok =>
      have hbefore : Ordered entries := ih.1 hcheck
      rw [← orderFault_eq_none_iff hbefore]
      cases orderFault (entries.map Entry.id).reverse last with
      | some fault => simp [bind, Except.bind]
      | none => simp [bind, Except.bind]

/-- A list fails the check for its first entry that is not in its place. -/
theorem checkOrder_of_firstMisplaced {entries before : List Entry} {entry : Entry}
    {fault : OrderFault} (hfirst : FirstMisplaced entries before entry)
    (hfault : Misplaced before entry fault) :
    checkOrder entries = .error (.outOfOrder (before.length + 1) fault.text) := by
  obtain ⟨after, rfl⟩ := hfirst.split
  have hbefore : Ordered before := ordered_iff_inPlace.2 hfirst.inPlace
  have hcheck : checkOrder (before ++ [entry]) =
      .error (.outOfOrder (before.length + 1) fault.text) := by
    rw [checkOrder_concat_eq, (checkOrder_eq_ok_iff before).2 hbefore,
      (orderFault_eq_some_iff hbefore).2 hfault]
    rfl
  -- what comes behind the entry is not looked at
  have hsplit : before ++ entry :: after = (before ++ [entry]) ++ after := by
    rw [List.append_assoc, List.singleton_append]
  rw [checkOrder] at hcheck
  rw [hsplit, checkOrder, checkOrderFrom_append, hcheck]
  rfl

/-- A list that is not in order has a first entry that is not in its place. -/
theorem exists_firstMisplaced {entries : List Entry} (h : ¬ Ordered entries) :
    ∃ before entry, FirstMisplaced entries before entry := by
  induction entries using List.reverseRecOn with
  | nil => exact absurd ordered_nil h
  | append_singleton entries last ih =>
    by_cases hentries : Ordered entries
    · have hlast : ¬ InPlace entries last := fun hplace =>
        h (ordered_concat_iff.2 ⟨hentries, hplace⟩)
      exact ⟨entries, last, ⟨[], rfl⟩, ordered_iff_inPlace.1 hentries, hlast⟩
    · obtain ⟨before, entry, ⟨after, hsplit⟩, hplaces, hmisplaced⟩ := ih hentries
      refine ⟨before, entry, ⟨after ++ [last], ?_⟩, hplaces, hmisplaced⟩
      rw [hsplit, List.append_assoc, List.cons_append]

/-- Something is wrong with the first entry that is not in its place. -/
theorem FirstMisplaced.exists_misplaced {entries before : List Entry} {entry : Entry}
    (h : FirstMisplaced entries before entry) : ∃ fault, Misplaced before entry fault := by
  have hbefore : Ordered before := ordered_iff_inPlace.2 h.inPlace
  have hsome : orderFault (before.map Entry.id).reverse entry ≠ none := by
    rw [Ne, orderFault_eq_none_iff hbefore]
    exact h.misplaced
  obtain ⟨fault, hfault⟩ := Option.ne_none_iff_exists'.1 hsome
  exact ⟨fault, (orderFault_eq_some_iff hbefore).1 hfault⟩

/-- A list fails the check exactly for what is wrong with its first entry that is not in its place.
-/
theorem checkOrder_eq_error_iff (entries : List Entry) (error : Error) :
    checkOrder entries = .error error ↔
      ∃ before entry fault, FirstMisplaced entries before entry ∧ Misplaced before entry fault ∧
        error = .outOfOrder (before.length + 1) fault.text := by
  constructor
  · intro herror
    have hdisorder : ¬ Ordered entries := by
      intro h
      rw [(checkOrder_eq_ok_iff entries).2 h] at herror
      simp at herror
    obtain ⟨before, entry, hfirst⟩ := exists_firstMisplaced hdisorder
    obtain ⟨fault, hfault⟩ := hfirst.exists_misplaced
    rw [checkOrder_of_firstMisplaced hfirst hfault] at herror
    exact ⟨before, entry, fault, hfirst, hfault, (Except.error.inj herror).symm⟩
  · rintro ⟨before, entry, fault, hfirst, hfault, rfl⟩
    exact checkOrder_of_firstMisplaced hfirst hfault

/-- The first entries of a list in order are in order. -/
theorem Ordered.take {entries : List Entry} (h : Ordered entries) (count : Nat) :
    Ordered (entries.take count) := by
  rw [ordered_iff_inPlace] at h ⊢
  intro before entry after hsplit
  refine h before entry (after ++ entries.drop count) ?_
  rw [← List.cons_append, ← List.append_assoc, ← hsplit, List.take_append_drop]

/-- Up to the first entry that is not in its place a list is in order, and with it it is not. -/
theorem FirstMisplaced.take {entries before : List Entry} {entry : Entry}
    (h : FirstMisplaced entries before entry) :
    Ordered (entries.take before.length) ∧ ¬ Ordered (entries.take (before.length + 1)) := by
  obtain ⟨after, rfl⟩ := h.split
  have hwith : (before ++ entry :: after).take (before.length + 1) = before ++ [entry] := by
    rw [List.take_length_add_append, List.take_succ_cons, List.take_zero]
  rw [List.take_left, hwith, ordered_concat_iff]
  exact ⟨ordered_iff_inPlace.2 h.inPlace, fun hboth => h.misplaced hboth.2⟩

/-- Where a list is in order up to an entry and not with it, the entry is the first that is not in
its place. -/
theorem firstMisplaced_of_take {entries : List Entry} {count : Nat}
    (h : Ordered (entries.take count)) (hnext : ¬ Ordered (entries.take (count + 1))) :
    ∃ entry, FirstMisplaced entries (entries.take count) entry ∧
      (entries.take count).length = count := by
  have hlt : count < entries.length := by
    by_contra hle
    rw [List.take_of_length_le (by omega)] at h hnext
    exact hnext h
  have hsplit : entries = entries.take count ++ entries[count] :: entries.drop (count + 1) := by
    rw [← List.drop_eq_getElem_cons hlt, List.take_append_drop]
  rw [← List.take_append_getElem hlt, ordered_concat_iff] at hnext
  have hmisplaced : ¬ InPlace (entries.take count) entries[count] := fun hplace => hnext ⟨h, hplace⟩
  refine ⟨entries[count], ⟨⟨_, hsplit⟩, ordered_iff_inPlace.1 h, hmisplaced⟩, ?_⟩
  rw [List.length_take]
  omega

/-- **The order is checked exactly.** A list of entries passes the check exactly if ids grow along
the whole list and every entry refers to earlier ones only. Otherwise the error names the first
entry that is not in its place behind the ones before it, and says what is wrong with it. So a list
that passes does so up to each of its entries, and one that fails does so for the entry with which
it first fails. -/
theorem order_is_checked_exactly (entries : List Entry) :
    (checkOrder entries = .ok () ↔ Ordered entries) ∧
    (∀ error, checkOrder entries = .error error ↔
      ∃ before entry fault, FirstMisplaced entries before entry ∧ Misplaced before entry fault ∧
        error = .outOfOrder (before.length + 1) fault.text) ∧
    (checkOrder entries = .ok () ↔ ∀ count, checkOrder (entries.take count) = .ok ()) ∧
    (∀ record, (∃ message, checkOrder entries = .error (.outOfOrder record message)) ↔
      ∃ count, record = count + 1 ∧ checkOrder (entries.take count) = .ok () ∧
        checkOrder (entries.take (count + 1)) ≠ .ok ()) := by
  refine ⟨checkOrder_eq_ok_iff entries, checkOrder_eq_error_iff entries, ?_, ?_⟩
  · simp only [checkOrder_eq_ok_iff]
    constructor
    · exact fun h count => h.take count
    · intro h
      have hall := h entries.length
      rwa [List.take_length] at hall
  · intro record
    simp only [Ne, checkOrder_eq_ok_iff]
    constructor
    · rintro ⟨message, herror⟩
      obtain ⟨before, entry, fault, hfirst, -, heq⟩ := (checkOrder_eq_error_iff entries _).1 herror
      obtain ⟨rfl, -⟩ := Error.outOfOrder.inj heq
      exact ⟨before.length, rfl, hfirst.take⟩
    · rintro ⟨count, rfl, hbefore, hnext⟩
      obtain ⟨entry, hfirst, hlength⟩ := firstMisplaced_of_take hbefore hnext
      obtain ⟨fault, hfault⟩ := hfirst.exists_misplaced
      have herror := checkOrder_of_firstMisplaced hfirst hfault
      rw [hlength] at herror
      exact ⟨fault.text, herror⟩

end Manifest

end LoadOrder
