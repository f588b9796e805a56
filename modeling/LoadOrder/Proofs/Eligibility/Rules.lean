/-
# The rules of eligibility one by one

Each rule can be looked at on its own: a type breaks it or passes it, whatever becomes of the other
rules. The decision on a type is then what the first rule that it breaks calls for. The order of the
rules can be seen from outside, for one of them asks the catalog, and the catalog remembers.

Main statements:
- `Inquiry.tries_inOrder_some_iff`: trying the rules in order finds the first that is broken;
- `tries_check`: the decision on a type is what comes of trying the rules in order;
- `asksCatalog_iff_passes`: about which types the catalog is asked;
- `check_watched`: how often it is asked;
- `first_broken_rule_decides`: the decision on a type, and what it leaves of the catalog.
-/
import LoadOrder.Proofs.Eligibility.Independence
import Mathlib.Tactic.ByContra

namespace LoadOrder

/-- What a decision has against a type, if anything. -/
def Decision.refusal : Decision → Option Decision
  | .eligible => none
  | decision => some decision

/-- Nothing is said against an eligible type alone. -/
theorem Decision.refusal_eq_none_iff {decision : Decision} :
    decision.refusal = none ↔ decision = .eligible := by
  cases decision <;> simp [refusal]

/-- What is said against a type is the decision on it. -/
theorem Decision.refusal_eq_some_iff {decision other : Decision} (h : other ≠ .eligible) :
    decision.refusal = some other ↔ decision = other := by
  cases decision with
  | eligible => simp [refusal, h.symm]
  | rejected reason => simp [refusal]
  | interrupted => simp [refusal]

/-- A fault refuses a type for its reason. -/
theorem Decision.refusal_ofFault (fault : Option Rejection) :
    (ofFault fault).refusal = fault.map .rejected := by
  cases fault <;> rfl

namespace Eligibility

/-! ## The rules one by one -/

/-- The rules of eligibility, by what they look at. -/
inductive Rule where
  | hidden
  | patchedModule
  | priorArchive
  | source
  | scheme
  | cut
  | catalog
  | species
  | superType
  | interfaces
  deriving DecidableEq, Repr

namespace Rule

/-- The rules that are tried before the catalog is asked. -/
def beforeCatalog : List Rule :=
  [hidden, patchedModule, priorArchive, source, scheme, cut]

/-- The rules that are tried after the catalog was asked. -/
def afterCatalog : List Rule :=
  [species, superType, interfaces]

/-- The rules in the order in which they are tried. -/
def inOrder : List Rule :=
  beforeCatalog ++ catalog :: afterCatalog

/-- The rules that are tried before a rule. -/
def earlier (rule : Rule) : List Rule :=
  inOrder.takeWhile (· ≠ rule)

/-- Every rule is tried, and before it the earlier ones. -/
theorem exists_later (rule : Rule) : ∃ later, inOrder = rule.earlier ++ rule :: later := by
  refine ⟨(inOrder.dropWhile (· ≠ rule)).tail, ?_⟩
  cases rule <;> decide

/-- No rule is tried twice. -/
theorem earlier_eq {rule : Rule} {before after : List Rule}
    (h : inOrder = before ++ rule :: after) : rule.earlier = before := by
  have hnodup : (before ++ rule :: after).Nodup := h ▸ by decide
  -- so the rules before it all differ from it, and it is the first that does not
  have hrule : rule ∉ before ++ after :=
    (List.nodup_cons.1 (List.perm_middle.nodup_iff.1 hnodup)).1
  have hbefore : ∀ other ∈ before, decide (other ≠ rule) = true := by
    intro other hother
    rw [decide_eq_true_iff]
    rintro rfl
    exact hrule (List.mem_append_left _ hother)
  rw [earlier, h, List.takeWhile_append_of_pos hbefore, List.takeWhile_cons_of_neg (by simp),
    List.append_nil]

/-- The rule that has a reason. -/
def ofReason : Rejection → Rule
  | .hidden => hidden
  | .patchedModule => patchedModule
  | .fromPriorArchive => priorArchive
  | .missingSource => source
  | .unsupportedScheme => scheme
  | .unstrippableSource => cut
  | .catalogConflict _ => catalog
  | .generatedSpecies => species
  | .unrecordedSuper _ => superType
  | .unrecordedInterface _ => interfaces

end Rule

/-- All that the rules look at. -/
structure Inquiry where
  style : PathStyle
  hasId : TypeIdentity → Bool
  type : LoadedType
  origin : Option Origin
  /-- What the catalog says of the type if it is asked. -/
  answer : Registration

namespace Inquiry

/-- Whether a type breaks a rule, and the decision that the rule then calls for. Each rule is looked
at on its own, whatever the others say. -/
def Breaks (inquiry : Inquiry) : Rule → Decision → Prop
  | .hidden, decision => inquiry.type.flags.hidden = true ∧ decision = .rejected .hidden
  | .patchedModule, decision =>
    inquiry.type.flags.inPatchedModule = true ∧ decision = .rejected .patchedModule
  | .priorArchive, decision =>
    inquiry.type.loader = .userDefined ∧ inquiry.type.flags.fromPriorArchive = true ∧
      decision = .rejected .fromPriorArchive
  | .source, decision =>
    inquiry.type.loader = .userDefined ∧ address inquiry.origin = none ∧
      decision = .rejected .missingSource
  | .scheme, decision =>
    inquiry.type.loader = .userDefined ∧
      (∃ text, address inquiry.origin = some text ∧ ¬ Source.fileScheme.toList <+: text.toList) ∧
      decision = .rejected .unsupportedScheme
  | .cut, decision =>
    inquiry.type.loader = .userDefined ∧
      (∃ text, address inquiry.origin = some text ∧ ∀ front back, text.toList = front ++ back →
        (Utf8.encodeChars front).length ≠ Source.cutWidth inquiry.style) ∧
      decision = .rejected .unstrippableSource
  | .catalog, decision =>
    inquiry.type.loader = .userDefined ∧
      ((∃ conflict, inquiry.answer = .refused conflict ∧
          decision = .rejected (.catalogConflict conflict)) ∨
        inquiry.answer = .interrupted ∧ decision = .interrupted)
  | .species, decision =>
    address inquiry.origin = some Source.speciesMarker ∧ decision = .rejected .generatedSpecies
  | .superType, decision =>
    ∃ identity, inquiry.type.superType = some identity ∧ inquiry.hasId identity = false ∧
      decision = .rejected (.unrecordedSuper identity)
  | .interfaces, decision =>
    ∃ front identity back, inquiry.type.interfaces = front ++ identity :: back ∧
      (∀ earlier ∈ front, inquiry.hasId earlier = true) ∧ inquiry.hasId identity = false ∧
      decision = .rejected (.unrecordedInterface identity)

/-- Whether a type does not break a rule. -/
def Passes (inquiry : Inquiry) (rule : Rule) : Prop :=
  ∀ decision, ¬ inquiry.Breaks rule decision

/-- Whether the first rule that a type breaks calls for a decision. -/
def FirstBroken (inquiry : Inquiry) (decision : Decision) : Prop :=
  ∃ rule, inquiry.Breaks rule decision ∧ ∀ earlier ∈ rule.earlier, inquiry.Passes earlier

/-- What comes of trying some rules in turn: the decision of the first that is broken, if any is. -/
inductive Tries (inquiry : Inquiry) : List Rule → Option Decision → Prop where
  | done : Tries inquiry [] none
  | broken {rule : Rule} {rules : List Rule} {decision : Decision}
      (h : inquiry.Breaks rule decision) : Tries inquiry (rule :: rules) (some decision)
  | passed {rule : Rule} {rules : List Rule} {result : Option Decision}
      (h : inquiry.Passes rule) (hrest : Tries inquiry rules result) :
      Tries inquiry (rule :: rules) result

variable {inquiry : Inquiry} {rule : Rule} {rules others : List Rule}

/-- The first interface without an id, as it is looked for. -/
theorem find?_eq_some_iff_first {hasId : TypeIdentity → Bool} {identities : List TypeIdentity}
    {identity : TypeIdentity} :
    identities.find? (fun other => ! hasId other) = some identity ↔
      ∃ front back, identities = front ++ identity :: back ∧
        (∀ earlier ∈ front, hasId earlier = true) ∧ hasId identity = false := by
  rw [List.find?_eq_some_iff_append]
  constructor
  · rintro ⟨hidentity, front, back, hsplit, hfront⟩
    exact ⟨front, back, hsplit, by simpa using hfront, by simpa using hidentity⟩
  · rintro ⟨front, back, hsplit, hfront, hidentity⟩
    exact ⟨by simpa using hidentity, front, back, hsplit, by simpa using hfront⟩

/-- A rule calls for one decision. -/
theorem Breaks.unique {decision other : Decision} (h : inquiry.Breaks rule decision)
    (hother : inquiry.Breaks rule other) : decision = other := by
  cases rule with
  | hidden | patchedModule | species => exact h.2.trans hother.2.symm
  | priorArchive | source | scheme | cut => exact h.2.2.trans hother.2.2.symm
  | catalog =>
    obtain ⟨-, ⟨conflict, hanswer, rfl⟩ | ⟨hanswer, rfl⟩⟩ := h <;>
    obtain ⟨-, ⟨conflict', hanswer', rfl⟩ | ⟨hanswer', rfl⟩⟩ := hother <;>
    simp_all
  | superType =>
    obtain ⟨identity, hsuper, -, rfl⟩ := h
    obtain ⟨identity', hsuper', -, rfl⟩ := hother
    rw [Option.some.inj (hsuper.symm.trans hsuper')]
  | interfaces =>
    obtain ⟨front, identity, back, hsplit, hfront, hnone, rfl⟩ := h
    obtain ⟨front', identity', back', hsplit', hfront', hnone', rfl⟩ := hother
    have hfind := find?_eq_some_iff_first.2 ⟨front, back, hsplit, hfront, hnone⟩
    have hfind' := find?_eq_some_iff_first.2 ⟨front', back', hsplit', hfront', hnone'⟩
    rw [Option.some.inj (hfind.symm.trans hfind')]

/-- A rule that rejects a type gives its own reason. -/
theorem Breaks.rule_eq {reason : Rejection} (h : inquiry.Breaks rule (.rejected reason)) :
    rule = Rule.ofReason reason := by
  cases rule with
  | hidden | patchedModule | species =>
    obtain ⟨-, hreason⟩ := h
    cases hreason
    rfl
  | priorArchive | source | scheme | cut =>
    obtain ⟨-, -, hreason⟩ := h
    cases hreason
    rfl
  | catalog =>
    obtain ⟨-, ⟨conflict, -, hreason⟩ | ⟨-, hreason⟩⟩ := h
    · cases hreason
      rfl
    · cases hreason
  | superType =>
    obtain ⟨identity, -, -, hreason⟩ := h
    cases hreason
    rfl
  | interfaces =>
    obtain ⟨front, identity, back, -, -, -, hreason⟩ := h
    cases hreason
    rfl

/-- Trying rules in order has one result. -/
theorem Tries.unique {result other : Option Decision} (h : inquiry.Tries rules result)
    (hother : inquiry.Tries rules other) : result = other := by
  induction h with
  | done =>
    cases hother
    rfl
  | broken h =>
    cases hother with
    | broken hother => rw [h.unique hother]
    | passed hpasses => exact absurd h (hpasses _)
  | passed h _ ih =>
    cases hother with
    | broken hother => exact absurd hother (h _)
    | passed _ hrest => exact ih hrest

/-- The result of trying rules in order is known from any other way to find it. -/
theorem Tries.eq_iff {result other : Option Decision} (h : inquiry.Tries rules result) :
    result = other ↔ inquiry.Tries rules other :=
  ⟨fun heq => heq ▸ h, h.unique⟩

/-- Rules are passed in order exactly if each of them is. -/
theorem tries_none_iff : inquiry.Tries rules none ↔ ∀ rule ∈ rules, inquiry.Passes rule := by
  induction rules with
  | nil => exact iff_of_true .done (by simp)
  | cons rule rules ih =>
    rw [List.forall_mem_cons, ← ih]
    constructor
    · rintro (_ | _ | ⟨hpasses, hrest⟩)
      exact ⟨hpasses, hrest⟩
    · rintro ⟨hpasses, hrest⟩
      exact .passed hpasses hrest

/-- A rule that is broken is found behind rules that are passed, and nowhere else. -/
theorem tries_some_iff {decision : Decision} :
    inquiry.Tries rules (some decision) ↔
      ∃ before rule after, rules = before ++ rule :: after ∧
        (∀ earlier ∈ before, inquiry.Passes earlier) ∧ inquiry.Breaks rule decision := by
  constructor
  · intro h
    generalize hresult : some decision = result at h
    induction h with
    | done => simp at hresult
    | @broken rule rules other hbreaks =>
      obtain rfl := Option.some.inj hresult
      exact ⟨[], rule, rules, rfl, by simp, hbreaks⟩
    | @passed rule rules result hpasses _ ih =>
      obtain ⟨before, first, after, rfl, hbefore, hfirst⟩ := ih hresult
      exact ⟨rule :: before, first, after, rfl, List.forall_mem_cons.2 ⟨hpasses, hbefore⟩, hfirst⟩
  · rintro ⟨before, rule, after, rfl, hbefore, hbreaks⟩
    induction before with
    | nil => exact .broken hbreaks
    | cons first before ih =>
      obtain ⟨hfirst, hbefore⟩ := List.forall_mem_cons.1 hbefore
      exact .passed hfirst (ih hbefore)

/-- Trying all rules in their order finds the first that is broken. -/
theorem tries_inOrder_some_iff {decision : Decision} :
    inquiry.Tries Rule.inOrder (some decision) ↔ inquiry.FirstBroken decision := by
  rw [tries_some_iff]
  constructor
  · rintro ⟨before, rule, after, hsplit, hbefore, hbreaks⟩
    rw [← Rule.earlier_eq hsplit] at hbefore
    exact ⟨rule, hbreaks, hbefore⟩
  · rintro ⟨rule, hbreaks, hearlier⟩
    obtain ⟨later, hsplit⟩ := rule.exists_later
    exact ⟨rule.earlier, rule, later, hsplit, hearlier, hbreaks⟩

/-- Trying all rules in their order finds none broken exactly if every rule is passed. -/
theorem tries_inOrder_none_iff : inquiry.Tries Rule.inOrder none ↔ ∀ rule, inquiry.Passes rule := by
  rw [tries_none_iff]
  refine ⟨fun h rule => h rule ?_, fun h rule _ => h rule⟩
  obtain ⟨later, hsplit⟩ := rule.exists_later
  rw [hsplit]
  exact List.mem_append_right _ List.mem_cons_self

/-- Rules are tried behind others if those are passed. -/
theorem Tries.append {result more : Option Decision} (h : inquiry.Tries rules result)
    (hothers : result = none → inquiry.Tries others more) :
    inquiry.Tries (rules ++ others) (result.or more) := by
  induction h with
  | done => exact hothers rfl
  | broken h => exact .broken h
  | passed h _ ih => exact .passed h (ih hothers)

end Inquiry

/-! ## The rules as they are tried -/

open Inquiry Decision

/-- A type is not a builtin one exactly if a loader of the user defined it. -/
theorem isBuiltin_eq_false_iff {type : LoadedType} :
    type.isBuiltin = false ↔ type.loader = .userDefined := by
  unfold LoadedType.isBuiltin
  cases type.loader <;> simp

/-- A builtin type passes the rules for user-defined ones. -/
theorem passes_of_isBuiltin {inquiry : Inquiry} (h : inquiry.type.isBuiltin = true) :
    ∀ rule ∈ [Rule.priorArchive, .source, .scheme, .cut, .catalog], inquiry.Passes rule := by
  intro rule hrule decision hbreaks
  have huser : inquiry.type.loader = .userDefined := by
    simp only [List.mem_cons, List.not_mem_nil, or_false] at hrule
    rcases hrule with rfl | rfl | rfl | rfl | rfl <;> exact hbreaks.1
  rw [isBuiltin_eq_false_iff.2 huser] at h
  exact Bool.false_ne_true h

/-- The address of a user-defined type is tried as a source, for its scheme and for its cut. -/
theorem tries_addressFault {inquiry : Inquiry} (huser : inquiry.type.loader = .userDefined) :
    inquiry.Tries [.source, .scheme, .cut]
      ((addressFault inquiry.style (address inquiry.origin)).map .rejected) := by
  cases haddress : address inquiry.origin with
  | none => exact .broken ⟨huser, haddress, rfl⟩
  | some text =>
    have hsource : inquiry.Passes .source := by
      rintro decision ⟨-, hnone, -⟩
      simp [haddress] at hnone
    refine .passed hsource ?_
    cases hscheme : Source.hasFileScheme text with
    | false =>
      have hother : ¬ Source.fileScheme.toList <+: text.toList := by
        rw [← Source.hasFileScheme_iff, hscheme]
        exact Bool.false_ne_true
      rw [addressFault, hscheme]
      exact .broken ⟨huser, ⟨text, haddress, hother⟩, rfl⟩
    | true =>
      have hpasses : inquiry.Passes .scheme := by
        rintro decision ⟨-, ⟨other, hsome, hother⟩, -⟩
        obtain rfl := Option.some.inj (haddress.symm.trans hsome)
        exact hother (Source.hasFileScheme_iff.1 hscheme)
      refine .passed hpasses ?_
      cases hstrip : Source.strip inquiry.style text with
      | none =>
        simp only [addressFault, hscheme, hstrip]
        exact .broken ⟨huser, ⟨text, haddress, Source.strip_eq_none_iff.1 hstrip⟩, rfl⟩
      | some rest =>
        have hcut : inquiry.Passes .cut := by
          rintro decision ⟨-, ⟨other, hsome, hother⟩, -⟩
          obtain rfl := Option.some.inj (haddress.symm.trans hsome)
          rw [Source.strip_eq_none_iff.2 hother] at hstrip
          simp at hstrip
        simp only [addressFault, hscheme, hstrip]
        exact .passed hcut .done

/-- The rules before the catalog. -/
theorem tries_beforeCatalog (inquiry : Inquiry) :
    inquiry.Tries Rule.beforeCatalog
      ((faultBeforeCatalog inquiry.style inquiry.type inquiry.origin).map .rejected) := by
  unfold faultBeforeCatalog
  split
  · next hhidden => exact .broken ⟨hhidden, rfl⟩
  next hhidden =>
  refine .passed (fun decision h => hhidden h.1) ?_
  split
  · next hpatched => exact .broken ⟨hpatched, rfl⟩
  next hpatched =>
  refine .passed (fun decision h => hpatched h.1) ?_
  split
  · next hbuiltin =>
    -- the rules that are skipped for builtin types ask for a loader of the user themselves
    refine tries_none_iff.2 fun rule hrule => passes_of_isBuiltin hbuiltin rule ?_
    exact List.mem_append_left [Rule.catalog] hrule
  next hbuiltin =>
  have huser : inquiry.type.loader = .userDefined := by
    rwa [← isBuiltin_eq_false_iff, ← Bool.not_eq_true]
  split
  · next harchived => exact .broken ⟨huser, harchived, rfl⟩
  next harchived =>
  exact .passed (fun decision h => harchived h.2.1) (tries_addressFault huser)

/-- The rules after the catalog. -/
theorem tries_afterCatalog (inquiry : Inquiry) :
    inquiry.Tries Rule.afterCatalog
      ((faultAfterCatalog inquiry.hasId inquiry.type inquiry.origin).map .rejected) := by
  unfold faultAfterCatalog
  split
  · next hspecies => exact .broken ⟨hspecies, rfl⟩
  next hspecies =>
  refine .passed (fun decision h => hspecies h.1) ?_
  split
  · next identity hsuper =>
    rw [Option.filter_eq_some_iff] at hsuper
    exact .broken ⟨identity, hsuper.1, by simpa using hsuper.2, rfl⟩
  next hsuper =>
  rw [Option.filter_eq_none_iff] at hsuper
  have hpasses : inquiry.Passes .superType := by
    rintro decision ⟨identity, hsome, hnone, -⟩
    exact hsuper identity hsome (by simp [hnone])
  refine .passed hpasses ?_
  cases hfind : inquiry.type.interfaces.find? fun identity => ! inquiry.hasId identity with
  | some identity =>
    obtain ⟨front, back, hsplit, hfront, hnone⟩ := find?_eq_some_iff_first.1 hfind
    exact .broken ⟨front, identity, back, hsplit, hfront, hnone, rfl⟩
  | none =>
    refine .passed ?_ .done
    rintro decision ⟨front, identity, back, hsplit, hfront, hnone, -⟩
    rw [find?_eq_some_iff_first.2 ⟨front, back, hsplit, hfront, hnone⟩] at hfind
    simp at hfind

variable {σ : Type} [Catalog σ]

/-- What the catalog says of a user-defined type is tried before the rules after it. -/
theorem tries_catalog {inquiry : Inquiry} (huser : inquiry.type.loader = .userDefined) :
    inquiry.Tries (.catalog :: Rule.afterCatalog)
      (inquiry.answer.decision
        (faultAfterCatalog inquiry.hasId inquiry.type inquiry.origin)).refusal := by
  cases hanswer : inquiry.answer with
  | accepted =>
    have hcatalog : inquiry.Passes .catalog := by
      rintro decision ⟨-, ⟨conflict, hrefused, -⟩ | ⟨hinterrupted, -⟩⟩
      · simp [hanswer] at hrefused
      · simp [hanswer] at hinterrupted
    rw [Registration.decision, refusal_ofFault]
    exact .passed hcatalog (tries_afterCatalog inquiry)
  | refused conflict => exact .broken ⟨huser, Or.inl ⟨conflict, hanswer, rfl⟩⟩
  | interrupted => exact .broken ⟨huser, Or.inr ⟨hanswer, rfl⟩⟩

/-- The decision on a type is what comes of trying the rules in their order. -/
theorem tries_check {inquiry : Inquiry} {catalog : σ}
    (hanswer : (Catalog.register inquiry.type catalog).1 = inquiry.answer) :
    inquiry.Tries Rule.inOrder
      (check inquiry.style inquiry.hasId inquiry.type inquiry.origin catalog).1.refusal := by
  have hbefore := tries_beforeCatalog inquiry
  cases hfault : faultBeforeCatalog inquiry.style inquiry.type inquiry.origin with
  | some reason =>
    -- a rule before the catalog is broken, so it does not matter what comes of the others
    have hcheck : (check inquiry.style inquiry.hasId inquiry.type inquiry.origin catalog).1 =
        .rejected reason := by
      simp [check, hfault]
    have hnever : some (Decision.rejected reason) = none →
        inquiry.Tries (.catalog :: Rule.afterCatalog) none := by simp
    rw [hfault] at hbefore
    rw [hcheck]
    exact hbefore.append hnever
  | none =>
    rw [hfault] at hbefore
    cases hbuiltin : inquiry.type.isBuiltin with
    | true =>
      -- the catalog is not asked, which is as good as passing its rule
      have hcheck : (check inquiry.style inquiry.hasId inquiry.type inquiry.origin catalog).1 =
          .ofFault (faultAfterCatalog inquiry.hasId inquiry.type inquiry.origin) := by
        simp [check, hfault, hbuiltin]
      have hcatalog := passes_of_isBuiltin hbuiltin .catalog (by decide)
      rw [hcheck, refusal_ofFault]
      exact hbefore.append fun _ => .passed hcatalog (tries_afterCatalog inquiry)
    | false =>
      have hasks : asksCatalog inquiry.style inquiry.type inquiry.origin = true := by
        simp [asksCatalog, hfault, hbuiltin]
      rw [check_of_asks hasks, hanswer]
      exact hbefore.append fun _ => tries_catalog (isBuiltin_eq_false_iff.1 hbuiltin)

/-- The catalog is asked about a type exactly if a loader of the user defined it and it passes the
rules before. -/
theorem asksCatalog_iff_passes (inquiry : Inquiry) :
    asksCatalog inquiry.style inquiry.type inquiry.origin = true ↔
      inquiry.type.loader = .userDefined ∧ ∀ rule ∈ Rule.beforeCatalog, inquiry.Passes rule := by
  have hasks : asksCatalog inquiry.style inquiry.type inquiry.origin = true ↔
      faultBeforeCatalog inquiry.style inquiry.type inquiry.origin = none ∧
        inquiry.type.isBuiltin = false := by
    simp [asksCatalog]
  have hbefore : faultBeforeCatalog inquiry.style inquiry.type inquiry.origin = none ↔
      inquiry.Tries Rule.beforeCatalog none := by
    rw [← (tries_beforeCatalog inquiry).eq_iff, Option.map_eq_none_iff]
  rw [hasks, hbefore, tries_none_iff, isBuiltin_eq_false_iff, and_comm]

/-! ## Asking the catalog once -/

/-- A catalog that keeps a list of the types it was asked about. -/
structure WatchedCatalog (σ : Type) where
  catalog : σ
  asked : List LoadedType := []

instance : Catalog (WatchedCatalog σ) where
  register type watched :=
    ((Catalog.register type watched.catalog).1,
      ⟨(Catalog.register type watched.catalog).2, watched.asked ++ [type]⟩)

/-- The catalog is asked once or not at all, and watching it changes nothing. -/
theorem check_watched (style : PathStyle) (hasId : TypeIdentity → Bool) (type : LoadedType)
    (origin : Option Origin) (watched : WatchedCatalog σ) :
    check style hasId type origin watched =
      ((check style hasId type origin watched.catalog).1,
        ⟨(check style hasId type origin watched.catalog).2,
          watched.asked ++ if asksCatalog style type origin then [type] else []⟩) := by
  cases hasks : asksCatalog style type origin with
  | true =>
    rw [check_of_asks hasks, check_of_asks hasks]
    rfl
  | false =>
    rw [check_of_not_asks hasks, check_of_not_asks hasks, if_neg Bool.false_ne_true,
      List.append_nil]

/-! ## Reasons that never come up -/

/-- A user-defined type passes the rule on the scheme only with the address of a file. -/
theorem hasFileScheme_of_passes {inquiry : Inquiry} (huser : inquiry.type.loader = .userDefined)
    (hscheme : inquiry.Passes .scheme) {text : String}
    (haddress : address inquiry.origin = some text) : Source.hasFileScheme text = true := by
  rw [Source.hasFileScheme_iff]
  by_contra hother
  exact hscheme _ ⟨huser, ⟨text, haddress, hother⟩, rfl⟩

/-- No user-defined type is taken for a generated species: the marker is not the address of a file.
-/
theorem not_firstBroken_generatedSpecies {inquiry : Inquiry}
    (huser : inquiry.type.loader = .userDefined) :
    ¬ inquiry.FirstBroken (.rejected .generatedSpecies) := by
  rintro ⟨rule, hbreaks, hearlier⟩
  obtain rfl := hbreaks.rule_eq
  have hscheme := hasFileScheme_of_passes huser (hearlier .scheme (by decide)) hbreaks.1
  exact absurd hscheme (by decide)

/-- Where the cut takes the scheme alone, no address is too short for it. -/
theorem not_firstBroken_unstrippableSource {inquiry : Inquiry} (hstyle : inquiry.style = .posix) :
    ¬ inquiry.FirstBroken (.rejected .unstrippableSource) := by
  rintro ⟨rule, hbreaks, hearlier⟩
  obtain rfl := hbreaks.rule_eq
  obtain ⟨huser, ⟨text, haddress, hcut⟩, -⟩ := hbreaks
  have hscheme := hasFileScheme_of_passes huser (hearlier .scheme (by decide)) haddress
  rw [hstyle, ← Source.strip_eq_none_iff] at hcut
  exact Source.strip_posix_ne_none hscheme hcut

/-! ## The decision -/

/-- A type is eligible exactly if it passes every rule. -/
theorem check_eq_eligible_iff (inquiry : Inquiry) {catalog : σ}
    (hanswer : (Catalog.register inquiry.type catalog).1 = inquiry.answer) :
    (check inquiry.style inquiry.hasId inquiry.type inquiry.origin catalog).1 = .eligible ↔
      ∀ rule, inquiry.Passes rule := by
  rw [← refusal_eq_none_iff, (tries_check hanswer).eq_iff, tries_inOrder_none_iff]

/-- Any other decision is the one that the first broken rule calls for. -/
theorem check_eq_iff_firstBroken (inquiry : Inquiry) {catalog : σ} {decision : Decision}
    (hanswer : (Catalog.register inquiry.type catalog).1 = inquiry.answer)
    (hdecision : decision ≠ .eligible) :
    (check inquiry.style inquiry.hasId inquiry.type inquiry.origin catalog).1 = decision ↔
      inquiry.FirstBroken decision := by
  rw [← refusal_eq_some_iff hdecision, (tries_check hanswer).eq_iff, tries_inOrder_some_iff]

/-- **The first rule that is broken decides.** A type is eligible exactly if it passes every rule,
and otherwise the first rule that it breaks gives the decision. The catalog is asked once about a
user-defined type that passes the rules before it, and not at all about any other; so a name gets
an owner in the catalog of names only as the free name of such a type, whatever the later rules
say. The rule on species rejects no user-defined type, and under the posix style the rule on cuts
rejects none at all. -/
theorem first_broken_rule_decides (style : PathStyle) (hasId : TypeIdentity → Bool)
    (type : LoadedType) (origin : Option Origin) (catalog : σ) :
    let inquiry : Inquiry := ⟨style, hasId, type, origin, (Catalog.register type catalog).1⟩
    let decision := (check style hasId type origin catalog).1
    (decision = .eligible ↔ ∀ rule, inquiry.Passes rule) ∧
    (∀ reason, decision = .rejected reason ↔ inquiry.FirstBroken (.rejected reason)) ∧
    (decision = .interrupted ↔ inquiry.FirstBroken .interrupted) ∧
    (asksCatalog style type origin = true ↔
      type.loader = .userDefined ∧ ∀ rule ∈ Rule.catalog.earlier, inquiry.Passes rule) ∧
    (∀ asked, check style hasId type origin (WatchedCatalog.mk catalog asked) =
      (decision, if asksCatalog style type origin then
        ⟨(Catalog.register type catalog).2, asked ++ [type]⟩ else ⟨catalog, asked⟩)) ∧
    (∀ (names : NameCatalog) (name : String),
      (check style hasId type origin names).2.ownerOf name =
        if asksCatalog style type origin = true ∧ name = type.name ∧ names.ownerOf name = none then
          some type.identity
        else names.ownerOf name) ∧
    ¬ (type.loader = .userDefined ∧ decision = .rejected .generatedSpecies) ∧
    (check .posix hasId type origin catalog).1 ≠ .rejected .unstrippableSource := by
  intro inquiry decision
  have hrejected : ∀ reason, decision = .rejected reason ↔
      inquiry.FirstBroken (.rejected reason) := by
    intro reason
    exact check_eq_iff_firstBroken inquiry rfl (by simp)
  refine ⟨check_eq_eligible_iff inquiry rfl, hrejected,
    check_eq_iff_firstBroken inquiry rfl (by simp), asksCatalog_iff_passes inquiry, ?watched,
    ?owner, ?species, ?cut⟩
  case watched =>
    intro asked
    rw [check_watched, snd_check, catalogAfter]
    cases asksCatalog style type origin with
    | true => rfl
    | false => simp [decision]
  case owner =>
    intro names name
    rw [snd_check, ownerOf_catalogAfter]
  case species =>
    rintro ⟨huser, hspecies⟩
    exact not_firstBroken_generatedSpecies huser ((hrejected _).1 hspecies)
  case cut =>
    intro hcut
    let posix : Inquiry := { inquiry with style := .posix }
    have hbroken : posix.FirstBroken (.rejected .unstrippableSource) :=
      (check_eq_iff_firstBroken posix rfl (by simp)).1 hcut
    exact not_firstBroken_unstrippableSource rfl hbroken

end Eligibility

end LoadOrder
