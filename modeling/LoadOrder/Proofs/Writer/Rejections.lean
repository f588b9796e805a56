/-
# What a rejected load leaves

A rejected load leaves the writer as it was, up to one thing: a user-defined type is entered in the
catalog before its dependencies are looked at, so if one of them is missing, the type stays without a
line but keeps the name. Leaving the load out of a run then makes a difference if, and only if, the
next type of that name about which the catalog is asked is another one.

Main statements:
- `call_of_not_asked`, `call_of_asked`, `catalog_call`: the part of the catalog in a call;
- `state_of_rejected`: what a rejected load leaves;
- `replies_withName`, `replies_withName_ne`: what a name that was given away changes in a run, and when;
- `rejected_load_leaves_no_trace_iff`: when a rejected load can be left out of a run.
-/
import LoadOrder.Proofs.Catalog
import LoadOrder.Proofs.Eligibility
import LoadOrder.Proofs.Writer.Calls

namespace LoadOrder.Writer

variable {σ : Type}

/-! ## The part of the catalog in a call -/

/-- With its own catalog the writer is itself. -/
@[simp]
theorem withCatalog_self (writer : Writer σ) : writer.withCatalog writer.catalog = writer := rfl

/-- The last catalog counts. -/
@[simp] theorem withCatalog_withCatalog (catalog other : σ) (writer : Writer σ) :
    (writer.withCatalog catalog).withCatalog other = writer.withCatalog other := rfl

/-- A writer has the catalog that it was given. -/
@[simp] theorem catalog_withCatalog (catalog : σ) (writer : Writer σ) :
    (writer.withCatalog catalog).catalog = catalog := rfl

/-- The type that a call makes the writer ask its catalog about, if there is one. -/
def asked (writer : Writer σ) : Call → Option LoadedType
  | .load type origin =>
    if writer.enabled && ! writer.poisoned && writer.sink.isSome && writer.config.hasRuntimeImage
        && ! writer.registry.hasId type.identity
        && Eligibility.asksCatalog writer.config.pathStyle type origin then
      some type
    else none
  | _ => none

/-- After the decision the catalog has no part in a load. -/
theorem settle_withCatalog (type : LoadedType) (origin : Option Origin) (sink : Sink)
    (decision : Decision) (catalog : σ) (writer : Writer σ) :
    ((writer.withCatalog catalog).settle type origin sink decision).result =
        (writer.settle type origin sink decision).result ∧
      ((writer.withCatalog catalog).settle type origin sink decision).state =
        (writer.settle type origin sink decision).state.withCatalog catalog := by
  cases decision with
  | rejected reason => exact ⟨rfl, rfl⟩
  | interrupted => exact ⟨rfl, rfl⟩
  | eligible =>
    simp only [settle, record, withCatalog]
    split
    · exact ⟨rfl, rfl⟩
    · simp

/-- A writer is as ready with another catalog. -/
theorem Ready.withCatalog {writer : Writer σ} {sink : Sink} (h : writer.Ready sink) (catalog : σ) :
    (writer.withCatalog catalog).Ready sink :=
  ⟨h.enabled, h.poisoned, h.sink_eq, h.hasRuntimeImage⟩

/-- If a load does not ask the catalog, it would go in the same way with any other one. -/
theorem load_of_not_asked [Catalog σ] {writer : Writer σ} {type : LoadedType}
    {origin : Option Origin} (h : writer.asked (.load type origin) = none) (catalog : σ) :
    ((writer.withCatalog catalog).load type origin).result = (writer.load type origin).result ∧
      ((writer.withCatalog catalog).load type origin).state =
        (writer.load type origin).state.withCatalog catalog := by
  -- the checks of a load, in their order
  cases henabled : writer.enabled with
  | false => simp [load_of_off, withCatalog, henabled]
  | true =>
  cases hpoisoned : writer.poisoned with
  | true => simp [load_of_poisoned, withCatalog, henabled, hpoisoned]
  | false =>
  cases hsink : writer.sink with
  | none => simp [load_of_sinkless, withCatalog, hpoisoned, hsink]
  | some sink =>
  cases himage : writer.config.hasRuntimeImage with
  | false =>
    have henabled' : (writer.withCatalog catalog).enabled = true := henabled
    rw [load_of_imageless henabled hpoisoned hsink himage,
      load_of_imageless henabled' hpoisoned hsink himage]
    simp [withCatalog]
  | true =>
  have hready : writer.Ready sink := ⟨henabled, hpoisoned, hsink, himage⟩
  have hready' := hready.withCatalog catalog
  cases hid : writer.registry.idOf type.identity with
  | some id =>
    rw [load_of_known hready hid, load_of_known hready' hid]
    exact ⟨rfl, rfl⟩
  | none =>
    have hasks : Eligibility.asksCatalog writer.config.pathStyle type origin = false := by
      simpa [asked, henabled, hpoisoned, hsink, himage, Registry.hasId, hid] using h
    have hcheck := fun catalog : σ =>
      Eligibility.check_of_not_asks hasks writer.registry.hasId catalog
    rw [load_of_ready hready hid origin (hcheck writer.catalog),
      load_of_ready hready' hid origin (hcheck catalog)]
    exact settle_withCatalog type origin sink _ catalog writer

/-- If a call does not ask the catalog, it would be answered in the same way with any other one. -/
theorem call_of_not_asked [Catalog σ] {writer : Writer σ} {call : Call}
    (h : writer.asked call = none) (catalog : σ) :
    ((writer.withCatalog catalog).call call).result = (writer.call call).result ∧
      ((writer.withCatalog catalog).call call).state =
        (writer.call call).state.withCatalog catalog := by
  cases call with
  | unload | idOf | live | outputPath | isEnabled => exact ⟨rfl, rfl⟩
  | close => simp [call, withCatalog]
  | load type origin =>
    obtain ⟨hresult, hstate⟩ := load_of_not_asked h catalog
    exact ⟨congrArg Reply.outcome hresult, hstate⟩

/-- If a call asks the catalog, its answer and the writer after it go by what the catalog answers and
becomes, and by the rules after that. -/
theorem call_of_asked [Catalog σ] {writer : Writer σ} {call : Call} {type : LoadedType}
    (h : writer.asked call = some type) :
    ∃ origin sink fault,
      (∀ reason, fault = some reason → reason.isUnrecorded = true) ∧
      ∀ catalog : σ,
        let registration := Catalog.register type catalog
        let e := writer.settle type origin sink (registration.1.decision fault)
        ((writer.withCatalog catalog).call call).result = .outcome e.result ∧
          ((writer.withCatalog catalog).call call).state = e.state.withCatalog registration.2 := by
  cases call with
  | unload | close | idOf | live | outputPath | isEnabled => simp [asked] at h
  | load other origin =>
    simp only [asked, Option.ite_none_right_eq_some, Option.some.injEq, Bool.and_eq_true,
      Bool.not_eq_true', Registry.hasId, Option.isSome_eq_false_iff, Option.isNone_iff_eq_none] at h
    obtain ⟨⟨⟨⟨⟨⟨henabled, hpoisoned⟩, hsink⟩, himage⟩, hnew⟩, hasks⟩, rfl⟩ := h
    obtain ⟨sink, hsink⟩ := Option.isSome_iff_exists.1 hsink
    have hready : writer.Ready sink := ⟨henabled, hpoisoned, hsink, himage⟩
    refine ⟨origin, sink, Eligibility.faultAfterCatalog writer.registry.hasId other origin,
      fun _ => Eligibility.isUnrecorded_of_asks hasks, ?_⟩
    intro catalog
    have hcheck := Eligibility.check_of_asks hasks writer.registry.hasId catalog
    have hload := load_of_ready (hready.withCatalog catalog) hnew origin hcheck
    obtain ⟨hresult, hstate⟩ := settle_withCatalog other origin sink _ _ writer
    exact ⟨congrArg Reply.outcome ((congrArg Effect.result hload).trans hresult),
      (congrArg Effect.state hload).trans hstate⟩

/-- The catalog after a call is the one that registering leaves, if a type is registered. -/
theorem catalog_call [Catalog σ] (call : Call) (writer : Writer σ) :
    (writer.call call).state.catalog =
      match writer.asked call with
      | some type => (Catalog.register type writer.catalog).2
      | none => writer.catalog := by
  cases hasked : writer.asked call with
  | none =>
    -- the writer with its own catalog is itself, so the call keeps the catalog
    have hstate := (call_of_not_asked hasked writer.catalog).2
    have hkept := congrArg catalog hstate
    simpa using hkept
  | some type =>
    obtain ⟨origin, sink, fault, -, hcall⟩ := call_of_asked hasked
    exact congrArg catalog (hcall writer.catalog).2

/-! ## A name that was given away -/

/-- The first type of a name about which calls make the writer ask its catalog. -/
def firstAsked [Catalog σ] (name : String) (writer : Writer σ) : List Call → Option LoadedType
  | [] => none
  | call :: rest =>
    match (writer.asked call).filter fun type => type.name = name with
    | some type => some type
    | none => (writer.call call).state.firstAsked name rest

/-- The writer whose catalog has given a name to a type. -/
def withName (name : String) (identity : TypeIdentity) (writer : Writer NameCatalog) :
    Writer NameCatalog :=
  writer.withCatalog (writer.catalog.give name identity)

/-- A call that asks for no type of the name is answered as if the name were not given away, and
leaves it as it is. -/
theorem call_withName {writer : Writer NameCatalog} {call : Call} {name : String}
    (h : ∀ type, writer.asked call = some type → type.name ≠ name) (identity : TypeIdentity) :
    ((writer.withName name identity).call call).result = (writer.call call).result ∧
      ((writer.withName name identity).call call).state =
        (writer.call call).state.withName name identity ∧
      (writer.call call).state.catalog.ownerOf name = writer.catalog.ownerOf name := by
  have hcatalog := catalog_call call writer
  cases hasked : writer.asked call with
  | none =>
    rw [hasked] at hcatalog
    obtain ⟨hresult, hstate⟩ := call_of_not_asked hasked (writer.catalog.give name identity)
    refine ⟨hresult, ?_, by rw [hcatalog]⟩
    rw [withName, withName, hstate, hcatalog]
  | some type =>
    rw [hasked] at hcatalog
    have hname := h type hasked
    have hgive : Catalog.register type (writer.catalog.give name identity) =
        ((writer.catalog.register type).1, (writer.catalog.register type).2.give name identity) :=
      NameCatalog.register_give_of_ne hname identity writer.catalog
    obtain ⟨origin, sink, fault, -, hcall⟩ := call_of_asked hasked
    obtain ⟨hresult, hstate⟩ := hcall writer.catalog
    obtain ⟨hresult', hstate'⟩ := hcall (writer.catalog.give name identity)
    rw [withCatalog_self] at hresult hstate
    rw [hgive] at hresult' hstate'
    refine ⟨hresult'.trans hresult.symm, ?_, ?_⟩
    · rw [withName, withName, hstate', hstate, catalog_withCatalog, withCatalog_withCatalog]
      rfl
    · rw [hcatalog]
      refine (NameCatalog.ownerOf_register type writer.catalog name).trans (if_neg ?_)
      rintro ⟨rfl, -⟩
      exact hname rfl

/-- A call that asks for the type that was given the name goes as if it had not been given away. -/
theorem call_withName_self {writer : Writer NameCatalog} {call : Call} {type : LoadedType}
    (hfree : writer.catalog.ownerOf type.name = none) (hasked : writer.asked call = some type) :
    ((writer.withName type.name type.identity).call call).result = (writer.call call).result ∧
      ((writer.withName type.name type.identity).call call).state = (writer.call call).state := by
  have hregister : Catalog.register type (writer.catalog.give type.name type.identity) =
      Catalog.register type writer.catalog := by
    have howner : (writer.catalog.give type.name type.identity).ownerOf type.name =
        some type.identity := by simp
    exact (NameCatalog.register_of_owner howner).trans (NameCatalog.register_of_free hfree).symm
  obtain ⟨origin, sink, fault, -, hcall⟩ := call_of_asked hasked
  obtain ⟨hresult, hstate⟩ := hcall writer.catalog
  obtain ⟨hresult', hstate'⟩ := hcall (writer.catalog.give type.name type.identity)
  rw [withCatalog_self] at hresult hstate
  rw [hregister] at hresult' hstate'
  exact ⟨hresult'.trans hresult.symm, hstate'.trans hstate.symm⟩

/-- A type for which the catalog is free is not left out for a conflict. -/
theorem settle_ne_conflict (type : LoadedType) (origin : Option Origin) (sink : Sink)
    {fault : Option Rejection} (hfault : ∀ reason, fault = some reason → reason.isUnrecorded = true)
    (conflict : Conflict) (writer : Writer σ) :
    (writer.settle type origin sink (.ofFault fault)).result ≠
      .rejected (.catalogConflict conflict) := by
  cases fault with
  | some reason =>
    intro h
    have hreason := hfault reason rfl
    rw [Outcome.rejected.inj h] at hreason
    simp [Rejection.isUnrecorded] at hreason
  | none =>
    simp only [settle, Decision.ofFault, record]
    split <;> simp

/-- A call that asks for another type of the name is answered with a conflict if the name was given
away, and only then. -/
theorem call_withName_of_ne {writer : Writer NameCatalog} {call : Call} {type : LoadedType}
    (hfree : writer.catalog.ownerOf type.name = none) (hasked : writer.asked call = some type)
    {identity : TypeIdentity} (hne : type.identity ≠ identity) :
    ((writer.withName type.name identity).call call).result ≠ (writer.call call).result := by
  have howner : (writer.catalog.give type.name identity).ownerOf type.name = some identity := by
    simp
  have hgive : Catalog.register type (writer.catalog.give type.name identity) =
      (.refused ⟨type.name, identity⟩, writer.catalog.give type.name identity) :=
    NameCatalog.register_of_other howner hne.symm
  have hregister : Catalog.register type writer.catalog =
      (.accepted, writer.catalog.give type.name type.identity) :=
    NameCatalog.register_of_free hfree
  obtain ⟨origin, sink, fault, hfault, hcall⟩ := call_of_asked hasked
  have hresult := (hcall writer.catalog).1
  have hresult' := (hcall (writer.catalog.give type.name identity)).1
  rw [withCatalog_self, hregister] at hresult
  rw [hgive] at hresult'
  intro hsame
  have houtcome := Reply.outcome.inj (hresult'.symm.trans (hsame.trans hresult))
  exact settle_ne_conflict type origin sink hfault _ writer houtcome.symm

/-! ## A run after a name was given away -/

/-- If the first of the calls that asks for the name asks for the type that was given it, all calls go
as if it had not been given away. -/
theorem replies_withName {writer : Writer NameCatalog} {name : String}
    (hfree : writer.catalog.ownerOf name = none) {identity : TypeIdentity} (calls : List Call)
    (h : ∀ type, writer.firstAsked name calls = some type → type.identity = identity) :
    (writer.withName name identity).replies calls = writer.replies calls ∧
      ∃ catalog, (writer.withName name identity).after calls =
        (writer.after calls).withCatalog catalog := by
  induction calls generalizing writer with
  | nil => exact ⟨rfl, _, rfl⟩
  | cons call rest ih =>
    rw [replies, replies, after, after, List.foldl_cons, List.foldl_cons]
    cases hfilter : (writer.asked call).filter fun type => type.name = name with
    | none =>
      -- the call leaves the name given away, so the rest goes on from there
      rw [firstAsked, hfilter] at h
      have hother : ∀ type, writer.asked call = some type → type.name ≠ name := by
        simpa [Option.filter_eq_none_iff] using hfilter
      obtain ⟨hresult, hstate, howner⟩ := call_withName hother identity
      rw [hresult, hstate]
      obtain ⟨hreplies, hafter⟩ := ih (howner.trans hfree) h
      exact ⟨by rw [hreplies], hafter⟩
    | some type =>
      -- the call would give the name to the same type, so there is no difference any more
      rw [firstAsked, hfilter] at h
      obtain ⟨hasked, hname⟩ := Option.filter_eq_some_iff.1 hfilter
      obtain rfl : type.name = name := of_decide_eq_true hname
      obtain rfl : type.identity = identity := h type rfl
      obtain ⟨hresult, hstate⟩ := call_withName_self hfree hasked
      rw [hresult, hstate]
      exact ⟨rfl, _, rfl⟩

/-- If the first of the calls that asks for the name asks for another type than the one that was
given it, the calls are not all answered as if it had not been given away. -/
theorem replies_withName_ne {writer : Writer NameCatalog} {name : String}
    (hfree : writer.catalog.ownerOf name = none) {identity : TypeIdentity} {calls : List Call}
    {type : LoadedType} (h : writer.firstAsked name calls = some type)
    (hne : type.identity ≠ identity) :
    (writer.withName name identity).replies calls ≠ writer.replies calls := by
  induction calls generalizing writer with
  | nil => simp [firstAsked] at h
  | cons call rest ih =>
    rw [replies, replies]
    intro hsame
    obtain ⟨hhead, htail⟩ := List.cons.inj hsame
    cases hfilter : (writer.asked call).filter fun type => type.name = name with
    | none =>
      rw [firstAsked, hfilter] at h
      have hother : ∀ type, writer.asked call = some type → type.name ≠ name := by
        simpa [Option.filter_eq_none_iff] using hfilter
      obtain ⟨-, hstate, howner⟩ := call_withName hother identity
      rw [hstate] at htail
      exact ih (howner.trans hfree) h htail
    | some other =>
      rw [firstAsked, hfilter] at h
      obtain rfl : other = type := Option.some.inj h
      obtain ⟨hasked, hname⟩ := Option.filter_eq_some_iff.1 hfilter
      obtain rfl : other.name = name := of_decide_eq_true hname
      exact call_withName_of_ne hfree hasked hne hhead

/-! ## Rejected loads -/

/-- Whether a rejected type is left holding its name: it is user-defined, the name was free, and only
a dependency was missing. -/
def keepsName (writer : Writer NameCatalog) (type : LoadedType) (reason : Rejection) : Bool :=
  ! type.isBuiltin && (writer.catalog.ownerOf type.name).isNone && reason.isUnrecorded

/-- A rejected load leaves the writer as it was, but for the name that the type may keep. -/
theorem state_of_rejected {writer : Writer NameCatalog} {type : LoadedType}
    {origin : Option Origin} {reason : Rejection}
    (h : (writer.load type origin).result = .rejected reason) :
    (writer.load type origin).state =
      if writer.keepsName type reason then writer.withName type.name type.identity
      else writer := by
  have hloads := loads_load type origin writer
  rw [h] at hloads
  generalize (writer.load type origin).state = after at hloads ⊢
  cases hloads with
  | rejected sink hready reason catalog hjudged =>
  obtain ⟨-, hcheck⟩ := hjudged
  show writer.withCatalog catalog = _
  cases hasks : Eligibility.asksCatalog writer.config.pathStyle type origin with
  | false =>
    rw [Eligibility.check_of_not_asks hasks] at hcheck
    obtain ⟨hdecision, rfl⟩ := Prod.mk.inj hcheck
    rw [if_neg, withCatalog_self]
    intro hkeeps
    simp only [keepsName, Bool.and_eq_true, Bool.not_eq_true'] at hkeeps
    obtain ⟨⟨huser, -⟩, hreason⟩ := hkeeps
    rw [Eligibility.isUnrecorded_of_not_asks huser hasks hdecision] at hreason
    simp at hreason
  | true =>
    rw [Eligibility.check_of_asks hasks] at hcheck
    obtain ⟨hdecision, rfl⟩ := Prod.mk.inj hcheck
    have huser : type.isBuiltin = false := by
      simp only [Eligibility.asksCatalog, Bool.and_eq_true, Bool.not_eq_true'] at hasks
      exact hasks.2
    cases howner : writer.catalog.ownerOf type.name with
    | none =>
      -- the name is given to the type, so the type fails for a dependency
      have hregister : Catalog.register type writer.catalog =
          (.accepted, writer.catalog.give type.name type.identity) :=
        NameCatalog.register_of_free howner
      rw [hregister] at hdecision ⊢
      rw [if_pos, withName]
      cases hfault : Eligibility.faultAfterCatalog writer.registry.hasId type origin with
      | none => simp [hfault, Registration.decision, Decision.ofFault] at hdecision
      | some fault =>
        rw [hfault] at hdecision
        obtain rfl : fault = reason := Decision.rejected.inj hdecision
        simp [keepsName, huser, howner, Eligibility.isUnrecorded_of_asks hasks hfault]
    | some owner =>
      -- the name stays with its owner
      have hkept : (Catalog.register type writer.catalog).2 = writer.catalog := by
        by_cases heq : owner = type.identity
        · exact congrArg Prod.snd (NameCatalog.register_of_owner (heq ▸ howner))
        · exact congrArg Prod.snd (NameCatalog.register_of_other howner heq)
      rw [hkept, withCatalog_self, if_neg]
      simp [keepsName, howner]

/-- **When a rejected load leaves no trace.** Leaving a rejected load out of a run changes neither the
other answers nor what the manifests hold, unless its type was left holding its name and the first
type of that name about which the catalog is asked afterwards is another one. -/
theorem rejected_load_leaves_no_trace_iff (writer : Writer NameCatalog) (front back : List Call)
    (type : LoadedType) (origin : Option Origin) (reason : Rejection)
    (h : ((writer.after front).load type origin).result = .rejected reason) :
    ((writer.replies (front ++ .load type origin :: back)).eraseIdx front.length =
        writer.replies (front ++ back) ∧
      (writer.after (front ++ .load type origin :: back)).sinks.map
          (fun sink => sink.output.contents) =
        (writer.after (front ++ back)).sinks.map fun sink => sink.output.contents) ↔
    ((writer.after front).keepsName type reason = true →
      ∀ other, (writer.after front).firstAsked type.name back = some other →
        other.identity = type.identity) := by
  have hstate := state_of_rejected h
  have hreplies : (writer.replies (front ++ .load type origin :: back)).eraseIdx front.length =
      writer.replies front ++ ((writer.after front).load type origin).state.replies back := by
    rw [replies_append, replies, List.eraseIdx_append_of_length_le (Nat.le_of_eq (length_replies _ _)),
      length_replies, Nat.sub_self, List.eraseIdx_cons_zero]
    rfl
  have hafter : writer.after (front ++ .load type origin :: back) =
      ((writer.after front).load type origin).state.after back := by
    rw [after_append, after, after, List.foldl_cons]
    rfl
  rw [hreplies, hafter, replies_append, after_append, List.append_cancel_left_eq, hstate]
  generalize writer.after front = writer at *
  cases hkeeps : writer.keepsName type reason with
  | false => simp
  | true =>
    have hfree : writer.catalog.ownerOf type.name = none := by
      simp only [keepsName, Bool.and_eq_true, Option.isNone_iff_eq_none] at hkeeps
      exact hkeeps.1.2
    rw [if_pos rfl]
    constructor
    · rintro ⟨hsame, -⟩ - other hother
      by_cases heq : other.identity = type.identity
      · exact heq
      · exact absurd hsame (replies_withName_ne hfree hother heq)
    · intro hfirst
      obtain ⟨hsame, catalog, hcatalog⟩ := replies_withName hfree back (hfirst rfl)
      exact ⟨hsame, by rw [hcatalog]; rfl⟩

/-- A type that is loaded before its super type, and once more after it, might as well have been loaded
only then. -/
theorem rejected_load_leaves_no_trace_of_return :
    let base := LoadedType.plain ⟨9⟩ "app/Base" .builtin
    let type := (LoadedType.plain ⟨2⟩ "app/Foo" .userDefined).withSuper ⟨9⟩
    let origin : Option Origin := some { source := some "file:/tmp/a.jar" }
    let writer := begun {} ({} : NameCatalog) ⟨[]⟩ {} none
    let back : List Call := [.load base none, .load type origin]
    (writer.load type origin).result = .rejected (.unrecordedSuper ⟨9⟩) ∧
    writer.keepsName type (.unrecordedSuper ⟨9⟩) = true ∧
    (writer.replies (.load type origin :: back)).eraseIdx 0 = writer.replies back := by
  intro base type origin writer back
  have hrun : (writer.load type origin).result = .rejected (.unrecordedSuper ⟨9⟩) ∧
      writer.keepsName type (.unrecordedSuper ⟨9⟩) = true ∧
      writer.firstAsked type.name back = some type := by
    decide +kernel
  obtain ⟨hresult, hkeeps, hasked⟩ := hrun
  refine ⟨hresult, hkeeps, ?_⟩
  refine ((rejected_load_leaves_no_trace_iff writer [] back type origin _ hresult).2 ?_).1
  rintro - other hother
  rw [← Option.some.inj (hasked.symm.trans hother)]

/-- A type that is left out because its super type has no line keeps another type from getting one. -/
theorem rejected_load_takes_name :
    let object := LoadedType.plain ⟨1⟩ "java/lang/Object" .builtin
    let orphan := (LoadedType.plain ⟨2⟩ "app/Foo" .userDefined).withSuper ⟨9⟩
    let type := (LoadedType.plain ⟨3⟩ "app/Foo" .userDefined).withSuper ⟨1⟩
    let origin : Option Origin := some { source := some "file:/tmp/a.jar" }
    let writer := begun {} ({} : NameCatalog) ⟨[]⟩ {} none
    let replies := writer.replies [.load object none, .load orphan origin, .load type origin]
    replies = [.outcome (.recorded 0), .outcome (.rejected (.unrecordedSuper ⟨9⟩)),
      .outcome (.rejected (.catalogConflict ⟨"app/Foo", ⟨2⟩⟩))] ∧
    replies.eraseIdx 1 ≠ writer.replies [.load object none, .load type origin] := by
  intro object orphan type origin writer replies
  have hrun : replies = [.outcome (.recorded 0), .outcome (.rejected (.unrecordedSuper ⟨9⟩)),
        .outcome (.rejected (.catalogConflict ⟨"app/Foo", ⟨2⟩⟩))] ∧
      writer.replies [.load object none, .load type origin] =
        [.outcome (.recorded 0), .outcome (.recorded 1)] := by
    decide +kernel
  refine ⟨hrun.1, ?_⟩
  rw [hrun.1, hrun.2]
  decide

end LoadOrder.Writer
