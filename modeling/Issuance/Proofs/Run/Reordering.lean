import Issuance.Proofs.Crowd.AuthorityCalls
import Issuance.Proofs.Run.Behaviour

namespace Issuance

/-- Authorities that go by one key have one specification, as they do where each one is stored under
its own name. -/
def Cluster.Agrees (cluster : Cluster) : Prop :=
  ∀ first second one other, cluster.authority? first = some one →
    cluster.authority? second = some other → one.key = other.key → one.spec = other.spec

/-- Reconciliations take place one after the other, and nothing else happens. -/
inductive Sequence (behaviour : Behaviour) (config : ControllerConfig) (first : SharedState) :
    List Reconciliation → SharedState → Prop where
  | start : Sequence behaviour config first [] first
  | reconcile {steps : List Reconciliation} {step : Reconciliation}
      (sequence : Sequence behaviour config first steps step.before)
      (runs : step.RunsAs behaviour config) :
      Sequence behaviour config first (steps ++ [step]) step.after

namespace Behaviour

variable (behaviour : Behaviour) (config : ControllerConfig) (first : SharedState)

/-- How the reconciliation of a name ends. -/
def ended (name : ResourceName) : Reconcile.Outcome :=
  match first.active? name with
  | none => .ok .none
  | some request => (behaviour.verdict config first request).outcome

/-- What the reconciliation of a name makes of its request. -/
def advanced (name : ResourceName) : Option CertificateRequest :=
  match first.active? name with
  | none => first.cluster.request? name
  | some request => some ((behaviour.verdict config first request).apply behaviour.stamp request)

end Behaviour

namespace SharedState

/-- One of the names needs a provisioner of an authority. -/
def Needs (shared : SharedState) (names : List ResourceName) (authority : Authority) : Prop :=
  ∃ name ∈ names, ∃ request, shared.active? name = some request ∧
    shared.cluster.resolved request = .ok authority

/-- A provisioner is kept after the reconciliations of some names when it is provided for one of
them, or when it was kept before and none of them has replaced it. -/
def KeepsAfter (shared : SharedState) (behaviour : Behaviour) (names : List ResourceName)
    (key : AuthorityKey) (spec : IssuerSpec) : Prop :=
  (∃ authority, shared.Needs names authority ∧ authority.key = key ∧ authority.spec = spec ∧
      behaviour.provided shared.cache authority.key authority.spec = .ok ()) ∨
    (∀ authority, shared.Needs names authority → authority.key ≠ key) ∧
      shared.cache.isKept key spec = true

variable {shared : SharedState} {names : List ResourceName} {name : ResourceName}
  {authority : Authority}

theorem needs_append :
    shared.Needs (names ++ [name]) authority ↔
      shared.Needs names authority ∨ shared.Needs [name] authority := by
  simp [Needs, or_and_right, exists_or]

theorem needs_singleton {request : CertificateRequest}
    (present : shared.active? name = some request) :
    shared.Needs [name] authority ↔ shared.cluster.resolved request = .ok authority := by
  simp [Needs, present]

theorem not_needs_singleton (nothing : shared.active? name = none) :
    ¬shared.Needs [name] authority := by
  simp [Needs, nothing]

/-- Only which names there are decides about what is needed. -/
theorem needs_congr {others : List ResourceName} (same : names.Perm others) :
    shared.Needs names authority ↔ shared.Needs others authority := by
  simp only [Needs, same.mem_iff]

/-- Where nothing new is needed for a key, what is kept for it stays. -/
theorem keepsAfter_append_of_ne {behaviour : Behaviour} {key : AuthorityKey} {spec : IssuerSpec}
    (others : ∀ authority, shared.Needs [name] authority → authority.key ≠ key) :
    shared.KeepsAfter behaviour (names ++ [name]) key spec ↔
      shared.KeepsAfter behaviour names key spec := by
  simp only [KeepsAfter, needs_append]
  constructor
  · rintro (⟨authority, needed | needed, same, rest⟩ | ⟨unused, kept⟩)
    · exact .inl ⟨authority, needed, same, rest⟩
    · exact absurd same (others authority needed)
    · exact .inr ⟨fun authority needed => unused authority (.inl needed), kept⟩
  · rintro (⟨authority, needed, rest⟩ | ⟨unused, kept⟩)
    · exact .inl ⟨authority, .inl needed, rest⟩
    · refine .inr ⟨fun authority needed => ?_, kept⟩
      exact needed.elim (unused authority) (others authority)

theorem keepsAfter_congr {behaviour : Behaviour} {others : List ResourceName}
    (same : names.Perm others) (key : AuthorityKey) (spec : IssuerSpec) :
    shared.KeepsAfter behaviour names key spec ↔ shared.KeepsAfter behaviour others key spec := by
  simp only [KeepsAfter, needs_congr same]

end SharedState

/-- The state after some reconciliations is known from the first one and from the names that they
were for. Nothing in it depends on their order. -/
structure Tally (behaviour : Behaviour) (config : ControllerConfig) (first : SharedState)
    (steps : List Reconciliation) (current : SharedState) : Prop where
  sound : ∃ callers, Crowd.Reachable config ⟨current, callers⟩
  named : current.cluster.IsNamed
  authorities : ∀ key, current.cluster.authority? key = first.cluster.authority? key
  free : ∀ key spec, first.cache.IsFree key spec → current.cache.IsFree key spec
  provided : ∀ key authority, first.cluster.authority? key = some authority →
    behaviour.provided current.cache authority.key authority.spec =
      behaviour.provided first.cache authority.key authority.spec
  ended : ∀ step ∈ steps, step.outcome = behaviour.ended config first step.place
  requests : ∀ name, current.cluster.request? name =
    if name ∈ steps.map Reconciliation.place then behaviour.advanced config first name
    else first.cluster.request? name
  kept : ∀ key spec, current.cache.isKept key spec = true ↔
    first.KeepsAfter behaviour (steps.map Reconciliation.place) key spec

namespace Cluster

variable {cluster other : Cluster} {request : CertificateRequest} {authority : Authority}

theorem resolved_congr (same : ∀ key, cluster.authority? key = other.authority? key)
    (request : CertificateRequest) : cluster.resolved request = other.resolved request := by
  simp only [resolved, same]

theorem Agrees.congr (agrees : other.Agrees)
    (same : ∀ key, cluster.authority? key = other.authority? key) : cluster.Agrees := by
  simpa only [Agrees, same] using agrees

/-- The authority of a request is stored under some key. -/
theorem exists_authority? (known : cluster.resolved request = .ok authority) :
    ∃ key, cluster.authority? key = some authority := by
  unfold resolved at known
  split at known
  · cases known
  · next key _ => exact ⟨key, Except.ok.inj (Reconcile.checkAuthority_eq_ok known).1⟩

/-- Where every authority is stored under its own name, its key tells its specification. -/
theorem agrees_of_named
    (issuers : ∀ name issuer, cluster.issuer? name = some issuer →
      issuer.metadata.namespaceName = some name.namespaceName ∧
        issuer.metadata.anyName = name.name)
    (clusterIssuers : ∀ name issuer, cluster.clusterIssuer? name = some issuer →
      issuer.metadata.anyName = name) : cluster.Agrees := by
  have stands {key : AuthorityKey} {authority : Authority}
      (found : cluster.authority? key = some authority) :
      cluster.authority? authority.key = some authority := by
    unfold authority? at found
    split at found
    · obtain ⟨issuer, stored, rfl⟩ := Option.map_eq_some_iff.mp found
      obtain ⟨namespaceName, name⟩ := issuers _ _ stored
      simp [authority?, Authority.key, Authority.kind, Authority.namespaceName, Authority.name,
        namespaceName, name, stored]
    · obtain ⟨issuer, stored, rfl⟩ := Option.map_eq_some_iff.mp found
      simp [authority?, Authority.key, Authority.kind, Authority.namespaceName, Authority.name,
        clusterIssuers _ _ stored, stored]
  intro first second one other found stored same
  have again := stands found
  rw [same, stands stored] at again
  rw [Option.some.inj again]

/-- Of two authorities that requests refer to, one key means one specification. -/
theorem Agrees.spec_eq (agrees : cluster.Agrees) {key : AuthorityKey} {used : Authority}
    (found : cluster.authority? key = some authority) (known : cluster.resolved request = .ok used)
    (same : authority.key = used.key) : authority.spec = used.spec := by
  obtain ⟨place, there⟩ := exists_authority? known
  exact agrees key place authority used found there same

end Cluster

namespace Behaviour

variable {behaviour : Behaviour} {config : ControllerConfig} {shared later : SharedState}
  {request : CertificateRequest} {key : AuthorityKey} {authority : Authority}

/-- A provisioner that is kept once it is provided is provided again, and a build that failed fails
again. -/
theorem provided_again (cache : ProvisionerCache) (key : AuthorityKey) (spec : IssuerSpec) :
    (if (behaviour.provided cache key spec).isOk then .ok () else behaviour.build key spec) =
      behaviour.provided cache key spec := by
  unfold provided
  split
  · rfl
  · cases behaviour.build key spec <;> rfl

theorem provided_congr (agrees : shared.cluster.Agrees)
    (kept : ∀ key spec, later.cache.isKept key spec = behaviour.keeps shared request key spec)
    (found : shared.cluster.authority? key = some authority) :
    behaviour.provided later.cache authority.key authority.spec =
      behaviour.provided shared.cache authority.key authority.spec := by
  cases known : shared.cluster.resolved request with
  | error failure =>
    rw [provided, kept, keeps_of_error known]
    rfl
  | ok used =>
    by_cases same : authority.key = used.key
    · -- The request has called for the same provisioner, so the next call finds what came of it.
      rw [provided, kept, keeps_of_ok known, if_pos same, agrees.spec_eq found known same, same,
        decide_eq_true rfl, Bool.true_and]
      exact provided_again _ _ _
    · rw [provided, kept, keeps_of_ok known, if_neg same]
      rfl

/-- The verdict looks at nothing but the authority and what is provided for it. -/
theorem verdict_congr (authorities : ∀ key, later.cluster.authority? key =
      shared.cluster.authority? key)
    (same : ∀ key authority, shared.cluster.authority? key = some authority →
      behaviour.provided later.cache authority.key authority.spec =
        behaviour.provided shared.cache authority.key authority.spec) :
    behaviour.verdict config later request = behaviour.verdict config shared request := by
  unfold verdict
  rw [Cluster.resolved_congr authorities request]
  cases known : shared.cluster.resolved request with
  | error failure => rfl
  | ok authority =>
    obtain ⟨key, found⟩ := Cluster.exists_authority? known
    simp only [same key authority found]

end Behaviour

namespace Tally

variable {behaviour : Behaviour} {config : ControllerConfig} {first : SharedState}
  {steps : List Reconciliation} {step : Reconciliation}

theorem start {callers : List Caller} (reachable : Crowd.Reachable config ⟨first, callers⟩)
    (named : first.cluster.IsNamed) : Tally behaviour config first [] first where
  sound := ⟨callers, reachable⟩
  named := named
  authorities _ := rfl
  free _ _ := id
  provided _ _ _ := rfl
  ended _ member := absurd member List.not_mem_nil
  requests _ := rfl
  kept _ _ := by simp [SharedState.KeepsAfter, SharedState.Needs]

section Reconcile

variable (tally : Tally behaviour config first steps step.before)
  (fresh : step.place ∉ steps.map Reconciliation.place)

include tally fresh

/-- A reconciliation finds its request as it was at first. -/
theorem active?_eq : step.before.active? step.place = first.active? step.place := by
  unfold SharedState.active?
  rw [tally.requests, if_neg fresh]

omit fresh in
theorem verdict_eq (request : CertificateRequest) :
    behaviour.verdict config step.before request = behaviour.verdict config first request :=
  Behaviour.verdict_congr tally.authorities tally.provided

/-- A provisioner is kept after one more reconciliation as it is after the others and this one. -/
theorem kept_append {request : CertificateRequest} (agrees : first.cluster.Agrees)
    (present : step.before.active? step.place = some request) (key : AuthorityKey)
    (spec : IssuerSpec) :
    behaviour.keeps step.before request key spec = true ↔
      first.KeepsAfter behaviour (steps.map Reconciliation.place ++ [step.place]) key spec := by
  have there := (tally.active?_eq fresh).symm.trans present
  have same := Cluster.resolved_congr tally.authorities request
  cases known : first.cluster.resolved request with
  | error failure =>
    rw [Behaviour.keeps_of_error (same.trans known), tally.kept,
      SharedState.keepsAfter_append_of_ne fun authority needed => ?_]
    cases known.symm.trans ((SharedState.needs_singleton there).mp needed)
  | ok used =>
    have needed := (SharedState.needs_singleton there).mpr known
    obtain ⟨place, found⟩ := Cluster.exists_authority? known
    rw [Behaviour.keeps_of_ok (same.trans known), tally.provided place used found]
    by_cases own : key = used.key
    · subst own
      rw [if_pos rfl, Bool.and_eq_true, decide_eq_true_iff]
      constructor
      · rintro ⟨rfl, provided⟩
        refine .inl ⟨used, SharedState.needs_append.mpr (.inr needed), rfl, rfl, ?_⟩
        cases given : behaviour.provided first.cache used.key used.spec with
        | error failure => simp [given, Except.isOk, Except.toBool] at provided
        | ok _ => rfl
      · rintro (⟨authority, ⟨_, _, _, _, resolved⟩, sameKey, rfl, provided⟩ | ⟨unused, _⟩)
        · -- Whichever authority of the key came before, it has the same specification.
          obtain ⟨_, stored⟩ := Cluster.exists_authority? resolved
          have sameSpec := agrees.spec_eq stored known sameKey
          rw [← sameSpec, ← sameKey, provided]
          exact ⟨rfl, rfl⟩
        · exact absurd rfl (unused used (SharedState.needs_append.mpr (.inr needed)))
    · rw [if_neg own, tally.kept, SharedState.keepsAfter_append_of_ne fun authority needed => ?_]
      have only := (SharedState.needs_singleton there).mp needed
      obtain rfl := Except.ok.inj (known.symm.trans only)
      exact fun same => own same.symm

/-- What a reconciliation makes of its request, and how it ends, is known from the first state. -/
theorem advanced_eq (follows : step.Follows behaviour config) :
    step.after.cluster.request? step.place = behaviour.advanced config first step.place ∧
      step.outcome = behaviour.ended config first step.place := by
  unfold Behaviour.advanced Behaviour.ended
  cases follows with
  | idle nothing same ended =>
    rw [← tally.active?_eq fresh, nothing, same, tally.requests, if_neg fresh]
    exact ⟨rfl, ended⟩
  | @active request present ended written =>
    rw [← tally.active?_eq fresh, present, written, ended, tally.verdict_eq]
    exact ⟨rfl, rfl⟩

/-- What is kept after one more reconciliation is known from the first state. -/
theorem kept_after (agrees : first.cluster.Agrees) (follows : step.Follows behaviour config)
    (key : AuthorityKey) (spec : IssuerSpec) :
    step.after.cache.isKept key spec = true ↔
      first.KeepsAfter behaviour (steps.map Reconciliation.place ++ [step.place]) key spec := by
  cases follows with
  | idle nothing same ended =>
    have there := (tally.active?_eq fresh).symm.trans nothing
    rw [same, tally.kept, SharedState.keepsAfter_append_of_ne fun authority needed => ?_]
    exact absurd needed (SharedState.not_needs_singleton there)
  | active present ended written kept =>
    rw [kept]
    exact tally.kept_append fresh agrees present key spec

end Reconcile

/-- One more reconciliation is added to the tally. -/
theorem reconcile (tally : Tally behaviour config first steps step.before)
    (agrees : first.cluster.Agrees) (runs : step.RunsAs behaviour config)
    (fresh : step.place ∉ steps.map Reconciliation.place) :
    Tally behaviour config first (steps ++ [step]) step.after := by
  obtain ⟨callers, reachable⟩ := tally.sound
  have follows := runs.follows tally.named reachable.isSound.shared.cache
  obtain ⟨written, ended⟩ := tally.advanced_eq fresh follows
  constructor
  case sound => exact reachable.exists_after runs.takesPlace
  case named => exact SharedState.isNamed_afterAll tally.named step.trace
  case authorities =>
    intro key
    exact (SharedState.authority?_afterAll step.trace key).trans (tally.authorities key)
  case free =>
    intro key spec free
    cases follows with
    | idle _ same => exact same ▸ tally.free key spec free
    | active _ _ _ _ stays => exact stays key spec (tally.free key spec free)
  case provided =>
    intro key authority found
    refine Eq.trans ?_ (tally.provided key authority found)
    cases follows with
    | idle _ same => rw [same]
    | active _ _ _ kept =>
      exact Behaviour.provided_congr (agrees.congr tally.authorities) kept
        ((tally.authorities key).trans found)
  case ended => exact List.forall_mem_append.mpr ⟨tally.ended, List.forall_mem_singleton.mpr ended⟩
  case requests =>
    intro name
    rw [List.map_append, List.map_singleton]
    by_cases own : name = step.place
    · subst own
      rw [written, if_pos (List.mem_append_right _ List.mem_cons_self)]
    · rw [runs.takesPlace.request?_after tally.named own, tally.requests]
      simp [own]
  case kept =>
    intro key spec
    rw [List.map_append, List.map_singleton]
    exact tally.kept_after fresh agrees follows key spec

end Tally

/-- Two sequences come to the same: every request ends the same in both and is left the same, and
the same provisioners are kept. -/
structure Coincide (steps : List Reconciliation) (last : SharedState)
    (others : List Reconciliation) (final : SharedState) : Prop where
  outcomes : ∀ step ∈ steps, ∀ other ∈ others, step.place = other.place →
    step.outcome = other.outcome
  requests : ∀ name, last.cluster.request? name = final.cluster.request? name
  kept : ∀ key spec, last.cache.isKept key spec = final.cache.isKept key spec

section Order

variable {behaviour : Behaviour} {config : ControllerConfig} {first last final : SharedState}
  {steps others : List Reconciliation} {callers : List Caller} {names : List ResourceName}

/-- A tally tells what sequences come to. -/
theorem Tally.coincide (tally : Tally behaviour config first steps last)
    (other : Tally behaviour config first others final)
    (same : (steps.map Reconciliation.place).Perm (others.map Reconciliation.place)) :
    Coincide steps last others final where
  outcomes step member step' member' place := by
    rw [tally.ended step member, other.ended step' member', place]
  requests name := by
    rw [tally.requests, other.requests]
    simp only [same.mem_iff]
  kept key spec := by
    rw [Bool.eq_iff_iff, tally.kept, other.kept, SharedState.keepsAfter_congr same]

theorem Sequence.tally (sequence : Sequence behaviour config first steps last)
    (reachable : Crowd.Reachable config ⟨first, callers⟩) (named : first.cluster.IsNamed)
    (agrees : first.cluster.Agrees) (distinct : (steps.map Reconciliation.place).Nodup) :
    Tally behaviour config first steps last := by
  induction sequence with
  | start => exact .start reachable named
  | @reconcile steps step sequence runs ih =>
    rw [List.map_append, List.map_singleton] at distinct
    obtain ⟨before, _, apart⟩ := List.nodup_append.mp distinct
    refine (ih before).reconcile agrees runs fun member => ?_
    exact apart _ member _ List.mem_cons_self rfl

/-- Where no build is under way, requests are reconciled in any order. -/
theorem exists_sequence (behaviour : Behaviour)
    (reachable : Crowd.Reachable config ⟨first, callers⟩) (named : first.cluster.IsNamed)
    (agrees : first.cluster.Agrees)
    (free : ∀ key authority, first.cluster.authority? key = some authority →
      first.cache.IsFree authority.key authority.spec) (distinct : names.Nodup) :
    ∃ steps last, steps.map Reconciliation.place = names ∧
      Sequence behaviour config first steps last := by
  induction names using List.reverseRecOn with
  | nil => exact ⟨[], first, rfl, .start⟩
  | append_singleton names name ih =>
    obtain ⟨steps, last, places, sequence⟩ := ih (List.nodup_append.mp distinct).1
    have tally := sequence.tally reachable named agrees (places ▸ (List.nodup_append.mp distinct).1)
    obtain ⟨step, rfl, place, runs⟩ : ∃ step : Reconciliation, step.before = last ∧
        step.place = name ∧ step.RunsAs behaviour config := by
      refine Reconciliation.exists_runsAs behaviour config tally.named ?_
      intro request authority _ known
      rw [Cluster.resolved_congr tally.authorities] at known
      obtain ⟨key, found⟩ := Cluster.exists_authority? known
      exact tally.free _ _ (free key authority found)
    refine ⟨steps ++ [step], step.after, ?_, .reconcile sequence runs⟩
    rw [List.map_append, List.map_singleton, places, place]

end Order

/-- The order of reconciliations of different requests does not matter: wherever no build is under
way they get through in any order, and whatever two orders they get through in, every request ends
the same, is left the same, and the same provisioners are kept. -/
theorem order_does_not_matter {behaviour : Behaviour} {config : ControllerConfig}
    {first : SharedState} {callers : List Caller} {names : List ResourceName}
    (reachable : Crowd.Reachable config ⟨first, callers⟩) (named : first.cluster.IsNamed)
    (agrees : first.cluster.Agrees) (distinct : names.Nodup) :
    ((∀ key authority, first.cluster.authority? key = some authority →
        first.cache.IsFree authority.key authority.spec) →
      ∀ order, order.Perm names → ∃ steps last, steps.map Reconciliation.place = order ∧
        Sequence behaviour config first steps last) ∧
    ∀ steps last others final, (steps.map Reconciliation.place).Perm names →
      (others.map Reconciliation.place).Perm names →
        Sequence behaviour config first steps last → Sequence behaviour config first others final →
          Coincide steps last others final := by
  constructor
  · intro free order same
    exact exists_sequence behaviour reachable named agrees free (same.nodup_iff.mpr distinct)
  · intro steps last others final same again sequence other
    have tally := sequence.tally reachable named agrees (same.nodup_iff.mpr distinct)
    exact tally.coincide (other.tally reachable named agrees (again.nodup_iff.mpr distinct))
      (same.trans again.symm)

/- Two requests of an issuer whose specification has changed since its provisioner was built. -/
namespace Sample

/-- The issuer after a change of its specification. -/
def renewed : Issuer := { issuer with spec := { arn := "arn:renewed" } }

/-- Another request for the issuer. -/
def sibling : CertificateRequest :=
  { request with metadata := { request.metadata with name := some "api" } }

/-- The provisioner that is kept is one of the issuer before its change. -/
def outdated : SharedState :=
  { unrecorded.after with
    cluster :=
      { requests := [(place, request), (⟨"team", "api"⟩, sibling)]
        issuers := [(⟨"team", "ca"⟩, renewed)] } }

/-- Each order gets an identifier of its own. -/
def orderly : Behaviour where
  stamp := "now"
  build _ spec := if spec = renewed.spec then .ok () else .error (.configuration "gone")
  sign _ _ request := .ok ("arn:" ++ request.metadata.anyName)
  collect _ _ _ _ := .error .inProgress

theorem isNamed_outdated : outdated.cluster.IsNamed := by
  have empty : ({ issuers := outdated.cluster.issuers } : Cluster).IsNamed :=
    Cluster.isNamed_of_nil rfl
  exact (empty.putRequest request).putRequest sibling

theorem exists_reachable_outdated : ∃ callers, Crowd.Reachable {} ⟨outdated, callers⟩ := by
  obtain ⟨callers, reachable⟩ :=
    Crowd.Reachable.exists_after (.start first.cluster) unrecorded_takesPlace
  exact ⟨callers, reachable.step (.change _ _ _)⟩

/-- There is no issuer but the one, and it is stored under its name. -/
theorem issuer?_outdated {name : ResourceName} {stored : Issuer}
    (there : outdated.cluster.issuer? name = some stored) :
    name = ⟨"team", "ca"⟩ ∧ stored = renewed := by
  change List.lookup name [(_, renewed)] = some stored at there
  rw [Entries.lookup_cons] at there
  split at there
  · next same => exact ⟨same, (Option.some.inj there).symm⟩
  · cases there

theorem agrees_outdated : outdated.cluster.Agrees := by
  refine Cluster.agrees_of_named (fun name stored there => ?_) fun name stored there => ?_
  · obtain ⟨rfl, rfl⟩ := issuer?_outdated there
    exact ⟨rfl, rfl⟩
  · cases there

theorem authority?_outdated {key : AuthorityKey} {authority : Authority}
    (found : outdated.cluster.authority? key = some authority) : authority = .issuer renewed := by
  unfold Cluster.authority? at found
  split at found
  · obtain ⟨stored, there, rfl⟩ := Option.map_eq_some_iff.mp found
    rw [(issuer?_outdated there).2]
  · cases found

end Sample

/-- Both requests get their orders, whichever comes first. -/
theorem sample_reordered :
    ∃ steps last others final,
      Sequence Sample.orderly {} Sample.outdated steps last ∧
      Sequence Sample.orderly {} Sample.outdated others final ∧
      steps.map Reconciliation.place = [Sample.place, ⟨"team", "api"⟩] ∧
      others.map Reconciliation.place = [⟨"team", "api"⟩, Sample.place] ∧
      Coincide steps last others final := by
  obtain ⟨callers, reachable⟩ := Sample.exists_reachable_outdated
  have distinct : [Sample.place, ⟨"team", "api"⟩].Nodup := by decide
  obtain ⟨proceeds, coincide⟩ := @order_does_not_matter Sample.orderly _ _ _ _ reachable
    Sample.isNamed_outdated Sample.agrees_outdated distinct
  have free : ∀ key authority, Sample.outdated.cluster.authority? key = some authority →
      Sample.outdated.cache.IsFree authority.key authority.spec := by
    intro key authority found
    rw [Sample.authority?_outdated found, ProvisionerCache.isFree_iff]
    decide
  obtain ⟨steps, last, places, sequence⟩ := proceeds free _ (.refl _)
  obtain ⟨others, final, reversed, other⟩ := proceeds free _ (.swap _ _ [])
  refine ⟨steps, last, others, final, sequence, other, places, reversed, ?_⟩
  exact coincide _ _ _ _ (places ▸ .refl _) (reversed ▸ .swap _ _ []) sequence other

end Issuance
