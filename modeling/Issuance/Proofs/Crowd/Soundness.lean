import Issuance.Proofs.Program.SharedState
import Issuance.Proofs.Provisioner.Soundness
import Issuance.Proofs.Reconcile.Discipline
import Issuance.Proofs.Reconcile.Writes

namespace Issuance

/-- A reconciliation under way, with what it has observed and what it still has to do. -/
structure Caller where
  place : ResourceName
  observed : List Observation
  rest : Program Reconcile.Outcome

/-- Reconciliations take their turns on one shared state. -/
structure Crowd where
  shared : SharedState
  callers : List Caller

namespace Crowd

/-- A reconciliation starts or performs its next effect, others change the cluster, the cache
forgets a key or all of them, or a caller gives up and leaves its slot empty. -/
inductive Step (config : ControllerConfig) : Crowd → Crowd → Prop where
  | join (shared : SharedState) (callers : List Caller) (place : ResourceName) :
      Step config ⟨shared, callers⟩
        ⟨shared, ⟨place, [], Reconcile.reconcile config place.namespaceName place.name⟩ :: callers⟩
  | perform {shared : SharedState} {earlier later : List Caller} {place : ResourceName}
      {observed : List Observation} {effect : Effect}
      {next : effect.Answer → Program Reconcile.Outcome} (answer : effect.Answer)
      (admitted : shared.Admits ⟨effect, answer⟩) :
      Step config ⟨shared, earlier ++ ⟨place, observed, .perform effect next⟩ :: later⟩
        ⟨shared.after ⟨effect, answer⟩,
          earlier ++ ⟨place, observed ++ [⟨effect, answer⟩], next answer⟩ :: later⟩
  | change (shared : SharedState) (callers : List Caller) (cluster : Cluster) :
      Step config ⟨shared, callers⟩ ⟨{ shared with cluster }, callers⟩
  | invalidate (shared : SharedState) (callers : List Caller) (key : AuthorityKey) :
      Step config ⟨shared, callers⟩
        ⟨{ shared with cache := shared.cache.invalidate key }, callers⟩
  | clear (shared : SharedState) (callers : List Caller) :
      Step config ⟨shared, callers⟩ ⟨{ shared with cache := shared.cache.clear }, callers⟩
  | abandon (shared : SharedState) (earlier later : List Caller) (caller : Caller) (slot : Nat) :
      Step config ⟨shared, earlier ++ caller :: later⟩
        ⟨{ shared with cache := shared.cache.settle slot none }, earlier ++ later⟩

/-- The crowds that come from an empty cache and any cluster. -/
inductive Reachable (config : ControllerConfig) : Crowd → Prop where
  | start (cluster : Cluster) : Reachable config ⟨{ cluster }, []⟩
  | step {crowd next : Crowd} (reachable : Reachable config crowd)
      (step : Step config crowd next) : Reachable config next

/-- A reconciliation may go on to its end while the others wait. -/
theorem Reachable.performAll {config : ControllerConfig} {place : ResourceName}
    {program : Program Reconcile.Outcome} {trace : List Observation} {outcome : Reconcile.Outcome}
    (returns : program.Returns trace outcome) :
    ∀ {shared : SharedState} {observed : List Observation} {others : List Caller},
      Reachable config ⟨shared, ⟨place, observed, program⟩ :: others⟩ →
        shared.AdmitsAll trace →
          Reachable config
            ⟨shared.afterAll trace, ⟨place, observed ++ trace, .pure outcome⟩ :: others⟩ := by
  induction returns with
  | pure value =>
      intro shared observed others reachable admitted
      rwa [List.append_nil]
  | @perform effect next trace value answer rest ih =>
      intro shared observed others reachable admitted
      have first :=
        @Step.perform config shared [] others place observed effect next answer admitted.1
      have later := ih (reachable.step first) admitted.2
      rwa [List.append_assoc, List.singleton_append] at later

end Crowd

namespace Caller

/-- The caller has performed an effect after what it observed before, or it performs it next. -/
def Attempts (caller : Caller) (before : List Observation) (effect : Effect) : Prop :=
  (∃ answer after, caller.observed = before ++ ⟨effect, answer⟩ :: after) ∨
    caller.observed = before ∧ ∃ next, caller.rest = .perform effect next

end Caller

/-- All that has happened to provisioners stays. -/
structure SharedState.Extends (shared later : SharedState) : Prop where
  offers : ∀ number key spec, shared.cache.Offers number key spec →
    later.cache.Offers number key spec
  started : ∀ provisioner ∈ shared.started, provisioner ∈ later.started
  finished : ∀ provisioner ∈ shared.finished, provisioner ∈ later.finished

/-- The cache holds what was built, and what was built was started before. -/
structure SharedState.IsSound (shared : SharedState) : Prop where
  cache : shared.cache.IsSound shared.finished
  finished : ∀ provisioner ∈ shared.finished, provisioner ∈ shared.started

namespace Observation

/-- The observation is a call on the authority. -/
def isAuthorityCall : Observation → Bool
  | ⟨.sign _ _, _⟩ => true
  | ⟨.collect _ _ _, _⟩ => true
  | _ => false

theorem isAuthorityCall_eq_false {observation : Observation}
    (preparation : observation.isPreparation = true) : observation.isAuthorityCall = false := by
  obtain ⟨effect, answer⟩ := observation
  cases effect <;> first | rfl | cases preparation

/-- What an observation tells about the cache and the builds. -/
def Holds (shared : SharedState) : Observation → Prop
  | ⟨.enterSlot key spec, slot⟩ => shared.cache.Offers slot key spec
  | ⟨.acquireSlot slot, some provisioner⟩ =>
    provisioner ∈ shared.finished ∧
      shared.cache.Offers slot provisioner.key provisioner.spec
  | ⟨.startBuild key spec, number⟩ => (⟨number, key, spec⟩ : Provisioner) ∈ shared.started
  | ⟨.finishBuild provisioner, .ok _⟩ => provisioner ∈ shared.finished
  | _ => True

theorem Holds.mono {shared later : SharedState} (grown : shared.Extends later)
    {observation : Observation} (holds : observation.Holds shared) : observation.Holds later := by
  obtain ⟨effect, answer⟩ := observation
  cases effect with
  | enterSlot key spec => exact grown.offers _ _ _ holds
  | acquireSlot slot =>
      cases answer with
      | none => trivial
      | some provisioner => exact ⟨grown.finished _ holds.1, grown.offers _ _ _ holds.2⟩
  | startBuild key spec => exact grown.started _ holds
  | finishBuild provisioner =>
      cases answer with
      | error failure => trivial
      | ok _ => exact grown.finished _ holds
  | _ => trivial

end Observation

namespace SharedState

variable {shared : SharedState}

theorem Extends.refl (shared : SharedState) : shared.Extends shared :=
  ⟨fun _ _ _ => id, fun _ => id, fun _ => id⟩

/-- A cache may be replaced by one that offers as much. -/
theorem IsSound.recache (sound : shared.IsSound) {cache : ProvisionerCache}
    (safe : cache.IsSound shared.finished)
    (offers : ∀ number key spec, shared.cache.Offers number key spec →
      cache.Offers number key spec) :
    ({ shared with cache } : SharedState).IsSound ∧ shared.Extends { shared with cache } :=
  ⟨⟨safe, sound.finished⟩, offers, fun _ => id, fun _ => id⟩

/-- A slot may change its state when a provisioner in it was built for what it is made for. -/
theorem IsSound.setState (sound : shared.IsSound) {slot : Nat} {state : SlotState}
    (fits : ∀ provisioner, state = .ready provisioner → provisioner ∈ shared.finished ∧
      shared.cache.Offers slot provisioner.key provisioner.spec) :
    ({ shared with cache := shared.cache.setState slot state } : SharedState).IsSound ∧
      shared.Extends { shared with cache := shared.cache.setState slot state } :=
  sound.recache (sound.cache.setState fits) fun _ _ _ offers => offers.setState state

theorem IsSound.acquire (sound : shared.IsSound) (slot : Nat) (held : Option Provisioner) :
    (shared.after ⟨.acquireSlot slot, held⟩).IsSound ∧
      shared.Extends (shared.after ⟨.acquireSlot slot, held⟩) := by
  rcases shared.cache.acquire?_cases slot with same | taken
  · simp only [after, same]
    exact ⟨sound, .refl shared⟩
  · simp only [after, taken]
    exact sound.setState fun provisioner ready => SlotState.noConfusion ready

/-- What is observed holds, and all that was known before goes on to hold. -/
theorem IsSound.observe (sound : shared.IsSound) {place : ResourceName}
    {observed : List Observation} (holds : ∀ observation ∈ observed, observation.Holds shared)
    {observation : Observation} (permitted : Reconcile.Permits place observed observation.effect)
    (admitted : shared.Admits observation) :
    ((shared.after observation).IsSound ∧ shared.Extends (shared.after observation)) ∧
      observation.Holds (shared.after observation) := by
  obtain ⟨effect, answer⟩ := observation
  cases effect with
  | enterSlot key spec =>
      have entered := sound.recache (sound.cache.enter key spec) fun _ _ _ offers =>
        offers.enter key spec
      refine ⟨entered, ?_⟩
      obtain rfl : answer = (shared.cache.enter key spec).1 := admitted
      exact sound.cache.offers_enter key spec
  | acquireSlot slot =>
      have acquired := sound.acquire slot answer
      refine ⟨acquired, ?_⟩
      cases answer with
      | none => trivial
      | some provisioner =>
        have given := sound.cache.acquired admitted
        exact ⟨acquired.2.finished _ given.1, acquired.2.offers _ _ _ given.2⟩
  | startBuild key spec =>
      refine ⟨⟨⟨sound.cache, fun provisioner member => ?_⟩, ?_⟩, List.mem_cons_self⟩
      · exact List.mem_cons_of_mem _ (sound.finished provisioner member)
      · exact ⟨fun _ _ _ => id, fun _ => List.mem_cons_of_mem _, fun _ => id⟩
  | finishBuild provisioner =>
      cases answer with
      | error failure => exact ⟨⟨sound, .refl shared⟩, trivial⟩
      | ok _ =>
        have started : provisioner ∈ shared.started := holds _ permitted
        refine ⟨⟨⟨sound.cache.mono fun _ => List.mem_cons_of_mem _, ?_⟩, ?_⟩, List.mem_cons_self⟩
        · exact List.forall_mem_cons.mpr ⟨started, sound.finished⟩
        · exact ⟨fun _ _ _ => id, fun _ => id, fun _ => List.mem_cons_of_mem _⟩
  | settleSlot slot built =>
      cases built with
      | none => exact ⟨sound.setState nofun, trivial⟩
      | some provisioner =>
        have finished : provisioner ∈ shared.finished := holds _ permitted.2
        have offers : shared.cache.Offers slot provisioner.key provisioner.spec :=
          holds _ permitted.1
        refine ⟨sound.setState fun other same => ?_, trivial⟩
        obtain rfl := SlotState.ready.inj same
        exact ⟨finished, offers⟩
  | annotate request arn =>
      cases answer with
      | error reason => exact ⟨⟨sound, .refl shared⟩, trivial⟩
      | ok _ => exact ⟨⟨⟨sound.cache, sound.finished⟩, ⟨fun _ _ _ => id, fun _ => id, fun _ => id⟩⟩,
          trivial⟩
  | writeStatus request status =>
      cases answer with
      | error reason => exact ⟨⟨sound, .refl shared⟩, trivial⟩
      | ok _ => exact ⟨⟨⟨sound.cache, sound.finished⟩, ⟨fun _ _ _ => id, fun _ => id, fun _ => id⟩⟩,
          trivial⟩
  | _ => exact ⟨⟨sound, .refl shared⟩, trivial⟩

end SharedState

/-- A caller did what was permitted, and it will. -/
structure Caller.IsSound (caller : Caller) (shared : SharedState) : Prop where
  meets : caller.rest.Meets (Reconcile.Permits caller.place) caller.observed
  holds : ∀ observation ∈ caller.observed, observation.Holds shared
  permitted : ∀ before observation after, caller.observed = before ++ observation :: after →
    Reconcile.Permits caller.place before observation.effect
  once : caller.observed.countP Observation.isAuthorityCall ≤ 1

/-- The shared state and all callers are sound. -/
structure Crowd.IsSound (crowd : Crowd) : Prop where
  shared : crowd.shared.IsSound
  callers : ∀ caller ∈ crowd.callers, caller.IsSound crowd.shared

namespace Reconcile

/-- No call on an authority leads to a provisioner. -/
theorem Leads.countP_isAuthorityCall {place : ResourceName} {request : CertificateRequest}
    {provisioner : Provisioner} {observed : List Observation}
    (leads : Leads place request provisioner observed) :
    observed.countP Observation.isAuthorityCall = 0 := by
  obtain ⟨unsettled, equipped, equips, rfl⟩ := leads
  refine List.countP_eq_zero.mpr fun earlier member => ?_
  rcases List.mem_cons.mp member with rfl | later
  · nofun
  · simp [Observation.isAuthorityCall_eq_false (equips.isPreparation earlier later)]

/-- A call on the authority is the first one. -/
theorem countP_isAuthorityCall {place : ResourceName} {observed : List Observation}
    {observation : Observation} (permitted : Permits place observed observation.effect)
    (call : observation.isAuthorityCall = true) :
    observed.countP Observation.isAuthorityCall = 0 := by
  obtain ⟨effect, answer⟩ := observation
  cases effect with
  | sign provisioner request => exact permitted.1.countP_isAuthorityCall
  | collect provisioner request arn => exact permitted.1.countP_isAuthorityCall
  | _ => cases call

end Reconcile

namespace Caller

variable {caller : Caller} {shared : SharedState}

theorem IsSound.mono (sound : caller.IsSound shared) {later : SharedState}
    (grown : shared.Extends later) : caller.IsSound later where
  meets := sound.meets
  holds observation member := (sound.holds observation member).mono grown
  permitted := sound.permitted
  once := sound.once

/-- What a caller attempts is permitted, and what it observed before holds. -/
theorem IsSound.attempted (sound : caller.IsSound shared) {before : List Observation}
    {effect : Effect} (attempts : caller.Attempts before effect) :
    Reconcile.Permits caller.place before effect ∧
      ∀ observation ∈ before, observation.Holds shared := by
  rcases attempts with ⟨answer, after, split⟩ | ⟨rfl, next, rest⟩
  · refine ⟨sound.permitted _ _ _ split, fun observation member => ?_⟩
    exact sound.holds observation (split ▸ List.mem_append_left _ member)
  · have meets := sound.meets
    rw [rest] at meets
    cases meets with
    | perform permitted continued => exact ⟨permitted, sound.holds⟩

/-- A reconciliation is sound before it has observed anything. -/
theorem isSound_join (config : ControllerConfig) (place : ResourceName) (shared : SharedState) :
    IsSound ⟨place, [], Reconcile.reconcile config place.namespaceName place.name⟩ shared where
  meets := Reconcile.reconcile_meets config place
  holds _ member := absurd member List.not_mem_nil
  permitted before observation after split := by simp at split
  once := Nat.zero_le 1

/-- A caller stays sound when it performs an effect. -/
theorem IsSound.perform {place : ResourceName} {observed : List Observation} {effect : Effect}
    {next : effect.Answer → Program Reconcile.Outcome} (answer : effect.Answer)
    (sound : IsSound ⟨place, observed, .perform effect next⟩ shared)
    (grown : shared.Extends (shared.after ⟨effect, answer⟩))
    (holds : Observation.Holds (shared.after ⟨effect, answer⟩) ⟨effect, answer⟩) :
    IsSound ⟨place, observed ++ [⟨effect, answer⟩], next answer⟩
      (shared.after ⟨effect, answer⟩) := by
  cases sound.meets with
  | perform permitted rest =>
    refine ⟨rest answer, ?_, ?_, ?_⟩
    · refine List.forall_mem_append.mpr ⟨fun earlier member => ?_, ?_⟩
      · exact (sound.holds earlier member).mono grown
      · exact List.forall_mem_singleton.mpr holds
    · intro before observation after split
      rcases List.eq_nil_or_concat after with rfl | ⟨between, last, rfl⟩
      · obtain ⟨rfl, same⟩ := List.append_inj' split rfl
        obtain rfl := List.head_eq_of_cons_eq same
        exact permitted
      · rw [List.concat_eq_append, ← List.cons_append, ← List.append_assoc] at split
        exact sound.permitted before observation between (List.append_inj' split rfl).1
    · rw [List.countP_append]
      cases call : Observation.isAuthorityCall ⟨effect, answer⟩ with
      | true =>
        rw [Reconcile.countP_isAuthorityCall permitted call, Nat.zero_add]
        exact List.countP_le_length
      | false =>
        have once := sound.once
        simpa [call] using once

end Caller

namespace Crowd

theorem IsSound.step {config : ControllerConfig} {crowd next : Crowd} (sound : crowd.IsSound)
    (step : Step config crowd next) : next.IsSound := by
  cases step with
  | join shared callers place =>
    exact ⟨sound.shared, List.forall_mem_cons.mpr
      ⟨Caller.isSound_join config place shared, sound.callers⟩⟩
  | @perform shared earlier later place observed effect rest answer admitted =>
    obtain ⟨others, caller, behind⟩ : (∀ other ∈ earlier, other.IsSound shared) ∧
        Caller.IsSound ⟨place, observed, .perform effect rest⟩ shared ∧
        ∀ other ∈ later, other.IsSound shared := by
      simpa [or_imp, forall_and] using sound.callers
    have permitted : Reconcile.Permits place observed effect := by
      cases caller.meets with
      | perform permitted rest => exact permitted
    obtain ⟨⟨safe, grown⟩, holds⟩ := sound.shared.observe caller.holds permitted admitted
    refine ⟨safe, List.forall_mem_append.mpr ⟨fun other member => ?_, ?_⟩⟩
    · exact (others other member).mono grown
    · refine List.forall_mem_cons.mpr ⟨caller.perform answer grown holds, fun other member => ?_⟩
      exact (behind other member).mono grown
  | change shared callers cluster =>
    have grown : shared.Extends { shared with cluster } :=
      ⟨fun _ _ _ => id, fun _ => id, fun _ => id⟩
    exact ⟨⟨sound.shared.cache, sound.shared.finished⟩, fun caller member =>
      (sound.callers caller member).mono grown⟩
  | invalidate shared callers key =>
    obtain ⟨safe, grown⟩ := sound.shared.recache (sound.shared.cache.invalidate key)
      fun _ _ _ => id
    exact ⟨safe, fun caller member => (sound.callers caller member).mono grown⟩
  | clear shared callers =>
    obtain ⟨safe, grown⟩ := sound.shared.recache sound.shared.cache.clear fun _ _ _ => id
    exact ⟨safe, fun caller member => (sound.callers caller member).mono grown⟩
  | abandon shared earlier later gone slot =>
    obtain ⟨safe, grown⟩ :
        _ ∧ shared.Extends { shared with cache := shared.cache.settle slot none } :=
      sound.shared.setState nofun
    refine ⟨safe, fun caller member => (sound.callers caller ?_).mono grown⟩
    rcases List.mem_append.mp member with early | late
    · exact List.mem_append_left _ early
    · exact List.mem_append_right _ (List.mem_cons_of_mem _ late)

/-- Every reachable crowd is sound. -/
theorem Reachable.isSound {config : ControllerConfig} {crowd : Crowd}
    (reachable : Reachable config crowd) : crowd.IsSound := by
  induction reachable with
  | start cluster =>
      have safe : SharedState.IsSound { cluster } :=
        ⟨ProvisionerCache.isSound_empty, fun _ member => absurd member List.not_mem_nil⟩
      exact ⟨safe, fun _ member => absurd member List.not_mem_nil⟩
  | step reachable step ih => exact ih.step step

end Crowd

end Issuance
