import Mathlib.Data.List.Nodup
import Issuance.Proofs.Crowd.AuthorityCalls

namespace Issuance

/-- A program goes on with some observations, and a rest is left. -/
inductive Program.GoesOn {α : Type} : Program α → List Observation → Program α → Prop where
  | refl (program : Program α) : GoesOn program [] program
  | perform {effect : Effect} {next : effect.Answer → Program α} {trace : List Observation}
      {rest : Program α} (answer : effect.Answer) (goesOn : GoesOn (next answer) trace rest) :
      GoesOn (.perform effect next) (⟨effect, answer⟩ :: trace) rest

/-- A call for a provisioner under way, with what it has observed and what it still has to do. -/
structure ProvisionerCall where
  key : AuthorityKey
  spec : IssuerSpec
  observed : List Observation
  rest : Program (Except ProvisionerFailure Provisioner)

/-- Calls for provisioners take their turns on one shared state. -/
structure ProvisionerCrowd where
  shared : SharedState
  calls : List ProvisionerCall

namespace ProvisionerCrowd

/-- A call starts or performs its next effect, or the cache forgets a key or all of them. -/
inductive Step : ProvisionerCrowd → ProvisionerCrowd → Prop where
  | join (shared : SharedState) (calls : List ProvisionerCall) (key : AuthorityKey)
      (spec : IssuerSpec) :
      Step ⟨shared, calls⟩
        ⟨shared, calls ++ [⟨key, spec, [], Reconcile.provisionerFor key spec⟩]⟩
  | perform {shared : SharedState} {earlier later : List ProvisionerCall} {key : AuthorityKey}
      {spec : IssuerSpec} {observed : List Observation} {effect : Effect}
      {next : effect.Answer → Program (Except ProvisionerFailure Provisioner)}
      (answer : effect.Answer) (admitted : shared.Admits ⟨effect, answer⟩) :
      Step ⟨shared, earlier ++ ⟨key, spec, observed, .perform effect next⟩ :: later⟩
        ⟨shared.after ⟨effect, answer⟩,
          earlier ++ ⟨key, spec, observed ++ [⟨effect, answer⟩], next answer⟩ :: later⟩
  | invalidate (shared : SharedState) (calls : List ProvisionerCall) (key : AuthorityKey) :
      Step ⟨shared, calls⟩ ⟨{ shared with cache := shared.cache.invalidate key }, calls⟩
  | clear (shared : SharedState) (calls : List ProvisionerCall) :
      Step ⟨shared, calls⟩ ⟨{ shared with cache := shared.cache.clear }, calls⟩

/-- The crowds that come from an empty cache. -/
inductive Reachable : ProvisionerCrowd → Prop where
  | start : Reachable ⟨{}, []⟩
  | step {crowd next : ProvisionerCrowd} (reachable : Reachable crowd) (step : Step crowd next) :
      Reachable next

/-- A call may go on for a while, and the others wait. -/
theorem Reachable.goesOn {shared : SharedState} {key : AuthorityKey} {spec : IssuerSpec}
    {observed : List Observation} {program rest : Program (Except ProvisionerFailure Provisioner)}
    (earlier later : List ProvisionerCall) (trace : List Observation)
    (reachable : Reachable ⟨shared, earlier ++ ⟨key, spec, observed, program⟩ :: later⟩)
    (goesOn : program.GoesOn trace rest) (admitted : shared.AdmitsAll trace) :
    Reachable
      ⟨shared.afterAll trace, earlier ++ ⟨key, spec, observed ++ trace, rest⟩ :: later⟩ := by
  induction goesOn generalizing shared observed with
  | refl program => rwa [List.append_nil]
  | perform answer goesOn ih =>
      have further := ih (reachable.step (.perform answer admitted.1)) admitted.2
      rwa [List.append_assoc, List.singleton_append] at further

end ProvisionerCrowd

/-- The call has started the build of a provisioner, and then it has finished it. -/
def ProvisionerCall.HasBuilt (call : ProvisionerCall) (provisioner : Provisioner) : Prop :=
  ∃ before after, call.observed = before ++ ⟨.finishBuild provisioner, .ok ()⟩ :: after ∧
    ⟨.startBuild provisioner.key provisioner.spec, provisioner.number⟩ ∈ before

/-- A call did what was permitted, it will, and it ends with a provisioner for its key and its
specification. -/
structure ProvisionerCall.IsSound (call : ProvisionerCall) (shared : SharedState) : Prop where
  meets : ∀ place, call.rest.Meets (Reconcile.Permits place) call.observed
  holds : ∀ observation ∈ call.observed, observation.Holds shared
  provides : ∀ trace result, call.rest.Returns trace result →
    Reconcile.Provides call.key call.spec (call.observed ++ trace) result

/-- The shared state and all calls are sound, every build has a number of its own, and what is
finished was built by one of the calls. -/
structure ProvisionerCrowd.IsSound (crowd : ProvisionerCrowd) : Prop where
  shared : crowd.shared.IsSound
  calls : ∀ call ∈ crowd.calls, call.IsSound crowd.shared
  numbered : (crowd.shared.started.map Provisioner.number).Nodup
  built : ∀ provisioner ∈ crowd.shared.finished, ∃ call ∈ crowd.calls, call.HasBuilt provisioner

namespace SharedState

variable {shared : SharedState} {observation : Observation}

/-- A build gets a number that no other build has. -/
theorem numbered_after (numbered : (shared.started.map Provisioner.number).Nodup)
    (admitted : shared.Admits observation) :
    ((shared.after observation).started.map Provisioner.number).Nodup := by
  obtain ⟨effect, answer⟩ := observation
  cases effect with
  | startBuild key spec =>
      refine List.nodup_cons.mpr ⟨fun used => ?_, numbered⟩
      obtain ⟨provisioner, member, same⟩ := List.mem_map.mp used
      exact admitted provisioner member same
  | finishBuild provisioner => cases answer <;> exact numbered
  | annotate request arn => cases answer <;> exact numbered
  | writeStatus request status => cases answer <;> exact numbered
  | _ => exact numbered

/-- Only a build that succeeds is finished. -/
theorem mem_finished_after {provisioner : Provisioner}
    (member : provisioner ∈ (shared.after observation).finished) :
    provisioner ∈ shared.finished ∨ observation = ⟨.finishBuild provisioner, .ok ()⟩ := by
  obtain ⟨effect, answer⟩ := observation
  cases effect with
  | finishBuild other =>
      cases answer with
      | error failure => exact .inl member
      | ok _ =>
        rcases List.mem_cons.mp member with rfl | earlier
        · exact .inr rfl
        · exact .inl earlier
  | annotate request arn => cases answer <;> exact .inl member
  | writeStatus request status => cases answer <;> exact .inl member
  | _ => exact .inl member

end SharedState

namespace ProvisionerCall

variable {call : ProvisionerCall} {shared : SharedState} {key : AuthorityKey} {spec : IssuerSpec}
  {observed : List Observation} {rest : Program (Except ProvisionerFailure Provisioner)}

theorem IsSound.mono (sound : call.IsSound shared) {later : SharedState}
    (grown : shared.Extends later) : call.IsSound later where
  meets := sound.meets
  holds observation member := (sound.holds observation member).mono grown
  provides := sound.provides

/-- A call is sound before it has observed anything. -/
theorem isSound_join (key : AuthorityKey) (spec : IssuerSpec) (shared : SharedState) :
    IsSound ⟨key, spec, [], Reconcile.provisionerFor key spec⟩ shared where
  meets _ := Reconcile.provisionerFor_meets
  holds _ member := absurd member List.not_mem_nil
  provides _ _ returns := Reconcile.returns_provisionerFor.mp returns

/-- A call stays sound when it performs an effect. -/
theorem IsSound.perform {effect : Effect}
    {next : effect.Answer → Program (Except ProvisionerFailure Provisioner)}
    (answer : effect.Answer) (sound : IsSound ⟨key, spec, observed, .perform effect next⟩ shared)
    (grown : shared.Extends (shared.after ⟨effect, answer⟩))
    (holds : Observation.Holds (shared.after ⟨effect, answer⟩) ⟨effect, answer⟩) :
    IsSound ⟨key, spec, observed ++ [⟨effect, answer⟩], next answer⟩
      (shared.after ⟨effect, answer⟩) := by
  constructor
  case meets =>
    intro place
    cases sound.meets place with
    | perform permitted rest => exact rest answer
  case holds =>
    refine List.forall_mem_append.mpr ⟨fun earlier member => ?_, ?_⟩
    · exact (sound.holds earlier member).mono grown
    · exact List.forall_mem_singleton.mpr holds
  case provides =>
    intro trace result returns
    rw [List.append_assoc]
    exact sound.provides _ result (.perform answer returns)

/-- What a call has built stays built. -/
theorem HasBuilt.append {provisioner : Provisioner}
    (built : HasBuilt ⟨key, spec, observed, rest⟩ provisioner) (further : List Observation)
    (remaining : Program (Except ProvisionerFailure Provisioner)) :
    HasBuilt ⟨key, spec, observed ++ further, remaining⟩ provisioner := by
  obtain ⟨before, after, split, started⟩ := built
  have split : observed = before ++ ⟨.finishBuild provisioner, .ok ()⟩ :: after := split
  refine ⟨before, after ++ further, ?_, started⟩
  rw [split, List.append_assoc, List.cons_append]

end ProvisionerCall

namespace ProvisionerCrowd

theorem IsSound.step {crowd next : ProvisionerCrowd} (sound : crowd.IsSound)
    (step : Step crowd next) : next.IsSound := by
  cases step with
  | join shared calls key spec =>
    have joined := List.forall_mem_append.mpr ⟨sound.calls,
      List.forall_mem_singleton.mpr (ProvisionerCall.isSound_join key spec shared)⟩
    refine ⟨sound.shared, joined, sound.numbered, fun provisioner member => ?_⟩
    obtain ⟨call, present, built⟩ := sound.built provisioner member
    exact ⟨call, List.mem_append_left _ present, built⟩
  | @perform shared earlier later key spec observed effect next answer admitted =>
    obtain ⟨others, call, behind⟩ : (∀ other ∈ earlier, other.IsSound shared) ∧
        ProvisionerCall.IsSound ⟨key, spec, observed, .perform effect next⟩ shared ∧
        ∀ other ∈ later, other.IsSound shared := by
      simpa [or_imp, forall_and] using sound.calls
    have permitted (place : ResourceName) : Reconcile.Permits place observed effect := by
      cases call.meets place with
      | perform permitted rest => exact permitted
    obtain ⟨⟨safe, grown⟩, holds⟩ :=
      sound.shared.observe call.holds (permitted default) admitted
    constructor
    case shared => exact safe
    case calls =>
      refine List.forall_mem_append.mpr ⟨fun other member => ?_, ?_⟩
      · exact (others other member).mono grown
      · refine List.forall_mem_cons.mpr ⟨call.perform answer grown holds, fun other member => ?_⟩
        exact (behind other member).mono grown
    case numbered => exact SharedState.numbered_after sound.numbered admitted
    case built =>
      intro provisioner member
      rcases SharedState.mem_finished_after member with old | new
      · obtain ⟨builder, present, built⟩ := sound.built provisioner old
        rcases List.mem_append.mp present with early | late
        · exact ⟨builder, List.mem_append_left _ early, built⟩
        · rcases List.mem_cons.mp late with rfl | behind
          · exact ⟨_, List.mem_append_right _ List.mem_cons_self, built.append _ _⟩
          · exact ⟨builder, List.mem_append_right _ (List.mem_cons_of_mem _ behind), built⟩
      · cases new
        exact ⟨_, List.mem_append_right _ List.mem_cons_self, observed, [], rfl,
          permitted default⟩
  | invalidate shared calls key =>
    obtain ⟨safe, grown⟩ := sound.shared.recache (sound.shared.cache.invalidate key)
      fun _ _ _ => id
    exact ⟨safe, fun call member => (sound.calls call member).mono grown, sound.numbered,
      sound.built⟩
  | clear shared calls =>
    obtain ⟨safe, grown⟩ := sound.shared.recache sound.shared.cache.clear fun _ _ _ => id
    exact ⟨safe, fun call member => (sound.calls call member).mono grown, sound.numbered,
      sound.built⟩

/-- Every reachable crowd is sound. -/
theorem Reachable.isSound {crowd : ProvisionerCrowd} (reachable : Reachable crowd) :
    crowd.IsSound := by
  induction reachable with
  | start =>
      exact ⟨⟨ProvisionerCache.isSound_empty, nofun⟩, nofun, .nil, nofun⟩
  | step reachable step ih => exact ih.step step

end ProvisionerCrowd

/-- However calls for provisioners, their builds and the forgetting of keys alternate, whenever a
call ends with a provisioner, that provisioner is for the key and the specification of the call, one
of the calls has built it for them, and no other key and no other specification was built under its
number. -/
theorem provisioner_fits_call {crowd : ProvisionerCrowd}
    (reachable : ProvisionerCrowd.Reachable crowd) :
    ∀ call ∈ crowd.calls, ∀ provisioner, call.rest = .pure (.ok provisioner) →
      provisioner.key = call.key ∧ provisioner.spec = call.spec ∧
        (∃ builder ∈ crowd.calls, builder.HasBuilt provisioner) ∧
        ∀ other ∈ crowd.calls, ∀ key spec,
          ⟨.startBuild key spec, provisioner.number⟩ ∈ other.observed →
            key = call.key ∧ spec = call.spec := by
  intro call member provisioner ended
  have sound := reachable.isSound
  have called := sound.calls call member
  have provides := called.provides [] (.ok provisioner) (ended ▸ .pure _)
  rw [List.append_nil] at provides
  obtain ⟨sameKey, sameSpec, finished⟩ := provides.isBuilt called.holds
  refine ⟨sameKey, sameSpec, sound.built provisioner finished, ?_⟩
  intro other present key spec observed
  have started : (⟨provisioner.number, key, spec⟩ : Provisioner) ∈ crowd.shared.started :=
    (sound.calls other present).holds _ observed
  have same := List.inj_on_of_nodup_map sound.numbered started
    (sound.shared.finished provisioner finished) rfl
  exact ⟨(congrArg Provisioner.key same).trans sameKey,
    (congrArg Provisioner.spec same).trans sameSpec⟩

namespace Sample

def changed : IssuerSpec := { issuer.spec with arn := "arn:other" }

def rebuilt : Provisioner := ⟨2, provisioner.key, issuer.spec⟩

/-- The first of three calls fails to build the provisioner. In the meantime, the third one takes
over the slot for a changed specification, and then the cache is cleared. The second one waits in
the lost slot and builds the provisioner again. -/
theorem exists_rebuilt :
    ∃ crowd, ProvisionerCrowd.Reachable crowd ∧ crowd.shared.cache.registered = [] ∧
      ∃ call ∈ crowd.calls, call.rest = .pure (.ok rebuilt) := by
  have joined := ((ProvisionerCrowd.Reachable.start.step
    (.join _ _ provisioner.key issuer.spec)).step
      (.join _ _ provisioner.key issuer.spec)).step (.join _ _ provisioner.key changed)
  have started := ProvisionerCrowd.Reachable.goesOn [] _
    [⟨.enterSlot provisioner.key issuer.spec, 0⟩, ⟨.acquireSlot 0, none⟩,
      ⟨.startBuild provisioner.key issuer.spec, 1⟩]
    joined (.perform _ (.perform _ (.perform _ (.refl _)))) ⟨rfl, rfl, nofun, trivial⟩
  have waiting := ProvisionerCrowd.Reachable.goesOn [_] _
    [⟨.enterSlot provisioner.key issuer.spec, 0⟩] started (.perform _ (.refl _)) ⟨rfl, trivial⟩
  have replaced := ProvisionerCrowd.Reachable.goesOn [_, _] []
    [⟨.enterSlot provisioner.key changed, 1⟩] waiting (.perform _ (.refl _)) ⟨rfl, trivial⟩
  have cleared := replaced.step (.clear _ _)
  have failed := ProvisionerCrowd.Reachable.goesOn [] _
    [⟨.finishBuild provisioner, .error .inProgress⟩, ⟨.settleSlot 0 none, ()⟩] cleared
    (.perform _ (.perform _ (.refl _))) ⟨trivial, trivial, trivial⟩
  have unused : ∀ earlier ∈ [provisioner], earlier.number ≠ 2 := by decide
  have built := ProvisionerCrowd.Reachable.goesOn [_] _
    [⟨.acquireSlot 0, none⟩, ⟨.startBuild provisioner.key issuer.spec, 2⟩,
      ⟨.finishBuild rebuilt, .ok ()⟩, ⟨.settleSlot 0 (some rebuilt), ()⟩] failed
    (.perform _ (.perform _ (.perform _ (.perform _ (.refl _)))))
    ⟨rfl, unused, trivial, trivial, trivial⟩
  exact ⟨_, built, rfl, _, List.mem_cons_of_mem _ List.mem_cons_self, rfl⟩

end Sample

/-- The call that waited in the lost slot got what was built for it. -/
theorem sample_rebuilt_in_lost_slot :
    ∃ crowd, ProvisionerCrowd.Reachable crowd ∧ crowd.shared.cache.registered = [] ∧
      ∃ call ∈ crowd.calls, call.rest = .pure (.ok Sample.rebuilt) ∧
        Sample.rebuilt.key = call.key ∧ Sample.rebuilt.spec = call.spec ∧
        ∃ builder ∈ crowd.calls, builder.HasBuilt Sample.rebuilt := by
  obtain ⟨crowd, reachable, lost, call, member, ended⟩ := Sample.exists_rebuilt
  obtain ⟨key, spec, built, _⟩ := provisioner_fits_call reachable call member Sample.rebuilt ended
  exact ⟨crowd, reachable, lost, call, member, ended, key, spec, built⟩

end Issuance
