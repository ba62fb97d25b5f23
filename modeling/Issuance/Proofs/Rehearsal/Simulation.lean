import Mathlib.Data.List.Forall2
import Issuance.Proofs.Crowd.Soundness
import Issuance.Proofs.Run.History
import Issuance.Rehearsal.Dispatch

/- What a rehearsal answers is what the shared state admits. -/
namespace Issuance.Rehearsal

namespace World

/-- The world has the resources and the cache of the shared state, and its next build is new. -/
structure Represents (world : World) (shared : SharedState) : Prop where
  cluster : world.cluster = shared.cluster
  cache : world.cache = shared.cache
  builds : ∀ provisioner ∈ shared.started, provisioner.number ≤ world.builds

/-- Nothing is arranged for the time right after a read. -/
structure IsCalm (world : World) : Prop where
  condition : world.arrivingCondition = none
  deletion : world.deletesAfterRead = false

/-- The later world differs in nothing that the shared state knows. -/
structure Keeps (world later : World) : Prop where
  cluster : later.cluster = world.cluster
  cache : later.cache = world.cache
  builds : later.builds = world.builds
  condition : later.arrivingCondition = world.arrivingCondition
  deletion : later.deletesAfterRead = world.deletesAfterRead

variable {world later : World} {shared : SharedState}

theorem Keeps.refl (world : World) : world.Keeps world := ⟨rfl, rfl, rfl, rfl, rfl⟩

theorem Keeps.record (world : World) (entry : Record) : world.Keeps (world.record entry) :=
  ⟨rfl, rfl, rfl, rfl, rfl⟩

theorem Keeps.trans {last : World} (first : world.Keeps later) (second : later.Keeps last) :
    world.Keeps last where
  cluster := second.cluster.trans first.cluster
  cache := second.cache.trans first.cache
  builds := second.builds.trans first.builds
  condition := second.condition.trans first.condition
  deletion := second.deletion.trans first.deletion

theorem Keeps.represents (keeps : world.Keeps later) (represents : world.Represents shared) :
    later.Represents shared where
  cluster := keeps.cluster.trans represents.cluster
  cache := keeps.cache.trans represents.cache
  builds := by
    rw [keeps.builds]
    exact represents.builds

theorem Keeps.isCalm (keeps : world.Keeps later) (calm : world.IsCalm) : later.IsCalm where
  condition := keeps.condition.trans calm.condition
  deletion := keeps.deletion.trans calm.deletion

theorem keeps_converse {α : Type} (world : World) (index : Nat) (backing : Backing)
    (exchange : Exchange PrivateCa.Call PrivateCa.Reply ProvisionerFailure α) :
    world.Keeps (world.converse index backing exchange).2 := by
  unfold converse
  cases exchange.question? with
  | none => exact ⟨rfl, rfl, rfl, rfl, rfl⟩
  | some call => exact ⟨rfl, rfl, rfl, rfl, rfl⟩

theorem keeps_sign (world : World) (provisioner : Provisioner) (request : CertificateRequest) :
    world.Keeps (world.sign provisioner request).2 := by
  unfold sign
  cases world.backing? provisioner with
  | none => exact ⟨rfl, rfl, rfl, rfl, rfl⟩
  | some found => exact (Keeps.record world _).trans (keeps_converse _ _ _ _)

theorem keeps_collect (world : World) (provisioner : Provisioner) (request : CertificateRequest)
    (arn : String) : world.Keeps (world.collect provisioner request arn).2 := by
  unfold collect
  cases world.backing? provisioner with
  | none => exact ⟨rfl, rfl, rfl, rfl, rfl⟩
  | some found => exact (Keeps.record world _).trans (keeps_converse _ _ _ _)

/-- The shared state after an effect that the world answers, with the resources of the world. -/
structure Answers (world : World) (shared : SharedState) (observation : Observation)
    (later : World) : Prop where
  admitted : shared.Admits observation
  represents : later.Represents { shared.after observation with cluster := later.cluster }
  calm : world.IsCalm → later.IsCalm ∧ later.cluster = (shared.after observation).cluster

/-- An effect that the shared state does not notice. -/
theorem Keeps.answers (keeps : world.Keeps later) (represents : world.Represents shared)
    {observation : Observation} (admitted : shared.Admits observation)
    (unnoticed : shared.after observation = shared) :
    world.Answers shared observation later := by
  have kept := keeps.represents represents
  refine ⟨admitted, ?_, fun calm => ⟨keeps.isCalm calm, ?_⟩⟩
  · rw [unnoticed, kept.cluster]
    exact kept
  · rw [unnoticed, kept.cluster]

/-- A request changes in the world as it does in the shared state. -/
theorem Keeps.answers_change (keeps : world.Keeps later) (represents : world.Represents shared)
    {observation : Observation} {name : ResourceName}
    {change : CertificateRequest → CertificateRequest} (admitted : shared.Admits observation)
    (changed : shared.after observation =
      { shared with cluster := shared.cluster.changeRequest name change }) :
    world.Answers shared observation
      { later with cluster := later.cluster.changeRequest name change } := by
  have kept := keeps.represents represents
  have rest := keeps.isCalm
  refine ⟨admitted, ?_, fun calm => ⟨⟨(rest calm).1, (rest calm).2⟩, ?_⟩⟩
  · rw [changed]
    exact ⟨rfl, kept.cache, kept.builds⟩
  · rw [changed, kept.cluster]

/-- A read shows the stored request before anything that is arranged takes place. -/
theorem answers_readRequest (represents : world.Represents shared) (namespaceName name : String) :
    world.Answers shared
      ⟨.readRequest namespaceName name, (world.readRequest ⟨namespaceName, name⟩).1⟩
      (world.readRequest ⟨namespaceName, name⟩).2 := by
  have seen := Keeps.record world (.read ⟨namespaceName, name⟩)
  unfold readRequest
  dsimp only
  split
  · exact seen.answers represents trivial rfl
  · cases found : world.cluster.request? ⟨namespaceName, name⟩ with
    | none =>
      rw [represents.cluster] at found
      exact seen.answers represents found.symm rfl
    | some request =>
      rw [represents.cluster] at found
      refine ⟨found.symm, ⟨rfl, represents.cache, represents.builds⟩, fun calm => ?_⟩
      have condition : (world.record (.read ⟨namespaceName, name⟩)).arrivingCondition = none :=
        calm.condition
      have deletion : (world.record (.read ⟨namespaceName, name⟩)).deletesAfterRead = false :=
        calm.deletion
      refine ⟨⟨rfl, rfl⟩, ?_⟩
      simp only [afterRead, condition, deletion]
      exact represents.cluster

/-- A write changes a stored request, or it fails and changes nothing. -/
theorem Keeps.answers_write (keeps : world.Keeps later) (represents : world.Represents shared)
    (operation : StoreOperation) {name : ResourceName}
    {change : CertificateRequest → CertificateRequest} (observe : StoreAnswer Unit → Observation)
    (refused : ∀ reason, shared.Admits (observe (.error reason)) ∧
      shared.after (observe (.error reason)) = shared)
    (admitted : (shared.cluster.request? name).isSome = true → shared.Admits (observe (.ok ())))
    (changed : shared.after (observe (.ok ())) =
      { shared with cluster := shared.cluster.changeRequest name change }) :
    world.Answers shared (observe (later.write operation name change).1)
      (later.write operation name change).2 := by
  have kept := keeps.represents represents
  unfold write
  split
  · exact keeps.answers represents (refused _).1 (refused _).2
  · rw [kept.cluster]
    cases found : shared.cluster.request? name with
    | none => exact keeps.answers represents (refused _).1 (refused _).2
    | some request =>
      have present := admitted (by rw [found]; rfl)
      have changes := keeps.answers_change represents present changed
      rwa [kept.cluster] at changes

/-- A build goes on, or it is done with the outcome that was settled for it. -/
theorem finishBuild_cases (world : World) (number : Nat) :
    (∃ outcome later, world.finishBuild number = .answered outcome later ∧ world.Keeps later) ∨
      ∃ later, world.finishBuild number = .waiting later ∧ world.Keeps later := by
  unfold finishBuild
  cases world.pending.lookup number with
  | none => exact .inl ⟨_, _, rfl, ⟨rfl, rfl, rfl, rfl, rfl⟩⟩
  | some build =>
    dsimp only
    split
    · exact .inl ⟨_, _, rfl, ⟨rfl, rfl, rfl, rfl, rfl⟩⟩
    · exact .inr ⟨_, rfl, ⟨rfl, rfl, rfl, rfl, rfl⟩⟩

/-- Only the cache takes notice of the effect. -/
theorem Represents.answers_recache (represents : world.Represents shared)
    {observation : Observation} {cache : ProvisionerCache} (admitted : shared.Admits observation)
    (recached : shared.after observation = { shared with cache }) :
    world.Answers shared observation { world with cache } := by
  refine ⟨admitted, ?_, fun calm => ⟨⟨calm.condition, calm.deletion⟩, ?_⟩⟩
  · rw [recached]
    exact ⟨rfl, rfl, represents.builds⟩
  · rw [recached]
    exact represents.cluster

/-- An issuer that is looked up is the stored one, unless the store fails. -/
theorem Represents.answers_lookUp {α : Type} (represents : world.Represents shared)
    (entry : Record) {found : Option α} (observe : StoreAnswer (Option α) → Observation)
    (failed : ∀ reason, shared.Admits (observe (.error reason)))
    (shown : shared.Admits (observe (.ok found)))
    (unnoticed : ∀ answer, shared.after (observe answer) = shared) :
    world.Answers shared (observe (world.lookUp entry found).1) (world.lookUp entry found).2 := by
  refine (Keeps.record world entry).answers represents ?_ (unnoticed _)
  unfold lookUp
  dsimp only
  split
  · exact failed _
  · exact shown

section Effects

variable (represents : world.Represents shared)

include represents

theorem Represents.answers_readIssuer {namespaceName name : String}
    {answer : (Effect.readIssuer namespaceName name).Answer}
    (answered : world.answer (.readIssuer namespaceName name) = .answered answer later) :
    world.Answers shared ⟨.readIssuer namespaceName name, answer⟩ later := by
  obtain ⟨rfl, rfl⟩ := Reaction.answered.inj answered
  apply represents.answers_lookUp _ fun answer => ⟨.readIssuer namespaceName name, answer⟩
  · exact fun _ => trivial
  · exact congrArg (·.issuer? ⟨namespaceName, name⟩) represents.cluster
  · exact fun _ => rfl

theorem Represents.answers_readClusterIssuer {name : String}
    {answer : (Effect.readClusterIssuer name).Answer}
    (answered : world.answer (.readClusterIssuer name) = .answered answer later) :
    world.Answers shared ⟨.readClusterIssuer name, answer⟩ later := by
  obtain ⟨rfl, rfl⟩ := Reaction.answered.inj answered
  apply represents.answers_lookUp _ fun answer => ⟨.readClusterIssuer name, answer⟩
  · exact fun _ => trivial
  · exact congrArg (·.clusterIssuer? name) represents.cluster
  · exact fun _ => rfl

theorem Represents.answers_enterSlot {key : AuthorityKey} {spec : IssuerSpec} {slot : Nat}
    (answered : world.answer (.enterSlot key spec) = .answered slot later) :
    world.Answers shared ⟨.enterSlot key spec, slot⟩ later := by
  obtain ⟨rfl, rfl⟩ := Reaction.answered.inj answered
  have entered := congrArg (·.enter key spec) represents.cache
  apply represents.answers_recache
  · exact congrArg Prod.fst entered
  · exact congrArg (fun cache => { shared with cache }) (congrArg Prod.snd entered).symm

theorem Represents.answers_acquireSlot {slot : Nat} {held : Option Provisioner}
    (answered : world.answer (.acquireSlot slot) = .answered held later) :
    world.Answers shared ⟨.acquireSlot slot, held⟩ later := by
  simp only [World.answer] at answered
  split at answered
  · cases answered
  · next given cache acquired =>
    obtain ⟨rfl, rfl⟩ := Reaction.answered.inj answered
    rw [represents.cache] at acquired
    apply represents.answers_recache
    · simp [SharedState.Admits, acquired]
    · simp [SharedState.after, acquired]

/-- The number of a build is higher than those of all earlier builds. -/
theorem Represents.answers_startBuild {key : AuthorityKey} {spec : IssuerSpec} {number : Nat}
    (answered : world.answer (.startBuild key spec) = .answered number later) :
    world.Answers shared ⟨.startBuild key spec, number⟩ later := by
  obtain ⟨rfl, rfl⟩ := Reaction.answered.inj answered
  have fresh : ∀ provisioner ∈ shared.started, provisioner.number ≠ world.builds + 1 := by
    intro provisioner started
    have below := represents.builds provisioner started
    omega
  have numbered : ∀ provisioner ∈ ⟨world.builds + 1, key, spec⟩ :: shared.started,
      provisioner.number ≤ world.builds + 1 := by
    refine List.forall_mem_cons.mpr ⟨Nat.le_refl _, fun provisioner started => ?_⟩
    exact Nat.le_succ_of_le (represents.builds provisioner started)
  exact ⟨fresh, ⟨rfl, represents.cache, numbered⟩, fun calm =>
    ⟨⟨calm.condition, calm.deletion⟩, represents.cluster⟩⟩

theorem Represents.answers_finishBuild {provisioner : Provisioner}
    {outcome : Except ProvisionerFailure Unit}
    (answered : world.answer (.finishBuild provisioner) = .answered outcome later) :
    world.Answers shared ⟨.finishBuild provisioner, outcome⟩ later := by
  simp only [World.answer] at answered
  obtain ⟨settled, final, finished, keeps⟩ | ⟨final, waits, _⟩ :=
    world.finishBuild_cases provisioner.number
  · rw [finished] at answered
    obtain ⟨rfl, rfl⟩ := Reaction.answered.inj answered
    have kept := keeps.represents represents
    cases settled with
    | error failure => exact keeps.answers represents trivial rfl
    | ok _ =>
      exact ⟨trivial, ⟨rfl, kept.cache, kept.builds⟩, fun calm =>
        ⟨keeps.isCalm calm, kept.cluster⟩⟩
  · rw [waits] at answered
    cases answered

theorem Represents.answers_settleSlot {slot : Nat} {built : Option Provisioner} {answer : Unit}
    (answered : world.answer (.settleSlot slot built) = .answered answer later) :
    world.Answers shared ⟨.settleSlot slot built, answer⟩ later := by
  obtain ⟨_, rfl⟩ := Reaction.answered.inj answered
  apply represents.answers_recache
  · exact trivial
  · exact congrArg (fun cache => { shared with cache := cache.settle slot built })
      represents.cache.symm

theorem Represents.answers_annotate {request : CertificateRequest} {arn : String}
    {answer : StoreAnswer Unit}
    (answered : world.answer (.annotate request arn) = .answered answer later) :
    world.Answers shared ⟨.annotate request arn, answer⟩ later := by
  obtain ⟨rfl, rfl⟩ := Reaction.answered.inj answered
  exact (Keeps.record world _).answers_write represents .annotate
    (fun answer => ⟨.annotate request arn, answer⟩) (fun _ => ⟨trivial, rfl⟩) id rfl

theorem Represents.answers_writeStatus {request : CertificateRequest}
    {status : CertificateRequestStatus} {answer : StoreAnswer Unit}
    (answered : world.answer (.writeStatus request status) = .answered answer later) :
    world.Answers shared ⟨.writeStatus request status, answer⟩ later := by
  have seen : world.Keeps ({ world with statusWrites := world.statusWrites + 1 }.record
      (.status request.metadata.resourceName status)) := ⟨rfl, rfl, rfl, rfl, rfl⟩
  obtain ⟨rfl, rfl⟩ := Reaction.answered.inj answered
  exact seen.answers_write represents .status
    (fun answer => ⟨.writeStatus request status, answer⟩) (fun _ => ⟨trivial, rfl⟩) id rfl

theorem Represents.answers_publish {event : Event} {answer : Unit}
    (answered : world.answer (.publish event) = .answered answer later) :
    world.Answers shared ⟨.publish event, answer⟩ later := by
  obtain ⟨_, rfl⟩ := Reaction.answered.inj answered
  split
  · exact (Keeps.record world _).answers represents trivial rfl
  · exact (Keeps.refl world).answers represents trivial rfl

/-- Every answer of the world is one that the shared state admits. -/
theorem Represents.answers {effect : Effect} {answer : effect.Answer}
    (answered : world.answer effect = .answered answer later) :
    world.Answers shared ⟨effect, answer⟩ later := by
  cases effect with
  | readRequest namespaceName name =>
      obtain ⟨rfl, rfl⟩ := Reaction.answered.inj answered
      exact answers_readRequest represents namespaceName name
  | readIssuer namespaceName name => exact represents.answers_readIssuer answered
  | readClusterIssuer name => exact represents.answers_readClusterIssuer answered
  | enterSlot key spec => exact represents.answers_enterSlot answered
  | acquireSlot slot => exact represents.answers_acquireSlot answered
  | startBuild key spec => exact represents.answers_startBuild answered
  | finishBuild provisioner => exact represents.answers_finishBuild answered
  | settleSlot slot built => exact represents.answers_settleSlot answered
  | sign provisioner request =>
      obtain ⟨rfl, rfl⟩ := Reaction.answered.inj answered
      exact (keeps_sign world provisioner request).answers represents trivial rfl
  | collect provisioner request arn =>
      obtain ⟨rfl, rfl⟩ := Reaction.answered.inj answered
      exact (keeps_collect world provisioner request arn).answers represents trivial rfl
  | stamp =>
      obtain ⟨rfl, rfl⟩ := Reaction.answered.inj answered
      exact (Keeps.refl world).answers represents trivial rfl
  | annotate request arn => exact represents.answers_annotate answered
  | writeStatus request status => exact represents.answers_writeStatus answered
  | publish event => exact represents.answers_publish answered

end Effects

/-- A caller waits only for a slot or for a build, and nothing changes meanwhile. -/
theorem keeps_of_waiting {effect : Effect} (waits : world.answer effect = .waiting later) :
    world.Keeps later := by
  cases effect with
  | acquireSlot slot =>
      simp only [World.answer] at waits
      split at waits
      · obtain rfl := Reaction.waiting.inj waits
        exact ⟨rfl, rfl, rfl, rfl, rfl⟩
      · cases waits
  | finishBuild provisioner =>
      simp only [World.answer] at waits
      rcases world.finishBuild_cases provisioner.number with
        ⟨outcome, final, finished, _⟩ | ⟨final, waiting, keeps⟩
      · rw [finished] at waits
        cases waits
      · rw [waiting] at waits
        obtain rfl := Reaction.waiting.inj waits
        exact keeps
  | _ => cases waits

end World

namespace Progress

/-- What is left to do ends with a value after these observations. -/
def Returns {α : Type} : Progress α → List Observation → α → Prop
  | .finished value, trace, result => trace = [] ∧ result = value
  | .blocked program, trace, result => program.Returns trace result

end Progress

namespace World

variable {world later : World} {shared : SharedState}

/-- A calm world moves a program on by observations that the shared state admits. -/
structure Moves {α : Type} (world : World) (shared : SharedState) (progress : Progress α)
    (trace : List Observation) (moved : Progress α) (later : World) : Prop where
  admitted : shared.AdmitsAll trace
  represents : later.Represents (shared.afterAll trace)
  calm : later.IsCalm
  continues : ∀ more value, moved.Returns more value → progress.Returns (trace ++ more) value

theorem run_moves {α : Type} (program : Program α) (represents : world.Represents shared)
    (calm : world.IsCalm) :
    ∃ trace, world.Moves shared (.blocked program) trace (world.run program).1
      (world.run program).2 := by
  induction program generalizing world shared with
  | pure value =>
      refine ⟨[], trivial, represents, calm, fun more result same => ?_⟩
      exact Program.returns_pure.mpr same
  | perform effect next ih =>
      rw [run]
      split
      · next answer current answered =>
        have answers := represents.answers answered
        obtain ⟨stays, same⟩ := answers.calm calm
        have represented := answers.represents
        rw [same] at represented
        obtain ⟨trace, moves⟩ := ih answer represented stays
        refine ⟨⟨effect, answer⟩ :: trace, ⟨answers.admitted, moves.admitted⟩, moves.represents,
          moves.calm, fun more value returned => ?_⟩
        exact .perform answer (moves.continues more value returned)
      · next current waits =>
        have keeps := keeps_of_waiting waits
        exact ⟨[], trivial, keeps.represents represents, keeps.isCalm calm, fun _ _ => id⟩

theorem turn_moves {α : Type} (progress : Progress α) (represents : world.Represents shared)
    (calm : world.IsCalm) :
    ∃ trace, world.Moves shared progress trace (world.turn progress).1 (world.turn progress).2 := by
  cases progress with
  | finished value => exact ⟨[], trivial, represents, calm, fun _ _ => id⟩
  | blocked program => exact run_moves program represents calm

/-- A single caller moves on in every round. -/
theorem rounds_move {α : Type} (count : Nat) (progress : Progress α)
    (represents : world.Represents shared) (calm : world.IsCalm) :
    ∃ trace moved, (world.rounds count [progress]).1 = [moved] ∧
      world.Moves shared progress trace moved (world.rounds count [progress]).2 := by
  induction count generalizing world shared progress with
  | zero => exact ⟨[], progress, rfl, trivial, represents, calm, fun _ _ => id⟩
  | succ count ih =>
      obtain ⟨before, first⟩ := turn_moves progress represents calm
      obtain ⟨after, moved, alone, rest⟩ :=
        ih (world.turn progress).1 first.represents first.calm
      refine ⟨before ++ after, moved, alone, ?_, ?_, rest.calm, fun more value returned => ?_⟩
      · exact SharedState.admitsAll_append.mpr ⟨first.admitted, rest.admitted⟩
      · rw [SharedState.afterAll_append]
        exact rest.represents
      · rw [List.append_assoc]
        exact first.continues _ value (rest.continues more value returned)

/-- A reconciliation that ends in a calm world takes place in the shared state. -/
theorem reconcile_takesPlace (represents : world.Represents shared) (calm : world.IsCalm)
    {place : ResourceName} {outcome : Reconcile.Outcome}
    (ended : (world.reconcile place.namespaceName place.name).1 = some outcome) :
    ∃ step : Reconciliation, step.place = place ∧ step.before = shared ∧ step.outcome = outcome ∧
      step.TakesPlace world.config ∧
      (world.reconcile place.namespaceName place.name).2.Represents step.after ∧
      (world.reconcile place.namespaceName place.name).2.IsCalm := by
  obtain ⟨trace, moved, alone, moves⟩ := rounds_move (world.roundLimit 1)
    (.blocked (Reconcile.reconcile world.config place.namespaceName place.name)) represents calm
  have last : (world.reconcile place.namespaceName place.name).1 = moved.value? := by
    simp only [reconcile, runOne, runAll]
    rw [List.map_singleton, List.length_singleton, alone]
    rfl
  rw [last] at ended
  cases moved with
  | blocked program => cases ended
  | finished value =>
    obtain rfl := Option.some.inj ended
    have returned := moves.continues [] value ⟨rfl, rfl⟩
    rw [List.append_nil] at returned
    exact ⟨⟨place, shared, trace, value⟩, rfl, rfl, rfl, ⟨returned, moves.admitted⟩,
      moves.represents, moves.calm⟩

end World

/-- A caller of the crowd stands where its progress in the rehearsal says. -/
inductive Follows : Progress Reconcile.Outcome → Caller → Prop where
  | finished (place : ResourceName) (observed : List Observation) (outcome : Reconcile.Outcome) :
      Follows (.finished outcome) ⟨place, observed, .pure outcome⟩
  | blocked (place : ResourceName) (observed : List Observation)
      (program : Program Reconcile.Outcome) :
      Follows (.blocked program) ⟨place, observed, program⟩

/-- The world and the progress of its callers show a reachable crowd, in which others are parked. -/
def Shows (config : ControllerConfig) (parked : List Caller) (world : World)
    (progress : List (Progress Reconcile.Outcome)) : Prop :=
  ∃ shared callers, world.Represents shared ∧ List.Forall₂ Follows progress callers ∧
    Crowd.Reachable config ⟨shared, callers ++ parked⟩

namespace World

variable {config : ControllerConfig} {world : World} {shared : SharedState}
  {earlier behind : List Caller}

/-- A caller that takes its turn in the world takes it in the crowd. -/
theorem run_reachable {place : ResourceName} {observed : List Observation}
    {program : Program Reconcile.Outcome} (represents : world.Represents shared)
    (reachable : Crowd.Reachable config ⟨shared, earlier ++ ⟨place, observed, program⟩ :: behind⟩) :
    ∃ last caller, (world.run program).2.Represents last ∧
      Follows (world.run program).1 caller ∧
      Crowd.Reachable config ⟨last, earlier ++ caller :: behind⟩ := by
  induction program generalizing world shared observed with
  | pure outcome =>
      exact ⟨shared, _, represents, .finished place observed outcome, reachable⟩
  | perform effect next ih =>
      rw [run]
      split
      · next answer later answered =>
        have answers := represents.answers answered
        have performed := reachable.step (.perform answer answers.admitted)
        exact ih answer answers.represents (performed.step (.change _ _ later.cluster))
      · next later waits =>
        have kept := (keeps_of_waiting waits).represents represents
        exact ⟨shared, _, kept, .blocked place observed _, reachable⟩

theorem turn_reachable {progress : Progress Reconcile.Outcome} {caller : Caller}
    (represents : world.Represents shared) (follows : Follows progress caller)
    (reachable : Crowd.Reachable config ⟨shared, earlier ++ caller :: behind⟩) :
    ∃ last moved, (world.turn progress).2.Represents last ∧ Follows (world.turn progress).1 moved ∧
      Crowd.Reachable config ⟨last, earlier ++ moved :: behind⟩ := by
  cases follows with
  | finished place observed outcome =>
    exact ⟨shared, _, represents, .finished place observed outcome, reachable⟩
  | blocked place observed program => exact run_reachable represents reachable

/-- A round of the rehearsal is a part of a run of the crowd. -/
theorem round_reachable {progress : List (Progress Reconcile.Outcome)}
    {callers parked : List Caller} (represents : world.Represents shared)
    (follow : List.Forall₂ Follows progress callers)
    (reachable : Crowd.Reachable config ⟨shared, earlier ++ (callers ++ parked)⟩) :
    ∃ last moved, (world.round progress).2.Represents last ∧
      List.Forall₂ Follows (world.round progress).1 moved ∧
      Crowd.Reachable config ⟨last, earlier ++ (moved ++ parked)⟩ := by
  induction follow generalizing world shared earlier with
  | nil => exact ⟨shared, [], represents, .nil, reachable⟩
  | cons follows rest ih =>
      obtain ⟨current, moved, represented, stands, reached⟩ :=
        turn_reachable represents follows reachable
      rw [List.append_cons] at reached
      obtain ⟨last, others, final, stand, ended⟩ := ih represented reached
      rw [List.append_assoc] at ended
      exact ⟨last, moved :: others, final, .cons stands stand, ended⟩

theorem shows_rounds {parked : List Caller} {progress : List (Progress Reconcile.Outcome)}
    (shown : Shows config parked world progress) (count : Nat) :
    Shows config parked (world.rounds count progress).2 (world.rounds count progress).1 := by
  induction count generalizing world progress with
  | zero => exact shown
  | succ count ih =>
      obtain ⟨shared, callers, represents, follow, reachable⟩ := shown
      have moved := @round_reachable config world shared [] _ _ _ represents follow reachable
      exact ih moved

/-- Reconciliations that a rehearsal runs side by side are callers of a reachable crowd, and each
one that is finished has its outcome there. -/
theorem reconcileAll_reachable {parked : List Caller} (represents : world.Represents shared)
    (reachable : Crowd.Reachable world.config ⟨shared, parked⟩) (namespaceName : String)
    (names : List String) :
    ∃ last callers, (world.reconcileAll namespaceName names).2.Represents last ∧
      Crowd.Reachable world.config ⟨last, callers ++ parked⟩ ∧
      List.Forall₂ (fun outcome caller => ∀ value, outcome = some value → caller.rest = .pure value)
        (world.reconcileAll namespaceName names).1 callers := by
  have begun : Shows world.config parked world
      ((names.map (Reconcile.reconcile world.config namespaceName)).map .blocked) := by
    refine ⟨shared, names.map fun name =>
      ⟨⟨namespaceName, name⟩, [], Reconcile.reconcile world.config namespaceName name⟩,
      represents, ?_, ?_⟩
    · rw [List.map_map, List.forall₂_map_left_iff, List.forall₂_map_right_iff, List.forall₂_same]
      exact fun name _ => .blocked _ _ _
    · induction names with
      | nil => exact reachable
      | cons name names ih => exact ih.step (.join _ _ ⟨namespaceName, name⟩)
  obtain ⟨last, callers, final, follow, reached⟩ := shows_rounds begun
    (world.roundLimit (names.map (Reconcile.reconcile world.config namespaceName)).length)
  refine ⟨last, callers, final, reached, ?_⟩
  refine List.forall₂_map_left_iff.mpr (follow.imp fun progress caller follows => ?_)
  intro value same
  cases follows with
  | finished place observed outcome =>
    obtain rfl := Option.some.inj same
    rfl
  | blocked place observed program => cases same

end World

end Issuance.Rehearsal
