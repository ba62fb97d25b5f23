import Mathlib.Algebra.Ring.Nat
import Issuance.Proofs.Run.Absorption
import Issuance.Proofs.Run.Consistency
import Issuance.Proofs.Run.Ending
import Issuance.Proofs.Run.Stage

namespace Issuance

namespace Reconciliation

def calls (step : Reconciliation) : List AuthorityCall := step.trace.filterMap Observation.call?

def builds (step : Reconciliation) : Nat := step.trace.countP (·.builds)

/-- How often a run has asked for a certificate. -/
def collections (steps : List Reconciliation) : Nat :=
  (steps.flatMap calls).countP AuthorityCall.isCollection

end Reconciliation

namespace Commission

variable (commission : Commission)

/-- The runs in which a request is reconciled while its authority keeps to the commission. Others
change neither the request nor its authority. -/
inductive Run (config : ControllerConfig) (first : SharedState) :
    List Reconciliation → SharedState → Prop where
  | start : Run config first [] first
  | drift {steps : List Reconciliation} {current : SharedState} {cluster : Cluster}
      (run : Run config first steps current)
      (spares : current.Spares commission.place { current with cluster })
      (kept : cluster.authority? commission.key = current.cluster.authority? commission.key) :
      Run config first steps { current with cluster }
  | reconcile {steps : List Reconciliation} {step : Reconciliation}
      (run : Run config first steps step.before) (placed : step.place = commission.place)
      (takesPlace : step.TakesPlace config)
      (granted : ∀ observation ∈ step.trace,
        commission.Grants (Reconciliation.collections steps) observation) :
      Run config first (steps ++ [step]) step.after

/-- A fresh request is there with its authority, and no build of its provisioner is under way. -/
structure Begins (shared : SharedState) (request : CertificateRequest) : Prop where
  stands : commission.Stands shared request
  unordered : request.certificateArn? = none
  fresh : (request.status.getD {}).IsFresh
  free : shared.cache.IsFree commission.authority.key commission.authority.spec
  sound : shared.cache.IsSound shared.finished

/-- What each reconciliation of a run reports and leaves behind. -/
structure Reports (config : ControllerConfig) (stamp : String) (index : Nat)
    (step : Reconciliation) : Prop where
  waits : index ≤ commission.polls →
    step.outcome = .ok (.delayed config.issuancePollInterval) ∧
      ∃ request, step.after.cluster.request? commission.place = some request ∧
        request.WaitsSince stamp
  finishes : index = commission.polls + 1 → step.outcome = .ok .none
  rests : commission.polls + 2 ≤ index → step.outcome = .ok .none ∧ step.IsIdle

variable {commission : Commission} {config : ControllerConfig} {stamp moment : String}
  {request : CertificateRequest}

/-- A reconciliation that advances a request, and what it leaves behind. -/
structure Advancing (commission : Commission) (config : ControllerConfig) (polled : Nat)
    (step : Reconciliation) (request later : CertificateRequest) (provisioner : Provisioner)
    (equipped before : List Observation) (update : StatusUpdate) (moment : String) : Prop where
  equips : Reconcile.Equips request provisioner equipped
  advances : Reconcile.Advances commission config polled request provisioner equipped before update
    step.outcome
  admitted : step.before.AdmitsAll equipped
  granted : ∀ observation ∈ equipped, commission.Grants polled observation
  stands : commission.Stands step.after later
  written : later.ownStatus = request.ownStatus.apply update moment
  kept : later.metadata = (Observation.rewriteAll before request).metadata
  cache : step.after.cache = (step.before.afterAll equipped).cache
  calls : step.calls = before.filterMap Observation.call?
  builds : step.builds = equipped.countP (·.builds)

/-- What a request does after it is equipped leaves the cache alone. -/
theorem exists_append_of_advances {polled : Nat} {provisioner : Provisioner}
    {equipped trace : List Observation} {update : StatusUpdate} {decided : Reconcile.Outcome}
    (advances : Reconcile.Advances commission config polled request provisioner equipped trace
      update decided) :
    ∃ rest, trace = equipped ++ rest ∧
      ∀ observation ∈ rest, observation.isPreparation = false := by
  cases advances with
  | orders unordered => exact ⟨_, rfl, by simp [Observation.isPreparation]⟩
  | waits ordered early => exact ⟨_, rfl, by simp [Observation.isPreparation]⟩
  | collects ordered late => exact ⟨_, rfl, by simp [Observation.isPreparation]⟩

/-- A decision about a request that is served is written. -/
theorem Stands.exists_written {step : Reconciliation} {polled : Nat}
    (stands : commission.Stands step.before request)
    (unsettled : Reconcile.isSettled request = false) (placed : step.place = commission.place)
    (takesPlace : step.TakesPlace config)
    (granted : ∀ observation ∈ step.trace, commission.Grants polled observation) :
    ∃ before update moment, Reconcile.Decides config request before update step.outcome ∧
      step.trace =
        ⟨.readRequest step.place.namespaceName step.place.name, .ok (some request)⟩ ::
          (before ++
            [⟨.stamp, moment⟩,
              ⟨.writeStatus request (project request.status update moment), .ok ()⟩,
              ⟨.publish (request.event update), ()⟩]) := by
  have stored := stands.stored
  rw [← placed] at stored
  -- a write that is lost would be the last observation
  have succeeds {earlier : List Observation} {last : Observation}
      (observed : step.trace = earlier ++ [last]) : commission.Grants polled last :=
    granted last (observed ▸ List.mem_append_right _ (List.mem_singleton_self _))
  cases takesPlace.ending with
  | unread reason observed ended =>
    obtain ⟨found, impossible⟩ := granted _ (observed ▸ List.mem_singleton_self _)
    cases impossible
  | absent missing observed ended => cases stored.symm.trans missing
  | idle found settled observed ended =>
    obtain rfl := Option.some.inj (stored.symm.trans found)
    cases unsettled.symm.trans settled
  | unrecorded found unsettled equips unordered decoded arn reason observed ended =>
    rw [List.append_cons, ← List.cons_append] at observed
    cases succeeds observed
  | unwritten found unsettled decides stamp reason observed ended =>
    rw [List.append_cons, ← List.cons_append] at observed
    cases succeeds observed
  | @written found before update present _ moment decides observed =>
    obtain rfl := Option.some.inj (stored.symm.trans present)
    exact ⟨before, update, moment, decides, observed⟩

/-- A decision that is written leaves the request served. -/
theorem Stands.after_written {step : Reconciliation}
    (stands : commission.Stands step.before request) (placed : step.place = commission.place)
    {before : List Observation} {update : StatusUpdate}
    (decides : Reconcile.Decides config request before update step.outcome)
    (observed : step.trace =
      ⟨.readRequest step.place.namespaceName step.place.name, .ok (some request)⟩ ::
        (before ++
          [⟨.stamp, moment⟩,
            ⟨.writeStatus request (project request.status update moment), .ok ()⟩,
            ⟨.publish (request.event update), ()⟩])) :
    commission.Stands step.after
      ((Observation.rewriteAll before request).mergeStatus
        (project request.status update moment)) := by
  have stored := stands.stored
  rw [← placed] at stored
  constructor
  case named => exact SharedState.isNamed_afterAll stands.named step.trace
  case stored =>
    rw [← placed]
    exact Reconciliation.request?_after_of_written stands.named stored decides observed
  case serves =>
    rcases decides.rewriteAll with same | ⟨arn, _, annotated⟩
    · rw [same]
      exact stands.serves.congr rfl rfl
    · rw [annotated]
      exact stands.serves.congr rfl rfl
  case found => exact (SharedState.authority?_afterAll _ _).trans stands.found

/-- A request that is served and not settled advances. -/
theorem Stands.advancing {step : Reconciliation} {polled : Nat}
    (stands : commission.Stands step.before request)
    (unsettled : Reconcile.isSettled request = false) (placed : step.place = commission.place)
    (takesPlace : step.TakesPlace config)
    (granted : ∀ observation ∈ step.trace, commission.Grants polled observation) :
    ∃ later provisioner equipped before update moment,
      commission.Advancing config polled step request later provisioner equipped before update
        moment := by
  obtain ⟨before, update, moment, decides, observed⟩ :=
    stands.exists_written unsettled placed takesPlace granted
  have stays := stands.after_written placed decides observed
  have admitted := takesPlace.admitted
  rw [observed] at admitted granted
  have admittedBefore : step.before.AdmitsAll before :=
    (SharedState.admitsAll_append.mp admitted.2).1
  have grantedBefore : ∀ observation ∈ before, commission.Grants polled observation := by
    intro observation member
    exact granted observation (List.mem_cons_of_mem _ (List.mem_append_left _ member))
  obtain ⟨provisioner, equipped, equips, advances⟩ :=
    decides.advances stands admittedBefore grantedBefore
  obtain ⟨rest, rfl, others⟩ := exists_append_of_advances advances
  refine ⟨_, provisioner, equipped, equipped ++ rest, update, moment, equips, advances, ?admitted,
    ?granted, stays, ?written, rfl, ?cache, ?calls, ?builds⟩
  case admitted => exact (SharedState.admitsAll_append.mp admittedBefore).1
  case granted =>
    intro observation member
    exact grantedBefore observation (List.mem_append_left _ member)
  case written => exact request.ownStatus_mergeStatus_project _ update moment
  case cache =>
    rw [Reconciliation.after, observed, List.append_assoc, SharedState.afterAll_cons,
      SharedState.afterAll_append]
    exact (SharedState.cache_afterAll
      (List.forall_mem_append.mpr ⟨others, by simp [Observation.isPreparation]⟩)).1
  case calls =>
    rw [Reconciliation.calls, observed, List.filterMap_cons_none rfl, List.filterMap_append]
    exact List.append_nil _
  case builds =>
    have unbuilt : rest.countP (·.builds) = 0 := by
      refine List.countP_eq_zero.mpr fun observation member => ?_
      simp [Observation.builds_eq_false (others observation member)]
    rw [Reconciliation.builds, observed, List.countP_cons_of_neg Bool.false_ne_true,
      List.countP_append, List.countP_append, unbuilt]
    rfl

/-- A request that is served can always be reconciled. -/
theorem Stands.exists_step {shared : SharedState} (stands : commission.Stands shared request)
    (free : shared.cache.IsFree commission.authority.key commission.authority.spec)
    (config : ControllerConfig) (polled : Nat) :
    ∃ step : Reconciliation, step.place = commission.place ∧ step.before = shared ∧
      step.TakesPlace config ∧
        ∀ observation ∈ step.trace, commission.Grants polled observation := by
  have stored := stands.stored.symm
  have finish {trace : List Observation} {outcome : Reconcile.Outcome}
      (transcript : Reconcile.Transcript config commission.place.namespaceName
        commission.place.name trace outcome) (admitted : shared.AdmitsAll trace)
      (granted : ∀ observation ∈ trace, commission.Grants polled observation) :
      ∃ step : Reconciliation, step.place = commission.place ∧ step.before = shared ∧
        step.TakesPlace config ∧
          ∀ observation ∈ step.trace, commission.Grants polled observation :=
    ⟨⟨commission.place, shared, trace, outcome⟩, rfl, rfl,
      ⟨Reconcile.returns_reconcile.mpr transcript, admitted⟩, granted⟩
  cases settled : Reconcile.isSettled request with
  | true =>
    exact finish (.idle settled) ⟨stored, trivial⟩ (List.forall_mem_singleton.mpr ⟨_, rfl⟩)
  | false =>
    obtain ⟨provisioner, equipped, before, update, decided, equips, advances, admitted, granted⟩ :=
      Reconcile.exists_advances stands free config polled
    have decides := advances.decides stands.serves equips
    have placed := stands.named _ _ stands.stored
    have there : ((shared.afterAll before).cluster.request?
        request.metadata.resourceName).isSome = true := by
      rw [SharedState.request?_afterAll_of_target? fun observation member =>
        (decides.suits observation member).target?, placed, stands.stored]
      rfl
    refine finish (.active settled (.decided decides (.written ""))) ⟨stored, ?_⟩ ?_
    · exact SharedState.admitsAll_append.mpr ⟨admitted, trivial, there, trivial, trivial⟩
    · refine List.forall_mem_cons.mpr ⟨⟨_, rfl⟩, List.forall_mem_append.mpr ⟨granted, ?_⟩⟩
      simp [Grants]

/-- How far a run has come. Its provisioner is known once it is used, and then it is kept. -/
structure Progress (commission : Commission) (config : ControllerConfig) (provisioner : Provisioner)
    (stamp : String) (steps : List Reconciliation) (last : SharedState) : Prop where
  request : ∃ request, commission.Stands last request ∧
    commission.Stage stamp steps.length request
  cache : (steps = [] ∧ last.cache.IsFree commission.authority.key commission.authority.spec ∧
      last.cache.IsSound last.finished) ∨
    last.cache.Keeps commission.authority.key commission.authority.spec provisioner
  fits : provisioner.key = commission.authority.key ∧
    provisioner.spec = commission.authority.spec
  calls : steps.flatMap Reconciliation.calls = (commission.calls provisioner).take steps.length
  builds : (steps.map Reconciliation.builds).sum ≤ 1
  reports : ∀ index step, steps[index]? = some step → commission.Reports config stamp index step

variable {provisioner : Provisioner} {steps : List Reconciliation} {step : Reconciliation}
  {last : SharedState}

theorem Progress.isFree (progress : commission.Progress config provisioner stamp steps last) :
    last.cache.IsFree commission.authority.key commission.authority.spec := by
  rcases progress.cache with ⟨_, free, _⟩ | keeps
  · exact free
  · exact keeps.isFree

theorem Progress.drift (progress : commission.Progress config provisioner stamp steps last)
    {cluster : Cluster} (spares : last.Spares commission.place { last with cluster })
    (kept : cluster.authority? commission.key = last.cluster.authority? commission.key) :
    commission.Progress config provisioner stamp steps { last with cluster } := by
  obtain ⟨request, stands, stage⟩ := progress.request
  refine ⟨?_, progress.cache, progress.fits, progress.calls, progress.builds, progress.reports⟩
  have spared := spares.2
  rw [stands.stored, Option.map_some] at spared
  obtain ⟨later, left, same⟩ := Option.map_eq_some_iff.mp spared
  have spec : later.spec = request.spec := congrArg (·.2.1) same
  have name : later.metadata.resourceName = request.metadata.resourceName :=
    (spares.1 _ _ left).trans (stands.named _ _ stands.stored).symm
  exact ⟨later, ⟨spares.1, left, stands.serves.congr spec name, kept.trans stands.found⟩,
    stage.congr same⟩

/-- What a run reports goes on with what its next reconciliation reports. -/
theorem reports_append
    (reports : ∀ index step, steps[index]? = some step →
      commission.Reports config stamp index step)
    (next : commission.Reports config stamp steps.length step) :
    ∀ index found, (steps ++ [step])[index]? = some found →
      commission.Reports config stamp index found := by
  intro index found present
  rcases Nat.lt_trichotomy index steps.length with inside | rfl | outside
  · rw [List.getElem?_append_left inside] at present
    exact reports index found present
  · rw [List.getElem?_concat_length] at present
    exact Option.some.inj present ▸ next
  · have length : (steps ++ [step]).length ≤ index := by
      rw [List.length_append]
      exact outside
    rw [List.getElem?_eq_none length] at present
    cases present

/-- The calls of a run go on with the next one. -/
theorem calls_append (calls : steps.flatMap Reconciliation.calls =
      (commission.calls provisioner).take steps.length)
    (next : step.calls = ((commission.calls provisioner)[steps.length]?).toList) :
    (steps ++ [step]).flatMap Reconciliation.calls =
      (commission.calls provisioner).take (steps ++ [step]).length := by
  rw [List.flatMap_append, calls, List.length_append, List.length_singleton, List.take_add_one,
    ← next]
  simp

theorem builds_append (builds : (steps.map Reconciliation.builds).sum + step.builds ≤ 1) :
    ((steps ++ [step]).map Reconciliation.builds).sum ≤ 1 := by
  simpa using builds

/-- A request that has its certificate is only read. -/
theorem Progress.rest (progress : commission.Progress config provisioner stamp steps step.before)
    (late : commission.polls + 2 ≤ steps.length) (placed : step.place = commission.place)
    (takesPlace : step.TakesPlace config)
    (granted : ∀ observation ∈ step.trace,
      commission.Grants (Reconciliation.collections steps) observation) :
    commission.Progress config provisioner stamp (steps ++ [step]) step.after := by
  obtain ⟨request, stands, stage⟩ := progress.request
  have settled := (stage.isSettled stands.serves.ours).trans (decide_eq_true late)
  have idle := takesPlace.isIdle (placed ▸ stands.stored) settled
  obtain ⟨answer, observed, done⟩ := idle.observed
  have read : commission.Grants _ ⟨.readRequest _ _, answer⟩ :=
    granted _ (observed ▸ List.mem_singleton_self _)
  obtain ⟨found, answered⟩ := read
  have reports : commission.Reports config stamp steps.length step :=
    { waits := fun early => absurd late (by omega)
      finishes := fun last => absurd late (by omega)
      rests := fun _ => ⟨done found answered, idle⟩ }
  have uncalled : step.calls = ((commission.calls provisioner)[steps.length]?).toList := by
    rw [Reconciliation.calls, observed, List.getElem?_eq_none (by simpa using late)]
    rfl
  have unbuilt : step.builds = 0 := by
    rw [Reconciliation.builds, observed]
    rfl
  constructor
  case request =>
    rw [idle.unchanged, List.length_append]
    exact ⟨request, stands, stage.succ late⟩
  case cache =>
    rw [idle.unchanged]
    rcases progress.cache with ⟨rfl, _⟩ | keeps
    · exact absurd late (by simp)
    · exact .inr keeps
  case fits => exact progress.fits
  case calls => exact calls_append progress.calls uncalled
  case builds =>
    have before := progress.builds
    exact builds_append (by omega)
  case reports => exact reports_append progress.reports reports

/-- The first reconciliation finds the provisioner of a run, and the others use it again. -/
theorem Progress.used_again
    (progress : commission.Progress config provisioner stamp steps step.before)
    (stands : commission.Stands step.before request) {later : CertificateRequest} {polled : Nat}
    {used : Provisioner} {equipped before : List Observation} {update : StatusUpdate}
    (advancing : commission.Advancing config polled step request later used equipped before update
      moment) :
    step.after.cache.Keeps commission.authority.key commission.authority.spec used ∧
      (used.key = commission.authority.key ∧ used.spec = commission.authority.spec) ∧
      steps.flatMap Reconciliation.calls = (commission.calls used).take steps.length ∧
      (steps.map Reconciliation.builds).sum + step.builds ≤ 1 := by
  obtain ⟨provided, provides, admitted, same, built⟩ :=
    advancing.equips.provides stands advancing.admitted advancing.granted
  rw [advancing.cache, same, advancing.builds, built]
  rcases progress.cache with ⟨rfl, free, sound⟩ | keeps
  · obtain ⟨kept, fits, once⟩ := provides.of_isFree admitted free sound
    exact ⟨kept, fits, rfl, by simpa using once⟩
  · obtain ⟨again, unchanged, unbuilt⟩ := provides.of_keeps admitted keeps
    obtain rfl := Except.ok.inj again
    rw [unchanged, unbuilt]
    exact ⟨keeps, progress.fits, progress.calls, progress.builds⟩

/-- Until then a request goes from one stage to the next. -/
theorem Progress.advance (progress : commission.Progress config provisioner stamp steps step.before)
    (early : steps.length < commission.polls + 2) (placed : step.place = commission.place)
    (takesPlace : step.TakesPlace config)
    (granted : ∀ observation ∈ step.trace,
      commission.Grants (Reconciliation.collections steps) observation) :
    ∃ provisioner stamp, commission.Progress config provisioner stamp (steps ++ [step])
      step.after := by
  obtain ⟨request, stands, stage⟩ := progress.request
  have unsettled : Reconcile.isSettled request = false :=
    (stage.isSettled stands.serves.ours).trans (decide_eq_false (Nat.not_le_of_lt early))
  have polled : Reconciliation.collections steps = steps.length - 1 := by
    rw [Reconciliation.collections, progress.calls, countP_calls (Nat.le_of_lt early)]
  rw [polled] at granted
  obtain ⟨later, used, equipped, before, update, moment, advancing⟩ :=
    stands.advancing unsettled placed takesPlace granted
  obtain ⟨next, called, decided⟩ := stage.advance early advancing.advances advancing.equips
    advancing.written advancing.kept
  obtain ⟨keeps, fits, calls, builds⟩ := progress.used_again stands advancing
  have earlier : ∀ index found, steps[index]? = some found → commission.Reports config
      (if steps.length = 0 then moment else stamp) index found := by
    intro index found present
    have some : steps.length ≠ 0 := by
      rintro none
      rw [List.eq_nil_of_length_eq_zero none] at present
      cases present
    rw [if_neg some]
    exact progress.reports index found present
  have reports : commission.Reports config (if steps.length = 0 then moment else stamp)
      steps.length step := by
    constructor
    case waits =>
      intro within
      exact ⟨decided.trans (if_pos within), later, advancing.stands.stored, next.waitsSince within⟩
    case finishes =>
      intro last
      exact decided.trans (if_neg (by omega))
    case rests =>
      intro late
      exact absurd late (Nat.not_le_of_lt early)
  refine ⟨used, _, ?request, .inr keeps, fits, ?calls, builds_append builds,
    reports_append earlier reports⟩
  case request =>
    rw [List.length_append]
    exact ⟨later, advancing.stands, next⟩
  case calls => exact calls_append calls (advancing.calls.trans called)

theorem Begins.progress {first : SharedState} (begins : commission.Begins first request)
    (config : ControllerConfig) (stamp : String) :
    commission.Progress config ⟨0, commission.authority.key, commission.authority.spec⟩ stamp []
      first where
  request := ⟨request, begins.stands, .fresh begins.unordered
    (CertificateRequestStatus.owned_of_isFresh begins.fresh)⟩
  cache := .inl ⟨rfl, begins.free, begins.sound⟩
  fits := ⟨rfl, rfl⟩
  calls := rfl
  builds := Nat.zero_le 1
  reports index step present := by simp at present

theorem Run.progress {first : SharedState} (begins : commission.Begins first request)
    (run : commission.Run config first steps last) :
    ∃ provisioner stamp, commission.Progress config provisioner stamp steps last := by
  induction run with
  | start => exact ⟨_, "", begins.progress config ""⟩
  | drift run spares kept ih =>
      obtain ⟨provisioner, stamp, progress⟩ := ih
      exact ⟨provisioner, stamp, progress.drift spares kept⟩
  | @reconcile steps step run placed takesPlace granted ih =>
      obtain ⟨provisioner, stamp, progress⟩ := ih
      rcases Nat.lt_or_ge steps.length (commission.polls + 2) with early | late
      · exact progress.advance early placed takesPlace granted
      · exact ⟨provisioner, stamp, progress.rest late placed takesPlace granted⟩

end Commission

/-- A fresh request waits since its order, for as many polls as its authority asks for and one more,
then it gets its certificate, and then it is only read. Its authority gets one order and the polls,
all through one fitting provisioner that is built at most once. No reconciliation gets stuck. -/
theorem certificate_issued_after_polls {commission : Commission} {config : ControllerConfig}
    {first last : SharedState} {request : CertificateRequest} {steps : List Reconciliation}
    (begins : commission.Begins first request) (run : commission.Run config first steps last) :
    (∃ step, step.before = last ∧ commission.Run config first (steps ++ [step]) step.after) ∧
    (∃ provisioner, provisioner.key = commission.authority.key ∧
      provisioner.spec = commission.authority.spec ∧
      steps.flatMap Reconciliation.calls = (commission.calls provisioner).take steps.length) ∧
    (steps.map Reconciliation.builds).sum ≤ 1 ∧
    (∃ stamp, ∀ index step, steps[index]? = some step →
      commission.Reports config stamp index step) ∧
    (commission.polls + 2 ≤ steps.length →
      ∃ issued, last.cluster.request? commission.place = some issued ∧
        issued.Holds commission.issued) := by
  obtain ⟨provisioner, stamp, progress⟩ := run.progress begins
  obtain ⟨current, stands, stage⟩ := progress.request
  refine ⟨?_, ⟨provisioner, progress.fits.1, progress.fits.2, progress.calls⟩, progress.builds,
    ⟨stamp, progress.reports⟩, fun late => ⟨current, stands.stored, stage.holds late⟩⟩
  obtain ⟨step, placed, rfl, takesPlace, granted⟩ :=
    stands.exists_step progress.isFree config (Reconciliation.collections steps)
  exact ⟨step, rfl, run.reconcile placed takesPlace granted⟩

namespace Sample

/-- The issuer of the sample is polled twice before it issues the certificate. -/
def commission : Commission where
  place := place
  key := .issuer "team" "ca"
  authority := .issuer issuer
  arn := "arn:1"
  polls := 2
  issued := certificate
  ready := rfl
  named := by decide
  certificate := nofun
  ca := nofun

theorem begins_commission : commission.Begins first request where
  stands := ⟨isNamed_first, rfl, ⟨rfl, ⟨_, decoded_request⟩, key_request⟩, rfl⟩
  unordered := unordered_request
  fresh := ⟨nofun, rfl, rfl, rfl⟩
  free := ProvisionerCache.isFree_empty
  sound := ProvisionerCache.isSound_empty

end Sample

/-- The request of the sample gets its certificate in its fourth reconciliation. -/
theorem sample_issued_after_polls :
    Sample.commission.Begins Sample.first Sample.request ∧
      ∃ steps last, Sample.commission.Run {} Sample.first steps last ∧ steps.length = 4 ∧
        ∃ issued, last.cluster.request? Sample.place = some issued ∧
          issued.Holds Sample.certificate := by
  have begins := Sample.begins_commission
  have unstarted : Sample.commission.Run {} Sample.first [] Sample.first := .start
  obtain ⟨one, _, first⟩ := (certificate_issued_after_polls begins unstarted).1
  obtain ⟨two, _, second⟩ := (certificate_issued_after_polls begins first).1
  obtain ⟨three, _, third⟩ := (certificate_issued_after_polls begins second).1
  obtain ⟨four, _, fourth⟩ := (certificate_issued_after_polls begins third).1
  obtain ⟨_, _, _, _, holds⟩ := certificate_issued_after_polls begins fourth
  exact ⟨begins, _, _, fourth, rfl, holds (Nat.le_refl 4)⟩

end Issuance
