import Issuance.Proofs.Reconcile.Writes

namespace Issuance

/-- One reconciliation, with what it found and what it observed. -/
structure Reconciliation where
  place : ResourceName
  before : SharedState
  trace : List Observation
  outcome : Reconcile.Outcome

namespace Reconciliation

/-- What a reconciliation leaves behind. -/
def after (step : Reconciliation) : SharedState := step.before.afterAll step.trace

/-- The program may observe the trace, and the shared state admits all of its answers. -/
structure TakesPlace (config : ControllerConfig) (step : Reconciliation) : Prop where
  returns : (Reconcile.reconcile config step.place.namespaceName step.place.name).Returns
    step.trace step.outcome
  admitted : step.before.AdmitsAll step.trace

end Reconciliation

/-- Others may do anything that leaves a request as it is in all that this controller writes and
in its specification. Its other conditions, other requests, the issuers and the cache are theirs. -/
def SharedState.Spares (name : ResourceName) (before after : SharedState) : Prop :=
  after.cluster.IsNamed ∧
    (after.cluster.request? name).map CertificateRequest.ownPart =
      (before.cluster.request? name).map CertificateRequest.ownPart

/-- The runs from one shared state to another, in which others spare the request of a name. -/
inductive History (config : ControllerConfig) (name : ResourceName) (first : SharedState) :
    List Reconciliation → SharedState → Prop where
  | start : History config name first [] first
  | drift {steps : List Reconciliation} {current changed : SharedState}
      (history : History config name first steps current) (spares : current.Spares name changed) :
      History config name first steps changed
  | reconcile {steps : List Reconciliation} {step : Reconciliation}
      (history : History config name first steps step.before)
      (takesPlace : step.TakesPlace config) :
      History config name first (steps ++ [step]) step.after

namespace Reconciliation

/-- A reconciliation only looks for its request, or it goes on with the stored one. -/
inductive Course (config : ControllerConfig) (step : Reconciliation) : Prop where
  | looks (answer : StoreAnswer (Option CertificateRequest))
      (observed : step.trace =
        [⟨.readRequest step.place.namespaceName step.place.name, answer⟩])
      (done : ∀ found, answer = .ok found → step.outcome = .ok .none)
  | proceeds (request : CertificateRequest) (rest : List Observation)
      (stored : step.before.cluster.request? step.place = some request)
      (unsettled : Reconcile.isSettled request = false)
      (observed : step.trace =
        ⟨.readRequest step.place.namespaceName step.place.name, .ok (some request)⟩ :: rest)
      (proceeds : Reconcile.Proceeds config request rest step.outcome)

variable {config : ControllerConfig} {step : Reconciliation}

theorem TakesPlace.course (takesPlace : step.TakesPlace config) : step.Course config := by
  have transcript := Reconcile.returns_reconcile.mp takesPlace.returns
  have admitted := takesPlace.admitted
  generalize observed : step.trace = trace at transcript admitted
  generalize ended : step.outcome = outcome at transcript
  cases transcript with
  | unread reason =>
    refine .looks (.error reason) observed fun found impossible => ?_
    cases impossible
  | absent => exact .looks (.ok none) observed fun _ _ => ended
  | @idle request settled => exact .looks (.ok (some request)) observed fun _ _ => ended
  | @active request rest _ unsettled proceeds =>
    have stored : some request = step.before.cluster.request? step.place := admitted.1
    exact .proceeds request rest stored.symm unsettled observed (ended ▸ proceeds)

/-- Of all requests, only the one at the place of a reconciliation changes. -/
theorem TakesPlace.request?_after (takesPlace : step.TakesPlace config)
    (named : step.before.cluster.IsNamed) {other : ResourceName} (elsewhere : other ≠ step.place) :
    step.after.cluster.request? other = step.before.cluster.request? other := by
  refine SharedState.request?_afterAll fun observation member => ?_
  cases takesPlace.course with
  | looks answer observed =>
    obtain rfl := List.mem_singleton.mp (observed ▸ member)
    nofun
  | proceeds request rest stored unsettled observed proceeds =>
    rw [observed] at member
    rcases List.mem_cons.mp member with rfl | later
    · nofun
    · rcases (proceeds.suits observation later).target? with untargeted | targeted
      · rw [untargeted]
        nofun
      · rw [targeted, named _ _ stored]
        exact fun same => elsewhere (Option.some.inj same).symm

/-- A request that is worked on becomes what the observations make of it. -/
theorem request?_after_of_proceeds {request : CertificateRequest} {rest : List Observation}
    (named : step.before.cluster.IsNamed)
    (stored : step.before.cluster.request? step.place = some request)
    (observed : step.trace =
      ⟨.readRequest step.place.namespaceName step.place.name, .ok (some request)⟩ :: rest)
    (proceeds : Reconcile.Proceeds config request rest step.outcome) :
    step.after.cluster.request? step.place = some (Observation.rewriteAll rest request) := by
  have own observation (member : observation ∈ rest) :=
    (proceeds.suits observation member).target?
  rw [named _ _ stored] at own
  rw [after, observed, SharedState.afterAll_cons]
  change (step.before.afterAll rest).cluster.request? step.place = _
  rw [SharedState.request?_afterAll_of_target? own, stored]
  rfl

theorem after_of_looks {answer : StoreAnswer (Option CertificateRequest)}
    (observed : step.trace =
      [⟨.readRequest step.place.namespaceName step.place.name, answer⟩]) :
    step.after = step.before := by
  rw [after, observed]
  rfl

/-- What this controller writes of a status changes only by a decision about its request. -/
theorem TakesPlace.ownStatus (takesPlace : step.TakesPlace config)
    (named : step.before.cluster.IsNamed) {name : ResourceName} {later : CertificateRequest}
    (left : step.after.cluster.request? name = some later) :
    ∃ request, step.before.cluster.request? name = some request ∧
      (later.ownStatus = request.ownStatus ∨
        Reconcile.isSettled request = false ∧
          ∃ before update decided stamp, Reconcile.Decides config request before update decided ∧
            later.ownStatus = request.ownStatus.apply update stamp) := by
  by_cases here : name = step.place
  case neg =>
    rw [takesPlace.request?_after named here] at left
    exact ⟨later, left, .inl rfl⟩
  case pos =>
    subst here
    cases takesPlace.course with
    | looks answer observed =>
      rw [after_of_looks observed] at left
      exact ⟨later, left, .inl rfl⟩
    | proceeds request rest stored unsettled observed proceeds =>
      rw [request?_after_of_proceeds named stored observed proceeds] at left
      obtain rfl := Option.some.inj left
      rcases proceeds.ownStatus with same | decided
      · exact ⟨request, stored, .inl same⟩
      · exact ⟨request, stored, .inr ⟨unsettled, decided⟩⟩

end Reconciliation

namespace SharedState.Spares

variable {name : ResourceName} {before after : SharedState}

/-- A request that is spared was there before, with all that this controller writes. -/
theorem exists_ownPart (spares : before.Spares name after) {later : CertificateRequest}
    (left : after.cluster.request? name = some later) :
    ∃ request, before.cluster.request? name = some request ∧ later.ownPart = request.ownPart := by
  have same := spares.2
  rw [left, Option.map_some] at same
  obtain ⟨request, stored, kept⟩ := Option.map_eq_some_iff.mp same.symm
  exact ⟨request, stored, kept.symm⟩

/-- What is seen of the spared part of a request stays the same. -/
theorem map_request? (spares : before.Spares name after) {α : Type} {view : CertificateRequest → α}
    (agrees : ∀ later request, later.ownPart = request.ownPart → view later = view request) :
    (after.cluster.request? name).map view = (before.cluster.request? name).map view := by
  cases left : after.cluster.request? name with
  | none =>
    have absent := spares.2
    rw [left, Option.map_none] at absent
    rw [Option.map_eq_none_iff.mp absent.symm]
  | some later =>
    obtain ⟨request, stored, same⟩ := spares.exists_ownPart left
    rw [stored, Option.map_some, Option.map_some, agrees later request same]

end SharedState.Spares

namespace History

variable {config : ControllerConfig} {name : ResourceName} {first last : SharedState}
  {steps earlier later : List Reconciliation} {step : Reconciliation}

/-- Requests stay under their names in a run. -/
theorem isNamed (history : History config name first steps last) (named : first.cluster.IsNamed) :
    last.cluster.IsNamed := by
  induction history with
  | start => exact named
  | drift history spares => exact spares.1
  | reconcile history takesPlace ih =>
      exact SharedState.isNamed_afterAll ih _

/-- What every decision about an unsettled request keeps is kept in a run. -/
theorem ownStatus_invariant (history : History config name first steps last)
    (named : first.cluster.IsNamed) (invariant : CertificateRequestStatus → Prop)
    (keeps : ∀ request before update decided stamp, Reconcile.isSettled request = false →
      Reconcile.Decides config request before update decided → invariant request.ownStatus →
        invariant (request.ownStatus.apply update stamp))
    (begun : ∀ request, first.cluster.request? name = some request → invariant request.ownStatus) :
    ∀ request, last.cluster.request? name = some request → invariant request.ownStatus := by
  induction history with
  | start => exact begun
  | drift history spares ih =>
      intro later left
      obtain ⟨request, stored, same⟩ := spares.exists_ownPart left
      have kept : later.ownStatus = request.ownStatus := congrArg (·.2.2) same
      rw [kept]
      exact ih request stored
  | reconcile history takesPlace ih =>
      intro later left
      obtain ⟨request, stored, kept | ⟨unsettled, _, _, _, _, decides, written⟩⟩ :=
        takesPlace.ownStatus (history.isNamed named) left
      · rw [kept]
        exact ih request stored
      · rw [written]
        exact keeps _ _ _ _ _ unsettled decides (ih request stored)

/-- A request does not get a second Ready condition. -/
theorem hasSingleReady (history : History config name first steps last)
    (named : first.cluster.IsNamed)
    (single : ∀ request, first.cluster.request? name = some request → request.HasSingleReady) :
    ∀ request, last.cluster.request? name = some request → request.HasSingleReady := by
  refine history.ownStatus_invariant named (fun status => status.conditions.length ≤ 1) ?_ single
  intro request before update decided stamp unsettled decides single
  have unissued := CertificateRequest.isIssued_eq_false unsettled
  rw [CertificateRequest.HasSingleReady.conditions_apply single unissued]
  exact Nat.le_refl 1

/-- A run is cut at any of its steps. -/
theorem at_step (history : History config name first (earlier ++ step :: later) last) :
    History config name first earlier step.before ∧ step.TakesPlace config := by
  generalize whole : earlier ++ step :: later = steps at history
  induction history generalizing later with
  | start => simp at whole
  | drift history spares ih => exact ih whole
  | reconcile history takesPlace ih =>
      rcases List.eq_nil_or_concat later with rfl | ⟨between, final, rfl⟩
      · obtain ⟨rfl, same⟩ := List.append_inj' whole rfl
        obtain rfl := List.head_eq_of_cons_eq same
        exact ⟨history, takesPlace⟩
      · rw [List.concat_eq_append, ← List.cons_append, ← List.append_assoc] at whole
        exact ih (List.append_inj' whole rfl).1

end History

/- A run of a request that is ordered twice before its certificate is stored. -/
namespace Sample

def request : CertificateRequest :=
  { metadata := { name := some "web", namespaceName := some "team" }
    spec := { request := "YQ==", issuerRef := { name := "ca" } } }

def issuer : Issuer :=
  { metadata := { name := some "ca", namespaceName := some "team" }
    spec := { arn := "arn:ca" }
    status := some { conditions := [.ready .true "Verified" "issuer verified"] } }

def place : ResourceName := ⟨"team", "web"⟩

/-- Nothing is there but the request and its issuer. -/
def first : SharedState :=
  { cluster := { requests := [(place, request)], issuers := [(⟨"team", "ca"⟩, issuer)] } }

def provisioner : Provisioner := ⟨1, .issuer "team" "ca", issuer.spec⟩

def built : List Observation :=
  [⟨.readIssuer "team" "ca", .ok (some issuer)⟩, ⟨.enterSlot provisioner.key provisioner.spec, 0⟩,
    ⟨.acquireSlot 0, none⟩, ⟨.startBuild provisioner.key provisioner.spec, 1⟩,
    ⟨.finishBuild provisioner, .ok ()⟩, ⟨.settleSlot 0 (some provisioner), ()⟩]

/-- The provisioner is used again. -/
def kept : List Observation :=
  [⟨.readIssuer "team" "ca", .ok (some issuer)⟩, ⟨.enterSlot provisioner.key provisioner.spec, 0⟩,
    ⟨.acquireSlot 0, some provisioner⟩]

/-- The request is read as it is, and the rest follows. -/
def reconciliation (before : SharedState) (current : CertificateRequest)
    (rest : List Observation) (outcome : Reconcile.Outcome) : Reconciliation :=
  ⟨place, before, ⟨.readRequest "team" "web", .ok (some current)⟩ :: rest, outcome⟩

theorem takesPlace {config : ControllerConfig} {before : SharedState}
    {current : CertificateRequest} {rest : List Observation} {outcome : Reconcile.Outcome}
    (unsettled : Reconcile.isSettled current = false)
    (proceeds : Reconcile.Proceeds config current rest outcome)
    (admitted : before.AdmitsAll (reconciliation before current rest outcome).trace) :
    (reconciliation before current rest outcome).TakesPlace config :=
  ⟨Reconcile.returns_reconcile.mpr (.active unsettled proceeds), admitted⟩

theorem resolves {current : CertificateRequest}
    (known : AuthorityKey.ofRequest current = .ok (.issuer "team" "ca")) :
    Reconcile.Resolves current [⟨.readIssuer "team" "ca", .ok (some issuer)⟩]
      (.ok (.issuer issuer)) :=
  .issuer known (.ok (some issuer))

theorem equips_built {current : CertificateRequest}
    (known : AuthorityKey.ofRequest current = .ok (.issuer "team" "ca")) :
    Reconcile.Equips current provisioner built :=
  .intro (resolves known) (.built 0 1)

theorem equips_kept {current : CertificateRequest}
    (known : AuthorityKey.ofRequest current = .ok (.issuer "team" "ca")) :
    Reconcile.Equips current provisioner kept :=
  .intro (resolves known) (.kept 0 provisioner)

/-- The first order is not recorded. -/
def unrecorded : Reconciliation :=
  reconciliation first request
    (built ++
      [⟨.sign provisioner request, .ok "arn:1"⟩, ⟨.annotate request "arn:1", .error "conflict"⟩])
    (.error (.reconciliationFailed "conflict"))

/-- The second order is recorded, but not its status. -/
def unwritten : Reconciliation :=
  reconciliation unrecorded.after request
    (kept ++
        [⟨.sign provisioner request, .ok "arn:2"⟩, ⟨.annotate request "arn:2", .ok ()⟩] ++
      [⟨.stamp, "now"⟩,
        ⟨.writeStatus request (project request.status (.pending Reconcile.orderedMessage) "now"),
          .error "conflict"⟩])
    (.error (.reconciliationFailed "conflict"))

/-- The request after its second order. -/
def ordered : CertificateRequest := request.annotateArn "arn:2"

def certificate : IssuedCertificate := ⟨[97], [98]⟩

/-- The certificate is collected and stored. -/
def collected : Reconciliation :=
  reconciliation unwritten.after ordered
    (kept ++ [⟨.collect provisioner ordered "arn:2", .ok certificate⟩] ++
      [⟨.stamp, "now"⟩,
        ⟨.writeStatus ordered (project ordered.status (.issued certificate) "now"), .ok ()⟩,
        ⟨.publish (ordered.event (.issued certificate)), ()⟩])
    (.ok .none)

theorem key_request : AuthorityKey.ofRequest request = .ok (.issuer "team" "ca") := rfl

theorem unordered_request : request.certificateArn? = none := rfl

theorem decoded_request : request.signingRequest = .ok [97] := rfl

theorem unrecorded_takesPlace : unrecorded.TakesPlace {} := by
  have admitted : unrecorded.before.AdmitsAll unrecorded.trace :=
    ⟨rfl, rfl, rfl, rfl, nofun, trivial, trivial, trivial, trivial, trivial⟩
  refine takesPlace rfl ?_ admitted
  exact .unrecorded (equips_built key_request) unordered_request decoded_request "arn:1" "conflict"

theorem unwritten_takesPlace : unwritten.TakesPlace {} := by
  have admitted : unwritten.before.AdmitsAll unwritten.trace :=
    ⟨rfl, rfl, rfl, rfl, trivial, rfl, trivial, trivial, trivial⟩
  refine takesPlace rfl
    (.decided (.ordered ?_ unordered_request decoded_request "arn:2") ?_) admitted
  · exact equips_kept key_request
  · exact .unwritten "now" "conflict"

theorem collected_takesPlace : collected.TakesPlace {} := by
  have known : AuthorityKey.ofRequest ordered = .ok (.issuer "team" "ca") := rfl
  have found : ordered.certificateArn? = some "arn:2" := rfl
  have admitted : collected.before.AdmitsAll collected.trace :=
    ⟨rfl, rfl, rfl, rfl, trivial, trivial, rfl, trivial, trivial⟩
  refine takesPlace rfl (.decided ?_ (.written "now")) admitted
  exact .issued (equips_kept known) found nofun nofun

/-- The reconciliations of the run, in their order. -/
def steps : List Reconciliation := [unrecorded, unwritten, collected]

theorem history : History {} place first steps collected.after :=
  .reconcile (.reconcile (.reconcile .start unrecorded_takesPlace) unwritten_takesPlace)
    collected_takesPlace

/-- The request with its certificate. -/
def issued : CertificateRequest :=
  ordered.mergeStatus (project ordered.status (.issued certificate) "now")

theorem request?_collected : collected.after.cluster.request? place = some issued := rfl

theorem isNamed_first : first.cluster.IsNamed := by
  have empty : ({ issuers := first.cluster.issuers } : Cluster).IsNamed :=
    Cluster.isNamed_of_nil rfl
  exact empty.putRequest request

theorem request?_first {found : CertificateRequest}
    (present : first.cluster.request? place = some found) : found = request :=
  (Option.some.inj present).symm

theorem hasSingleReady_first (found : CertificateRequest)
    (present : first.cluster.request? place = some found) : found.HasSingleReady := by
  rw [request?_first present]
  exact Nat.zero_le 1

end Sample

end Issuance
