import Issuance.Proofs.Crowd.Turns

/- A status is projected from the copy that a reconciliation has read, and it is written over
whatever is stored by then. An issued request is safe only from reconciliations that have seen it
issued. -/
namespace Issuance

/-- The caller has read the request of a name before the request was settled, and it may still write
it. -/
structure Caller.IsBehind (caller : Caller) (name : ResourceName) : Prop where
  copy : ∃ request,
    ⟨.readRequest caller.place.namespaceName caller.place.name, .ok (some request)⟩ ∈
      caller.observed ∧ Reconcile.isSettled request = false ∧ request.metadata.resourceName = name
  ahead : ∃ trace outcome, caller.rest.Returns trace outcome ∧
    ∃ observation ∈ trace, observation.target? = some name

namespace Crowd

/-- When others change the cluster, the request of a name is still there with its own part. -/
def Move.Spares (name : ResourceName) (request : CertificateRequest) : Move → Prop
  | .change cluster => cluster.IsNamed ∧
    (cluster.request? name).map CertificateRequest.ownPart = some request.ownPart
  | _ => True

/-- A request is stored with its own part, and no caller is behind. -/
structure Guards (crowd : Crowd) (name : ResourceName) (request : CertificateRequest) : Prop where
  named : crowd.shared.cluster.IsNamed
  stored : (crowd.shared.cluster.request? name).map CertificateRequest.ownPart =
    some request.ownPart
  current : ∀ caller ∈ crowd.callers, ¬caller.IsBehind name

end Crowd

namespace Caller

variable {place name : ResourceName} {observed : List Observation} {effect : Effect}
  {next : effect.Answer → Program Reconcile.Outcome}

/-- A caller that has ended is not behind. -/
theorem not_isBehind_of_pure (outcome : Reconcile.Outcome) :
    ¬IsBehind ⟨place, observed, .pure outcome⟩ name := by
  rintro ⟨_, trace, _, returns, observation, member, _⟩
  obtain ⟨rfl, _⟩ := Program.returns_pure.mp returns
  cases member

/-- A caller gets behind only by what it reads. -/
theorem IsBehind.of_perform {answer : effect.Answer}
    (behind : IsBehind ⟨place, observed ++ [⟨effect, answer⟩], next answer⟩ name) :
    IsBehind ⟨place, observed, .perform effect next⟩ name ∨
      ∃ request, (⟨.readRequest place.namespaceName place.name, .ok (some request)⟩ : Observation) =
          ⟨effect, answer⟩ ∧
        Reconcile.isSettled request = false ∧ request.metadata.resourceName = name := by
  obtain ⟨⟨request, read, unsettled, named⟩, ahead⟩ := behind
  obtain ⟨trace, outcome, returns, observation, member, target⟩ := ahead
  rcases List.mem_append.mp read with earlier | now
  · exact .inl ⟨⟨request, earlier, unsettled, named⟩, _, outcome, .perform answer returns,
      observation, List.mem_cons_of_mem _ member, target⟩
  · exact .inr ⟨request, List.mem_singleton.mp now, unsettled, named⟩

/-- A caller that writes a request was behind. -/
theorem Transcribes.isBehind {config : ControllerConfig}
    (transcribes : Transcribes config ⟨place, observed, .perform effect next⟩)
    {answer : effect.Answer} (targeted : Observation.target? ⟨effect, answer⟩ = some name) :
    IsBehind ⟨place, observed, .perform effect next⟩ name := by
  obtain ⟨trace, outcome, returns⟩ := (next answer).exists_returns
  exact ⟨transcribes.exists_copy answer targeted, _, outcome, .perform answer returns, _,
    List.mem_cons_self, targeted⟩

end Caller

namespace Crowd

variable {config : ControllerConfig} {first current last next : Crowd} {moves : List Move}
  {move : Move} {name : ResourceName} {request : CertificateRequest}

/-- A caller reads a stored request as it is, and it writes no request behind which it is not. -/
theorem Guards.perform {shared : SharedState} {earlier later : List Caller} {place : ResourceName}
    {observed : List Observation} {effect : Effect}
    {next : effect.Answer → Program Reconcile.Outcome} {answer : effect.Answer}
    (guards : Guards ⟨shared, earlier ++ ⟨place, observed, .perform effect next⟩ :: later⟩ name
      request)
    (settled : Reconcile.isSettled request = true)
    (transcribes : Caller.Transcribes config ⟨place, observed, .perform effect next⟩)
    (admitted : shared.Admits ⟨effect, answer⟩) :
    Guards ⟨shared.after ⟨effect, answer⟩,
      earlier ++ ⟨place, observed ++ [⟨effect, answer⟩], next answer⟩ :: later⟩ name request := by
  obtain ⟨named, stored, current⟩ := guards
  obtain ⟨before, others⟩ := List.forall_mem_append.mp current
  obtain ⟨acting, behind⟩ := List.forall_mem_cons.mp others
  constructor
  case named => exact SharedState.isNamed_after named _
  case stored =>
    have untargeted : Observation.target? ⟨effect, answer⟩ ≠ some name :=
      fun targeted => acting (transcribes.isBehind targeted)
    change ((shared.after ⟨effect, answer⟩).cluster.request? name).map _ = _
    rw [SharedState.request?_after _ untargeted]
    exact stored
  case current =>
    refine List.forall_mem_append.mpr ⟨before, List.forall_mem_cons.mpr ⟨fun late => ?_, behind⟩⟩
    -- Only a read puts a caller behind, and what it would read here is settled.
    rcases late.of_perform with still | ⟨copy, same, unsettled, carried⟩
    · exact acting still
    · cases same
      have there : some copy = shared.cluster.request? place := admitted
      have here : copy.metadata.resourceName = place := named place copy there.symm
      obtain rfl : place = name := here.symm.trans carried
      change (shared.cluster.request? place).map _ = _ at stored
      rw [← there] at stored
      have same : copy.ownPart = request.ownPart := Option.some.inj stored
      rw [CertificateRequest.isSettled_congr same, settled] at unsettled
      cases unsettled

theorem Guards.takes (guards : current.Guards name request)
    (settled : Reconcile.isSettled request = true)
    (transcribes : ∀ caller ∈ current.callers, caller.Transcribes config)
    (takes : Takes config current move next) (spares : move.Spares name request) :
    next.Guards name request := by
  obtain ⟨named, stored, present⟩ := guards
  cases takes with
  | join shared callers place =>
    refine ⟨named, stored, List.forall_mem_cons.mpr ⟨fun behind => ?_, present⟩⟩
    obtain ⟨_, read, _⟩ := behind.copy
    cases read
  | @perform shared earlier later place observed effect continued answer admitted =>
    have acting := transcribes _ (List.mem_append_right _ List.mem_cons_self)
    exact Guards.perform ⟨named, stored, present⟩ settled acting admitted
  | change shared callers cluster => exact ⟨spares.1, spares.2, present⟩
  | invalidate shared callers key => exact ⟨named, stored, present⟩
  | clear shared callers => exact ⟨named, stored, present⟩
  | abandon shared earlier later caller slot =>
    obtain ⟨before, others⟩ := List.forall_mem_append.mp present
    exact ⟨named, stored, List.forall_mem_append.mpr
      ⟨before, (List.forall_mem_cons.mp others).2⟩⟩

/-- In a run that starts with no caller behind, a settled request keeps its own part, and no caller
gets behind. -/
theorem Guards.run (guards : first.Guards name request)
    (settled : Reconcile.isSettled request = true) (reachable : Reachable config first)
    (run : Run config first moves last) (spared : ∀ move ∈ moves, move.Spares name request) :
    last.Guards name request := by
  induction run with
  | start => exact guards
  | move run takes ih =>
      obtain ⟨earlier, now⟩ := List.forall_mem_append.mp spared
      exact (ih earlier).takes settled (run.reachable reachable).transcribes takes
        (List.forall_mem_singleton.mp now)

end Crowd

/-- When a request is issued and no reconciliation is under way that read it before, then however
reconciliations of any requests, the changes of others, the forgetting of keys and the giving up of
callers alternate, the request keeps its Ready condition, its certificate and its root. -/
theorem issued_request_kept {config : ControllerConfig} {first last : Crowd}
    {moves : List Crowd.Move} {name : ResourceName} {request : CertificateRequest}
    (reachable : Crowd.Reachable config first) (named : first.shared.cluster.IsNamed)
    (stored : first.shared.cluster.request? name = some request) (issued : request.isIssued = true)
    (current : ∀ caller ∈ first.callers, ¬caller.IsBehind name)
    (run : Crowd.Run config first moves last)
    (spared : ∀ move ∈ moves, move.Spares name request) :
    ∃ later, last.shared.cluster.request? name = some later ∧ later.ownPart = request.ownPart := by
  have settled : Reconcile.isSettled request = true := by
    simp [Reconcile.isSettled, issued]
  have guards : first.Guards name request := ⟨named, by rw [stored, Option.map_some], current⟩
  exact Option.map_eq_some_iff.mp (guards.run settled reachable run spared).stored

/- Two reconciliations of one request, which both read it before its certificate was there. -/
namespace Sample

/-- The request is ordered, and its issuer is there. -/
def orderedFirst : SharedState :=
  { cluster := { first.cluster with requests := [(place, ordered)] } }

def readOrdered : Observation := ⟨.readRequest "team" "web", .ok (some ordered)⟩

/-- A reconciliation builds the provisioner and stores the certificate. -/
def issuing : List Observation :=
  readOrdered ::
    (built ++ [⟨.collect provisioner ordered "arn:2", .ok certificate⟩] ++
      [⟨.stamp, "now"⟩,
        ⟨.writeStatus ordered (project ordered.status (.issued certificate) "now"), .ok ()⟩,
        ⟨.publish (ordered.event (.issued certificate)), ()⟩])

/-- The authority refuses to be asked again. -/
def throttled : ProvisionerFailure := .api "throttled"

/-- What becomes of the status of the request when its authority refuses. -/
def refusal : CertificateRequestStatus :=
  project ordered.status (.failed (ReconcileFailure.get throttled).message) "later"

/-- A reconciliation that has read the request is refused, and it is about to say so. -/
def refused : List Observation :=
  kept ++ [⟨.collect provisioner ordered "arn:2", .error throttled⟩, ⟨.stamp, "later"⟩]

theorem returns_issuing :
    (Reconcile.reconcile {} place.namespaceName place.name).Returns issuing (.ok .none) :=
  Reconcile.returns_reconcile.mpr
    (.active rfl (.decided (.issued (equips_built rfl) rfl nofun nofun) (.written "now")))

theorem returns_refused :
    (Reconcile.reconcile {} place.namespaceName place.name).Returns
      ([readOrdered] ++ (refused ++ [⟨.writeStatus ordered refusal, .ok ()⟩,
        ⟨.publish (ordered.event (.failed (ReconcileFailure.get throttled).message)), ()⟩]))
      (.error (.get throttled)) := by
  have decides : Reconcile.Decides {} ordered
      (kept ++ [⟨.collect provisioner ordered "arn:2", .error throttled⟩])
      (.failed (ReconcileFailure.get throttled).message) (.error (.get throttled)) :=
    .lost (equips_kept rfl) rfl rfl nofun
  have proceeds := Reconcile.Proceeds.decided decides (.written "later")
  exact Reconcile.returns_reconcile.mpr (.active rfl proceeds)

/-- A reconciliation of the request that has not observed anything. -/
def arriving : Caller := ⟨place, [], Reconcile.reconcile {} place.namespaceName place.name⟩

/-- The request is issued, and the second reconciliation has come as far as its own status. -/
def overtaken : SharedState :=
  ((orderedFirst.after readOrdered).afterAll issuing).afterAll refused

theorem exists_overtaken :
    ∃ moves next,
      Crowd.Run {} ⟨orderedFirst, []⟩ moves
        ⟨overtaken, [⟨place, readOrdered :: refused, .perform (.writeStatus ordered refusal) next⟩,
          ⟨place, issuing, .pure (.ok .none)⟩]⟩ ∧
        ∀ cluster, .change cluster ∉ moves := by
  obtain ⟨reading, reads, continued⟩ := returns_refused.goesOn
  obtain ⟨writing, refuses, ended⟩ := continued.goesOn
  cases ended with
  | @perform _ next _ _ _ published =>
    have joined : Crowd.Run {} ⟨orderedFirst, []⟩ [.join place, .join place]
        ⟨orderedFirst, [arriving, arriving]⟩ :=
      (Crowd.Run.start.move (.join orderedFirst [] place)).move
        (.join orderedFirst [arriving] place)
    -- The first one only reads, and then it waits until the second one has come to its end.
    have read := joined.goesOn [] [arriving] [readOrdered] reads ⟨rfl, trivial⟩
    have issue := read.goesOn [_] [] issuing returns_issuing.goesOn_pure
      ⟨rfl, rfl, rfl, rfl, nofun, trivial, trivial, trivial, trivial, rfl, trivial, trivial⟩
    have refuse := issue.goesOn [] _ refused refuses ⟨rfl, rfl, rfl, trivial, trivial, trivial⟩
    exact ⟨_, next, refuse, by simp⟩

/-- The condition of an approver. -/
def approved : Condition := ⟨"Approved", .true, none, none, none⟩

def quiet : Crowd := ⟨orderedFirst.afterAll issuing, [⟨place, issuing, .pure (.ok .none)⟩]⟩

/-- An approver adds its condition to the issued request. -/
def approvedCluster : Cluster :=
  quiet.shared.cluster.changeRequest place (CertificateRequest.addCondition approved)

theorem reachable_quiet : Crowd.Reachable {} quiet := by
  have joined := (Crowd.Reachable.start orderedFirst.cluster).step
    (.join orderedFirst [] place : Crowd.Step {} _ _)
  exact joined.performAll returns_issuing
    ⟨rfl, rfl, rfl, rfl, nofun, trivial, trivial, trivial, trivial, rfl, trivial, trivial⟩

theorem isNamed_quiet : quiet.shared.cluster.IsNamed := by
  have empty : ({ issuers := first.cluster.issuers } : Cluster).IsNamed :=
    Cluster.isNamed_of_nil rfl
  have begun : orderedFirst.cluster.IsNamed := empty.putRequest ordered
  exact SharedState.isNamed_afterAll begun issuing

/-- A further reconciliation of the issued request, which finds nothing to do. -/
def revisits : List Crowd.Move :=
  [.join place, .perform 0 ⟨.readRequest "team" "web", .ok (some issued)⟩,
    .change approvedCluster, .clear]

theorem run_revisits : ∃ last, Crowd.Run {} quiet revisits last := by
  have returns : (Reconcile.reconcile {} place.namespaceName place.name).Returns
      [⟨.readRequest "team" "web", .ok (some issued)⟩] (.ok .none) :=
    Reconcile.returns_reconcile.mpr (.idle rfl)
  have joined := Crowd.Run.start.move
    (.join quiet.shared quiet.callers place : Crowd.Takes {} quiet _ _)
  have read := joined.goesOn [] quiet.callers _ returns.goesOn_pure ⟨rfl, trivial⟩
  exact ⟨_, (read.move (.change _ _ approvedCluster)).move (.clear _ _)⟩

end Sample

/-- The issued request of the sample stays while it is read again and approved. -/
theorem sample_issued_kept :
    ∃ last, Crowd.Run {} Sample.quiet Sample.revisits last ∧
      ∃ later, last.shared.cluster.request? Sample.place = some later ∧
        later.ownPart = Sample.issued.ownPart := by
  obtain ⟨last, run⟩ := Sample.run_revisits
  have current : ∀ caller ∈ Sample.quiet.callers, ¬caller.IsBehind Sample.place :=
    List.forall_mem_singleton.mpr (Caller.not_isBehind_of_pure _)
  have spared : ∀ move ∈ Sample.revisits, move.Spares Sample.place Sample.issued := by
    have approves : (Crowd.Move.change Sample.approvedCluster).Spares Sample.place Sample.issued :=
      ⟨Sample.isNamed_quiet.changeRequest _ fun _ => rfl, rfl⟩
    simpa [Sample.revisits, Crowd.Move.Spares] using approves
  exact ⟨last, run, issued_request_kept Sample.reachable_quiet Sample.isNamed_quiet rfl rfl current
    run spared⟩

/-- Two reconciliations of one request start, and nothing else happens. Once the request is issued,
the second one, which has read it before, takes its certificate away. -/
theorem issued_request_overwritten :
    ∃ moves crowd number observation next,
      Crowd.Run {} ⟨Sample.orderedFirst, []⟩ moves crowd ∧
        (∀ cluster, .change cluster ∉ moves) ∧
        Crowd.Takes {} crowd (.perform number observation) next ∧
        (∃ request, crowd.shared.cluster.request? Sample.place = some request ∧
          request.isIssued = true ∧ request.ownStatus.certificate = some "YQ==" ∧
          request.ownStatus.ca = some "Yg==") ∧
        ∃ request, next.shared.cluster.request? Sample.place = some request ∧
          request.isFailed = true ∧ request.ownStatus.certificate = none ∧
          request.ownStatus.ca = none := by
  obtain ⟨moves, next, run, unchanged⟩ := Sample.exists_overtaken
  have written : Sample.overtaken.Admits ⟨.writeStatus Sample.ordered Sample.refusal, .ok ()⟩ := rfl
  have takes := @Crowd.Takes.perform {} Sample.overtaken []
    [⟨Sample.place, Sample.issuing, .pure (.ok .none)⟩] Sample.place
    (Sample.readOrdered :: Sample.refused) _ next (.ok ()) written
  refine ⟨moves, _, _, _, _, run, unchanged, takes, ?_, ?_⟩
  · exact ⟨Sample.issued, rfl, rfl, rfl, rfl⟩
  · exact ⟨Sample.issued.mergeStatus Sample.refusal, rfl, rfl, rfl, rfl⟩

end Issuance
