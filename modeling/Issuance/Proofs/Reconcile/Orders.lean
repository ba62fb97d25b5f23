import Issuance.Proofs.Reconcile.Writes

namespace Issuance

namespace Observation

variable (name : ResourceName)

/-- A certificate is ordered for the request of a name. -/
def orders : Observation → Bool
  | ⟨.sign _ request, _⟩ => request.metadata.resourceName = name
  | _ => false

/-- A write to the request of a name is lost. -/
def losesWrite : Observation → Bool
  | ⟨.annotate request _, .error _⟩ => request.metadata.resourceName = name
  | ⟨.writeStatus request _, .error _⟩ => request.metadata.resourceName = name
  | _ => false

/-- The identifier of the request of a name is written, with or without success. -/
def annotates : Observation → Bool
  | ⟨.annotate request _, _⟩ => request.metadata.resourceName = name
  | _ => false

/-- The identifier is stored on the request of a name. -/
def Records (arn : String) : Observation → Prop
  | ⟨.annotate request written, .ok _⟩ => request.metadata.resourceName = name ∧ written = arn
  | _ => False

/-- The certificate of the request of a name is collected by an identifier. -/
def Collects (arn : String) : Observation → Prop
  | ⟨.collect _ request used, _⟩ => request.metadata.resourceName = name ∧ used = arn
  | _ => False

/-- An order that succeeds has an identifier. -/
def IsFilled : Observation → Prop
  | ⟨.sign _ _, .ok arn⟩ => arn ≠ ""
  | _ => True

end Observation

namespace CertificateRequest

/-- The request still waits for its order. -/
def awaitsOrder (request : CertificateRequest) : Bool :=
  !Reconcile.isSettled request && request.certificateArn?.isNone

end CertificateRequest

/-- An identifier that is recorded is written. -/
theorem Observation.Records.annotates {name : ResourceName} {arn : String}
    {observation : Observation} (recorded : observation.Records name arn) :
    observation.annotates name = true := by
  obtain ⟨effect, answer⟩ := observation
  cases effect with
  | annotate request written =>
      cases answer with
      | error reason => exact absurd recorded id
      | ok _ => simpa [Observation.annotates] using recorded.1
  | _ => exact absurd recorded id

namespace Observation.Suits

variable {request : CertificateRequest} {name : ResourceName} {observation : Observation}
  (suits : observation.Suits request)

include suits

/-- Orders and their identifiers are for a request without an identifier. -/
theorem unordered (done : observation.orders name = true ∨ observation.annotates name = true) :
    request.metadata.resourceName = name ∧ request.certificateArn? = none := by
  obtain ⟨effect, answer⟩ := observation
  cases effect with
  | sign provisioner ordered =>
      obtain ⟨rfl, unordered⟩ := suits
      exact ⟨by simpa [orders, annotates] using done, unordered⟩
  | annotate ordered arn =>
      obtain ⟨rfl, unordered⟩ := suits
      exact ⟨by simpa [orders, annotates] using done, unordered⟩
  | _ => simp [orders, annotates] at done

theorem collected {arn : String} (collects : observation.Collects name arn) :
    request.metadata.resourceName = name ∧ request.certificateArn? = some arn := by
  obtain ⟨effect, answer⟩ := observation
  cases effect with
  | collect provisioner ordered used =>
      obtain ⟨rfl, found⟩ := suits
      obtain ⟨named, rfl⟩ := collects
      exact ⟨named, found⟩
  | _ => exact absurd collects id

end Observation.Suits

namespace Reconcile

variable {config : ControllerConfig} {request : CertificateRequest} {trace : List Observation}
  {outcome : Outcome} {name : ResourceName}

section Preparation

variable (preparations : ∀ observation ∈ trace, observation.isPreparation = true)
  (rest : List Observation)

include preparations

theorem not_orders_of_isPreparation :
    ∀ observation ∈ trace, observation.orders name = false := by
  intro observation member
  have preparation := preparations observation member
  obtain ⟨effect, answer⟩ := observation
  cases effect <;> first | rfl | cases preparation

theorem countP_orders_append :
    (trace ++ rest).countP (·.orders name) = rest.countP (·.orders name) := by
  have unordered : trace.countP (·.orders name) = 0 := by
    refine List.countP_eq_zero.mpr fun observation member => ?_
    simp [not_orders_of_isPreparation preparations observation member]
  rw [List.countP_append, unordered, Nat.zero_add]

/-- The search for a provisioner orders nothing, so what is lost after an order is lost later. -/
theorem dropWhile_orders_append :
    (trace ++ rest).dropWhile (fun observation => !observation.orders name) =
      rest.dropWhile fun observation => !observation.orders name := by
  refine List.dropWhile_append_of_pos fun observation member => ?_
  simp [not_orders_of_isPreparation preparations observation member]

theorem exists_records_append (arn : String) :
    (∃ observation ∈ trace ++ rest, observation.Records name arn) ↔
      ∃ observation ∈ rest, observation.Records name arn := by
  have unrecorded : ∀ observation ∈ trace, ¬observation.Records name arn := by
    intro observation member recorded
    have preparation := preparations observation member
    obtain ⟨effect, answer⟩ := observation
    cases effect <;> first | exact recorded | cases preparation
  simp only [List.mem_append, or_and_right, exists_or]
  refine or_iff_right ?_
  rintro ⟨observation, member, recorded⟩
  exact unrecorded observation member recorded

end Preparation

theorem Settles.countP_orders {update : StatusUpdate} {decided : Outcome}
    (settles : Settles request update decided trace outcome) :
    trace.countP (·.orders name) = 0 := by
  cases settles <;> simp [Observation.orders]

theorem Settles.exists_records_append {update : StatusUpdate} {decided : Outcome}
    (settles : Settles request update decided trace outcome) (asked : List Observation)
    (arn : String) :
    (∃ observation ∈ asked ++ trace, observation.Records name arn) ↔
      ∃ observation ∈ asked, observation.Records name arn := by
  have unrecorded : ∀ observation ∈ trace, ¬observation.Records name arn := by
    cases settles <;> simp [Observation.Records]
  simp only [List.mem_append, or_and_right, exists_or]
  refine or_iff_left ?_
  rintro ⟨observation, member, recorded⟩
  exact unrecorded observation member recorded

theorem Settles.certificateArn? {update : StatusUpdate} {decided : Outcome}
    (settles : Settles request update decided trace outcome) (current : CertificateRequest) :
    (Observation.rewriteAll trace current).certificateArn? = current.certificateArn? := by
  cases settles <;> rfl

/-- A failure that is written ends the request. -/
theorem Settles.awaitsOrder_of_failed {message : String} {decided : Outcome}
    (settles : Settles request (.failed message) decided trace outcome)
    (named : request.metadata.resourceName = name) (single : request.HasSingleReady)
    (unsettled : isSettled request = false) :
    (Observation.rewriteAll trace request).awaitsOrder = false ∨
      0 < trace.countP (·.losesWrite name) := by
  have unissued := CertificateRequest.isIssued_eq_false unsettled
  cases settles with
  | unwritten stamp reason => exact .inr (by simp [Observation.losesWrite, named])
  | written stamp =>
    have written :
        (request.mergeStatus (project request.status (.failed message) stamp)).ownStatus =
          request.ownStatus.apply (.failed message) stamp :=
      request.ownStatus_mergeStatus_project request (.failed message) stamp
    have failed := CertificateRequest.hasReady_of_decided single unissued written .false
      Condition.failedReason
    refine .inl ?_
    change (request.mergeStatus _).awaitsOrder = false
    rw [CertificateRequest.awaitsOrder, isSettled, CertificateRequest.isFailed, failed]
    simp [StatusUpdate.status, StatusUpdate.reason]

/-- After an order the request waits for no other one, or a write was lost. -/
theorem Proceeds.orders_cases (proceeds : Proceeds config request trace outcome)
    (named : request.metadata.resourceName = name) (single : request.HasSingleReady)
    (unsettled : isSettled request = false)
    (filled : ∀ observation ∈ trace, observation.IsFilled) :
    trace.countP (·.orders name) = 0 ∨
      trace.countP (·.orders name) = 1 ∧ request.awaitsOrder = true ∧
        ((Observation.rewriteAll trace request).awaitsOrder = false ∨
          0 < (trace.dropWhile fun observation => !observation.orders name).countP
            (·.losesWrite name)) := by
  have awaits (unordered : request.certificateArn? = none) : request.awaitsOrder = true := by
    simp [CertificateRequest.awaitsOrder, unsettled, unordered]
  cases proceeds with
  | unrecorded equips unordered decoded arn reason =>
    rw [countP_orders_append equips.isPreparation, dropWhile_orders_append equips.isPreparation]
    refine .inr ⟨by simp [Observation.orders, named], awaits unordered, .inr ?_⟩
    simp [Observation.orders, Observation.losesWrite, named]
  | decided decides settles =>
    obtain ⟨prepared, asked, rfl, preparations, asks⟩ := decides.asks
    rw [List.append_assoc, countP_orders_append preparations, dropWhile_orders_append preparations,
      List.countP_append, settles.countP_orders, Observation.rewriteAll_append,
      Observation.rewriteAll_of_isPreparation preparations]
    cases asks with
    | nothing => exact .inl rfl
    | refused provisioner failure unordered =>
      refine .inr ⟨by simp [Observation.orders, named], awaits unordered, ?_⟩
      rcases settles.awaitsOrder_of_failed named single unsettled with ended | lost
      · exact .inl ended
      · exact .inr (by simpa [Observation.orders, Observation.losesWrite, named] using lost)
    | ordered provisioner arn unordered =>
      refine .inr ⟨by simp [Observation.orders, named], awaits unordered, .inl ?_⟩
      have nonempty : arn ≠ "" := filled ⟨.sign provisioner request, .ok arn⟩ (by simp)
      have recorded := request.certificateArn?_annotateArn nonempty
      have kept := settles.certificateArn? (request.annotateArn arn)
      simp [Observation.rewrite, CertificateRequest.awaitsOrder, kept, recorded]
    | collected => exact .inl (by simp [Observation.orders])

/-- Only the identifier of an order comes to a request, and only to one that had none. -/
theorem Proceeds.certificateArn?_eq_some (proceeds : Proceeds config request trace outcome)
    (named : request.metadata.resourceName = name)
    (filled : ∀ observation ∈ trace, observation.IsFilled) (arn : String) :
    (Observation.rewriteAll trace request).certificateArn? = some arn ↔
      request.certificateArn? = some arn ∨
        ∃ observation ∈ trace, observation.Records name arn := by
  cases proceeds with
  | unrecorded equips =>
    rw [exists_records_append equips.isPreparation, Observation.rewriteAll_append,
      Observation.rewriteAll_of_isPreparation equips.isPreparation]
    simp [Observation.Records, Observation.rewrite]
  | decided decides settles =>
    obtain ⟨prepared, asked, rfl, preparations, asks⟩ := decides.asks
    rw [settles.exists_records_append, exists_records_append preparations,
      Observation.rewriteAll_append, settles.certificateArn?, Observation.rewriteAll_append,
      Observation.rewriteAll_of_isPreparation preparations]
    cases asks with
    | nothing => simp
    | refused => simp [Observation.Records, Observation.rewrite]
    | ordered provisioner written unordered =>
      have nonempty : written ≠ "" :=
        filled ⟨.sign provisioner request, .ok written⟩ (by simp)
      have recorded := request.certificateArn?_annotateArn nonempty
      simp [Observation.Records, Observation.rewrite, recorded, named, unordered]
    | collected => simp [Observation.Records, Observation.rewrite]

/-- A request that had its order does not wait for one again. -/
theorem Proceeds.awaitsOrder_of_rewriteAll (proceeds : Proceeds config request trace outcome)
    (named : request.metadata.resourceName = name) (unsettled : isSettled request = false)
    (filled : ∀ observation ∈ trace, observation.IsFilled)
    (awaits : (Observation.rewriteAll trace request).awaitsOrder = true) :
    request.awaitsOrder = true := by
  cases found : request.certificateArn? with
  | none => simp [CertificateRequest.awaitsOrder, unsettled, found]
  | some arn =>
    have kept := (proceeds.certificateArn?_eq_some named filled arn).mpr (.inl found)
    simp [CertificateRequest.awaitsOrder, kept] at awaits

end Reconcile

end Issuance
