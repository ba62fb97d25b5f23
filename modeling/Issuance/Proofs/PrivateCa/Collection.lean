import Issuance.PrivateCa.Provisioner
import Issuance.Proofs.Encoding.Pem
import Issuance.Proofs.Text.Letters
import Issuance.Reconcile.Reconcile

namespace Issuance.PrivateCa

/-- All blocks of the text can be read, and one of them is a certificate. -/
def HoldsCertificate (text : String) : Prop :=
  ∃ blocks, Pem.decodeAll (Text.utf8Bytes text) = .ok blocks ∧
    ∃ block ∈ blocks, block.label = certificateLabel

/-- The reply brings a certificate with its chain. -/
def Reply.Delivers (reply : Reply) : Prop :=
  ∃ name certificate chain, reply = .success name (some certificate) (some chain) ∧
    HoldsCertificate certificate ∧ HoldsCertificate chain

/-- A code gives a name after that of its service and before an address, which both may be
missing. -/
inductive Reply.Names (code name : String) : Prop where
  | bare (address : List Char) (whole : code.toList = name.toList ++ address)
      (follows : ∀ letter ∈ address.head?, letter = ':')
  | served (service address : List Char)
      (whole : code.toList = service ++ '#' :: name.toList ++ address)
      (hashless : '#' ∉ service) (colonless : ':' ∉ service)
      (follows : ∀ letter ∈ address.head?, letter = ':')

variable {text certificate chain code name : String} {reply : Reply}

/-- The certificates of a text are found, or the text cannot be read. -/
theorem certificates_cases (text what : String) :
    (∃ blocks, certificates text what = .ok blocks ∧ (HoldsCertificate text ↔ blocks ≠ [])) ∨
      ¬HoldsCertificate text ∧ ∃ reason, certificates text what = .error (.api reason) := by
  unfold certificates HoldsCertificate
  cases Pem.decodeAll (Text.utf8Bytes text) with
  | error fault => exact .inr ⟨nofun, _, rfl⟩
  | ok blocks => exact .inl ⟨_, rfl, by simp [List.filter_eq_nil_iff]⟩

/-- A text without a block holds no certificate. -/
theorem not_holdsCertificate_empty : ¬HoldsCertificate "" := by
  rintro ⟨blocks, read, block, member, _⟩
  obtain rfl := Except.ok.inj ((Pem.decodeAll_of_none rfl).symm.trans read)
  exact List.not_mem_nil member

/-- A certificate and a chain that both hold a certificate are put together. -/
theorem assemble_cases (certificate chain : String) :
    ((HoldsCertificate certificate ∧ HoldsCertificate chain) ∧
      ∃ issued, assemble certificate chain = .ok issued ∧ issued.certificate ≠ [] ∧
        issued.ca ≠ []) ∨
    ¬(HoldsCertificate certificate ∧ HoldsCertificate chain) ∧
      ∃ reason, assemble certificate chain = .error (.api reason) := by
  unfold assemble
  obtain ⟨leaf, first, leads⟩ | ⟨lacks, reason, first⟩ :=
    certificates_cases certificate "issued certificate"
  case inr => exact .inr ⟨fun holds => lacks holds.1, reason, by rw [first]⟩
  obtain ⟨links, second, linked⟩ | ⟨lacks, reason, second⟩ :=
    certificates_cases chain "certificate chain"
  case inr => exact .inr ⟨fun holds => lacks holds.2, reason, by rw [first, second]⟩
  rw [first, second, leads, linked]
  cases top : links.getLast? with
  | none =>
    have empty := List.getLast?_eq_none_iff.mp top
    exact .inr ⟨fun holds => holds.2 empty, _, by simp only [top]; rfl⟩
  | some root =>
    have filled : links ≠ [] := by
      rintro rfl
      cases top
    cases leaf with
    | nil => exact .inr ⟨fun holds => holds.1 rfl, _, by simp only [top]; rfl⟩
    | cons block blocks =>
      refine .inl ⟨⟨nofun, filled⟩, _, by simp only [top]; rfl, ?_, root.encode_ne_nil⟩
      simp [block.encode_ne_nil]

theorem Reply.errorName_bare {address : List Char} (whole : code.toList = name.toList ++ address)
    (hashless : '#' ∉ name.toList) (colonless : ':' ∉ name.toList)
    (follows : ∀ letter ∈ address.head?, letter = ':') : errorName code = name := by
  have unserved : (name.toList ++ []).dropWhile (· ≠ '#') = [] :=
    (Text.span_mark hashless (by simp)).2
  rw [List.append_nil] at unserved
  unfold errorName
  rw [whole, (Text.span_mark colonless follows).1]
  dsimp only
  rw [unserved]
  exact String.ofList_toList

theorem Reply.errorName_served {service address : List Char}
    (whole : code.toList = service ++ '#' :: name.toList ++ address) (hashless : '#' ∉ service)
    (colonless : ':' ∉ service ++ '#' :: name.toList)
    (follows : ∀ letter ∈ address.head?, letter = ':') : errorName code = name := by
  have served : (service ++ '#' :: name.toList).dropWhile (· ≠ '#') = '#' :: name.toList :=
    (Text.span_mark hashless (by simp)).2
  unfold errorName
  rw [whole, (Text.span_mark colonless follows).1]
  dsimp only
  rw [served]
  exact String.ofList_toList

/-- The name of an error holds no mark of its own. -/
theorem Reply.errorName_eq_iff (hashless : '#' ∉ name.toList) (colonless : ':' ∉ name.toList) :
    errorName code = name ↔ Names code name := by
  constructor
  · rintro rfl
    obtain ⟨front, address, whole, plain, follows⟩ := Text.exists_span_mark ':' code.toList
    obtain ⟨service, rest, rfl, own, first⟩ := Text.exists_span_mark '#' front
    cases rest with
    | nil =>
      rw [List.append_nil] at whole plain
      have bare : errorName code = String.ofList service :=
        errorName_bare (by simpa using whole) (by simpa using own) (by simpa using plain) follows
      rw [bare]
      exact .bare address (by simpa using whole) follows
    | cons mark rest =>
      obtain rfl := first mark rfl
      have served : errorName code = String.ofList rest :=
        errorName_served (by simpa using whole) own (by simpa using plain) follows
      rw [served]
      refine .served service address (by simpa using whole) own (fun member => ?_) follows
      exact plain (List.mem_append_left _ member)
  · intro names
    cases names with
    | bare address whole follows => exact errorName_bare whole hashless colonless follows
    | served service address whole own plain follows =>
      exact errorName_served whole own (by simp [plain, colonless]) follows

/-- A reply asks to wait just when it is the error of a request that is in progress. -/
theorem Reply.isInProgress_iff : reply.isInProgress = true ↔
    ∃ code, reply = .serviceError code ∧ Names code "RequestInProgressException" := by
  cases reply with
  | success name certificate chain => simp [isInProgress]
  | unreadable => simp [isInProgress]
  | serviceError code =>
    have hashless : '#' ∉ "RequestInProgressException".toList := by decide
    have colonless : ':' ∉ "RequestInProgressException".toList := by decide
    simp [isInProgress, errorName_eq_iff hashless colonless]

/-- What a collection comes to. It waits for the authority, it has a certificate, or it has
failed. -/
inductive Reply.Yields (reply : Reply) : Except ProvisionerFailure IssuedCertificate → Prop where
  | waits (early : reply.isInProgress = true) (lacks : ¬reply.Delivers) :
      Yields reply (.error .inProgress)
  | delivers {issued : IssuedCertificate} (late : reply.isInProgress = false)
      (delivers : reply.Delivers) (certificate : issued.certificate ≠ []) (ca : issued.ca ≠ []) :
      Yields reply (.ok issued)
  | fails (late : reply.isInProgress = false) (lacks : ¬reply.Delivers) (reason : String) :
      Yields reply (.error (.api reason))

theorem Reply.delivers_success {name : Option String} {certificate chain : Option String} :
    (Reply.success name certificate chain).Delivers ↔
      HoldsCertificate (certificate.getD "") ∧ HoldsCertificate (chain.getD "") := by
  constructor
  · rintro ⟨_, _, _, same, holds⟩
    cases same
    exact holds
  · rintro ⟨holds, linked⟩
    cases certificate with
    | none => exact absurd holds not_holdsCertificate_empty
    | some certificate =>
      cases chain with
      | none => exact absurd linked not_holdsCertificate_empty
      | some chain => exact ⟨name, certificate, chain, rfl, holds, linked⟩

/-- Every reply settles what a collection comes to. -/
theorem Reply.yields (reply : Reply) (arn : String) :
    reply.Yields (concludeCollection arn reply) := by
  cases reply with
  | success name certificate chain =>
    rw [concludeCollection]
    split
    case isTrue empty =>
      refine .fails rfl (fun delivers => ?_) _
      have holds := (delivers_success.mp delivers).1
      rw [String.isEmpty_iff.mp empty] at holds
      exact not_holdsCertificate_empty holds
    case isFalse =>
      obtain ⟨holds, issued, same, filled, rooted⟩ | ⟨lacks, reason, same⟩ :=
        assemble_cases (certificate.getD "") (chain.getD "")
      · rw [same]
        exact .delivers rfl (delivers_success.mpr holds) filled rooted
      · rw [same]
        exact .fails rfl (fun delivers => lacks (delivers_success.mp delivers)) reason
  | serviceError code =>
    have lacks : ¬(Reply.serviceError code).Delivers := by
      rintro ⟨_, _, _, same, _⟩
      cases same
    rw [concludeCollection]
    · split
      case isTrue early => exact .waits early lacks
      case isFalse late => exact .fails (eq_false_of_ne_true late) lacks _
    · nofun
  | unreadable =>
    refine .fails rfl ?_ _
    rintro ⟨_, _, _, same, _⟩
    cases same

/-- A collected certificate is never found to be empty. -/
theorem Reply.Yields.checkIssued {issued : IssuedCertificate}
    (yields : reply.Yields (.ok issued)) : Reconcile.checkIssued issued = .ok issued := by
  cases yields with
  | delivers _ _ certificate ca => simp [Reconcile.checkIssued, certificate, ca]

end Issuance.PrivateCa
