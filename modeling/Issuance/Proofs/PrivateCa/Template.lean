import Mathlib.Data.List.Permutation
import Issuance.PrivateCa.Template
import Issuance.Proofs.Text.Letters

namespace Issuance.PrivateCa

namespace Template

/-- These usages have a template each. -/
def singleUsages : List String := ["code signing", "client auth", "server auth", "ocsp signing"]

/-- These usages have a template together. -/
def jointUsages : List String := ["client auth", "server auth"]

/-- The usages that there are templates for, all of them once. -/
def servedUsages : List (List String) := singleUsages.map (fun usage => [usage]) ++ [jointUsages]

/-- There is a template for these usages, in whatever order they are given. -/
def Serves (usages : List String) : Prop :=
  ∃ served ∈ servedUsages, usages.Perm served

variable {first second usages : List String}

/-- Two templates never have the same name. -/
theorem path_injective : Function.Injective path := by
  intro first second same
  cases first <;> cases second <;> first | rfl | simp [path] at same

/-- A template is found by comparing usages without their order. -/
theorem ofUsages_eq (usages : List String) : ofUsages usages =
    if usages.Perm ["code signing"] then codeSigning
    else if usages.Perm ["client auth"] then clientAuth
    else if usages.Perm ["server auth"] then serverAuth
    else if usages.Perm ["ocsp signing"] then ocspSigning
    else if usages.Perm jointUsages then endEntity
    else passthrough := by
  simp only [ofUsages, jointUsages, List.perm_singleton, List.perm_pair]
  split_ifs <;> simp_all

/-- The order of the usages does not matter. -/
theorem ofUsages_perm (same : first.Perm second) : ofUsages first = ofUsages second := by
  simp only [ofUsages_eq, same.congr_left]

/-- All other usages are left to the signing request. -/
theorem ofUsages_eq_passthrough_iff : ofUsages usages = passthrough ↔ ¬Serves usages := by
  simp only [ofUsages_eq, Serves, servedUsages, singleUsages, List.map_cons, List.map_nil,
    List.cons_append, List.nil_append, List.mem_cons, List.not_mem_nil, or_false,
    exists_eq_or_imp, exists_eq_left]
  split_ifs <;> simp_all

/-- No usages get the template of an authority. -/
theorem ofUsages_ne_subordinateCa (usages : List String) : ofUsages usages ≠ subordinateCa := by
  rw [ofUsages_eq]
  split_ifs <;> decide

/-- Usages that there is a template for do not share it. -/
theorem nodup_servedUsages : (servedUsages.map ofUsages).Nodup := by decide

end Template

section Lead

/-- An identifier starts with a scheme and a partition, which ends it or is followed by a colon. -/
structure LeadsWith (arn scheme partition : String) : Prop where
  schemePlain : ':' ∉ scheme.toList
  partitionPlain : ':' ∉ partition.toList
  filled : partition ≠ ""
  parts : arn = scheme ++ ":" ++ partition ∨ ∃ rest, arn = scheme ++ ":" ++ partition ++ ":" ++ rest

variable {arn scheme partition : String}

/-- The scheme ends at the first colon of an identifier, and the partition at the next one. -/
theorem LeadsWith.cut (leads : LeadsWith arn scheme partition) :
    ∃ rest, arn.toList.takeWhile (· ≠ ':') = scheme.toList ∧
      arn.toList.dropWhile (· ≠ ':') = ':' :: rest ∧
      rest.takeWhile (· ≠ ':') = partition.toList := by
  obtain ⟨rest, letters, next⟩ : ∃ rest : List Char,
      arn.toList = scheme.toList ++ ':' :: (partition.toList ++ rest) ∧
        ∀ letter ∈ rest.head?, letter = ':' := by
    obtain rfl | ⟨rest, rfl⟩ := leads.parts
    · exact ⟨[], by simp, by simp⟩
    · exact ⟨':' :: rest.toList, by simp, by simp⟩
  have colon : ∀ letter ∈ (':' :: (partition.toList ++ rest)).head?, letter = ':' := by simp
  obtain ⟨taken, dropped⟩ := Text.span_mark leads.schemePlain colon
  rw [letters]
  exact ⟨_, taken, dropped, (Text.span_mark leads.partitionPlain next).1⟩

/-- The scheme and the partition are all that is taken from an identifier. -/
theorem LeadsWith.partitionLead_eq (leads : LeadsWith arn scheme partition) :
    partitionLead arn = scheme ++ ":" ++ partition ++ ":" := by
  obtain ⟨rest, taken, dropped, takenNext⟩ := leads.cut
  unfold partitionLead
  rw [dropped]
  simp only [taken, takenNext]
  split
  · next empty => exact absurd (String.toList_eq_nil_iff.mp empty) leads.filled
  · apply String.toList_inj.mp
    simp

/-- An identifier without a scheme and a partition counts as one of the standard partition. -/
theorem partitionLead_of_not_leadsWith
    (lacks : ¬∃ scheme partition, LeadsWith arn scheme partition) :
    partitionLead arn = "arn:aws:" := by
  obtain ⟨scheme, after, letters, plain, next⟩ := Text.exists_span_mark ':' arn.toList
  have dropped := (Text.span_mark plain next).2
  unfold partitionLead
  rw [letters, dropped]
  cases after with
  | nil => rfl
  | cons letter after =>
    obtain rfl := next letter rfl
    obtain ⟨partition, rest, rfl, otherPlain, otherNext⟩ := Text.exists_span_mark ':' after
    simp only [(Text.span_mark otherPlain otherNext).1]
    cases partition with
    | nil => rfl
    | cons letter partition =>
      refine absurd ⟨String.ofList scheme, String.ofList (letter :: partition), ?_⟩ lacks
      refine ⟨by simpa using plain, by simpa using otherPlain, by simp, ?_⟩
      cases rest with
      | nil => exact .inl (String.toList_inj.mp (by simp [letters]))
      | cons colon rest =>
        obtain rfl := otherNext colon rfl
        exact .inr ⟨String.ofList rest, String.toList_inj.mp (by simp [letters])⟩

end Lead

/-- Templates for one authority have the same name only if they are the same. -/
theorem templateArn_inj {arn : String} {isCa other : Bool} {first second : List String} :
    templateArn arn isCa first = templateArn arn other second ↔
      Template.select isCa first = Template.select other second := by
  rw [templateArn, templateArn, String.append_right_inj, Template.path_injective.eq_iff]

/-- A request for an authority has the template for that. The template of any other request goes by
its usages in whatever order, five kinds of which have one each. The identifier of the authority
counts only by its scheme and its partition. -/
theorem template_follows_usages (arn : String) :
    (∀ isCa first second, first.Perm second →
      templateArn arn isCa first = templateArn arn isCa second) ∧
    (∀ usages, templateArn arn true usages = partitionLead arn ++ Template.subordinateCa.path) ∧
    (∀ usages, templateArn arn false usages ≠ partitionLead arn ++ Template.subordinateCa.path) ∧
    (∀ usages, templateArn arn false usages = partitionLead arn ++ Template.passthrough.path ↔
      ¬Template.Serves usages) ∧
    (Template.servedUsages.map (templateArn arn false)).Nodup ∧
    (∀ scheme partition, LeadsWith arn scheme partition → ∀ isCa usages,
      templateArn arn isCa usages =
        scheme ++ ":" ++ partition ++ ":" ++ (Template.select isCa usages).path) ∧
    ((¬∃ scheme partition, LeadsWith arn scheme partition) → ∀ isCa usages,
      templateArn arn isCa usages = "arn:aws:" ++ (Template.select isCa usages).path) := by
  refine ⟨fun isCa first second same => ?_, fun usages => rfl, fun usages same => ?_,
    fun usages => ?_, ?_, fun scheme partition leads isCa usages => ?_,
    fun lacks isCa usages => ?_⟩
  · rw [templateArn_inj]
    cases isCa with
    | false => exact Template.ofUsages_perm same
    | true => rfl
  · have shared : templateArn arn false usages = templateArn arn true usages := same
    exact Template.ofUsages_ne_subordinateCa usages (templateArn_inj.mp shared)
  · rw [templateArn, String.append_right_inj, Template.path_injective.eq_iff]
    exact Template.ofUsages_eq_passthrough_iff
  · have apart : Function.Injective fun template : Template => partitionLead arn ++ template.path :=
      fun first second same => Template.path_injective ((String.append_right_inj _).mp same)
    have named := Template.nodup_servedUsages.map apart
    rwa [List.map_map] at named
  · rw [templateArn, leads.partitionLead_eq]
  · rw [templateArn, partitionLead_of_not_leadsWith lacks]

/-- An authority of another partition has the templates of that partition, and the identifier
of none has the standard ones. -/
theorem sample_partition_kept :
    LeadsWith "arn:aws-cn:acm-pca:cn-north-1:1:certificate-authority/1" "arn" "aws-cn" ∧
    ["server auth", "client auth"].Perm ["client auth", "server auth"] ∧
    templateArn "arn:aws-cn:acm-pca:cn-north-1:1:certificate-authority/1" false
        ["server auth", "client auth"] = "arn:aws-cn:acm-pca:::template/EndEntityCertificate/V1" ∧
    (¬∃ scheme partition, LeadsWith "arn::acm-pca" scheme partition) ∧
    templateArn "arn::acm-pca" true [] =
      "arn:aws:acm-pca:::template/SubordinateCACertificate_PathLen0/V1" := by
  have leads : LeadsWith "arn:aws-cn:acm-pca:cn-north-1:1:certificate-authority/1" "arn" "aws-cn" :=
    ⟨by decide, by decide, by decide, .inr ⟨"acm-pca:cn-north-1:1:certificate-authority/1", rfl⟩⟩
  have same : ["server auth", "client auth"].Perm ["client auth", "server auth"] := by decide
  have lacks : ¬∃ scheme partition, LeadsWith "arn::acm-pca" scheme partition := by
    rintro ⟨scheme, partition, leads⟩
    obtain ⟨rest, _, dropped, taken⟩ := leads.cut
    have colons : "arn::acm-pca".toList.dropWhile (· ≠ ':') = ':' :: ":acm-pca".toList := by decide
    obtain rfl := (List.cons.inj (colons.symm.trans dropped)).2
    have empty : ":acm-pca".toList.takeWhile (· ≠ ':') = [] := by decide
    exact leads.filled (String.toList_eq_nil_iff.mp (taken.symm.trans empty))
  obtain ⟨perm, _, _, _, _, led, _⟩ :=
    template_follows_usages "arn:aws-cn:acm-pca:cn-north-1:1:certificate-authority/1"
  obtain ⟨_, _, _, _, _, _, unled⟩ := template_follows_usages "arn::acm-pca"
  refine ⟨leads, same, ?_, lacks, unled lacks true []⟩
  rw [perm false _ _ same]
  exact led "arn" "aws-cn" leads false _

end Issuance.PrivateCa
