import KeyDirectory.Client.Basic
import KeyDirectory.Proofs.Location.References
import KeyDirectory.Proofs.Unicode.Casing

/-!
# Candidates

A domain that lookups accept (`Client.Accepted`) is a host text, and so each method has one
candidate for each host that its URL can have (`candidate_eq`). There are two candidates or none
(`candidates_eq_ok_iff`).
-/

namespace KeyDirectory

open KeyDirectory.MailAddress KeyDirectory.Text KeyDirectory.Unicode KeyDirectory.Url

/-! ## Accepted domains -/

/-- A domain for which places are sought: an argument that passed the check, or the host of a mail
address. -/
inductive Client.Accepted : String → Prop where
  | argument {argument domain : String} (checked : checkDomain argument = .ok domain) :
    Accepted domain
  | host {text : String} {m : MailAddress} (parsed : MailAddress.ofText text = .ok m) :
    Accepted m.host

/-- The check lets a domain through iff it is a host name with white space around it. -/
theorem Client.checkDomain_eq_ok_iff {argument domain : String} :
    checkDomain argument = .ok domain ↔
      HostText (trim argument.toList) ∧ domain = trimmed argument := by
  unfold checkDomain
  simp only
  constructor
  · intro checked
    split at checked
    · contradiction
    next nonempty =>
    split at checked
    · contradiction
    next fit =>
    obtain rfl := Except.ok.inj checked
    exact ⟨⟨by simpa using nonempty, by simpa using fit⟩, rfl⟩
  · rintro ⟨⟨nonempty, fit⟩, rfl⟩
    have found : (trim argument.toList).find? isBadHostChar = none := by simpa using fit
    rw [if_neg (by simpa using nonempty), found]
    rfl

theorem Client.Accepted.hostText {domain : String} (accepted : Accepted domain) :
    HostText domain.toList := by
  cases accepted with
  | argument checked =>
    obtain ⟨text, rfl⟩ := checkDomain_eq_ok_iff.mp checked
    rw [trimmed, String.toList_ofList]
    exact text
  | host parsed => exact (form_of_read parsed).parts.host_text

/-! ## The URLs of the directories -/

namespace Method

/-- The host name under which a method looks. -/
def host (method : Method) (domain : String) : String :=
  match method with
  | .advanced => "openpgpkey." ++ domain
  | .direct => domain

/-- The path below which a method looks, without the slash at its start. -/
def directory (method : Method) (domain : String) : String :=
  match method with
  | .advanced => ".well-known/openpgpkey/" ++ domain ++ "/"
  | .direct => ".well-known/openpgpkey/"

variable {domain : String}

theorem toList_host_advanced :
    (advanced.host domain).toList = "openpgpkey.".toList ++ domain.toList :=
  String.toList_append

/-- The subdomain is a label of its own. -/
theorem toList_host_advanced_cut :
    (advanced.host domain).toList = "openpgpkey".toList ++ '.' :: domain.toList := by
  rw [toList_host_advanced]
  simp

theorem toList_directory_advanced :
    (advanced.directory domain).toList =
      ".well-known/openpgpkey/".toList ++ domain.toList ++ "/".toList :=
  String.toList_append.trans (congrArg (· ++ "/".toList) String.toList_append)

theorem baseText_eq (method : Method) (domain : String) :
    method.baseText domain.toList =
      String.ofList ("https://".toList ++ (method.host domain).toList ++
        '/' :: (method.directory domain).toList) := by
  cases method with
  | advanced =>
    rw [toList_host_advanced, toList_directory_advanced]
    refine congrArg String.ofList ?_
    simp
  | direct =>
    have path : "/.well-known/openpgpkey/".toList = '/' :: ".well-known/openpgpkey/".toList := by
      decide
    exact congrArg (fun path => String.ofList ("https://".toList ++ domain.toList ++ path)) path

/-- Both methods make host names of host names. -/
theorem hostText_host (text : HostText domain.toList) (method : Method) :
    HostText (method.host domain).toList := by
  cases method with
  | direct => exact text
  | advanced =>
    rw [toList_host_advanced]
    refine ⟨by simp, ?_⟩
    have front : ∀ c ∈ "openpgpkey.".toList, isBadHostChar c = false :=
      forall_mem_of_all (by decide)
    intro c mem
    rcases List.mem_append.mp mem with inFront | inDomain
    · exact front c inFront
    · exact text.fit c inDomain

/-- A directory has no character that would end the path. -/
theorem directory_stays (text : HostText domain.toList) (method : Method) :
    ∀ c ∈ (method.directory domain).toList, 32 < c.toNat ∧ endsPath c = false := by
  have front : ∀ c ∈ ".well-known/openpgpkey/".toList, 32 < c.toNat ∧ endsPath c = false :=
    forall_mem_of_all (by decide)
  have last : ∀ c ∈ "/".toList, 32 < c.toNat ∧ endsPath c = false := forall_mem_of_all (by decide)
  intro c mem
  cases method with
  | direct => exact front c mem
  | advanced =>
    rw [toList_directory_advanced] at mem
    rcases List.mem_append.mp mem with early | inLast
    · rcases List.mem_append.mp early with inFront | inDomain
      · exact front c inFront
      · have mark : c ≠ '?' := fun same => text.not_mem (by decide) (same ▸ inDomain)
        have hash : c ≠ '#' := fun same => text.not_mem (by decide) (same ▸ inDomain)
        exact ⟨text.visible c inDomain, by simp [endsPath, mark, hash]⟩
    · exact last c inLast

/-- The segments of the directory, once the dot segments are resolved. -/
def directorySegments (method : Method) (domain : String) : List String :=
  ((Path.read true [] (method.directory domain).toList).map String.ofList).dropLast

end Method

/-! ## Places -/

namespace Resource

variable {resource : Resource} {domain : String}

/-- The candidate of a method at a host. -/
def place (resource : Resource) (domain : String) (method : Method) (host : Host) : Candidate where
  method := method
  url :=
    { plain host (method.directorySegments domain ++ resource.segments) with
      query := resource.query }
  fallbackMessage := method.fallbackMessage

/-- A candidate is the place on the host that its method leads to. -/
theorem candidate_eq (text : HostText domain.toList) (method : Method) :
    resource.candidate domain.toList method =
      (Host.ofText true (method.host domain).toList).map (resource.place domain method) := by
  have read := ofText_https (Method.hostText_host text method)
    (fun c mem => (Method.directory_stays text method c mem).1)
    (fun c mem => (Method.directory_stays text method c mem).2)
  rw [candidate, Method.baseText_eq, read]
  cases Host.ofText true (method.host domain).toList with
  | error defect => rfl
  | ok host =>
    simp only [Except.map, resolve_reference]
    rfl

/-- A candidate is found by its method. -/
theorem method_of_candidate {domain : List Char} {method : Method} {found : Candidate}
    (h : resource.candidate domain method = .ok found) : found.method = method := by
  unfold candidate at h
  cases read : Url.ofText (method.baseText domain) with
  | error defect =>
    rw [read] at h
    cases h
  | ok base =>
    rw [read] at h
    cases h
    rfl

/-- The places do not depend on the case of the domain. -/
theorem candidates_congr {domain domain' : String} (same : EqUpToCase domain domain')
    (resource : Resource) : resource.candidates domain = resource.candidates domain' := by
  rw [candidates, candidates, lower_congr same]

theorem candidates_eq_bind (resource : Resource) (domain : String) :
    resource.candidates domain =
      (resource.candidate (lower domain.toList) .advanced).bind fun advanced =>
        (resource.candidate (lower domain.toList) .direct).map fun direct => [advanced, direct] :=
  mapM_pair _ _ _

/-- Whatever the domain is, it has a candidate for each method in the order of the methods, or none. -/
theorem eq_pair_of_candidates {candidates : List Candidate}
    (h : resource.candidates domain = .ok candidates) :
    ∃ advanced direct, candidates = [advanced, direct] ∧ advanced.method = .advanced ∧
      direct.method = .direct := by
  rw [candidates_eq_bind] at h
  cases advanced_ok : resource.candidate (lower domain.toList) .advanced with
  | error defect =>
    rw [advanced_ok] at h
    cases h
  | ok advanced =>
    rw [advanced_ok, Except.bind] at h
    obtain ⟨direct, direct_ok, rfl⟩ := map_eq_ok_iff.mp h
    exact ⟨advanced, direct, rfl, method_of_candidate advanced_ok, method_of_candidate direct_ok⟩

/-- There are places iff both methods lead to a host. -/
theorem candidates_eq_ok_iff {candidates : List Candidate}
    (text : HostText (lowered domain).toList) :
    resource.candidates domain = .ok candidates ↔
      ∃ advanced direct,
        Host.ofText true (Method.advanced.host (lowered domain)).toList = .ok advanced ∧
        Host.ofText true (Method.direct.host (lowered domain)).toList = .ok direct ∧
        candidates =
          [resource.place (lowered domain) .advanced advanced,
            resource.place (lowered domain) .direct direct] := by
  have lowered_eq : lower domain.toList = (lowered domain).toList := by simp [lowered]
  rw [candidates_eq_bind, lowered_eq, candidate_eq text, candidate_eq text]
  cases Host.ofText true (Method.advanced.host (lowered domain)).toList with
  | error defect => simp [Except.map, Except.bind]
  | ok advanced =>
    cases Host.ofText true (Method.direct.host (lowered domain)).toList with
    | error defect => simp [Except.map, Except.bind]
    | ok direct => simp [Except.map, Except.bind, eq_comm]

end Resource

end KeyDirectory
