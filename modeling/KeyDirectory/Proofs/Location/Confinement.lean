import KeyDirectory.Proofs.Location.Candidates

/-!
# Where candidates lead

For an accepted domain in ASCII the candidates lead to the domain itself and to its subdomain
`openpgpkey`, by HTTPS and to no other port (`candidates_confined`). No IP address is ever among
them: a domain that ends in a number would be one for the direct method, but with the subdomain
before it it is no host, and so there are no candidates at all.

Under these hosts a resource lies in the well-known directory (`candidates_path`). Where the
advanced method names the domain in its path, a domain `.` or `..` is read as a dot segment.
-/

namespace KeyDirectory

open KeyDirectory.MailAddress KeyDirectory.Text KeyDirectory.Unicode KeyDirectory.Url

/-! ## Hosts -/

/-- A candidate of a method that leads to a machine by its name, and by HTTPS alone. -/
structure Candidate.LeadsTo (candidate : Candidate) (method : Method) (name : String) : Prop where
  method_eq : candidate.method = method
  message_eq : candidate.fallbackMessage = method.fallbackMessage
  scheme_eq : candidate.url.scheme = .https
  username_eq : candidate.url.username = ""
  password_eq : candidate.url.password = none
  host_eq : candidate.url.host = some (.domain name)
  port_eq : candidate.url.port = none
  fragment_eq : candidate.url.fragment = none

/-- A place on a named host is where its method leads to. -/
theorem Resource.place_leadsTo (resource : Resource) (domain : String) (method : Method)
    (name : String) : (resource.place domain method (.domain name)).LeadsTo method name where
  method_eq := rfl
  message_eq := rfl
  scheme_eq := rfl
  username_eq := rfl
  password_eq := rfl
  host_eq := rfl
  port_eq := rfl
  fragment_eq := rfl

/-- An accepted ASCII domain is a plain name in its lower-cased form. -/
theorem Client.Accepted.plainName {domain : String} (accepted : Accepted domain)
    (ascii : isAscii domain.toList = true) : PlainName (lowered domain).toList where
  text := by
    rw [toList_lowered ascii]
    exact accepted.hostText.map_toLower ascii
  ascii := isAscii_lowered ascii
  small := toLower_of_mem_lowered ascii

namespace Method

variable {domain : String} {host : Host}

/-- The advanced method makes plain names of plain names. -/
theorem plainName_advanced (plain : PlainName domain.toList) :
    PlainName (Method.advanced.host domain).toList where
  text := hostText_host plain.text .advanced
  ascii := by
    have front : isAscii "openpgpkey.".toList = true := by decide
    rw [toList_host_advanced, isAscii, List.all_append, Bool.and_eq_true]
    exact ⟨front, plain.ascii⟩
  small := by
    have front : ∀ c ∈ "openpgpkey.".toList, c.toLower = c := forall_mem_of_all (by decide)
    intro c mem
    rw [toList_host_advanced] at mem
    rcases List.mem_append.mp mem with inFront | inDomain
    · exact front c inFront
    · exact plain.small c inDomain

/-- With the subdomain before it, a domain that ends in a number is no host, so that a host has
neither there. -/
theorem numberless_of_advanced (plain : PlainName domain.toList)
    (h : Host.ofText true (Method.advanced.host domain).toList = .ok host) :
    Ipv4.endsInNumber (Method.advanced.host domain).toList = false ∧
      Ipv4.endsInNumber domain.toList = false := by
  have noAddress : Ipv4.address? (Method.advanced.host domain).toList = none := by
    have label : '.' ∉ "openpgpkey".toList ∧ Ipv4.number? "openpgpkey".toList = none := by decide
    rw [toList_host_advanced_cut, Ipv4.address?_eq_none label.1 label.2]
  have numberless := (plainName_advanced plain).endsInNumber_eq_false noAddress h
  refine ⟨numberless, ?_⟩
  rwa [toList_host_advanced_cut, Ipv4.endsInNumber_append_cons _ plain.text.ne_nil] at numberless

end Method

/-- There are two candidates for an accepted domain in ASCII, or none. Of the two, the first leads
to the subdomain made for the directory and the second to the domain, by name and never by address.
A domain that ends in a number has none. -/
theorem candidates_confined (resource : Resource) {domain : String}
    (accepted : Client.Accepted domain) (ascii : isAscii domain.toList = true) :
    ((∃ defect, resource.candidates domain = .error defect) ∨
      ∃ advanced direct, resource.candidates domain = .ok [advanced, direct] ∧
        advanced.LeadsTo .advanced ("openpgpkey." ++ lowered domain) ∧
        direct.LeadsTo .direct (lowered domain)) ∧
    (Ipv4.NumericEnd domain.toList → ∃ defect, resource.candidates domain = .error defect) := by
  have plain := accepted.plainName ascii
  cases found : resource.candidates domain with
  | error defect => exact ⟨.inl ⟨defect, rfl⟩, fun _ => ⟨defect, rfl⟩⟩
  | ok candidates =>
    obtain ⟨advanced, direct, advanced_ok, direct_ok, rfl⟩ :=
      (Resource.candidates_eq_ok_iff plain.text).mp found
    -- the direct URL alone could lead to an address, so the advanced one has to rule it out
    obtain ⟨advanced_numberless, numberless⟩ := Method.numberless_of_advanced plain advanced_ok
    constructor
    · have advanced_eq := (Method.plainName_advanced plain).eq_domain_of_ofText advanced_numberless
        advanced_ok
      have direct_eq := plain.eq_domain_of_ofText numberless direct_ok
      rw [String.ofList_toList] at advanced_eq direct_eq
      rw [advanced_eq, direct_eq]
      exact .inr ⟨_, _, rfl, Resource.place_leadsTo .., Resource.place_leadsTo ..⟩
    · intro numeric
      have ends := Ipv4.endsInNumber_of_numericEnd numeric.map_toLower
      rw [← toList_lowered ascii, numberless] at ends
      exact absurd ends Bool.false_ne_true

/-- A name in mixed case is found under its name in lower case. An address that would be a host is
none with the subdomain before it. -/
theorem candidates_confined_mixed_case :
    Client.checkDomain " b.C" = .ok "b.C" ∧
      (∃ advanced direct, Resource.policy.candidates "b.C" = .ok [advanced, direct] ∧
        advanced.LeadsTo .advanced "openpgpkey.b.c" ∧ direct.LeadsTo .direct "b.c") ∧
      Client.checkDomain "1.2.3.0X4" = .ok "1.2.3.0X4" ∧
      Host.ofText true "1.2.3.0x4".toList = .ok (.ipv4 16909060) ∧
      ∃ defect, Resource.policy.candidates "1.2.3.0X4" = .error defect := by
  have name : Client.checkDomain " b.C" = .ok "b.C" := rfl
  have number : Client.checkDomain "1.2.3.0X4" = .ok "1.2.3.0X4" := rfl
  refine ⟨name, ?_, number, rfl, ?_⟩
  · obtain ⟨none_or_two, -⟩ := candidates_confined .policy (.argument name) (by decide)
    have some_candidates : (Resource.policy.candidates "b.C").isOk = true := by decide +kernel
    rcases none_or_two with ⟨defect, none⟩ | two
    · rw [none] at some_candidates
      contradiction
    · exact two
  · obtain ⟨-, noAddress⟩ := candidates_confined .policy (.argument number) (by decide)
    have numeric : Ipv4.NumericLabel "0X4".toList :=
      .hexadecimal (.inr rfl) (forall_mem_of_all (by decide))
    exact noAddress (.after "1.2.3".toList (.single numeric (.inl rfl)))

/-! ## Paths -/

/-- The segments of a path, each after a slash, and what comes below them. -/
theorem Resource.renderPath_place (resource : Resource) (domain : String) (method : Method)
    (host : Host) :
    (resource.place domain method host).url.renderPath =
      Path.render ((method.directorySegments domain).map String.toList) ++
        '/' :: resource.relativePath.toList := by
  rw [← Resource.render_segments, Path.render, Path.render, ← List.flatMap_append,
    ← List.map_append]
  simp only [renderPath, place, plain, Option.isNone_some, Bool.false_and, Bool.false_eq_true,
    if_true, if_false, List.nil_append, Path.render]

/-- Lower-casing makes no dots. -/
theorem eq_of_lowered_dots {domain : String} (ascii : isAscii domain.toList = true) {n : Nat}
    (h : (lowered domain).toList = List.replicate n '.') :
    domain.toList = List.replicate n '.' := by
  rw [toList_lowered ascii, List.eq_replicate_iff, List.length_map] at h
  obtain ⟨length_eq, dots⟩ := h
  rw [List.eq_replicate_iff]
  refine ⟨length_eq, fun c mem => ?_⟩
  exact forall_ascii (P := fun c => c.toLower = '.' → c = '.') (by decide)
    (isAscii_iff.mp ascii c mem) (dots c.toLower (List.mem_map_of_mem mem))

namespace Method

variable {domain : String}

theorem directorySegments_direct (domain : String) :
    Method.direct.directorySegments domain = [".well-known", "openpgpkey"] := by
  change ((Path.read true [] ".well-known/openpgpkey/".toList).map String.ofList).dropLast = _
  decide

theorem directorySegments_here :
    Method.advanced.directorySegments "." = [".well-known", "openpgpkey"] := by
  rfl

theorem directorySegments_above : Method.advanced.directorySegments ".." = [".well-known"] := by
  rfl

theorem segments_directory_advanced (plain : PlainName domain.toList) :
    Path.segments true (Method.advanced.directory domain).toList =
      [".well-known".toList, "openpgpkey".toList, domain.toList, []] := by
  have text : (Method.advanced.directory domain).toList =
      ".well-known".toList ++
        '/' :: ("openpgpkey".toList ++ '/' :: (domain.toList ++ '/' :: [])) := by
    rw [toList_directory_advanced]
    simp
  have known : Path.segments true ".well-known".toList = [".well-known".toList] := rfl
  have openpgpkey : Path.segments true "openpgpkey".toList = ["openpgpkey".toList] := rfl
  have last : Path.segments true [] = [[]] := rfl
  rw [text, Path.segments_append_slash, Path.segments_append_slash, Path.segments_append_slash,
    known, openpgpkey, plain.segments_eq, last, List.singleton_append, List.singleton_append,
    List.singleton_append]

/-- The directory of the advanced method ends in the domain, unless this is read as a step within
the path. -/
theorem directorySegments_advanced (plain : PlainName domain.toList) (here : domain ≠ ".")
    (above : domain ≠ "..") :
    Method.advanced.directorySegments domain = [".well-known", "openpgpkey", domain] := by
  have kept : ∀ s ∈ Path.segments true (Method.advanced.directory domain).toList,
      Path.IsPlain s := by
    rw [segments_directory_advanced plain]
    intro s mem
    simp only [List.mem_cons, List.not_mem_nil, or_false] at mem
    rcases mem with rfl | rfl | rfl | rfl
    · exact ⟨by decide, by decide⟩
    · exact ⟨by decide, by decide⟩
    · exact plain.isPlain (fun same => here (String.toList_inj.mp same))
        (fun same => above (String.toList_inj.mp same))
    · exact ⟨by decide, by decide⟩
  -- the slash at the end leaves an empty segment behind, whose place the resource takes
  rw [directorySegments, Path.read_of_plain kept, segments_directory_advanced plain]
  simp

end Method

/-- The direct method looks in the well-known directory of the domain, and the advanced method below
it in the directory that the domain gives its name. If that name is `.` or `..`, it does not stand
in the path, and after `..` neither does the directory above it. -/
theorem candidates_path {resource : Resource} {domain : String} {candidates : List Candidate}
    (accepted : Client.Accepted domain) (ascii : isAscii domain.toList = true)
    (h : resource.candidates domain = .ok candidates) :
    ∃ advanced direct, candidates = [advanced, direct] ∧
      String.ofList direct.url.renderPath = "/.well-known/openpgpkey/" ++ resource.relativePath ∧
      (domain ≠ "." → domain ≠ ".." →
        String.ofList advanced.url.renderPath =
          "/.well-known/openpgpkey/" ++ lowered domain ++ "/" ++ resource.relativePath) ∧
      (domain = "." →
        String.ofList advanced.url.renderPath =
          "/.well-known/openpgpkey/" ++ resource.relativePath) ∧
      (domain = ".." →
        String.ofList advanced.url.renderPath = "/.well-known/" ++ resource.relativePath) := by
  have plain := accepted.plainName ascii
  obtain ⟨advanced, direct, -, -, rfl⟩ := (Resource.candidates_eq_ok_iff plain.text).mp h
  refine ⟨_, _, rfl, ?_, ?_, ?_, ?_⟩
  · rw [Resource.renderPath_place, Method.directorySegments_direct, ← String.toList_inj]
    simp [Path.render]
  · intro here above
    -- what stands in the path is the domain in lower case, which is made of dots only if it was
    have here_lowered : lowered domain ≠ "." := fun same =>
      here (String.toList_inj.mp (eq_of_lowered_dots (n := 1) ascii (congrArg String.toList same)))
    have above_lowered : lowered domain ≠ ".." := fun same =>
      above (String.toList_inj.mp (eq_of_lowered_dots (n := 2) ascii (congrArg String.toList same)))
    rw [Resource.renderPath_place,
      Method.directorySegments_advanced plain here_lowered above_lowered, ← String.toList_inj]
    simp [Path.render]
  · rintro rfl
    have small : lowered "." = "." := rfl
    rw [Resource.renderPath_place, small, Method.directorySegments_here, ← String.toList_inj]
    simp [Path.render]
  · rintro rfl
    have small : lowered ".." = ".." := rfl
    rw [Resource.renderPath_place, small, Method.directorySegments_above, ← String.toList_inj]
    simp [Path.render]

/-- The domain stands in the path in lower case. -/
theorem candidates_path_mixed_case :
    Client.checkDomain "B.c" = .ok "B.c" ∧
      ∃ advanced direct, Resource.policy.candidates "B.c" = .ok [advanced, direct] ∧
        String.ofList advanced.url.renderPath = "/.well-known/openpgpkey/b.c/policy" ∧
        String.ofList direct.url.renderPath = "/.well-known/openpgpkey/policy" := by
  have accepted : Client.checkDomain "B.c" = .ok "B.c" := rfl
  have some_candidates : (Resource.policy.candidates "B.c").isOk = true := by decide +kernel
  refine ⟨accepted, ?_⟩
  cases found : Resource.policy.candidates "B.c" with
  | error defect =>
    rw [found] at some_candidates
    contradiction
  | ok candidates =>
    obtain ⟨advanced, direct, rfl, direct_path, named, -⟩ :=
      candidates_path (.argument accepted) (by decide) found
    exact ⟨advanced, direct, rfl, named (by decide) (by decide), direct_path⟩

/-- A domain that is accepted, and of whose candidates one lies outside the well-known directory. -/
theorem candidates_path_above :
    Client.checkDomain ".." = .ok ".." ∧
      ∃ advanced direct, Resource.policy.candidates ".." = .ok [advanced, direct] ∧
        String.ofList advanced.url.renderPath = "/.well-known/policy" ∧
        String.ofList direct.url.renderPath = "/.well-known/openpgpkey/policy" := by
  have accepted : Client.checkDomain ".." = .ok ".." := rfl
  have plain := (Client.Accepted.argument accepted).plainName (by decide)
  have advanced_ok : Host.ofText true (Method.advanced.host (lowered "..")).toList =
      .ok (.domain "openpgpkey...") := rfl
  have direct_ok : Host.ofText true (Method.direct.host (lowered "..")).toList =
      .ok (.domain "..") := rfl
  have small : lowered ".." = ".." := rfl
  refine ⟨accepted, _, _,
    (Resource.candidates_eq_ok_iff plain.text).mpr ⟨_, _, advanced_ok, direct_ok, rfl⟩, ?_, ?_⟩
  · rw [Resource.renderPath_place, small, Method.directorySegments_above]
    rfl
  · rw [Resource.renderPath_place, Method.directorySegments_direct]
    rfl

end KeyDirectory
