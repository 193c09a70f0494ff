import KeyDirectory.Proofs.Location.Candidates

/-!
# Local parts in the places of keys

Whether a domain has candidates does not depend on what is looked for: the same directories serve
every resource (`candidates_cases`). So all that the local part of an address decides stands at the
end of its URLs, once hashed and once escaped:

* the escaped local part can be read back, and is never taken for another part of the URL
  (`keyCandidates_show_user`);
* in another spelling the local part is found under the same hash, and only the query tells the two
  apart (`candidates_letterCase`).
-/

namespace KeyDirectory

open KeyDirectory.Text KeyDirectory.Unicode KeyDirectory.Url

/-! ## Directories -/

namespace Resource

variable {resource : Resource} {method : Method} {directory : Url}

/-- The candidate of a method below a directory. -/
def below (resource : Resource) (method : Method) (directory : Url) : Candidate where
  method := method
  url :=
    { directory with
      path := directory.path.dropLast ++ resource.segments
      query := resource.query
      fragment := none }
  fallbackMessage := method.fallbackMessage

/-- A candidate is the place of a resource below a directory. -/
theorem candidate_eq_below (resource : Resource) (domain : List Char) (method : Method) :
    resource.candidate domain method =
      (Url.ofText (method.baseText domain)).map (resource.below method) := by
  simp only [candidate, resolve_reference]
  rfl

theorem isRooted_of_baseText {domain : String}
    (read : Url.ofText (method.baseText (lower domain.toList)) = .ok directory) :
    directory.isRooted = true := by
  have lowered_eq : lower domain.toList = (lowered domain).toList := by simp [lowered]
  rw [lowered_eq, Method.baseText_eq, List.append_assoc] at read
  exact isRooted_of_ofText_https read

/-- The domain alone decides whether there are candidates, and in which directories they lie. -/
theorem candidates_cases (domain : String) :
    (∃ defect, ∀ resource : Resource, resource.candidates domain = .error defect) ∨
      ∃ advanced direct : Url, advanced.isRooted = true ∧ direct.isRooted = true ∧
        ∀ resource : Resource, resource.candidates domain =
          .ok [resource.below .advanced advanced, resource.below .direct direct] := by
  simp only [candidates_eq_bind, candidate_eq_below]
  cases advanced_read : Url.ofText (Method.advanced.baseText (lower domain.toList)) with
  | error defect => exact .inl ⟨defect, fun _ => rfl⟩
  | ok advanced =>
    cases direct_read : Url.ofText (Method.direct.baseText (lower domain.toList)) with
    | error defect => exact .inl ⟨defect, fun _ => rfl⟩
    | ok direct =>
      exact .inr ⟨advanced, direct, isRooted_of_baseText advanced_read,
        isRooted_of_baseText direct_read, fun _ => rfl⟩

/-- All candidates are places below directories. -/
theorem exists_below_of_mem {domain : String} {candidates : List Candidate} {candidate : Candidate}
    (found : resource.candidates domain = .ok candidates) (mem : candidate ∈ candidates) :
    ∃ method directory, candidate = resource.below method directory := by
  rcases candidates_cases domain with ⟨defect, failed⟩ | ⟨advanced, direct, -, -, pair⟩
  · rw [failed] at found
    contradiction
  · rw [pair] at found
    obtain rfl := Except.ok.inj found
    simp only [List.mem_cons, List.not_mem_nil, or_false] at mem
    rcases mem with rfl | rfl
    · exact ⟨_, _, rfl⟩
    · exact ⟨_, _, rfl⟩

/-- The path of a place ends in that of the resource. -/
theorem renderPath_below (resource : Resource) (method : Method)
    (rooted : directory.isRooted = true) :
    ∃ front, (resource.below method directory).url.renderPath =
      front ++ '/' :: resource.relativePath.toList := by
  rw [← render_segments]
  simp only [renderPath, below, rooted, if_true, List.map_append, Path.render,
    List.flatMap_append, ← List.append_assoc]
  exact ⟨_, rfl⟩

end Resource

/-! ## Queries -/

namespace Url

theorem render_of_query {url : Url} {query : String} (some_query : url.query = some query)
    (noFragment : url.fragment = none) :
    ∃ front, url.render = front ++ '?' :: query.toList := by
  simp only [render, some_query, noFragment, List.append_nil]
  exact ⟨_, rfl⟩

/-- In a text that ends in a query, the query is what stands behind the last question mark. -/
theorem query_eq_of_toText_eq {url url' : Url} {query query' : String}
    (some_query : url.query = some query) (some_query' : url'.query = some query')
    (noFragment : url.fragment = none) (noFragment' : url'.fragment = none)
    (noMark : '?' ∉ query.toList) (noMark' : '?' ∉ query'.toList)
    (same : url.toText = url'.toText) : query = query' := by
  obtain ⟨front, text⟩ := render_of_query some_query noFragment
  obtain ⟨front', text'⟩ := render_of_query some_query' noFragment'
  have cut : splitLast '?' url.render = splitLast '?' url'.render :=
    congrArg (splitLast '?') (String.ofList_injective same)
  rw [text, text', splitLast_append_cons front noMark, splitLast_append_cons front' noMark'] at cut
  exact String.toList_inj.mp (Prod.mk.inj (Option.some.inj cut)).2

end Url

/-- The local part as the query shows it. -/
def escapedUser (user : String) : List Char :=
  Percent.encode Percent.isUnreserved user.toList

namespace Resource

variable {user user' : String}

theorem query_keys (user : String) :
    (keys user).query = some ("l=" ++ String.ofList (escapedUser user)) := rfl

/-- Queries for keys are the same for the same local part only. -/
theorem query_keys_eq_iff : (keys user).query = (keys user').query ↔ user = user' := by
  constructor
  · intro same
    have texts := congrArg String.toList (Option.some.inj same)
    rw [String.toList_append, String.toList_append, List.append_cancel_left_eq,
      String.toList_ofList, String.toList_ofList] at texts
    exact String.toList_inj.mp (Percent.encode_injective (by decide) texts)
  · rintro rfl
    rfl

/-- The hash does not depend on the case of the local part. -/
theorem hashedUser_congr (same : EqUpToCase user user') : hashedUser user = hashedUser user' := by
  rw [hashedUser, hashedUser, lower_congr same]

theorem mark_not_mem_query_keys (user : String) :
    '?' ∉ ("l=" ++ String.ofList (escapedUser user)).toList := by
  rw [String.toList_append, List.mem_append, not_or]
  refine ⟨by decide, fun mem => ?_⟩
  rw [String.toList_ofList, escapedUser] at mem
  rcases Percent.mem_encode_isUnreserved mem with stays | isSign
  · exact absurd stays (by decide)
  · exact absurd isSign (by decide)

end Resource

/-! ## Local parts -/

/-- A name that shows the digest of a local part in lower case, bit by bit and without padding. -/
structure IsHashOf (name : List Char) (user : String) : Prop where
  length_eq : name.length = 32
  mem_alphabet : ∀ c ∈ name, c ∈ Codec.ZBase32.alphabet
  bits_eq : Codec.ZBase32.bits name =
    Codec.Bits.ofBytes (Digest.Sha1.digest (Utf8.encode (lower user.toList)))

/-- An escaped text that stands for a local part in its own case. -/
structure IsEscapeOf (escaped : List Char) (user : String) : Prop where
  form : Percent.Escaped escaped
  decode_eq : Percent.decode escaped = Utf8.encode user.toList

/-- A candidate whose path ends in a name, and whose query is an escaped text and the end of the
URL. -/
structure Candidate.Shows (candidate : Candidate) (name escaped : List Char) : Prop where
  path_ends : ∃ front, candidate.url.renderPath = front ++ "/hu/".toList ++ name
  query_eq : candidate.url.query = some ("l=" ++ String.ofList escaped)
  fragment_eq : candidate.url.fragment = none

/-- The hash holds the digest of the lower-cased local part. -/
theorem isHashOf_hashedUser (user : String) : IsHashOf (Resource.hashedUser user).toList user := by
  have bits : Codec.ZBase32.bits (Resource.hashedUser user).toList =
      Codec.Bits.ofBytes (Digest.Sha1.digest (Utf8.encode (lower user.toList))) := by
    apply Codec.ZBase32.bits_encode_of_dvd
    rw [Digest.Sha1.length_digest]
    decide
  have length := congrArg List.length bits
  rw [Codec.ZBase32.length_bits, Codec.Bits.length_ofBytes, Digest.Sha1.length_digest] at length
  exact ⟨by omega, fun c mem => Codec.ZBase32.mem_encode mem, bits⟩

/-- The escaped form of a local part is decoded to it. -/
theorem isEscapeOf_escapedUser (user : String) : IsEscapeOf (escapedUser user) user where
  form := Percent.escaped_encode user.toList
  decode_eq := by
    have signGoes : Percent.isUnreserved '%' = false := by decide
    exact Percent.decode_encode signGoes user.toList

/-- A place for keys shows the local part, as it is and as its hash. -/
theorem Resource.below_shows (user : String) {directory : Url}
    (rooted : directory.isRooted = true) (method : Method) :
    ((keys user).below method directory).Shows (hashedUser user).toList (escapedUser user) where
  path_ends := by
    obtain ⟨front, path⟩ := renderPath_below (.keys user) method rooted
    refine ⟨front, ?_⟩
    rw [path, relativePath, String.toList_append]
    simp
  query_eq := query_keys user
  fragment_eq := rfl

/-- Whatever the local part of an address is, the URLs of its keys show it, escaped, as the whole
value of their query, and its hash as the last segment of their path. So different local parts never
have a URL in common, though they may have a hash in common. -/
theorem keyCandidates_show_user :
    (∀ (m : MailAddress) (candidates : List Candidate), m.keyCandidates = .ok candidates →
      ∃ name escaped advanced direct, candidates = [advanced, direct] ∧
        advanced.Shows name escaped ∧ direct.Shows name escaped ∧
        IsHashOf name m.user ∧ IsEscapeOf escaped m.user) ∧
    (∀ (m m' : MailAddress) (candidates candidates' : List Candidate),
      m.keyCandidates = .ok candidates → m'.keyCandidates = .ok candidates' → m.user ≠ m'.user →
        ∀ candidate ∈ candidates, ∀ candidate' ∈ candidates',
          candidate.url.toText ≠ candidate'.url.toText) ∧
    (∃ text text' m m', MailAddress.ofText text = .ok m ∧ MailAddress.ofText text' = .ok m' ∧
      m.user ≠ m'.user ∧ Resource.hashedUser m.user = Resource.hashedUser m'.user) := by
  refine ⟨?_, ?_, ?_⟩
  · intro m candidates found
    rcases Resource.candidates_cases m.host with
      ⟨defect, failed⟩ | ⟨advanced, direct, advanced_rooted, direct_rooted, pair⟩
    · rw [MailAddress.keyCandidates, failed] at found
      contradiction
    · rw [MailAddress.keyCandidates, pair] at found
      obtain rfl := Except.ok.inj found
      exact ⟨_, _, _, _, rfl, Resource.below_shows _ advanced_rooted _,
        Resource.below_shows _ direct_rooted _, isHashOf_hashedUser m.user,
        isEscapeOf_escapedUser m.user⟩
  · intro m m' candidates candidates' found found' other candidate mem candidate' mem' same
    obtain ⟨method, directory, rfl⟩ := Resource.exists_below_of_mem found mem
    obtain ⟨method', directory', rfl⟩ := Resource.exists_below_of_mem found' mem'
    -- neither escaped local part has a question mark, so the last one of a text opens its query
    have queries := query_eq_of_toText_eq (Resource.query_keys m.user) (Resource.query_keys m'.user)
      rfl rfl (Resource.mark_not_mem_query_keys m.user) (Resource.mark_not_mem_query_keys m'.user)
      same
    exact other (Resource.query_keys_eq_iff.mp (congrArg some queries))
  · exact ⟨"J@b.org", "j@b.org", ⟨none, "J", "b.org"⟩, ⟨none, "j", "b.org"⟩, rfl, rfl, by decide,
      Resource.hashedUser_congr (by unfold EqUpToCase; decide)⟩

/-- Marks that end a path or a query elsewhere are carried as a part of the query, as is a triple that
was there before. Another spelling leads to other URLs. -/
theorem keyCandidates_show_user_marks :
    MailAddress.ofText "J%2F#?&ü@b.org" = .ok ⟨none, "J%2F#?&ü", "b.org"⟩ ∧
      ∃ name escaped advanced direct,
        MailAddress.keyCandidates ⟨none, "J%2F#?&ü", "b.org"⟩ = .ok [advanced, direct] ∧
        advanced.Shows name escaped ∧ direct.Shows name escaped ∧ name.length = 32 ∧
        Percent.decode escaped = Utf8.encode "J%2F#?&ü".toList ∧
        ∃ advanced' direct',
          MailAddress.keyCandidates ⟨none, "j%2F#?&ü", "b.org"⟩ = .ok [advanced', direct'] ∧
          advanced.url.toText ≠ advanced'.url.toText ∧ direct.url.toText ≠ direct'.url.toText := by
  obtain ⟨shown, apart, -⟩ := keyCandidates_show_user
  obtain ⟨candidates, found⟩ := exists_of_isOk
    (x := MailAddress.keyCandidates ⟨none, "J%2F#?&ü", "b.org"⟩) (by decide +kernel)
  obtain ⟨candidates', found'⟩ := exists_of_isOk
    (x := MailAddress.keyCandidates ⟨none, "j%2F#?&ü", "b.org"⟩) (by decide +kernel)
  have differ := apart _ _ _ _ found found' (by decide)
  obtain ⟨name, escaped, advanced, direct, rfl, advanced_shows, direct_shows, isHash, isEscape⟩ :=
    shown _ _ found
  obtain ⟨-, -, advanced', direct', rfl, -⟩ := shown _ _ found'
  exact ⟨rfl, name, escaped, advanced, direct, found, advanced_shows, direct_shows,
    isHash.length_eq, isEscape.decode_eq, advanced', direct', found',
    differ _ (by simp) _ (by simp), differ _ (by simp) _ (by simp)⟩

/-! ## Spellings -/

/-- Two candidates that agree in all but the queries of their URLs. -/
structure Candidate.AlikeButQuery (candidate candidate' : Candidate) : Prop where
  method_eq : candidate.method = candidate'.method
  message_eq : candidate.fallbackMessage = candidate'.fallbackMessage
  url_eq : { candidate.url with query := none } = { candidate'.url with query := none }

/-- Spellings of a local part lead to places that differ in the query alone. -/
theorem Resource.below_alike {user user' : String} (same : EqUpToCase user user')
    (method : Method) (directory : Url) :
    ((keys user).below method directory).AlikeButQuery ((keys user').below method directory) where
  method_eq := rfl
  message_eq := rfl
  url_eq := by
    have segments_eq : (keys user).segments = (keys user').segments := by
      rw [segments, segments, hashedUser_congr same]
    simp only [below, segments_eq]

/-- The case of ASCII letters in an address shows in the queries of its URLs alone, and there it
always shows. In a domain it does not show at all. -/
theorem candidates_letterCase :
    (∀ a b : MailAddress, EqUpToCase a.user b.user → EqUpToCase a.host b.host →
      (∃ defect, a.keyCandidates = .error defect ∧ b.keyCandidates = .error defect) ∨
      ∃ advanced direct advanced' direct',
        a.keyCandidates = .ok [advanced, direct] ∧ b.keyCandidates = .ok [advanced', direct'] ∧
        advanced.AlikeButQuery advanced' ∧ direct.AlikeButQuery direct' ∧
        (advanced.url.query = advanced'.url.query ↔ a.user = b.user) ∧
        (direct.url.query = direct'.url.query ↔ a.user = b.user)) ∧
    ∀ domain domain' : String, EqUpToCase domain domain' →
      Resource.policy.candidates domain = Resource.policy.candidates domain' ∧
      Resource.submissionAddress.candidates domain =
        Resource.submissionAddress.candidates domain' := by
  constructor
  · intro a b users hosts
    have a_eq : a.keyCandidates = (Resource.keys a.user).candidates b.host :=
      Resource.candidates_congr hosts (.keys a.user)
    rcases Resource.candidates_cases b.host with ⟨defect, failed⟩ | ⟨advanced, direct, -, -, pair⟩
    · refine .inl ⟨defect, ?_, failed (.keys b.user)⟩
      rw [a_eq, failed]
    · rw [a_eq]
      exact .inr ⟨_, _, _, _, pair _, pair (.keys b.user), Resource.below_alike users _ _,
        Resource.below_alike users _ _, Resource.query_keys_eq_iff, Resource.query_keys_eq_iff⟩
  · intro domain domain' same
    exact ⟨Resource.candidates_congr same .policy,
      Resource.candidates_congr same .submissionAddress⟩

/-- A letter in another case before a sigma, and a host in another case: the sigma is final either
way, and the queries differ. -/
theorem candidates_letterCase_sigma :
    MailAddress.ofText "AΣ@B.org" = .ok ⟨none, "AΣ", "B.org"⟩ ∧
      MailAddress.ofText "aΣ@b.Org" = .ok ⟨none, "aΣ", "b.Org"⟩ ∧
      (∃ advanced direct advanced' direct',
        MailAddress.keyCandidates ⟨none, "AΣ", "B.org"⟩ = .ok [advanced, direct] ∧
        MailAddress.keyCandidates ⟨none, "aΣ", "b.Org"⟩ = .ok [advanced', direct'] ∧
        advanced.AlikeButQuery advanced' ∧ advanced.url.query ≠ advanced'.url.query) ∧
      Resource.policy.candidates "B.org" = Resource.policy.candidates "b.Org" := by
  obtain ⟨spelled, domains⟩ := candidates_letterCase
  have hosts : EqUpToCase "B.org" "b.Org" := by
    unfold EqUpToCase
    decide
  have users : EqUpToCase "AΣ" "aΣ" := by
    unfold EqUpToCase
    decide
  obtain ⟨candidates, found⟩ := exists_of_isOk
    (x := MailAddress.keyCandidates ⟨none, "AΣ", "B.org"⟩) (by decide +kernel)
  refine ⟨rfl, rfl, ?_, (domains _ _ hosts).1⟩
  rcases spelled ⟨none, "AΣ", "B.org"⟩ ⟨none, "aΣ", "b.Org"⟩ users hosts with
    ⟨defect, failed, -⟩ | ⟨advanced, direct, advanced', direct', found, found', alike, -, query, -⟩
  · cases found.symm.trans failed
  · exact ⟨advanced, direct, advanced', direct', found, found', alike,
      fun same => absurd (query.mp same) (by decide)⟩

end KeyDirectory
