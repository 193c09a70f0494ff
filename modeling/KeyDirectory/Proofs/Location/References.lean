import KeyDirectory.Location
import KeyDirectory.Proofs.Codec.ZBase32
import KeyDirectory.Proofs.Url.Reading

/-!
# Places below a directory

The reference of a resource is a path of plain segments, and for keys a query (`reference_eq`).
Whatever the directory, resolving it goes below that directory and nowhere else
(`resolve_reference`).
-/

namespace KeyDirectory.Resource

open KeyDirectory.Text KeyDirectory.Unicode KeyDirectory.Url

/-- The path of a resource below the directory. -/
def relativePath : Resource → String
  | .policy => "policy"
  | .submissionAddress => "submission-address"
  | .keys user => "hu/" ++ hashedUser user

def segments : Resource → List String
  | .policy => ["policy"]
  | .submissionAddress => ["submission-address"]
  | .keys user => ["hu", hashedUser user]

/-- The query that goes along, if any. -/
def query : Resource → Option String
  | .policy => none
  | .submissionAddress => none
  | .keys user => some ("l=" ++ String.ofList (Percent.encode Percent.isUnreserved user.toList))

/-- A reference is the path of a resource, and its query if it has one. -/
theorem reference_eq (resource : Resource) :
    resource.reference = String.ofList
      (resource.relativePath.toList ++ queryText (resource.query.map String.toList)) := by
  cases resource with
  | policy => rfl
  | submissionAddress => rfl
  | keys user =>
    rw [← String.toList_inj, reference, relativePath, query]
    simp [queryText]

theorem render_segments (resource : Resource) :
    Path.render (resource.segments.map String.toList) = '/' :: resource.relativePath.toList := by
  cases resource with
  | policy => rfl
  | submissionAddress => rfl
  | keys user =>
    rw [segments, relativePath]
    simp [Path.render]

/-! ## Hashed local parts -/

section Hash

variable {user : String}

/-- A hash is made of digits and small letters. -/
theorem mem_hashedUser {c : Char} (mem : c ∈ (hashedUser user).toList) :
    c.isAlphanum = true ∧ c.toLower = c := by
  have all : ∀ c ∈ Codec.ZBase32.alphabet, c.isAlphanum = true ∧ c.toLower = c :=
    forall_mem_of_all (by decide)
  exact all c (Codec.ZBase32.mem_encode mem)

theorem not_mem_hashedUser {c : Char} (other : c.isAlphanum = false) :
    c ∉ (hashedUser user).toList := by
  intro mem
  rw [(mem_hashedUser mem).1] at other
  contradiction

theorem isPlain_hashedUser : Path.IsPlain (hashedUser user).toList := by
  have dotless : '.' ∉ (hashedUser user).toList := not_mem_hashedUser (by decide)
  apply Path.isPlain_of_ne
  · exact fun c mem => (mem_hashedUser mem).2
  · exact not_mem_hashedUser (by decide)
  · intro dot
    simp [dot] at dotless
  · intro dots
    simp [dots] at dotless

end Hash

/-! ## Paths -/

/-- The paths of resources are made of letters, digits, hyphens and slashes. -/
theorem mem_relativePath (resource : Resource) :
    ∀ c ∈ resource.relativePath.toList, c.isAlphanum = true ∨ c = '-' ∨ c = '/' := by
  cases resource with
  | policy => exact forall_mem_of_all (by decide)
  | submissionAddress => exact forall_mem_of_all (by decide)
  | keys user =>
    have front : ∀ c ∈ "hu/".toList, c.isAlphanum = true ∨ c = '-' ∨ c = '/' :=
      forall_mem_of_all (by decide)
    intro c mem
    rw [relativePath, String.toList_append] at mem
    rcases List.mem_append.mp mem with inFront | inHash
    · exact front c inFront
    · exact .inl (mem_hashedUser inHash).1

/-- Nothing in the path of a resource ends it. -/
theorem relativePath_stays (resource : Resource) :
    ∀ c ∈ resource.relativePath.toList, 32 < c.toNat ∧ endsPath c = false := by
  intro c mem
  have kind := mem_relativePath resource c mem
  have ascii : c.toNat < 128 := by
    rcases kind with alphanum | rfl | rfl
    · exact toNat_lt_of_isAlphanum alphanum
    all_goals decide
  exact forall_ascii
    (P := fun c => c.isAlphanum = true ∨ c = '-' ∨ c = '/' → 32 < c.toNat ∧ endsPath c = false)
    (by decide) ascii kind

/-- The path of a resource is cut into its segments. -/
theorem segments_relativePath (resource : Resource) (isSpecial : Bool) :
    Path.segments isSpecial resource.relativePath.toList =
      resource.segments.map String.toList := by
  cases resource with
  | policy => cases isSpecial <;> rfl
  | submissionAddress => cases isSpecial <;> rfl
  | keys user =>
    have whole : (relativePath (.keys user)).toList =
        "hu".toList ++ '/' :: (hashedUser user).toList := String.toList_append
    have front : Path.segments isSpecial "hu".toList = ["hu".toList] := by
      cases isSpecial <;> rfl
    have hash : Path.segments isSpecial (hashedUser user).toList = [(hashedUser user).toList] :=
      Path.segments_eq_singleton
        (fun c mem => Path.isSeparator_eq_false_of_isAlphanum (mem_hashedUser mem).1)
        (fun c mem => Percent.inPath_of_isAlphanum (mem_hashedUser mem).1)
    rw [whole, Path.segments_append_slash, front, hash]
    rfl

/-- No segment of a resource is a step within the path. -/
theorem isPlain_of_mem_segments {resource : Resource} {segment : String}
    (mem : segment ∈ resource.segments) : Path.IsPlain segment.toList := by
  cases resource with
  | policy =>
    rw [List.mem_singleton.mp mem]
    exact ⟨by decide, by decide⟩
  | submissionAddress =>
    rw [List.mem_singleton.mp mem]
    exact ⟨by decide, by decide⟩
  | keys user =>
    simp only [segments, List.mem_cons, List.not_mem_nil, or_false] at mem
    rcases mem with rfl | rfl
    · exact ⟨by decide, by decide⟩
    · exact isPlain_hashedUser

/-- Nothing in a query has to be escaped. -/
theorem query_stays {resource : Resource} (isSpecial : Bool) :
    ∀ q ∈ resource.query.map String.toList, ∀ c ∈ q, Percent.inQuery isSpecial c = true := by
  intro q some_query c mem
  cases resource with
  | policy => contradiction
  | submissionAddress => contradiction
  | keys user =>
    obtain rfl := Option.some.inj some_query
    rw [String.toList_append] at mem
    rcases List.mem_append.mp mem with inFront | encoded
    · have front : ∀ c ∈ "l=".toList, Percent.inQuery isSpecial c = true := by
        apply forall_mem_of_all
        cases isSpecial <;> decide
      exact front c inFront
    · rw [String.toList_ofList] at encoded
      exact Percent.inQuery_of_mem_encode encoded isSpecial

/-- A resource lies below the directory that is the base, however that came about. -/
theorem resolve_reference (resource : Resource) (base : Url) :
    base.resolve resource.reference =
      { base with
        path := base.path.dropLast ++ resource.segments
        query := resource.query
        fragment := none } := by
  have cut := segments_relativePath resource base.scheme.isSpecial
  rw [reference_eq, resolve_of_plain, cut]
  · simp
  · exact fun c mem => (relativePath_stays resource c mem).1
  · exact fun c mem => (relativePath_stays resource c mem).2
  · rw [cut]
    intro s mem
    obtain ⟨segment, inPath, rfl⟩ := List.mem_map.mp mem
    exact isPlain_of_mem_segments inPath
  · exact query_stays base.scheme.isSpecial

end KeyDirectory.Resource
