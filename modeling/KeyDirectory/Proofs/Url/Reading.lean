import KeyDirectory.Proofs.Mail.Parts
import KeyDirectory.Proofs.Text.Stripping
import KeyDirectory.Proofs.Url.HostName
import KeyDirectory.Proofs.Url.Path
import KeyDirectory.Url.Basic
import Mathlib.Data.List.TakeWhile

/-!
# Reading a URL that was put together

A host name spliced between `https://` and a path is read as the host, and all that follows as the
path (`ofText_https`). The host that comes out of an ASCII name in lower case is that name
(`PlainName.eq_domain_of_ofText`). A reference to a place below a directory is resolved to that
place (`resolve_of_plain`).
-/

namespace KeyDirectory.Url

open KeyDirectory.MailAddress KeyDirectory.Text KeyDirectory.Unicode

/-- An HTTPS URL of a host and a path, without anything else. -/
def plain (host : Host) (path : List String) : Url where
  scheme := .https
  username := ""
  password := none
  host := some host
  port := none
  path := path
  isRooted := true
  query := none
  fragment := none

/-! ## Characters that do not count -/

theorem isEdge_eq_false {c : Char} (visible : 32 < c.toNat) : isEdge c = false := by
  simpa [isEdge] using visible

theorem dropWhile_isEdge {text : List Char} (visible : ∀ c ∈ text, 32 < c.toNat) :
    text.dropWhile isEdge = text :=
  dropWhile_eq_self fun c first => isEdge_eq_false (visible c (List.mem_of_head? first))

theorem filter_isDropped {text : List Char} (visible : ∀ c ∈ text, 32 < c.toNat) :
    text.filter (!isDropped ·) = text := by
  rw [List.filter_eq_self]
  intro c mem
  have visible_c := visible c mem
  have notDropped : c ≠ '\t' ∧ c ≠ '\n' ∧ c ≠ '\r' := by
    refine ⟨?_, ?_, ?_⟩
    all_goals
      rintro rfl
      exact absurd visible_c (by decide)
  simp [isDropped, notDropped]

/-- A visible text needs no cleaning. -/
theorem clean_eq_self {text : List Char} (visible : ∀ c ∈ text, 32 < c.toNat) :
    clean text = text := by
  have visible_reverse : ∀ c ∈ text.reverse, 32 < c.toNat := by simpa using visible
  simp only [clean, dropWhile_isEdge visible, dropWhile_isEdge visible_reverse,
    List.reverse_reverse, filter_isDropped visible]

/-- What a URL starts with stays, whatever comes after it. -/
theorem clean_append {front : List Char} (nonempty : front ≠ [])
    (visible : ∀ c ∈ front, 32 < c.toNat) (rest : List Char) :
    ∃ rest', clean (front ++ rest) = front ++ rest' := by
  have visible_reverse : ∀ c ∈ front.reverse, 32 < c.toNat := by simpa using visible
  have start : (front ++ rest).dropWhile isEdge = front ++ rest := by
    cases front with
    | nil => contradiction
    | cons c front =>
      have other := isEdge_eq_false (visible c List.mem_cons_self)
      rw [List.cons_append, List.dropWhile_cons_of_neg (by simp [other])]
  have stop : ∃ rest', (rest.reverse ++ front.reverse).dropWhile isEdge =
      rest' ++ front.reverse := by
    rw [List.dropWhile_append]
    split
    · exact ⟨[], dropWhile_isEdge visible_reverse⟩
    · exact ⟨_, rfl⟩
  obtain ⟨rest', stop⟩ := stop
  refine ⟨rest'.reverse.filter (!isDropped ·), ?_⟩
  simp only [clean, start, List.reverse_append, stop, List.reverse_reverse, List.filter_append,
    filter_isDropped visible]

/-! ## Hosts -/

/-- Without a colon there is no port. -/
theorem splitPort_eq_self {text : List Char} (noColon : ':' ∉ text) (inBrackets : Bool) :
    splitPort inBrackets text = (text, none) := by
  induction text generalizing inBrackets with
  | nil => rfl
  | cons c text ih =>
    have other : c ≠ ':' := (List.ne_of_not_mem_cons noColon).symm
    rw [splitPort, if_neg (by simp [other]), ih (List.not_mem_of_not_mem_cons noColon)]

theorem not_isSeparator {host : List Char} (text : HostText host) :
    ∀ c ∈ host, Path.isSeparator true c = false := by
  intro c mem
  have slash : c ≠ '/' := fun same => text.not_mem (by decide) (same ▸ mem)
  have backslash : c ≠ '\\' := fun same => text.not_mem (by decide) (same ▸ mem)
  simp [Path.isSeparator, slash, backslash]

theorem not_endsAuthority {host : List Char} (text : HostText host) :
    ∀ c ∈ host, (!endsAuthority true c) = true := by
  intro c mem
  have mark : c ≠ '?' := fun same => text.not_mem (by decide) (same ▸ mem)
  have hash : c ≠ '#' := fun same => text.not_mem (by decide) (same ▸ mem)
  simp [endsAuthority, not_isSeparator text c mem, mark, hash]

/-- A host name is read as a name, not as an address in brackets. -/
theorem Host.ofText_eq_ofName {host : List Char} (text : HostText host) :
    Host.ofText true host = Host.ofName host := by
  have noBracket := text.not_mem (c := '[') (by decide)
  unfold Host.ofText
  split
  · simp at noBracket
  · rfl

/-- A host text in ASCII and lower case. -/
structure PlainName (name : List Char) : Prop where
  text : HostText name
  ascii : isAscii name = true
  small : ∀ c ∈ name, c.toLower = c

namespace PlainName

variable {name : List Char} {host : Host}

/-- A plain name is its own ASCII form. -/
theorem ofAscii_of_ofText (plain : PlainName name) (h : Host.ofText true name = .ok host) :
    Host.ofAscii name = .ok host := by
  rw [Host.ofText_eq_ofName plain.text] at h
  obtain ⟨found, toAscii, read⟩ := Host.exists_of_ofName (plain.text.not_mem (by decide)) h
  rwa [Idna.eq_of_toAscii? plain.ascii plain.small toAscii] at read

/-- What does not end in a number is a domain of the same name. -/
theorem eq_domain_of_ofText (plain : PlainName name) (numberless : Ipv4.endsInNumber name = false)
    (h : Host.ofText true name = .ok host) : host = .domain (String.ofList name) := by
  have read := plain.ofAscii_of_ofText h
  rw [Host.ofAscii, if_neg (by simpa using plain.text.ne_nil), numberless] at read
  exact (Except.ok.inj read).symm

/-- What ends in a number and is no address is no host. -/
theorem endsInNumber_eq_false (plain : PlainName name) (noAddress : Ipv4.address? name = none)
    (h : Host.ofText true name = .ok host) : Ipv4.endsInNumber name = false := by
  have read := plain.ofAscii_of_ofText h
  rw [Host.ofAscii, if_neg (by simpa using plain.text.ne_nil), noAddress] at read
  cases numeric : Ipv4.endsInNumber name with
  | false => rfl
  | true =>
    rw [numeric] at read
    contradiction

/-- In a path such a name is one segment, as it stands. -/
theorem segments_eq (plain : PlainName name) : Path.segments true name = [name] := by
  refine Path.segments_eq_singleton (not_isSeparator plain.text) fun c mem => ?_
  exact forall_ascii (P := fun c => isBadHostChar c = false → Percent.inPath c = true) (by decide)
    (isAscii_iff.mp plain.ascii c mem) (plain.text.fit c mem)

theorem isPlain (plain : PlainName name) (here : name ≠ ['.']) (above : name ≠ ['.', '.']) :
    Path.IsPlain name :=
  Path.isPlain_of_ne plain.small (plain.text.not_mem (by decide)) here above

end PlainName

/-! ## URLs -/

/-- A host name ends where the path starts. -/
theorem readAuthority_https {host path : List Char} (text : HostText host)
    (inPath : ∀ c ∈ path, endsPath c = false) :
    readAuthority .https (host ++ '/' :: path) =
      (Host.ofText true host).map fun found =>
        plain found ((Path.read true [] path).map String.ofList) := by
  -- nothing in a host text ends the authority, which is therefore the host and nothing else
  have authority : (host ++ '/' :: path).takeWhile (!endsAuthority true ·) = host := by
    rw [List.takeWhile_append_of_pos (not_endsAuthority text),
      List.takeWhile_cons_of_neg (by decide), List.append_nil]
  have rest : (host ++ '/' :: path).dropWhile (!endsAuthority true ·) = '/' :: path := by
    rw [List.dropWhile_append_of_pos (not_endsAuthority text),
      List.dropWhile_cons_of_neg (by decide)]
  have open_path : ∀ c ∈ '/' :: path, (!endsPath c) = true := by
    simpa using ⟨by decide, inPath⟩
  have pathText := List.takeWhile_eq_self_iff.mpr open_path
  have noTail := List.dropWhile_eq_nil_iff.mpr open_path
  have noUser := splitLast_eq_none_iff.mpr (text.not_mem (c := '@') (by decide))
  have noPort := splitPort_eq_self (text.not_mem (c := ':') (by decide)) false
  have named : host.isEmpty = false := by simpa using text.ne_nil
  have special : Scheme.https.isSpecial = true := rfl
  simp only [readAuthority, special, authority, rest, noUser, Option.getD_none, noPort, pathText,
    noTail, named, Bool.false_eq_true, false_and, if_false]
  cases Host.ofText true host with
  | error defect => rfl
  | ok found => rfl

/-- A URL of the usual form is read as its host and its path. -/
theorem ofText_https {host path : List Char} (text : HostText host)
    (visible : ∀ c ∈ path, 32 < c.toNat) (inPath : ∀ c ∈ path, endsPath c = false) :
    ofText (String.ofList ("https://".toList ++ host ++ '/' :: path)) =
      (Host.ofText true host).map fun found =>
        plain found ((Path.read true [] path).map String.ofList) := by
  have whole_visible : ∀ c ∈ "https://".toList ++ host ++ '/' :: path, 32 < c.toNat := by
    intro c mem
    simp only [List.mem_append, List.mem_cons] at mem
    rcases mem with (inScheme | inHost) | rfl | later
    · have scheme : ∀ c ∈ "https://".toList, 32 < c.toNat := forall_mem_of_all (by decide)
      exact scheme c inScheme
    · exact text.visible c inHost
    · decide
    · exact visible c later
  have scheme : Scheme.read? ("https://".toList ++ host ++ '/' :: path) =
      some (.https, '/' :: '/' :: (host ++ '/' :: path)) := by
    rw [List.append_assoc]
    rfl
  -- any number of slashes may stand before the authority, but a host starts with none
  have slashes : ('/' :: '/' :: (host ++ '/' :: path)).dropWhile (Path.isSeparator true) =
      host ++ '/' :: path := by
    rw [List.dropWhile_cons_of_pos (by decide), List.dropWhile_cons_of_pos (by decide)]
    cases host with
    | nil => exact absurd rfl text.ne_nil
    | cons c host =>
      have first := not_isSeparator text c List.mem_cons_self
      rw [List.cons_append, List.dropWhile_cons_of_neg (by simp [first])]
  rw [ofText, String.toList_ofList, clean_eq_self whole_visible, scheme]
  simp only [slashes]
  exact readAuthority_https text inPath

/-- A URL with a host has a path from the root. -/
theorem isRooted_of_readAuthority {scheme : Scheme} {text : List Char} {url : Url}
    (h : readAuthority scheme text = .ok url) : url.isRooted = true := by
  simp only [readAuthority, bind, Except.bind] at h
  -- no host, a host that cannot be read and a port that cannot be read are errors
  split at h
  · contradiction
  split at h
  · contradiction
  split at h
  · contradiction
  obtain rfl := Except.ok.inj h
  rfl

/-- Whatever comes after the scheme, a slash stands before each segment of the path. -/
theorem isRooted_of_ofText_https {rest : List Char} {url : Url}
    (h : ofText (String.ofList ("https://".toList ++ rest)) = .ok url) : url.isRooted = true := by
  have visible : ∀ c ∈ "https://".toList, 32 < c.toNat := forall_mem_of_all (by decide)
  obtain ⟨rest', cleaned⟩ := clean_append (by decide) visible rest
  have scheme : Scheme.read? ("https://".toList ++ rest') = some (.https, '/' :: '/' :: rest') :=
    rfl
  rw [ofText, String.toList_ofList, cleaned, scheme] at h
  exact isRooted_of_readAuthority h

/-! ## References -/

/-- A query as it stands behind a path. -/
def queryText : Option (List Char) → List Char
  | some query => '?' :: query
  | none => []

theorem visible_queryText {isSpecial : Bool} {query : Option (List Char)}
    (stays : ∀ q ∈ query, ∀ c ∈ q, Percent.inQuery isSpecial c = true) :
    ∀ c ∈ queryText query, 32 < c.toNat := by
  intro c mem
  cases query with
  | none => contradiction
  | some q =>
    rcases List.mem_cons.mp mem with rfl | inQuery
    · decide
    · have stays_c := stays q rfl c inQuery
      simp only [Percent.inQuery, Percent.visibleExcept, Bool.and_eq_true, decide_eq_true_eq]
        at stays_c
      exact stays_c.1.1.1

/-- A query that needs no escapes is read as it stands. -/
theorem readTail_queryText {scheme : Scheme} {query : Option (List Char)}
    (stays : ∀ q ∈ query, ∀ c ∈ q, Percent.inQuery scheme.isSpecial c = true) :
    readTail scheme (queryText query) = (query.map String.ofList, none) := by
  cases query with
  | none => rfl
  | some q =>
    have noHash : ∀ c ∈ '?' :: q, decide (c ≠ '#') = true := by
      intro c mem
      rcases List.mem_cons.mp mem with rfl | inQuery
      · decide
      · have stays_c := stays q rfl c inQuery
        rw [decide_eq_true_eq]
        rintro rfl
        simp [Percent.inQuery, Percent.visibleExcept] at stays_c
    have query_eq := List.takeWhile_eq_self_iff.mpr noHash
    have fragment_eq := List.dropWhile_eq_nil_iff.mpr noHash
    simp only [readTail, queryText, query_eq, fragment_eq,
      Percent.encode_eq_self (stays q rfl), Option.map_some]

/-- A reference without dot segments takes the place of the last segment of the base. -/
theorem resolve_of_plain {base : Url} {path : List Char} {query : Option (List Char)}
    (visible : ∀ c ∈ path, 32 < c.toNat) (inPath : ∀ c ∈ path, endsPath c = false)
    (plain : ∀ s ∈ Path.segments base.scheme.isSpecial path, Path.IsPlain s)
    (stays : ∀ q ∈ query, ∀ c ∈ q, Percent.inQuery base.scheme.isSpecial c = true) :
    base.resolve (String.ofList (path ++ queryText query)) =
      { base with
        path := base.path.dropLast ++
          (Path.segments base.scheme.isSpecial path).map String.ofList
        query := query.map String.ofList
        fragment := none } := by
  have whole_visible : ∀ c ∈ path ++ queryText query, 32 < c.toNat := by
    intro c mem
    rcases List.mem_append.mp mem with early | late
    · exact visible c early
    · exact visible_queryText stays c late
  have open_path : ∀ c ∈ path, (!endsPath c) = true := by simpa using inPath
  have path_eq : (path ++ queryText query).takeWhile (!endsPath ·) = path := by
    rw [List.takeWhile_append_of_pos open_path]
    cases query <;> simp [queryText, endsPath]
  have tail_eq : (path ++ queryText query).dropWhile (!endsPath ·) = queryText query := by
    rw [List.dropWhile_append_of_pos open_path]
    cases query <;> simp [queryText, endsPath]
  simp only [resolve, String.toList_ofList, clean_eq_self whole_visible, path_eq, tail_eq,
    readTail_queryText stays, Path.read_of_plain plain]
  simp [List.map_dropLast]

end KeyDirectory.Url
