import KeyDirectory.Proofs.Text.Fields
import KeyDirectory.Proofs.Unicode.Ascii
import KeyDirectory.Proofs.Url.Percent
import KeyDirectory.Url.Host

/-!
# Host names in ASCII

A host name in ASCII and lower case is its own ASCII form, if it has one (`eq_of_toAscii?`). What
ends in a number is an IPv4 address or no host at all; a label before it that is no number leaves
only the latter (`address?_eq_none`).
-/

namespace KeyDirectory.Idna

open KeyDirectory.Text KeyDirectory.Unicode

/-- The mapping leaves small ASCII letters as they are. -/
theorem mapText?_eq_some {text : List Char} (ascii : isAscii text = true)
    (small : ∀ c ∈ text, c.toLower = c) : mapText? text = some text := by
  have mapped : text.mapM mapChar? = some (text.map fun c => [c]) := by
    rw [isAscii_iff] at ascii
    induction text with
    | nil => rfl
    | cons c text ih =>
      have rest := ih (fun d mem => ascii d (List.mem_cons_of_mem c mem))
        (fun d mem => small d (List.mem_cons_of_mem c mem))
      simp [mapChar?, ascii c, small c, rest]
  have flat : (text.map fun c => [c]).flatten = text := by
    rw [← List.flatMap_def]
    exact List.flatMap_singleton' text
  rw [mapText?, mapped, Option.map_some, flat, Unicode.normalize, if_pos ascii]

/-- The first form of an ASCII label is the label itself, whatever it stands for. -/
theorem ascii_of_ofText? {text : List Char} {label : Label} (ascii : isAscii text = true)
    (h : Label.ofText? text = some label) : label.ascii = text := by
  unfold Label.ofText? at h
  simp only [ascii] at h
  split at h
  · -- a label that looks encoded stays as it is, or is none
    split at h
    · split at h
      · split at h
        · rw [← Option.some.inj h]
        · contradiction
      · contradiction
    · contradiction
  · obtain rfl := Option.some.inj h
    rfl

theorem map_ascii_of_mapM {texts : List (List Char)} {labels : List Label}
    (ascii : ∀ text ∈ texts, isAscii text = true) (h : texts.mapM Label.ofText? = some labels) :
    labels.map Label.ascii = texts := by
  induction texts generalizing labels with
  | nil =>
    obtain rfl : labels = [] := by simpa using h.symm
    rfl
  | cons text texts ih =>
    cases first : Label.ofText? text with
    | none => simp [first] at h
    | some label =>
      cases others : texts.mapM Label.ofText? with
      | none => simp [first, others] at h
      | some rest =>
        obtain rfl : label :: rest = labels := by simpa [first, others] using h
        have same := ascii_of_ofText? (ascii text List.mem_cons_self) first
        have tail := ih (fun t mem => ascii t (List.mem_cons_of_mem text mem)) others
        rw [List.map_cons, same, tail]

/-- An ASCII name in small letters is its own ASCII form. -/
theorem eq_of_toAscii? {text name : List Char} (ascii : isAscii text = true)
    (small : ∀ c ∈ text, c.toLower = c) (h : toAscii? text = some name) : name = text := by
  simp only [toAscii?, mapText?_eq_some ascii small, Option.bind_eq_bind, Option.bind_some] at h
  split at h
  · contradiction
  cases found : (fields (· == '.') text).mapM Label.ofText? with
  | none => simp [found] at h
  | some labels =>
    simp only [found, Option.bind_some] at h
    split at h
    · have pieces : ∀ piece ∈ fields (· == '.') text, isAscii piece = true := by
        intro piece mem
        rw [isAscii_iff] at ascii ⊢
        exact fun c inPiece => ascii c (mem_of_mem_fields mem c inPiece)
      rw [map_ascii_of_mapM pieces found, joinWith_fields] at h
      exact (Option.some.inj h).symm
    · contradiction

end KeyDirectory.Idna

namespace KeyDirectory.Url

open KeyDirectory.Text KeyDirectory.Unicode

/-! ## Hosts that end in a number -/

namespace Ipv4

/-- What stands before the last label does not make a name a number. -/
theorem endsInNumber_append_cons (front : List Char) {host : List Char} (nonempty : host ≠ []) :
    endsInNumber (front ++ '.' :: host) = endsInNumber host := by
  have cut : fields (· == '.') (front ++ '.' :: host) =
      fields (· == '.') front ++ fields (· == '.') host := fields_append_cons (by decide) front host
  simp only [endsInNumber, cut, List.reverse_append]
  cases last : (fields (· == '.') host).reverse with
  | nil => simp [fields_ne_nil] at last
  | cons label others =>
    cases label with
    | cons c label => rfl
    | nil =>
      cases others with
      | cons label others => rfl
      | nil =>
        -- a single empty field is that of the empty text
        have single : fields (· == '.') host = [[]] := by simpa using congrArg List.reverse last
        have whole := joinWith_fields '.' host
        rw [single] at whole
        exact absurd whole.symm nonempty

theorem toNat_lt_of_hexValue? {c : Char} (h : (hexValue? c).isSome = true) : c.toNat < 128 := by
  unfold hexValue? at h
  split at h
  · next digit => exact toNat_lt_of_le digit.2 (by decide)
  split at h
  · next small => exact toNat_lt_of_le small.2 (by decide)
  split at h
  · next capital => exact toNat_lt_of_le capital.2 (by decide)
  · contradiction

theorem isSome_digitIn? {c : Char} (h : (hexValue? c).isSome = true) :
    (digitIn? 16 c).isSome = true :=
  forall_ascii (P := fun c => (hexValue? c).isSome = true → (digitIn? 16 c).isSome = true)
    (by decide) (toNat_lt_of_hexValue? h) h

theorem isSome_hexValue?_toLower {c : Char} (h : (hexValue? c).isSome = true) :
    (hexValue? c.toLower).isSome = true :=
  forall_ascii (P := fun c => (hexValue? c).isSome = true → (hexValue? c.toLower).isSome = true)
    (by decide) (toNat_lt_of_hexValue? h) h

/-- A label that is a number: decimal digits, or hexadecimal digits after `0x`, of which there may
be none. -/
inductive NumericLabel : List Char → Prop where
  | decimal {digits : List Char} (some_digit : digits ≠ []) (all : ∀ c ∈ digits, c.isDigit = true) :
    NumericLabel digits
  | hexadecimal {x : Char} {digits : List Char} (mark : x = 'x' ∨ x = 'X')
    (all : ∀ c ∈ digits, (hexValue? c).isSome = true) : NumericLabel ('0' :: x :: digits)

/-- A host whose last label is a number. One dot after it does not count. -/
inductive NumericEnd : List Char → Prop where
  | single {label tail : List Char} (numeric : NumericLabel label)
    (dot : tail = [] ∨ tail = ['.']) : NumericEnd (label ++ tail)
  | after (front : List Char) {host : List Char} (rest : NumericEnd host) :
    NumericEnd (front ++ '.' :: host)

namespace NumericLabel

variable {label : List Char}

theorem ne_nil (numeric : NumericLabel label) : label ≠ [] := by
  cases numeric with
  | decimal some_digit => exact some_digit
  | hexadecimal => simp

theorem dotless (numeric : NumericLabel label) : '.' ∉ label := by
  cases numeric with
  | decimal _ all =>
    intro mem
    exact absurd (all '.' mem) (by decide)
  | hexadecimal mark all =>
    intro mem
    simp only [List.mem_cons] at mem
    rcases mem with same | same | inDigits
    · contradiction
    · rcases mark with rfl | rfl <;> contradiction
    · exact absurd (all '.' inDigits) (by decide)

theorem isSome_numberIn? {digits : List Char} (all : ∀ c ∈ digits, (hexValue? c).isSome = true) :
    (numberIn? 16 digits).isSome = true := by
  rw [numberIn?, Option.isSome_map]
  induction digits with
  | nil => rfl
  | cons c digits ih =>
    have rest := ih fun d mem => all d (List.mem_cons_of_mem c mem)
    obtain ⟨n, first⟩ := Option.isSome_iff_exists.mp (isSome_digitIn? (all c List.mem_cons_self))
    obtain ⟨ns, others⟩ := Option.isSome_iff_exists.mp rest
    simp [first, others]

/-- A numeric label is a number. -/
theorem isNumber (numeric : NumericLabel label) :
    isNumeral label = true ∨ (number? label).isSome = true := by
  cases numeric with
  | decimal some_digit all =>
    left
    simpa [isNumeral, some_digit] using all
  | hexadecimal mark all =>
    right
    rcases mark with rfl | rfl <;> exact isSome_numberIn? all

/-- A numeric label stays numeric in small letters. -/
theorem map_toLower (numeric : NumericLabel label) : NumericLabel (label.map Char.toLower) := by
  cases numeric with
  | decimal some_digit all =>
    refine .decimal (by simpa using some_digit) ?_
    intro c mem
    obtain ⟨d, inDigits, rfl⟩ := List.mem_map.mp mem
    have isDigit := all d inDigits
    have ascii : d.toNat < 128 := toNat_lt_of_isAlphanum (by simp [Char.isAlphanum, isDigit])
    exact forall_ascii (P := fun d => d.isDigit = true → d.toLower.isDigit = true) (by decide) ascii
      isDigit
  | hexadecimal mark all =>
    have small : ∀ {x : Char}, x = 'x' ∨ x = 'X' → x.toLower = 'x' := by
      rintro x (rfl | rfl) <;> decide
    refine .hexadecimal (.inl (small mark)) ?_
    intro c mem
    obtain ⟨d, inDigits, rfl⟩ := List.mem_map.mp mem
    exact isSome_hexValue?_toLower (all d inDigits)

end NumericLabel

theorem NumericEnd.ne_nil {host : List Char} (numeric : NumericEnd host) : host ≠ [] := by
  cases numeric with
  | single numeric => simp [numeric.ne_nil]
  | after => simp

theorem NumericEnd.map_toLower {host : List Char} (numeric : NumericEnd host) :
    NumericEnd (host.map Char.toLower) := by
  induction numeric with
  | single numeric dot =>
    rw [List.map_append]
    refine .single numeric.map_toLower ?_
    rcases dot with rfl | rfl
    · exact .inl rfl
    · exact .inr rfl
  | after front rest ih =>
    rw [List.map_append]
    exact .after (front.map Char.toLower) ih

/-- A name whose last label is numeric is taken for an address, if a wrong one. -/
theorem endsInNumber_of_numericEnd {host : List Char} (numeric : NumericEnd host) :
    endsInNumber host = true := by
  induction numeric with
  | @single label tail numeric dot =>
    have judged : (isNumeral label || (number? label).isSome) = true := by
      simpa using numeric.isNumber
    have alone := fields_of_not_mem numeric.dotless
    rcases dot with rfl | rfl
    · rw [List.append_nil, endsInNumber, alone]
      cases label with
      | nil => exact absurd rfl numeric.ne_nil
      | cons c label => exact judged
    · have cut : fields (· == '.') (label ++ ['.']) = [label, []] := by
        rw [fields_append_cons (by decide), alone]
        rfl
      rw [endsInNumber, cut]
      exact judged
  | after front rest ih =>
    rw [endsInNumber_append_cons front rest.ne_nil]
    exact ih

/-- A host whose first label is no number is no address, whatever follows. -/
theorem address?_eq_none {label : List Char} (dotless : '.' ∉ label)
    (noNumber : number? label = none) (rest : List Char) :
    address? (label ++ '.' :: rest) = none := by
  have cut : fields (· == '.') (label ++ '.' :: rest) = label :: fields (· == '.') rest := by
    rw [fields_append_cons (by decide), fields_of_not_mem dotless, List.singleton_append]
  have more := fields_ne_nil (· == '.') rest
  simp only [address?, cut]
  -- dropping an empty last label leaves the first one in place
  rw [List.dropLast_cons_of_ne_nil more]
  split <;> simp [noNumber]

end Ipv4

/-! ## Hosts -/

/-- A host that holds no escapes is read by its ASCII form. -/
theorem Host.exists_of_ofName {text : List Char} {host : Host} (plain : '%' ∉ text)
    (h : Host.ofName text = .ok host) :
    ∃ name, Idna.toAscii? text = some name ∧ Host.ofAscii name = .ok host := by
  rw [Host.ofName, Percent.decode_eq_encode plain, Utf8.decodeLossy_encode] at h
  cases found : Idna.toAscii? text with
  | none => simp [found] at h
  | some name =>
    rw [found] at h
    exact ⟨name, rfl, h⟩

end KeyDirectory.Url
