import KeyDirectory.Proofs.Mail.Parts
import KeyDirectory.Proofs.Text.Stripping

/-!
# The grammar of mail addresses

Which texts are mail addresses, and what is wrong with the others, said without the reader:

* `LocalPart`, `HostPart`, `Names` — what the pieces of an address look like;
* `AddressIn` — where the address proper stands in a text;
* `Fault`, `Flaw` — every single thing that can be wrong with an address, and with a text, whatever
  else is wrong with it.

The reader takes the texts of the grammar, and only these. A text that it refuses may have several
flaws; it tells the one that comes first in the order of the defects (`ofText_grammar`).
-/

namespace KeyDirectory.MailAddress

open KeyDirectory.Text

/-! ## The grammar -/

/-- A local part: not empty, without `@` and without white space. -/
structure LocalPart (user : List Char) : Prop where
  ne_nil : user ≠ []
  at_not_mem : '@' ∉ user
  solid : ∀ c ∈ user, isBlank c = false

/-- A character that a host may hold. Past ASCII there is no restriction. -/
def HostChar (c : Char) : Prop :=
  c.toNat < 128 → c.isAlphanum = true ∨ c = '-' ∨ c = '.'

/-- A host: not empty, without `@` and without white space. -/
structure HostPart (host : List Char) : Prop where
  ne_nil : host ≠ []
  at_not_mem : '@' ∉ host
  solid : ∀ c ∈ host, isBlank c = false
  fit : ∀ c ∈ host, HostChar c

/-- The display name that a text before a bracket gives: what is left of it without white space
around it, double quotes around that, and white space inside the quotes. Nothing is no name. -/
def Names (before : List Char) (displayName : Option String) : Prop :=
  ∃ quoted unquoted name, Stripped isBlank before quoted ∧
    Stripped (· == '"') quoted unquoted ∧ Stripped isBlank unquoted name ∧
    displayName = if name = [] then none else some (String.ofList name)

theorem isBadHostChar_eq_false_iff {c : Char} : isBadHostChar c = false ↔ HostChar c := by
  rw [← Bool.not_eq_true, isBadHostChar_iff, HostChar, not_and, Decidable.not_not]

/-- What the reader takes for the two parts of an address are those of the grammar. -/
theorem parts_iff {user host : List Char} : Parts user host ↔ LocalPart user ∧ HostPart host := by
  constructor
  · intro parts
    refine ⟨⟨parts.user_ne_nil, parts.at_not_mem_user, parts.user_solid⟩, {
      ne_nil := parts.host_text.ne_nil
      at_not_mem := parts.host_text.not_mem (by decide)
      solid := parts.host_solid
      fit := fun c mem => isBadHostChar_eq_false_iff.mp (parts.host_text.fit c mem) }⟩
  · rintro ⟨user, host⟩
    exact {
      user_ne_nil := user.ne_nil
      user_solid := user.solid
      at_not_mem_user := user.at_not_mem
      host_solid := host.solid
      host_text := ⟨host.ne_nil, fun c mem => isBadHostChar_eq_false_iff.mpr (host.fit c mem)⟩ }

/-- What the reader takes for a name is that of the grammar. -/
theorem names_iff {before : List Char} {displayName : Option String} :
    Names before displayName ↔ readName before = displayName := by
  simp only [Names, stripped_isBlank_iff, stripped_quote_iff, readName]
  constructor
  · rintro ⟨_, _, _, rfl, rfl, rfl, rfl⟩
    split <;> simp_all
  · rintro rfl
    refine ⟨_, _, _, rfl, rfl, rfl, ?_⟩
    split <;> simp_all

/-- The forms that the reader knows are those of the grammar. -/
theorem form_iff {text : List Char} {displayName : Option String} {user host : String} :
    Form text ⟨displayName, user, host⟩ ↔
      (('<' ∉ text ∧ text = user.toList ++ '@' :: host.toList ∧ displayName = none) ∨
        ∃ before inner, '<' ∉ before ∧ text = before ++ '<' :: (inner ++ ['>']) ∧
          Stripped isBlank inner (user.toList ++ '@' :: host.toList) ∧ Names before displayName) ∧
      LocalPart user.toList ∧ HostPart host.toList := by
  rw [← parts_iff]
  constructor
  · intro form
    refine ⟨?_, form.parts⟩
    cases form with
    | @bare user host parts noBracket =>
      left
      have not_mem_host : '<' ∉ host := parts.host_text.not_mem (by decide)
      simp [noBracket, not_mem_host]
    | @bracketed name inner user host noBracket trimmed parts =>
      right
      refine ⟨name, inner, noBracket, rfl, ?_, names_iff.mpr rfl⟩
      rw [stripped_isBlank_iff, trimmed, String.toList_ofList, String.toList_ofList]
  · rintro ⟨⟨noBracket, rfl, rfl⟩ | ⟨before, inner, noBracket, rfl, trimmed, named⟩, parts⟩
    · have form := Form.bare parts fun mem => noBracket (List.mem_append_left _ mem)
      rwa [String.ofList_toList, String.ofList_toList] at form
    · have form := Form.bracketed noBracket (stripped_isBlank_iff.mp trimmed).symm parts
      rwa [names_iff.mp named, String.ofList_toList, String.ofList_toList] at form

/-! ## Faults of an address -/

/-- The place of a defect in the order in which defects are told. -/
def Defect.rank : Defect → Nat
  | .empty => 0
  | .openBracket => 1
  | .whitespace => 2
  | .missingAt => 3
  | .multipleAt => 4
  | .emptyLocalPart => 5
  | .emptyDomain => 6
  | .domainCharacter _ => 7

/-- Defects have places of their own; only bad characters of a host share one. -/
theorem eq_or_domainCharacter {d e : Defect} (same : d.rank = e.rank) :
    d = e ∨ ∃ c c', d = .domainCharacter c ∧ e = .domainCharacter c' := by
  cases d <;> cases e <;> simp_all [Defect.rank]

/-- The defect is there, and every other one that is there comes later. -/
def Earliest (present : Defect → Prop) (d : Defect) : Prop :=
  present d ∧ ∀ e, present e → d.rank ≤ e.rank

/-- What is wrong with the address proper, whatever else is wrong with it. -/
inductive Fault (address : List Char) : Defect → Prop where
  | whitespace {c : Char} (mem : c ∈ address) (blank : isBlank c = true) : Fault address .whitespace
  | missingAt (absent : '@' ∉ address) : Fault address .missingAt
  | multipleAt (several : 1 < address.count '@') : Fault address .multipleAt
  | emptyLocalPart (first : address.head? = some '@') : Fault address .emptyLocalPart
  | emptyDomain (last : address.getLast? = some '@') : Fault address .emptyDomain
  /-- The first character that no host holds, after the last `@`. -/
  | domainCharacter {user before after : List Char} {c : Char}
    (whole : address = user ++ '@' :: (before ++ c :: after)) (single : '@' ∉ before ++ c :: after)
    (fit : ∀ d ∈ before, HostChar d) (bad : ¬ HostChar c) : Fault address (.domainCharacter c)

/-- No fault of the address comes before a place in the order. -/
def Clear (address : List Char) (place : Nat) : Prop :=
  ∀ d, Fault address d → place ≤ d.rank

/-- Faults concern the address, so the defects of the whole text come before them. -/
theorem clear_two (address : List Char) : Clear address 2 := by
  intro d fault
  cases fault <;> simp [Defect.rank]

/-- Without a fault of one rank, an address is clear up to the next. -/
theorem Clear.next {address : List Char} {e : Defect} (clear : Clear address e.rank)
    (absent : ¬ Fault address e) (early : e.rank < 7) : Clear address (e.rank + 1) := by
  intro d fault
  have later := clear d fault
  have other : d.rank ≠ e.rank := by
    intro same
    rcases eq_or_domainCharacter same with rfl | ⟨c, c', -, rfl⟩
    · exact absent fault
    · exact absurd early (Nat.lt_irrefl 7)
  omega

section Cut

variable {address user host : List Char}

/-! In an address that is cut at its last `@`, each fault but white space is seen in one of the two
pieces. -/

theorem not_missingAt : ¬ Fault (user ++ '@' :: host) .missingAt := by
  intro fault
  cases fault with
  | missingAt absent => simp at absent

theorem multipleAt_iff (single : '@' ∉ host) :
    Fault (user ++ '@' :: host) .multipleAt ↔ '@' ∈ user := by
  have inHost : host.count '@' = 0 := List.count_eq_zero.mpr single
  have count : (user ++ '@' :: host).count '@' = user.count '@' + 1 := by
    simp [inHost]
  rw [← List.count_pos_iff]
  constructor
  · intro fault
    cases fault with
    | multipleAt several => omega
  · intro again
    exact .multipleAt (by omega)

theorem emptyLocalPart_iff (noOther : '@' ∉ user) :
    Fault (user ++ '@' :: host) .emptyLocalPart ↔ user = [] := by
  constructor
  · intro fault
    cases fault with
    | emptyLocalPart first =>
      cases user with
      | nil => rfl
      | cons c user =>
        obtain rfl : c = '@' := by simpa using first
        exact absurd List.mem_cons_self noOther
  · rintro rfl
    exact .emptyLocalPart rfl

theorem emptyDomain_iff (single : '@' ∉ host) :
    Fault (user ++ '@' :: host) .emptyDomain ↔ host = [] := by
  constructor
  · intro fault
    cases fault with
    | emptyDomain last =>
      cases host with
      | nil => rfl
      | cons c host =>
        have lastOfHost : (c :: host).getLast? = some '@' := by simpa using last
        exact absurd (List.mem_of_getLast? lastOfHost) single
  · rintro rfl
    exact .emptyDomain (by simp)

theorem domainCharacter_iff (single : '@' ∉ host) {c : Char} :
    Fault (user ++ '@' :: host) (.domainCharacter c) ↔ host.find? isBadHostChar = some c := by
  rw [List.find?_eq_some_iff_append]
  constructor
  · intro fault
    cases fault with
    | @domainCharacter user' before after _ whole single' fit bad =>
      -- both hosts stand after the last `@`
      have cut := splitLast_append_cons user single
      rw [whole, splitLast_append_cons user' single'] at cut
      obtain ⟨-, rfl⟩ := Prod.mk.inj (Option.some.inj cut)
      rw [← isBadHostChar_eq_false_iff, Bool.not_eq_false] at bad
      refine ⟨bad, before, after, rfl, ?_⟩
      intro d mem
      simp [isBadHostChar_eq_false_iff.mpr (fit d mem)]
  · rintro ⟨bad, before, after, rfl, fit⟩
    refine .domainCharacter rfl single ?_ ?_
    · intro d mem
      exact isBadHostChar_eq_false_iff.mp (by simpa using fit d mem)
    · rw [← isBadHostChar_eq_false_iff, bad]
      decide

/-- The parts of an address leave nothing to blame. -/
theorem Parts.not_fault (parts : Parts user host) (d : Defect) :
    ¬ Fault (user ++ '@' :: host) d := by
  have single : '@' ∉ host := parts.host_text.not_mem (by decide)
  intro fault
  cases d with
  | empty => nomatch fault
  | openBracket => nomatch fault
  | whitespace =>
    obtain ⟨mem, blank⟩ := fault
    rw [parts.solid _ mem] at blank
    contradiction
  | missingAt => exact not_missingAt fault
  | multipleAt => exact parts.at_not_mem_user ((multipleAt_iff single).mp fault)
  | emptyLocalPart =>
    exact parts.user_ne_nil ((emptyLocalPart_iff parts.at_not_mem_user).mp fault)
  | emptyDomain => exact parts.host_text.ne_nil ((emptyDomain_iff single).mp fault)
  | domainCharacter c =>
    have found := List.find?_some ((domainCharacter_iff single).mp fault)
    have mem := List.mem_of_find?_eq_some ((domainCharacter_iff single).mp fault)
    rw [parts.host_text.fit c mem] at found
    contradiction

/-- Each check of the reader looks for one fault, and the checks come in the order of the defects. -/
theorem earliest_of_readBare {d : Defect} (h : readBare address = .error d) :
    Earliest (Fault address) d := by
  have fromSpace := clear_two address
  unfold readBare at h
  split at h
  · next blank =>
    obtain rfl := Except.error.inj h
    obtain ⟨c, mem, isBlank⟩ := List.any_eq_true.mp blank
    exact ⟨.whitespace mem isBlank, fromSpace⟩
  next solid =>
  have fromAt : Clear address 3 := by
    refine fromSpace.next (e := .whitespace) ?_ (by decide)
    rintro ⟨mem, blank⟩
    exact solid (List.any_eq_true.mpr ⟨_, mem, blank⟩)
  split at h
  · next uncut =>
    obtain rfl := Except.error.inj h
    exact ⟨.missingAt (splitLast_eq_none_iff.mp uncut), fromAt⟩
  next user host cut =>
  obtain ⟨rfl, single⟩ := splitLast_eq_some cut
  have fromSecondAt : Clear (user ++ '@' :: host) 4 :=
    fromAt.next (e := .missingAt) not_missingAt (by decide)
  split at h
  · next again =>
    obtain rfl := Except.error.inj h
    exact ⟨(multipleAt_iff single).mpr again, fromSecondAt⟩
  next noOther =>
  have fromUser : Clear (user ++ '@' :: host) 5 :=
    fromSecondAt.next (e := .multipleAt) (mt (multipleAt_iff single).mp noOther) (by decide)
  split at h
  · next noUser =>
    obtain rfl := Except.error.inj h
    exact ⟨(emptyLocalPart_iff noOther).mpr (List.isEmpty_iff.mp noUser), fromUser⟩
  next someUser =>
  rw [List.isEmpty_iff] at someUser
  have fromHost : Clear (user ++ '@' :: host) 6 :=
    fromUser.next (e := .emptyLocalPart) (mt (emptyLocalPart_iff noOther).mp someUser) (by decide)
  split at h
  · next noHost =>
    obtain rfl := Except.error.inj h
    exact ⟨(emptyDomain_iff single).mpr (List.isEmpty_iff.mp noHost), fromHost⟩
  next someHost =>
  rw [List.isEmpty_iff] at someHost
  have fromCharacter : Clear (user ++ '@' :: host) 7 :=
    fromHost.next (e := .emptyDomain) (mt (emptyDomain_iff single).mp someHost) (by decide)
  split at h
  · next c found =>
    obtain rfl := Except.error.inj h
    exact ⟨(domainCharacter_iff single).mpr found, fromCharacter⟩
  · contradiction

end Cut

/-- One address has at most one first bad character. -/
theorem Fault.eq_of_domainCharacter {address : List Char} {c c' : Char}
    (fault : Fault address (.domainCharacter c)) (fault' : Fault address (.domainCharacter c')) :
    c = c' := by
  have found := fault
  cases fault with
  | domainCharacter whole single fit bad =>
    subst whole
    rw [domainCharacter_iff single] at found fault'
    rw [found] at fault'
    exact Option.some.inj fault'

/-! ## Flaws of a text -/

/-- Where the address proper stands in a text that has no white space around it. -/
inductive AddressIn (text : List Char) : List Char → Prop where
  | whole (noBracket : '<' ∉ text) : AddressIn text text
  /-- Between the first `<` and a `>` at the end, the white space at its own ends left out. -/
  | inside {before inner address : List Char} (noBracket : '<' ∉ before)
    (brackets : text = before ++ '<' :: (inner ++ ['>']))
    (trimmed : Stripped isBlank inner address) : AddressIn text address

/-- What is wrong with a text that has no white space around it, whatever else is wrong with it. -/
inductive Flaw (text : List Char) : Defect → Prop where
  | empty (nothing : text = []) : Flaw text .empty
  | openBracket (opened : '<' ∈ text) (unclosed : text.getLast? ≠ some '>') :
    Flaw text .openBracket
  | address {address : List Char} {d : Defect} (place : AddressIn text address)
    (fault : Fault address d) : Flaw text d

section Text

variable {text address : List Char} {d e : Defect}

theorem getLast?_closed {before inner : List Char}
    (brackets : text = before ++ '<' :: (inner ++ ['>'])) : text.getLast? = some '>' := by
  rw [brackets, ← List.cons_append, ← List.append_assoc, List.getLast?_concat]

/-- Without brackets, the address is the text itself. -/
theorem AddressIn.eq_of_not_mem (place : AddressIn text address) (noBracket : '<' ∉ text) :
    address = text := by
  cases place with
  | whole => rfl
  | inside _ brackets _ => simp [brackets] at noBracket

/-- In brackets, the address is what they hold, trimmed. -/
theorem AddressIn.eq_trim {before inner : List Char} (noBracket : '<' ∉ before)
    (place : AddressIn (before ++ '<' :: (inner ++ ['>'])) address) : address = trim inner := by
  cases place with
  | whole none => simp at none
  | @inside before' inner' _ noBracket' brackets trimmed =>
    -- the bracket that opens the address is the first one
    have cut := splitFirst_append_cons noBracket (inner ++ ['>'])
    rw [brackets, splitFirst_append_cons noBracket'] at cut
    obtain ⟨-, closed⟩ := Prod.mk.inj (Option.some.inj cut)
    rw [← List.append_cancel_right closed]
    exact stripped_isBlank_iff.mp trimmed

theorem AddressIn.unique {address' : List Char} (place : AddressIn text address)
    (place' : AddressIn text address') : address = address' := by
  cases place with
  | whole noBracket => exact (place'.eq_of_not_mem noBracket).symm
  | inside noBracket brackets trimmed =>
    subst brackets
    rw [stripped_isBlank_iff.mp trimmed, place'.eq_trim noBracket]

/-- In a text that holds an address and is not empty, the address is to blame. -/
theorem Earliest.flaw (place : AddressIn text address) (someText : text ≠ [])
    (earliest : Earliest (Fault address) d) : Earliest (Flaw text) d := by
  refine ⟨.address place earliest.1, ?_⟩
  intro e flaw
  cases flaw with
  | empty nothing => contradiction
  | openBracket opened unclosed =>
    cases place with
    | whole noBracket => contradiction
    | inside _ brackets _ => exact absurd (getLast?_closed brackets) unclosed
  | address place' fault =>
    rw [place'.unique place] at fault
    exact earliest.2 e fault

/-- The defect that the reader finds is the earliest. -/
theorem earliest_of_read (h : read text = .error d) : Earliest (Flaw (trim text)) d := by
  unfold read at h
  simp only at h
  split at h
  · next nothing =>
    obtain rfl := Except.error.inj h
    exact ⟨.empty (List.isEmpty_iff.mp nothing), fun e _ => Nat.zero_le e.rank⟩
  next someText =>
  rw [List.isEmpty_iff] at someText
  split at h
  · next unsplit =>
    have place := AddressIn.whole (splitFirst_eq_none_iff.mp unsplit)
    exact (earliest_of_readBare (map_eq_error_iff.mp h)).flaw place someText
  · next before rest cut =>
    obtain ⟨whole, noBracket⟩ := splitFirst_eq_some cut
    split at h
    · next closed =>
      obtain ⟨inner, rfl⟩ := List.getLast?_eq_some_iff.mp closed
      rw [List.dropLast_concat] at h
      have place := AddressIn.inside noBracket whole (trim_stripped inner)
      exact (earliest_of_readBare (map_eq_error_iff.mp h)).flaw place someText
    · next unclosed =>
      obtain rfl := Except.error.inj h
      have opened : '<' ∈ trim text := by simp [whole]
      refine ⟨.openBracket opened ?_, ?_⟩
      · rw [whole]
        cases rest with
        | nil => simp
        | cons c rest => simpa using unclosed
      · intro e flaw
        cases flaw with
        | empty nothing => contradiction
        | openBracket => exact Nat.le_refl _
        | address _ fault => exact Nat.le_of_succ_le (clear_two _ e fault)

/-- A text in one of the forms has no flaw. -/
theorem Form.not_flaw {m : MailAddress} (form : Form text m) (d : Defect) : ¬ Flaw text d := by
  intro flaw
  cases flaw with
  | empty nothing => cases form <;> simp at nothing
  | openBracket opened unclosed =>
    cases form with
    | bare parts noBracket =>
      have not_mem_host := parts.host_text.not_mem (c := '<') (by decide)
      simp [noBracket, not_mem_host] at opened
    | bracketed => exact unclosed (getLast?_closed rfl)
  | address place fault =>
    cases form with
    | bare parts noBracket =>
      have not_mem_host := parts.host_text.not_mem (c := '<') (by decide)
      rw [place.eq_of_not_mem (by simp [noBracket, not_mem_host])] at fault
      exact parts.not_fault d fault
    | bracketed noBracket trimmed parts =>
      rw [place.eq_trim noBracket, trimmed] at fault
      exact parts.not_fault d fault

/-- Of the flaws of a text only one has a given place in the order. -/
theorem Flaw.eq_of_rank_eq (flaw : Flaw text d) (flaw' : Flaw text e) (same : d.rank = e.rank) :
    d = e := by
  rcases eq_or_domainCharacter same with rfl | ⟨c, c', rfl, rfl⟩
  · rfl
  · cases flaw with
    | address place fault =>
      cases flaw' with
      | address place' fault' =>
        rw [place'.unique place] at fault'
        rw [fault.eq_of_domainCharacter fault']

/-- There is one earliest defect. -/
theorem Earliest.unique (earliest : Earliest (Flaw text) d) (earliest' : Earliest (Flaw text) e) :
    d = e :=
  earliest.1.eq_of_rank_eq earliest'.1
    (Nat.le_antisymm (earliest.2 e earliest'.1) (earliest'.2 d earliest.1))

end Text

/-! ## Whole texts -/

/-- Which texts are read as what, and what the others are refused for. A text without `<` is an address
as it stands. Any other is a name before the first `<`, and an address up to a `>` at the end. The
defect of a text that is refused is the first of its flaws in the order of the defects. -/
theorem ofText_grammar (s : String) :
    Stripped isBlank s.toList (trim s.toList) ∧
    (∀ displayName user host, ofText s = .ok ⟨displayName, user, host⟩ ↔
      (('<' ∉ trim s.toList ∧ trim s.toList = user.toList ++ '@' :: host.toList ∧
          displayName = none) ∨
        ∃ before inner, '<' ∉ before ∧ trim s.toList = before ++ '<' :: (inner ++ ['>']) ∧
          Stripped isBlank inner (user.toList ++ '@' :: host.toList) ∧ Names before displayName) ∧
      LocalPart user.toList ∧ HostPart host.toList) ∧
    ∀ d, ofText s = .error d ↔ Earliest (Flaw (trim s.toList)) d := by
  refine ⟨trim_stripped s.toList, ?_, ?_⟩
  · intro displayName user host
    rw [ofText, read_eq_ok_iff, form_iff]
  · intro d
    constructor
    · exact earliest_of_read
    · intro earliest
      cases found : ofText s with
      | ok m => exact absurd earliest.1 ((form_of_read found).not_flaw d)
      | error e => rw [(earliest_of_read found).unique earliest]

/-- Of white space, a second `@` and an empty domain, white space is told. -/
example : ofText "a <b @c@>" = .error .whitespace := rfl

end KeyDirectory.MailAddress
