import KeyDirectory.Proofs.Mail.Parts
import KeyDirectory.Proofs.Text.Lines
import KeyDirectory.Serialized

/-!
# Reading addresses that were written

An address is written as `local@domain`, without its name, and so it is serialized. Reading that
gives the address back, but for its name (`ofText_address`), with one exception: a local part that
holds an angle bracket, which only the form with brackets lets through, is taken for a name before a
bracket that is never closed.
-/

namespace KeyDirectory.MailAddress

open KeyDirectory.Text

theorem toList_address (m : MailAddress) :
    m.address.toList = m.user.toList ++ '@' :: m.host.toList := by
  simp [address]

/-- The parts of an address with `@` between them are trimmed already. -/
theorem trim_address {m : MailAddress} (parts : Parts m.user.toList m.host.toList) :
    trim m.address.toList = m.user.toList ++ '@' :: m.host.toList := by
  rw [toList_address, trim_eq_self parts.solid]

/-- An address without a bracket is read back. -/
theorem ofText_address_of_not_mem {m : MailAddress} (parts : Parts m.user.toList m.host.toList)
    (noBracket : '<' ∉ m.user.toList) : ofText m.address = .ok ⟨none, m.user, m.host⟩ := by
  have form := Form.bare parts noBracket
  rw [← trim_address parts, String.ofList_toList, String.ofList_toList] at form
  exact read_of_form form

/-- An address with a bracket is refused. -/
theorem ofText_address_of_mem {m : MailAddress} (parts : Parts m.user.toList m.host.toList)
    (bracket : '<' ∈ m.user.toList) : ofText m.address = .error .openBracket := by
  obtain ⟨before, after, user_eq, noBracket⟩ := List.eq_append_cons_of_mem bracket
  have text_eq : trim m.address.toList = before ++ '<' :: (after ++ '@' :: m.host.toList) := by
    rw [trim_address parts, user_eq, List.append_assoc, List.cons_append]
  -- the text ends as the host does, which holds no bracket
  have open_end : ('@' :: m.host.toList).getLast? ≠ some '>' := by
    intro closed
    rcases List.mem_cons.mp (List.mem_of_getLast? closed) with same | inHost
    · contradiction
    · exact parts.host_text.not_mem (by decide) inHost
  simp [ofText, read, text_eq, splitFirst_append_cons noBracket, open_end]

/-- The bracket that opens the address is not part of it. -/
theorem mem_user_iff_count {text : List Char} {m : MailAddress} (h : read text = .ok m) :
    '<' ∈ m.user.toList ↔ 1 < text.count '<' := by
  have form := form_of_read h
  rw [← count_trim (by decide) text]
  generalize trim text = trimmed at form
  cases form with
  | @bare user host parts noBracket =>
    have none_in_host : host.count '<' = 0 :=
      List.count_eq_zero.mpr (parts.host_text.not_mem (by decide))
    have none_in_user : user.count '<' = 0 := List.count_eq_zero.mpr noBracket
    simp [noBracket, none_in_host, none_in_user]
  | @bracketed name inner user host noBracket same parts =>
    have none_in_host : host.count '<' = 0 :=
      List.count_eq_zero.mpr (parts.host_text.not_mem (by decide))
    have none_in_name : name.count '<' = 0 := List.count_eq_zero.mpr noBracket
    have inner_count : inner.count '<' = user.count '<' := by
      rw [← count_trim (by decide), same]
      simp [none_in_host]
    simp [none_in_name, inner_count, ← List.count_pos_iff]

/-! ## Whole addresses -/

/-- An address that was read is read back from what it looks like, without its name and with the
same mailbox, unless its local part holds an opening bracket. Then what it looks like is no address.
This happens if and only if the text from which it was read holds a second one. -/
theorem ofText_address {text : String} {m : MailAddress} (h : ofText text = .ok m) :
    ('<' ∉ m.user.toList →
      ofText m.address = .ok ⟨none, m.user, m.host⟩ ∧
      ∃ back, ofJson (.text m.address) = .ok back ∧ m.sameMailbox back = true) ∧
    ('<' ∈ m.user.toList →
      ofText m.address = .error .openBracket ∧
      ofJson (.text m.address) = .error (.mailAddress .openBracket)) ∧
    ('<' ∈ m.user.toList ↔ 1 < text.toList.count '<') := by
  have parts := (form_of_read h).parts
  refine ⟨?_, ?_, mem_user_iff_count h⟩
  · intro noBracket
    have back := ofText_address_of_not_mem parts noBracket
    refine ⟨back, ⟨none, m.user, m.host⟩, ?_, ?_⟩
    · rw [ofJson, back]
      rfl
    · simp [sameMailbox, sameHost]
  · intro bracket
    have refused := ofText_address_of_mem parts bracket
    refine ⟨refused, ?_⟩
    rw [ofJson, refused]
    rfl

/-- A closing bracket in the local part does no harm. -/
theorem ofText_address_closing_bracket :
    ofText "\"J\" <j>d@Example.org>" = .ok ⟨some "J", "j>d", "Example.org"⟩ ∧
      ofText "j>d@Example.org" = .ok ⟨none, "j>d", "Example.org"⟩ := by
  have parsed : ofText "\"J\" <j>d@Example.org>" = .ok ⟨some "J", "j>d", "Example.org"⟩ := rfl
  obtain ⟨back, -, -⟩ := ofText_address parsed
  exact ⟨parsed, (back (by decide)).1⟩

/-- An address that is read from a text with two opening brackets, and is not read from what it
looks like. -/
theorem ofText_address_opening_bracket :
    ∃ m, ofText "a<b<c@d>" = .ok m ∧ m.address = "b<c@d" ∧
      ofText m.address = .error .openBracket :=
  ⟨⟨some "a", "b<c", "d"⟩, rfl, rfl, rfl⟩

end KeyDirectory.MailAddress
