import KeyDirectory.Key.Basic

/-!
# Spellings of a mailbox

Addresses that name the same mailbox are equivalent (`sameMailbox_equivalence`), so a key that has
one of them among its user ids has all of them (`Key.hasMailbox_congr`).
-/

namespace KeyDirectory

variable {a b : MailAddress}

/-- A mailbox is known by its local part and by its host, whose case does not matter. -/
theorem MailAddress.sameMailbox_iff :
    a.sameMailbox b = true ↔
      a.user = b.user ∧ a.host.toList.map Char.toLower = b.host.toList.map Char.toLower := by
  simp [sameMailbox, sameHost]

theorem MailAddress.sameMailbox_equivalence :
    Equivalence fun a b : MailAddress => a.sameMailbox b = true where
  refl a := sameMailbox_iff.mpr ⟨rfl, rfl⟩
  symm h := by
    obtain ⟨user, host⟩ := sameMailbox_iff.mp h
    exact sameMailbox_iff.mpr ⟨user.symm, host.symm⟩
  trans h h' := by
    obtain ⟨user, host⟩ := sameMailbox_iff.mp h
    obtain ⟨user', host'⟩ := sameMailbox_iff.mp h'
    exact sameMailbox_iff.mpr ⟨user.trans user', host.trans host'⟩

theorem MailAddress.sameMailbox_congr (same : a.sameMailbox b = true) (m : MailAddress) :
    m.sameMailbox a = m.sameMailbox b := by
  rw [Bool.eq_iff_iff]
  constructor
  · intro h
    exact sameMailbox_equivalence.trans h same
  · intro h
    exact sameMailbox_equivalence.trans h (sameMailbox_equivalence.symm same)

/-- A key has a mailbox or not, however it is spelled. -/
theorem Key.hasMailbox_congr (same : a.sameMailbox b = true) (key : Key) :
    key.hasMailbox a = key.hasMailbox b := by
  unfold hasMailbox
  simp only [MailAddress.sameMailbox_congr same]

end KeyDirectory
