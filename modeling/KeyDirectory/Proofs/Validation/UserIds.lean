import KeyDirectory.Proofs.Mail.Grammar
import KeyDirectory.Proofs.Mail.Mailbox
import KeyDirectory.Proofs.Unicode.Casing
import KeyDirectory.Proofs.Validation.Judgement

/-!
# Mailboxes of user ids

The default chain keeps a key if one of its user ids bears the mailbox that is looked up. What it
means to bear a mailbox (`Bears`) is said by the grammar of mail addresses: the address stands in the
user id alone, or in angle brackets after a name, and only the case of its host may differ. A user id
that is no address bears none, and keeps none of the others from being found (`hasMailbox_iff`).

So the verdict depends on nothing but the mailboxes that there are among the user ids. Changes that
leave these alone are listed in `Retouched`; more user ids can only help. `mailboxes_decide` says all
of this.
-/

namespace KeyDirectory

open KeyDirectory.Text KeyDirectory.Unicode KeyDirectory.MailAddress

/-! ## Mailboxes -/

/-- A text is an address of a mailbox: it has its local part, and its host in any case of ASCII
letters. -/
def MailAddress.Addresses (m : MailAddress) (address : List Char) : Prop :=
  ∃ host : String, address = m.user.toList ++ '@' :: host.toList ∧
    LocalPart m.user.toList ∧ HostPart host.toList ∧ EqUpToCase host m.host

/-- An address of a mailbox stands in a user id. White space around the user id does not count. -/
def Bears (uid : String) (m : MailAddress) : Prop :=
  ∃ address, AddressIn (trim uid.toList) address ∧ m.Addresses address

variable {uid uid' : String} {ids ids' : List String} {m lookup : MailAddress} {key : Key}

/-- A user id bears a mailbox iff it is read as an address of it. -/
theorem bears_iff : Bears uid m ↔ ∃ a, ofText uid = .ok a ∧ a.sameMailbox m = true := by
  constructor
  · rintro ⟨address, place, host, whole, localPart, hostPart, same⟩
    cases place with
    | whole noBracket =>
      have form := form_iff.mpr ⟨.inl ⟨noBracket, whole, rfl⟩, localPart, hostPart⟩
      exact ⟨_, read_eq_ok_iff.mpr form, sameMailbox_iff.mpr ⟨rfl, same⟩⟩
    | @inside before inner _ noBracket brackets trimmed =>
      rw [whole] at trimmed
      have form := form_iff.mpr
        ⟨.inr ⟨before, inner, noBracket, brackets, trimmed, names_iff.mpr rfl⟩, localPart, hostPart⟩
      exact ⟨_, read_eq_ok_iff.mpr form, sameMailbox_iff.mpr ⟨rfl, same⟩⟩
  · rintro ⟨⟨displayName, user, host⟩, read, same⟩
    rcases sameMailbox_iff.mp same with ⟨rfl, sameHost⟩
    rcases form_iff.mp (read_eq_ok_iff.mp read) with ⟨place, localPart, hostPart⟩
    have addresses : m.Addresses (m.user.toList ++ '@' :: host.toList) :=
      ⟨host, rfl, localPart, hostPart, sameHost⟩
    rcases place with ⟨noBracket, whole, -⟩ | ⟨before, inner, noBracket, brackets, trimmed, -⟩
    · rw [← whole] at addresses
      exact ⟨_, .whole noBracket, addresses⟩
    · exact ⟨_, .inside noBracket brackets trimmed, addresses⟩

/-- What is no address bears no mailbox. -/
theorem not_bears_of_refused {d : Defect} (refused : ofText uid = .error d) : ¬ Bears uid m := by
  intro bears
  rcases bears_iff.mp bears with ⟨a, read, -⟩
  rw [refused] at read
  contradiction

/-- White space around a user id makes no difference. -/
theorem bears_congr_of_trim (same : trim uid.toList = trim uid'.toList) :
    Bears uid m ↔ Bears uid' m := by
  unfold Bears
  rw [same]

/-- Where an address stands in brackets, the name before them has no part in it. -/
theorem addressIn_brackets_iff {name rest address : List Char} (noBracket : '<' ∉ name) :
    AddressIn (trim (name ++ '<' :: rest)) address ↔
      ∃ inner, trimEnd rest = inner ++ ['>'] ∧ Stripped isBlank inner address := by
  have noBracket : '<' ∉ trimStart name := fun mem =>
    noBracket ((List.dropWhile_sublist _).subset mem)
  rw [trim_append_cons (by decide)]
  constructor
  · intro place
    generalize text_eq : trimStart name ++ '<' :: trimEnd rest = text at place
    cases place with
    | whole none =>
      subst text_eq
      simp at none
    | @inside before inner _ none brackets trimmed =>
      -- both brackets are the first one
      have cut := splitFirst_append_cons noBracket (trimEnd rest)
      rw [text_eq, brackets, splitFirst_append_cons none] at cut
      rcases Prod.mk.inj (Option.some.inj cut) with ⟨-, closed⟩
      exact ⟨inner, closed.symm, trimmed⟩
  · rintro ⟨inner, closed, trimmed⟩
    rw [closed]
    exact .inside noBracket rfl trimmed

/-- The name before the bracket makes no difference. -/
theorem bears_congr_of_name {name name' rest : List Char} (noBracket : '<' ∉ name)
    (noBracket' : '<' ∉ name') :
    Bears (String.ofList (name ++ '<' :: rest)) m ↔
      Bears (String.ofList (name' ++ '<' :: rest)) m := by
  unfold Bears
  simp only [String.toList_ofList, addressIn_brackets_iff noBracket,
    addressIn_brackets_iff noBracket']

/-- A key has a mailbox iff one of its user ids bears it. -/
theorem hasMailbox_iff : key.hasMailbox m = true ↔ ∃ uid ∈ key.userIds, Bears uid m := by
  unfold Key.hasMailbox Key.mailAddresses
  simp only [bears_iff, List.any_eq_true, List.mem_filterMap]
  constructor
  · rintro ⟨a, ⟨uid, mem, read⟩, same⟩
    cases found : ofText uid with
    | error defect =>
      rw [found] at read
      contradiction
    | ok b =>
      rw [found] at read
      cases read
      exact ⟨uid, mem, a, found, same⟩
  · rintro ⟨uid, mem, a, read, same⟩
    exact ⟨a, ⟨uid, mem, by rw [read]; rfl⟩, same⟩

/-! ## Changes to user ids -/

/-- User ids are changed, but not the mailboxes that there are among them. -/
inductive Retouched : List String → List String → Prop where
  /-- They come in another order. -/
  | permuted {ids ids' : List String} (permutation : ids.Perm ids') : Retouched ids ids'
  /-- One of them comes once more. -/
  | repeated {uid : String} {ids : List String} (mem : uid ∈ ids) : Retouched ids (uid :: ids)
  /-- One comes in that is no mail address. -/
  | unreadable {uid : String} {d : Defect} (refused : ofText uid = .error d) (ids : List String) :
    Retouched ids (uid :: ids)
  /-- One has another name before its first bracket. -/
  | renamed (before after : List String) {name name' : List Char} (noBracket : '<' ∉ name)
    (noBracket' : '<' ∉ name') (rest : List Char) :
    Retouched (before ++ String.ofList (name ++ '<' :: rest) :: after)
      (before ++ String.ofList (name' ++ '<' :: rest) :: after)
  /-- One has other white space around it. -/
  | respaced (before after : List String) {uid uid' : String}
    (same : trim uid.toList = trim uid'.toList) :
    Retouched (before ++ uid :: after) (before ++ uid' :: after)
  | trans {ids ids' ids'' : List String} (first : Retouched ids ids')
    (second : Retouched ids' ids'') : Retouched ids ids''

theorem exists_bears_cons :
    (∃ u ∈ uid :: ids, Bears u m) ↔ Bears uid m ∨ ∃ u ∈ ids, Bears u m := by
  simp only [List.mem_cons, or_and_right, exists_or, exists_eq_left]

theorem exists_bears_replace (before after : List String) (same : Bears uid m ↔ Bears uid' m) :
    (∃ u ∈ before ++ uid :: after, Bears u m) ↔ ∃ u ∈ before ++ uid' :: after, Bears u m := by
  simp only [List.mem_append, List.mem_cons, or_and_right, exists_or, exists_eq_left, same]

/-- Retouched user ids bear the same mailboxes. -/
theorem Retouched.exists_bears_iff (retouched : Retouched ids ids') (m : MailAddress) :
    (∃ uid ∈ ids, Bears uid m) ↔ ∃ uid ∈ ids', Bears uid m := by
  induction retouched with
  | permuted permutation => simp only [permutation.mem_iff]
  | @repeated uid ids mem =>
    rw [exists_bears_cons]
    constructor
    · exact .inr
    · rintro (bears | others)
      · exact ⟨uid, mem, bears⟩
      · exact others
  | unreadable refused ids =>
    rw [exists_bears_cons, or_iff_right (not_bears_of_refused refused)]
  | renamed before after noBracket noBracket' rest =>
    exact exists_bears_replace before after (bears_congr_of_name noBracket noBracket')
  | respaced before after same =>
    exact exists_bears_replace before after (bears_congr_of_trim same)
  | trans first second ih ih' => exact ih.trans ih'

/-! ## Verdicts -/

namespace Chain

/-- The default rules are one, about user ids. -/
theorem judge_default (lookup : MailAddress) (key : Key) :
    Chain.default.judge lookup key =
      ⟨[.missingUserId], if key.hasMailbox lookup then none else some (.missingUserId lookup)⟩ := by
  cases has : key.hasMailbox lookup with
  | true => simp [judge, Chain.default, defaultRules, judgeBy, Rule.reject?, has]
  | false => simp [judge, Chain.default, defaultRules, judgeBy, Rule.reject?, has]

/-- By default a key is kept iff one of its user ids bears the mailbox. -/
theorem rejection_default_eq_none_iff :
    (Chain.default.judge lookup key).rejection = none ↔ ∃ uid ∈ key.userIds, Bears uid lookup := by
  rw [judge_default, ← hasMailbox_iff]
  cases key.hasMailbox lookup <;> simp

theorem judge_default_congr
    (same : (∃ uid ∈ ids, Bears uid lookup) ↔ ∃ uid ∈ key.userIds, Bears uid lookup) :
    Chain.default.judge lookup { key with userIds := ids } = Chain.default.judge lookup key := by
  have same : ({ key with userIds := ids } : Key).hasMailbox lookup = key.hasMailbox lookup := by
    rw [Bool.eq_iff_iff, hasMailbox_iff, hasMailbox_iff]
    exact same
  rw [judge_default, judge_default, same]

/-- The default chain keeps a key if and only if one of its user ids bears the mailbox that is looked
up, which is to say that it is read as an address of that mailbox. The verdict, the reason included,
does not change when the user ids come in another order or several times, when others come in that are
no addresses, or when names and white space around them change. With more user ids a key that was kept
still is, and a key that was rejected is kept with the text from which the address was read among its
user ids. -/
theorem mailboxes_decide (lookup : MailAddress) (key : Key) :
    ((Chain.default.judge lookup key).rejection = none ↔
      ∃ uid ∈ key.userIds, Bears uid lookup) ∧
    (∀ uid, Bears uid lookup ↔
      ∃ a, ofText uid = .ok a ∧ a.user = lookup.user ∧ EqUpToCase a.host lookup.host) ∧
    (∀ ids, Retouched key.userIds ids →
      Chain.default.judge lookup { key with userIds := ids } = Chain.default.judge lookup key) ∧
    (∀ ids, key.userIds ⊆ ids → (Chain.default.judge lookup key).rejection = none →
      (Chain.default.judge lookup { key with userIds := ids }).rejection = none) ∧
    ∀ uid ids, ofText uid = .ok lookup → uid ∈ ids →
      (Chain.default.judge lookup { key with userIds := ids }).rejection = none := by
  refine ⟨rejection_default_eq_none_iff, ?_, ?_, ?_, ?_⟩
  · intro uid
    simp only [bears_iff, sameMailbox_iff, EqUpToCase]
  · intro ids retouched
    exact judge_default_congr (retouched.exists_bears_iff lookup).symm
  · intro ids more kept
    rw [rejection_default_eq_none_iff] at kept ⊢
    rcases kept with ⟨uid, mem, bears⟩
    exact ⟨uid, more mem, bears⟩
  · intro uid ids read mem
    rw [rejection_default_eq_none_iff]
    exact ⟨uid, mem, bears_iff.mpr ⟨lookup, read, sameMailbox_equivalence.refl lookup⟩⟩

/-- A name before the bracket is changed and a text that is no address comes in: the verdict stays. A
key that is rejected is kept once it bears the mailbox. -/
theorem mailboxes_decide_retouched :
    Chain.default.judge ⟨none, "joe", "b.org"⟩ { userIds := ["J <joe@B.org>"] } =
        ⟨[.missingUserId], none⟩ ∧
      Retouched ["J <joe@B.org>"] ["?", "K <joe@B.org>"] ∧
      Chain.default.judge ⟨none, "joe", "b.org"⟩ { userIds := ["?", "K <joe@B.org>"] } =
        ⟨[.missingUserId], none⟩ ∧
      (Chain.default.judge ⟨none, "joe", "b.org"⟩ { userIds := ["?"] }).rejection =
        some (.missingUserId ⟨none, "joe", "b.org"⟩) ∧
      (Chain.default.judge ⟨none, "joe", "b.org"⟩ { userIds := ["?", "joe@b.org"] }).rejection =
        none ∧
      (Chain.default.judge ⟨none, "joe", "b.org"⟩
        { userIds := ["J <joe@B.org>", "L <l@b.org>"] }).rejection = none := by
  have kept : Chain.default.judge ⟨none, "joe", "b.org"⟩ { userIds := ["J <joe@B.org>"] } =
      ⟨[.missingUserId], none⟩ := rfl
  have renamed : Retouched ["J <joe@B.org>"] ["K <joe@B.org>"] := by
    have noBracket : '<' ∉ ['J', ' '] := by decide
    have noBracket' : '<' ∉ ['K', ' '] := by decide
    exact .renamed [] [] noBracket noBracket' "joe@B.org>".toList
  have refused : ofText "?" = .error .missingAt := rfl
  have retouched : Retouched ["J <joe@B.org>"] ["?", "K <joe@B.org>"] :=
    renamed.trans (.unreadable refused _)
  rcases mailboxes_decide ⟨none, "joe", "b.org"⟩ { userIds := ["J <joe@B.org>"] } with
    ⟨-, -, unchanged, more, -⟩
  rcases mailboxes_decide ⟨none, "joe", "b.org"⟩ { userIds := ["?"] } with ⟨-, -, -, -, found⟩
  refine ⟨kept, retouched, (unchanged _ retouched).trans kept, rfl, ?_, ?_⟩
  · exact found "joe@b.org" _ rfl (by simp)
  · exact more _ (by simp) (by rw [kept])

end Chain

end KeyDirectory
