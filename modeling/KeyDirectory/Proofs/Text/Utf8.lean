import KeyDirectory.Proofs.Unicode.Ascii
import KeyDirectory.Text.Utf8

/-!
# Decoding UTF-8

An ASCII byte goes on no sequence, so it ends whatever is open before it and is a character of its
own:

* `decodeLossy_append_ascii` — decoding what stands before an ASCII byte and what stands after it
  apart is decoding the whole;
* `newline_not_mem_decodeLossy` — a line feed is decoded from a line feed only;
* `decodeLossy_encode` — decoding undoes encoding.

The first two rest on what is known of an open sequence (`Pending.Multibyte`), which every step
keeps.
-/

namespace KeyDirectory.Text.Utf8

/-- An open sequence that no ASCII byte goes on, and whose character lies past ASCII. -/
structure Pending.Multibyte (p : Pending) : Prop where
  low_ge : 128 ≤ p.low
  /-- The bits read so far suffice, or those that the next byte must bring do. -/
  value_ge : 2 ≤ p.value ∨ 1 < p.missing ∧ 130 ≤ p.value * 64 + p.low

variable {b : UInt8} {p : Pending} {state : Option Pending}

/-! ## One byte -/

/-- An ASCII byte stands for its character. -/
theorem lead_ascii (h : b.toNat < 128) : lead b = .inl (.scalar (Char.ofNat b.toNat)) := by
  simp [lead, h]

/-- Past ASCII, a byte that starts nothing is malformed. -/
theorem lead_past_ascii {item : Item} (h : 128 ≤ b.toNat) (start : lead b = .inl item) :
    item = .malformed 1 := by
  unfold lead at start
  simp only at start
  repeat' split at start
  all_goals first | omega | cases start
  rfl

/-- A byte that starts a character waits for more, and the character lies past ASCII. -/
theorem multibyte_of_lead (h : lead b = .inr p) : p.Multibyte := by
  unfold lead at h
  simp only at h
  repeat' split at h
  all_goals
    first
    | contradiction
    | obtain rfl := Sum.inr.inj h
      constructor <;> simp only <;> omega

/-- A byte that an open sequence admits goes into its value; the last one finishes the character. -/
theorem step_next (h : p.low ≤ b.toNat ∧ b.toNat ≤ p.high) :
    step (some p) b =
      if p.missing ≤ 1 then ([.scalar (Char.ofNat (p.value * 64 + (b.toNat - 128)))], none)
      else ([], some ⟨p.value * 64 + (b.toNat - 128), p.seen + 1, p.missing - 1, 128, 191⟩) := by
  simp [step, h]

/-- A byte that it does not admit ends it and is read afresh. -/
theorem step_broken (h : ¬(p.low ≤ b.toNat ∧ b.toNat ≤ p.high)) :
    step (some p) b = (.malformed p.seen :: (step none b).1, (step none b).2) := by
  simp only [step, if_neg h]
  cases lead b <;> rfl

/-- What is pending after a byte lies past ASCII. -/
theorem multibyte_step (known : ∀ p ∈ state, p.Multibyte) :
    ∀ p ∈ (step state b).2, p.Multibyte := by
  have afresh : ∀ p ∈ (step none b).2, p.Multibyte := by
    intro p hp
    cases start : lead b with
    | inl item => simp [step, start] at hp
    | inr q =>
      obtain rfl : q = p := by simpa [step, start] using hp
      exact multibyte_of_lead start
  cases state with
  | none => exact afresh
  | some q =>
    by_cases admitted : q.low ≤ b.toNat ∧ b.toNat ≤ q.high
    · rw [step_next admitted]
      split
      · simp
      · intro p hp
        obtain rfl := Option.some.inj hp
        have low := (known q rfl).low_ge
        have value := (known q rfl).value_ge
        refine ⟨Nat.le_refl _, .inl ?_⟩
        simp only
        omega
    · rw [step_broken admitted]
      exact afresh

/-- Past ASCII no number stands for a line feed, not even one that stands for no character. -/
theorem ofNat_ne_newline {n : Nat} (h : 128 ≤ n) : Char.ofNat n ≠ '\n' := by
  intro same
  by_cases valid : n.isValidChar
  · have number := Unicode.toNat_ofNat valid
    rw [same] at number
    have newline : '\n'.toNat = 10 := rfl
    omega
  · simp [Char.ofNat, valid] at same
    contradiction

/-- A byte that finishes a line feed is one. -/
theorem eq_newline_of_step (known : ∀ p ∈ state, p.Multibyte) {item : Item}
    (mem : item ∈ (step state b).1) (shown : item.shown = '\n') : b = 10 := by
  have afresh : item ∈ (step none b).1 → b = 10 := by
    intro mem
    cases start : lead b with
    | inr p => simp [step, start] at mem
    | inl found =>
      obtain rfl : item = found := by simpa [step, start] using mem
      by_cases ascii : b.toNat < 128
      · rw [lead_ascii ascii] at start
        obtain rfl := Sum.inl.inj start
        have number := Unicode.toNat_ofNat (n := b.toNat) (.inl (by omega))
        rw [show Char.ofNat b.toNat = '\n' from shown] at number
        exact UInt8.toNat_inj.mp number.symm
      · rw [lead_past_ascii (by omega) start] at shown
        simp [Item.shown, replacement] at shown
  cases state with
  | none => exact afresh mem
  | some p =>
    by_cases admitted : p.low ≤ b.toNat ∧ b.toNat ≤ p.high
    · rw [step_next admitted] at mem
      split at mem
      · obtain rfl := List.mem_singleton.mp mem
        have low := (known p rfl).low_ge
        have value := (known p rfl).value_ge
        exact absurd shown (ofNat_ne_newline (by omega))
      · simp at mem
    · rw [step_broken admitted] at mem
      rcases List.mem_cons.mp mem with rfl | mem
      · simp [Item.shown, replacement] at shown
      · exact afresh mem

/-! ## Byte sequences -/

theorem itemsFrom_cons (state : Option Pending) (b : UInt8) (rest : List UInt8) :
    itemsFrom state (b :: rest) = (step state b).1 ++ itemsFrom (step state b).2 rest := by
  cases state <;> rfl

/-- An ASCII byte ends whatever is open, and what follows it is read from the start. -/
theorem shown_append_ascii (known : ∀ p ∈ state, p.Multibyte) (ascii : b.toNat < 128)
    (xs ys : List UInt8) :
    (itemsFrom state (xs ++ b :: ys)).map Item.shown =
      (itemsFrom state xs).map Item.shown ++ Char.ofNat b.toNat :: decodeLossy ys := by
  induction xs generalizing state with
  | nil =>
    rw [List.nil_append, itemsFrom_cons]
    cases state with
    | none => simp [step, lead_ascii ascii, itemsFrom, Item.shown, decodeLossy, items]
    | some p =>
      have broken : ¬(p.low ≤ b.toNat ∧ b.toNat ≤ p.high) := by
        have low := (known p rfl).low_ge
        omega
      -- cut short by the end of the input or by this byte, an open sequence looks the same
      rw [step_broken broken]
      simp [step, lead_ascii ascii, itemsFrom, Item.shown, decodeLossy, items]
  | cons x xs ih =>
    rw [List.cons_append, itemsFrom_cons, itemsFrom_cons, List.map_append, List.map_append,
      ih (multibyte_step known), List.append_assoc]

/-- An ASCII byte is a boundary, at which decoding can be cut. -/
theorem decodeLossy_append_ascii (ascii : b.toNat < 128) (xs ys : List UInt8) :
    decodeLossy (xs ++ b :: ys) = decodeLossy xs ++ Char.ofNat b.toNat :: decodeLossy ys :=
  shown_append_ascii (by simp) ascii xs ys

/-- A line feed is shown only where its byte stands. -/
theorem newline_mem_of_shown (known : ∀ p ∈ state, p.Multibyte) {bytes : List UInt8}
    (h : '\n' ∈ (itemsFrom state bytes).map Item.shown) : 10 ∈ bytes := by
  induction bytes generalizing state with
  | nil => cases state <;> simp [itemsFrom, Item.shown, replacement] at h
  | cons b rest ih =>
    obtain ⟨item, mem, shown⟩ := List.mem_map.mp h
    rw [itemsFrom_cons] at mem
    rcases List.mem_append.mp mem with now | later
    · obtain rfl := eq_newline_of_step known now shown
      exact List.mem_cons_self
    · have inRest := ih (multibyte_step known) (List.mem_map.mpr ⟨item, later, shown⟩)
      exact List.mem_cons_of_mem b inRest

/-- Without the byte of a line feed, the decoded text has none. -/
theorem newline_not_mem_decodeLossy {bytes : List UInt8} (h : 10 ∉ bytes) :
    '\n' ∉ decodeLossy bytes :=
  fun mem => h (newline_mem_of_shown (by simp) mem)

/-- What is open is shown in the end, whatever comes. -/
theorem itemsFrom_some_ne_nil (p : Pending) (bytes : List UInt8) :
    itemsFrom (some p) bytes ≠ [] := by
  induction bytes generalizing p with
  | nil => simp [itemsFrom]
  | cons b rest ih =>
    rw [itemsFrom_cons]
    by_cases admitted : p.low ≤ b.toNat ∧ b.toNat ≤ p.high
    · rw [step_next admitted]
      split
      · simp
      · exact ih _
    · simp [step_broken admitted]

theorem decodeLossy_ne_nil {bytes : List UInt8} (h : bytes ≠ []) : decodeLossy bytes ≠ [] := by
  cases bytes with
  | nil => contradiction
  | cons b rest =>
    have shown : itemsFrom none (b :: rest) ≠ [] := by
      rw [itemsFrom_cons]
      cases start : lead b with
      | inl item => simp [step, start]
      | inr p => simpa [step, start] using itemsFrom_some_ne_nil p rest
    simpa [decodeLossy, items] using shown

/-! ## Encoded text -/

/-- The first bytes of the characters of two bytes. -/
theorem lead_two (h : 0xC2 ≤ b.toNat ∧ b.toNat ≤ 0xDF) :
    lead b = .inr ⟨b.toNat - 0xC0, 1, 1, 0x80, 0xBF⟩ := by
  simp only [lead]
  rw [if_neg (by omega), if_pos h]

/-- The first bytes of the characters of three bytes. What may follow leaves out long forms and
surrogates. -/
theorem lead_three (h : 0xE0 ≤ b.toNat ∧ b.toNat ≤ 0xEF) :
    lead b = .inr ⟨b.toNat - 0xE0, 1, 2, if b.toNat = 0xE0 then 0xA0 else 0x80,
      if b.toNat = 0xED then 0x9F else 0xBF⟩ := by
  simp only [lead]
  rw [if_neg (by omega), if_neg (by omega)]
  repeat' split
  all_goals first | omega | simp_all

/-- The first bytes of the characters of four bytes. What may follow leaves out long forms and what
lies past the last character. -/
theorem lead_four (h : 0xF0 ≤ b.toNat ∧ b.toNat ≤ 0xF4) :
    lead b = .inr ⟨b.toNat - 0xF0, 1, 3, if b.toNat = 0xF0 then 0x90 else 0x80,
      if b.toNat = 0xF4 then 0x8F else 0xBF⟩ := by
  simp only [lead]
  rw [if_neg (by omega), if_neg (by omega), if_neg (by omega), if_neg (by omega),
    if_neg (by omega)]
  repeat' split
  all_goals first | omega | simp_all

theorem itemsFrom_lead (start : lead b = .inr p) (rest : List UInt8) :
    itemsFrom none (b :: rest) = itemsFrom (some p) rest := by
  simp [itemsFrom_cons, step, start]

theorem itemsFrom_more (admitted : p.low ≤ b.toNat ∧ b.toNat ≤ p.high) (more : 1 < p.missing)
    (rest : List UInt8) :
    itemsFrom (some p) (b :: rest) =
      itemsFrom
        (some ⟨p.value * 64 + (b.toNat - 128), p.seen + 1, p.missing - 1, 128, 191⟩) rest := by
  rw [itemsFrom_cons, step_next admitted, if_neg (by omega), List.nil_append]

theorem itemsFrom_last (admitted : p.low ≤ b.toNat ∧ b.toNat ≤ p.high) (last : p.missing = 1)
    (rest : List UInt8) :
    itemsFrom (some p) (b :: rest) =
      .scalar (Char.ofNat (p.value * 64 + (b.toNat - 128))) :: itemsFrom none rest := by
  rw [itemsFrom_cons, step_next admitted, if_pos (by omega), List.singleton_append]

/-- A byte of an encoded character, as a number. -/
theorem toNat_byte {n : Nat} (h : n < 256) : (UInt8.ofNat n).toNat = n := by
  rw [UInt8.toNat_ofNat', Nat.mod_eq_of_lt h]

/-- The bytes of a character are read as that character. -/
theorem itemsFrom_utf8EncodeChar (c : Char) (rest : List UInt8) :
    itemsFrom none (String.utf8EncodeChar c ++ rest) = .scalar c :: itemsFrom none rest := by
  have valid : c.toNat < 0xD800 ∨ 0xDFFF < c.toNat ∧ c.toNat < 0x110000 := c.valid
  have same {n : Nat} (h : n = c.toNat) : Char.ofNat n = c := by rw [h, Char.ofNat_toNat]
  have low := toNat_byte (n := c.toNat % 64 + 128) (by omega)
  have middle := toNat_byte (n := c.toNat / 64 % 64 + 128) (by omega)
  have high := toNat_byte (n := c.toNat / 4096 % 64 + 128) (by omega)
  unfold String.utf8EncodeChar
  simp only [Char.toNat_val]
  split
  · next one =>
    have start := toNat_byte (n := c.toNat) (by omega)
    have ascii := lead_ascii (b := UInt8.ofNat c.toNat) (by omega)
    rw [List.singleton_append, itemsFrom_cons]
    simp [step, ascii, start]
  split
  · next two =>
    have start := toNat_byte (n := c.toNat / 64 % 32 + 192) (by omega)
    simp only [List.cons_append, List.nil_append]
    rw [itemsFrom_lead (lead_two (by omega)), itemsFrom_last (by dsimp only; omega) rfl,
      same (by dsimp only; omega)]
  split
  · next three =>
    have start := toNat_byte (n := c.toNat / 4096 % 16 + 224) (by omega)
    simp only [List.cons_append, List.nil_append]
    rw [itemsFrom_lead (lead_three (by omega)), itemsFrom_more (by dsimp only; grind) (by simp),
      itemsFrom_last (by dsimp only; omega) rfl, same (by dsimp only; omega)]
  · next four =>
    have start := toNat_byte (n := c.toNat / 262144 % 8 + 240) (by omega)
    simp only [List.cons_append, List.nil_append]
    rw [itemsFrom_lead (lead_four (by omega)), itemsFrom_more (by dsimp only; grind) (by simp),
      itemsFrom_more (by dsimp only; omega) (by simp), itemsFrom_last (by dsimp only; omega) rfl,
      same (by dsimp only; omega)]

/-- The bytes of a text are read as its characters. -/
theorem items_encode (text : List Char) : items (encode text) = text.map Item.scalar := by
  induction text with
  | nil => rfl
  | cons c text ih =>
    rw [encode, List.flatMap_cons, items, itemsFrom_utf8EncodeChar, List.map_cons]
    exact congrArg _ ih

/-- The reader that never fails takes well-formed text as it is. -/
theorem decodeLossy_encode (text : List Char) : decodeLossy (encode text) = text := by
  rw [decodeLossy, items_encode, List.map_map]
  exact List.map_id text

/-- Where nothing is malformed, decoding yields the characters. -/
theorem chars_map_scalar (index : Nat) (text : List Char) :
    Item.chars index (text.map Item.scalar) = .ok text := by
  induction text generalizing index with
  | nil => rfl
  | cons c text ih =>
    rw [List.map_cons, Item.chars, ih]
    rfl

/-- The strict reader takes well-formed text as it is, too. -/
theorem decode_encode (text : List Char) : decode (encode text) = .ok text := by
  rw [decode, items_encode, chars_map_scalar]

end KeyDirectory.Text.Utf8
