import KeyDirectory.Codec.Base64

/-!
# Reading base64

A strict reader of base64: characters outside the alphabet, bits that are left over and misplaced or
missing padding make a text unreadable. What was encoded is read back (`decode?_encode`). Bytes in
whole groups of three are encoded on their own (`encode_append`), so that a text can be cut there.
-/

namespace KeyDirectory.Codec.Base64

/-! ## Characters -/

/-- The number that a character of the alphabet stands for. -/
def value? (c : Char) : Option Nat :=
  if 'A' ≤ c ∧ c ≤ 'Z' then some (c.toNat - 'A'.toNat)
  else if 'a' ≤ c ∧ c ≤ 'z' then some (c.toNat - 'a'.toNat + 26)
  else if '0' ≤ c ∧ c ≤ '9' then some (c.toNat - '0'.toNat + 52)
  else if c = '+' then some 62
  else if c = '/' then some 63
  else none

/-- A symbol has the value that it was chosen for. -/
theorem value?_symbol (n : Nat) : value? (symbol n) = some (n % 64) := by
  have each : ∀ k < 64, value? (symbol k) = some k := by decide
  -- the higher bits are without effect
  have same : symbol n = symbol (n % 64) := by simp [symbol]
  rw [same, each (n % 64) (Nat.mod_lt n (by decide))]

/-- What has no value is no symbol. -/
theorem symbol_ne {c : Char} (outside : value? c = none) (n : Nat) : symbol n ≠ c := by
  rintro rfl
  rw [value?_symbol] at outside
  contradiction

/-- The coding of bytes holds symbols and padding, and nothing else. -/
theorem mem_encode {bytes : List UInt8} {c : Char} (mem : c ∈ encode bytes) :
    (value? c).isSome ∨ c = '=' := by
  have symbols (n : Nat) : (value? (symbol n)).isSome := by
    rw [value?_symbol]
    rfl
  fun_induction encode bytes with
  | case1 => contradiction
  | case2 a n =>
    simp only [List.mem_cons, List.not_mem_nil, or_false] at mem
    rcases mem with rfl | rfl | rfl | rfl <;> simp [symbols]
  | case3 a b n =>
    simp only [List.mem_cons, List.not_mem_nil, or_false] at mem
    rcases mem with rfl | rfl | rfl | rfl <;> simp [symbols]
  | case4 a b c rest n ih =>
    simp only [List.mem_cons] at mem
    rcases mem with rfl | rfl | rfl | rfl | later
    · exact .inl (symbols _)
    · exact .inl (symbols _)
    · exact .inl (symbols _)
    · exact .inl (symbols _)
    · exact ih later

/-! ## Groups -/

/-- Every three bytes, whether or not there are as many, make four characters. -/
theorem length_encode (bytes : List UInt8) :
    (encode bytes).length = 4 * ((bytes.length + 2) / 3) := by
  fun_induction encode bytes with
  | case1 => rfl
  | case2 => simp
  | case3 => simp
  | case4 a b c rest n ih =>
    simp only [List.length_cons, ih]
    omega

/-- Padding comes at the end only. -/
theorem exists_symbol_of_encode {bytes : List UInt8} (some_bytes : bytes ≠ []) :
    ∃ n rest, encode bytes = symbol n :: rest := by
  fun_cases encode bytes with
  | case1 => contradiction
  | case2 => exact ⟨_, _, rfl⟩
  | case3 => exact ⟨_, _, rfl⟩
  | case4 => exact ⟨_, _, rfl⟩

theorem encode_ne_nil {bytes : List UInt8} (some_bytes : bytes ≠ []) : encode bytes ≠ [] := by
  obtain ⟨n, rest, starts⟩ := exists_symbol_of_encode some_bytes
  simp [starts]

/-- The coding of bytes does not start with padding. -/
theorem head?_encode_ne {bytes : List UInt8} {c : Char} (outside : value? c = none)
    (some_bytes : bytes ≠ []) : (encode bytes).head? ≠ some c := by
  obtain ⟨n, rest, starts⟩ := exists_symbol_of_encode some_bytes
  rw [starts, List.head?_cons, ne_eq, Option.some.injEq]
  exact symbol_ne outside n

/-- Bytes after whole groups of three are coded on their own. -/
theorem encode_append {front : List UInt8} (whole : 3 ∣ front.length) (rest : List UInt8) :
    encode (front ++ rest) = encode front ++ encode rest := by
  fun_induction encode front with
  | case1 => rfl
  | case2 => simp at whole
  | case3 => simp at whole
  | case4 a b c front n ih =>
    have later : 3 ∣ front.length := by
      simp only [List.length_cons] at whole
      omega
    simp only [List.cons_append, encode, ih later]
    rfl

/-! ## Reading -/

/-- The number whose digits to the base 64 are the values of some characters. -/
def number? : List Char → Option Nat :=
  List.foldlM (fun n c => (value? c).map (n * 64 + ·)) 0

/-- The bytes of a group that is filled up. The bits that no byte takes are zeros. -/
def lastGroup? (a b c : Char) : Option (List UInt8) :=
  if c = '=' then
    (number? [a, b]).bind fun n =>
      if n % 16 = 0 then some [UInt8.ofNat (n / 16)] else none
  else
    (number? [a, b, c]).bind fun n =>
      if n % 4 = 0 then some [UInt8.ofNat (n / 1024), UInt8.ofNat (n / 4)] else none

/-- The bytes whose base64 form a text is. -/
def decode? : List Char → Option (List UInt8)
  | [] => some []
  | a :: b :: c :: d :: rest =>
    if d = '=' then if rest = [] then lastGroup? a b c else none
    else
      (number? [a, b, c, d]).bind fun n =>
        (decode? rest).map fun bytes =>
          UInt8.ofNat (n / 65536) :: UInt8.ofNat (n / 256) :: UInt8.ofNat n :: bytes
  | _ => none

theorem number?_two {n : Nat} (fits : n < 4096) :
    number? [symbol (n / 64), symbol n] = some n := by
  have digits : n / 64 % 64 * 64 + n % 64 = n := by omega
  simp [number?, value?_symbol, digits]

theorem number?_three {n : Nat} (fits : n < 262144) :
    number? [symbol (n / 4096), symbol (n / 64), symbol n] = some n := by
  have digits : (n / 4096 % 64 * 64 + n / 64 % 64) * 64 + n % 64 = n := by omega
  simp [number?, value?_symbol, digits]

theorem number?_four {n : Nat} (fits : n < 16777216) :
    number? [symbol (n / 262144), symbol (n / 4096), symbol (n / 64), symbol n] = some n := by
  have digits : ((n / 262144 % 64 * 64 + n / 4096 % 64) * 64 + n / 64 % 64) * 64 + n % 64 = n := by
    omega
  simp [number?, value?_symbol, digits]

theorem ofNat_eq_of_mod {n : Nat} {b : UInt8} (same : n % 256 = b.toNat) : UInt8.ofNat n = b := by
  rw [← UInt8.toNat_inj, UInt8.toNat_ofNat', ← same]

/-- The coding of bytes is decoded to them. -/
theorem decode?_encode (bytes : List UInt8) : decode? (encode bytes) = some bytes := by
  have symbol_ne_sign := symbol_ne (c := '=') (by decide)
  fun_induction encode bytes with
  | case1 => rfl
  | case2 a n =>
    have size := a.toNat_lt
    have first : UInt8.ofNat (n / 16) = a := ofNat_eq_of_mod (by omega)
    have filled : n % 16 = 0 := by omega
    rw [decode?, if_pos rfl, if_pos rfl, lastGroup?, if_pos rfl, number?_two (by omega),
      Option.bind_some, if_pos filled, first]
  | case3 a b n =>
    have sizes := And.intro a.toNat_lt b.toNat_lt
    have first : UInt8.ofNat (n / 1024) = a := ofNat_eq_of_mod (by omega)
    have second : UInt8.ofNat (n / 4) = b := ofNat_eq_of_mod (by omega)
    have filled : n % 4 = 0 := by omega
    rw [decode?, if_pos rfl, if_pos rfl, lastGroup?, if_neg (symbol_ne_sign n),
      number?_three (by omega), Option.bind_some, if_pos filled, first, second]
  | case4 a b c rest n ih =>
    have sizes := And.intro a.toNat_lt (And.intro b.toNat_lt c.toNat_lt)
    have first : UInt8.ofNat (n / 65536) = a := ofNat_eq_of_mod (by omega)
    have second : UInt8.ofNat (n / 256) = b := ofNat_eq_of_mod (by omega)
    have third : UInt8.ofNat n = c := ofNat_eq_of_mod (by omega)
    rw [decode?, if_neg (symbol_ne_sign n), number?_four (by omega), Option.bind_some, ih,
      Option.map_some, first, second, third]

end KeyDirectory.Codec.Base64
