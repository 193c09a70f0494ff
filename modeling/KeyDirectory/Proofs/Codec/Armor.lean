import KeyDirectory.Codec.Armor
import KeyDirectory.Proofs.Codec.Base64
import KeyDirectory.Proofs.Codec.Crc24
import KeyDirectory.Proofs.Text.Fields

/-!
# Reading armored blocks

The lines of a block can be told apart, and its bytes and their checksum be read from them
(`publicKey_unambiguous`). The body lines are cut where a group of four characters ends, since 48
bytes make the 64 characters of a line (`isBody_cons`); that is why no line starts with padding.
-/

namespace KeyDirectory.Codec.Armor

/-! ## Lines of a width -/

/-- Text that fits on the line stays on it. -/
theorem wrapFrom_append {width room : Nat} {line front : List Char} (fits : front.length ≤ room)
    (rest : List Char) :
    wrapFrom width line room (front ++ rest) =
      wrapFrom width (line ++ front) (room - front.length) rest := by
  induction front generalizing line room with
  | nil => simp
  | cons c front ih =>
    cases room with
    | zero => simp at fits
    | succ room =>
      have fewer : front.length ≤ room := by simpa using fits
      rw [List.cons_append, wrapFrom, ih fewer, List.append_assoc, List.singleton_append,
        List.length_cons, Nat.add_sub_add_right]

/-- A full line is cut off the text, if more follows. -/
theorem wrap_append {width : Nat} {front rest : List Char} (positive : 0 < width)
    (full : front.length = width) (more : rest ≠ []) :
    wrap width (front ++ rest) = front :: wrap width rest := by
  obtain ⟨c, rest, rfl⟩ := List.exists_cons_of_ne_nil more
  obtain ⟨fewer, rfl⟩ := Nat.exists_eq_succ_of_ne_zero positive.ne'
  rw [wrap, wrapFrom_append full.le, full, Nat.sub_self, List.nil_append]
  -- the line is full, and the next character opens the next one
  rfl

/-- A text that fits on one line is one line. -/
theorem wrap_of_le {width : Nat} {text : List Char} (some_text : text ≠ [])
    (fits : text.length ≤ width) : wrap width text = [text] := by
  -- the text is the front of itself, so that nothing is left for the next line
  have whole : wrapFrom width [] width (text ++ []) = wrapFrom width text (width - text.length) [] :=
    wrapFrom_append fits []
  rw [List.append_nil] at whole
  rw [wrap, whole, wrapFrom, if_neg (by simpa using some_text)]

/-! ## Body lines -/

/-- What is known of the body lines of a block. -/
structure IsBody (bytes : List UInt8) (lines : List (List Char)) : Prop where
  ne_nil : lines ≠ []
  full : ∀ line ∈ lines.dropLast, line.length = 64
  last : ∀ line ∈ lines.getLast?, line.length ≤ 64 ∧ (bytes ≠ [] → 4 ≤ line.length)
  head : ∀ line ∈ lines, line.head? ≠ some '=' ∧ line.head? ≠ some '-'
  flatten : lines.flatten = Base64.encode bytes

/-- Nothing at all makes one empty line. -/
theorem isBody_nil : IsBody [] [[]] where
  ne_nil := by simp
  full := by simp
  last := by simp
  head := by simp
  flatten := rfl

/-- Up to 48 bytes make one line. -/
theorem isBody_singleton {bytes : List UInt8} (some_bytes : bytes ≠ [])
    (few : bytes.length ≤ 48) : IsBody bytes [Base64.encode bytes] where
  ne_nil := by simp
  full := by simp
  last := by
    have positive := List.length_pos_of_ne_nil some_bytes
    simp only [List.getLast?_singleton, Option.mem_some_iff, forall_eq', Base64.length_encode]
    omega
  head := by
    simp only [List.mem_singleton, forall_eq]
    exact ⟨Base64.head?_encode_ne rfl some_bytes, Base64.head?_encode_ne rfl some_bytes⟩
  flatten := by simp

/-- 48 bytes are whole groups and fill a line. -/
theorem isBody_cons {front rest : List UInt8} {lines : List (List Char)}
    (full : front.length = 48) (some_rest : rest ≠ []) (later : IsBody rest lines) :
    IsBody (front ++ rest) (Base64.encode front :: lines) where
  ne_nil := by simp
  full := by
    rw [List.dropLast_cons_of_ne_nil later.ne_nil]
    intro line mem
    rcases List.mem_cons.mp mem with rfl | inLater
    · rw [Base64.length_encode, full]
    · exact later.full line inLater
  last := by
    intro line mem
    rw [List.getLast?_cons_of_ne_nil later.ne_nil] at mem
    obtain ⟨short, long⟩ := later.last line mem
    exact ⟨short, fun _ => long some_rest⟩
  head := by
    intro line mem
    rcases List.mem_cons.mp mem with rfl | inLater
    · have some_front : front ≠ [] := List.ne_nil_of_length_pos (by omega)
      exact ⟨Base64.head?_encode_ne rfl some_front, Base64.head?_encode_ne rfl some_front⟩
    · exact later.head line inLater
  flatten := by
    have groups : 3 ∣ front.length := by omega
    rw [List.flatten_cons, later.flatten, Base64.encode_append groups]

/-- The lines into which the coding of bytes is cut hold these bytes. -/
theorem isBody_wrap {bytes : List UInt8} (some_bytes : bytes ≠ []) :
    IsBody bytes (wrap lineWidth (Base64.encode bytes)) := by
  by_cases few : bytes.length ≤ 48
  · have fits : (Base64.encode bytes).length ≤ lineWidth := by
      rw [Base64.length_encode, lineWidth]
      omega
    rw [wrap_of_le (Base64.encode_ne_nil some_bytes) fits]
    exact isBody_singleton some_bytes few
  · -- the first line is cut off where the sixteenth group ends, and the rest is wrapped by itself
    obtain ⟨front, rest, parts, full⟩ : ∃ front rest, bytes = front ++ rest ∧ front.length = 48 :=
      ⟨bytes.take 48, bytes.drop 48, (List.take_append_drop 48 bytes).symm, by simp; omega⟩
    have sizes : bytes.length = 48 + rest.length := by rw [parts, List.length_append, full]
    have some_rest : rest ≠ [] := List.ne_nil_of_length_pos (by omega)
    have later := isBody_wrap some_rest
    have fills : (Base64.encode front).length = lineWidth := by
      rw [Base64.length_encode, full, lineWidth]
    have groups : 3 ∣ front.length := by omega
    rw [parts, Base64.encode_append groups,
      wrap_append (by decide) fills (Base64.encode_ne_nil some_rest)]
    exact isBody_cons full some_rest later
  termination_by bytes.length

theorem newline_not_mem_encode (bytes : List UInt8) : '\n' ∉ Base64.encode bytes := by
  intro mem
  rcases Base64.mem_encode mem with value | sign
  · contradiction
  · contradiction

theorem IsBody.newline_not_mem {bytes : List UInt8} {lines : List (List Char)}
    (body : IsBody bytes lines) : ∀ line ∈ lines, '\n' ∉ line := by
  intro line mem inLine
  apply newline_not_mem_encode bytes
  rw [← body.flatten]
  exact List.mem_flatten.mpr ⟨line, mem, inLine⟩

/-- Without bytes there is one body line, and it is empty. -/
theorem isBody_body (bytes : List UInt8) :
    IsBody bytes (Text.fields (· == '\n') (body bytes)) := by
  by_cases some_bytes : bytes = []
  · subst some_bytes
    exact isBody_nil
  · have known := isBody_wrap some_bytes
    rw [body, Text.fields_joinWith known.ne_nil known.newline_not_mem]
    exact known

/-! ## Blocks -/

theorem newline_not_mem_line (bytes : List UInt8) : '\n' ∉ Crc24.line bytes := by
  rw [Crc24.line, List.mem_cons]
  rintro (sign | mem)
  · contradiction
  · exact newline_not_mem_encode _ mem

/-- The lines of a block, from its first to its last. -/
theorem fields_publicKey (bytes : List UInt8) :
    Text.fields (· == '\n') (publicKey bytes).toList =
      beginLine :: [] :: (Text.fields (· == '\n') (body bytes) ++ [Crc24.line bytes, endLine]) := by
  have joined : (publicKey bytes).toList =
      beginLine ++ '\n' :: ([] ++ '\n' :: (body bytes ++ '\n' :: (Crc24.line bytes ++ '\n' ::
        endLine))) := by
    simp [publicKey, Text.joinWith]
  rw [joined, Text.fields_append_cons (by rfl), Text.fields_append_cons (by rfl),
    Text.fields_append_cons (by rfl), Text.fields_append_cons (by rfl),
    Text.fields_of_not_mem (by decide : '\n' ∉ beginLine),
    Text.fields_of_not_mem (newline_not_mem_line bytes),
    Text.fields_of_not_mem (by decide : '\n' ∉ endLine)]
  rfl

/-- The three octets of a checksum, with their weights. -/
theorem exists_octets (bytes : List UInt8) :
    ∃ high middle low : UInt8, Crc24.octets (Crc24.checksum bytes) = [high, middle, low] ∧
      high.toNat * 65536 + middle.toNat * 256 + low.toNat = (Crc24.checksum bytes).toNat := by
  have small := Crc24.toNat_foldl_lt Crc24.toNat_start_lt bytes
  rw [← Crc24.checksum_eq_foldl] at small
  refine ⟨_, _, _, rfl, ?_⟩
  simp only [UInt8.toNat_ofNat']
  omega

/-- A block has one line that starts with an equals sign, and that is the line of the checksum. -/
theorem filter_fields_publicKey (bytes : List UInt8) :
    (Text.fields (· == '\n') (publicKey bytes).toList).filter (·.head? == some '=') =
      [Crc24.line bytes] := by
  have none_in_body : (Text.fields (· == '\n') (body bytes)).filter (·.head? == some '=') = [] := by
    rw [List.filter_eq_nil_iff]
    intro line mem
    simpa using ((isBody_body bytes).head line mem).1
  have marks : (beginLine.head? == some '=') = false ∧ (endLine.head? == some '=') = false := by
    decide
  rw [fields_publicKey]
  simp [none_in_body, marks, Crc24.line]

/-- A block tells which bytes it holds. -/
theorem publicKey_injective : Function.Injective publicKey := by
  intro first second same
  -- head and end of a block are two lines each, so that the body lines are the same
  have lines := congrArg (fun block => Text.fields (· == '\n') block.toList) same
  simp only [fields_publicKey, List.cons.injEq, true_and] at lines
  have bodies := (List.append_inj' lines (by simp)).1
  have texts : Base64.encode first = Base64.encode second := by
    rw [← (isBody_body first).flatten, bodies, (isBody_body second).flatten]
  have read := congrArg Base64.decode? texts
  rw [Base64.decode?_encode, Base64.decode?_encode] at read
  exact Option.some.inj read

/-- A block shows its bytes and nothing else. Cut at the newlines, it is the two lines of its head,
the body lines, the checksum line and the last line, and the checksum line is told apart by its first
character. The body lines read together are the base64 form of the bytes, and are read back as these;
after its sign, the checksum line is read as the checksum, most significant byte first. -/
theorem publicKey_unambiguous :
    (∀ bytes : List UInt8, ∃ lines text high middle low,
      Text.fields (· == '\n') (publicKey bytes).toList =
        beginLine :: [] :: (lines ++ ['=' :: text, endLine]) ∧
      IsBody bytes lines ∧
      (Text.fields (· == '\n') (publicKey bytes).toList).filter (·.head? == some '=') =
        ['=' :: text] ∧
      Base64.decode? lines.flatten = some bytes ∧
      Base64.decode? text = some [high, middle, low] ∧
      high.toNat * 65536 + middle.toNat * 256 + low.toNat = (Crc24.checksum bytes).toNat) ∧
    Function.Injective publicKey := by
  refine ⟨fun bytes => ?_, publicKey_injective⟩
  have known := isBody_body bytes
  obtain ⟨high, middle, low, octets, sum⟩ := exists_octets bytes
  refine ⟨_, _, high, middle, low, fields_publicKey bytes, known, filter_fields_publicKey bytes,
    ?_, ?_, sum⟩
  · rw [known.flatten, Base64.decode?_encode]
  · rw [Base64.decode?_encode, octets]

example : Text.fields (· == '\n') (publicKey "123456789".toUTF8.toList).toList =
    [beginLine, [], "MTIzNDU2Nzg5".toList, "=Ic8C".toList, endLine] := by decide +kernel

end KeyDirectory.Codec.Armor
