import KeyDirectory.Client.Basic
import KeyDirectory.Proofs.Policy.Lines
import KeyDirectory.Proofs.Retrieval.History
import KeyDirectory.Proofs.Text.Lines
import KeyDirectory.Proofs.Text.Utf8

/-!
# Policy files as bytes and as text

A policy file that comes as bytes is cut at the line feeds, and each line is decoded on its own.
Decoding the whole and cutting the text gives the same lines: `Text.Utf8.decodeLossy_append_ascii`
moves the cuts from the bytes to the text, and what the two ways do with a carriage return is lost
in trimming (`Line.read_dropFinal`). So the bytes and their decoding make up the same file
(`File.ofBytes_eq_ofText`), whatever the bytes are, and a policy lookup that has a body has an
answer.
-/

namespace KeyDirectory.Policy

open KeyDirectory.Text KeyDirectory.Text.Utf8

/-! ## One line -/

/-- Whether a carriage return is dropped before decoding or not, the line means the same. -/
theorem Line.read_decodeLossy_dropFinal (line : List UInt8) :
    Line.read (decodeLossy (dropFinal 13 line)) = Line.read (decodeLossy line) := by
  rcases eq_or_eq_append_of_dropFinal 13 line with same | dropped
  · rw [same]
  · have decoded := decodeLossy_append_ascii (b := 13) (by decide) (dropFinal 13 line) []
    rw [← dropped] at decoded
    rw [decoded]
    exact Line.read_congr (trim_append_blank (by decide) _).symm

/-! ## All lines -/

/-- Cutting bytes into lines that are decoded one by one reads the same lines as cutting the decoded
text. -/
theorem map_read_lines (bytes : List UInt8) :
    ((lines 10 bytes).map fun line => Line.read (decodeLossy (dropFinal 13 line))) =
      (textLines (decodeLossy bytes)).map Line.read := by
  induction bytes using lines_induction (10 : UInt8) with
  | last line unbroken =>
    by_cases empty : line = []
    · subst empty
      rfl
    · have text := newline_not_mem_decodeLossy unbroken
      rw [lines_of_not_mem unbroken empty, textLines_of_not_mem text (decodeLossy_ne_nil empty)]
      simp only [List.map_cons, List.map_nil, Line.read_decodeLossy_dropFinal]
  | line front rest unbroken ih =>
    have text := newline_not_mem_decodeLossy unbroken
    rw [lines_append_cons unbroken, decodeLossy_append_ascii (by decide),
      show Char.ofNat (10 : UInt8).toNat = '\n' from rfl, textLines_append_cons text,
      List.map_cons, List.map_cons, ih, Line.read_decodeLossy_dropFinal, Line.read_dropFinal]

/-- Bytes make up the same file as the text that they decode to. -/
theorem File.ofBytes_eq_ofText (bytes : List UInt8) :
    File.ofBytes bytes = File.ofText (String.ofList (decodeLossy bytes)) := by
  rw [File.ofBytes, File.ofText, String.toList_ofList, map_read_lines]

/-! ## Sources and lookups -/

/-- A source that does not break off is read as the text that its bytes decode to: the same policy,
and the same skipped lines. That holds of any bytes, so that it holds of the bytes of any text, and
a policy lookup has an answer as soon as some place has a body. -/
theorem File.ofSource_eq_ofText :
    (∀ bytes : List UInt8,
      File.ofSource ⟨bytes, none⟩ = .ok (File.ofText (String.ofList (decodeLossy bytes)))) ∧
    (∀ text : String, File.ofSource ⟨encode text.toList, none⟩ = .ok (File.ofText text)) ∧
    ∀ (client : Client) (clock : Clock) (transport : Transport) (options : LookupOptions)
        (argument : String) (candidates : List Candidate) (elapsed : Duration)
        (found : Retrieved (List UInt8)),
      (Client.checkDomain argument).bind (Client.places .policy) = .ok candidates →
      (fetch clock transport candidates options client.requestTimeout).result =
        some (elapsed, .ok found) →
      (client.policy clock transport options argument).result =
        some (elapsed, .ok
          ⟨found.method, File.ofText (String.ofList (decodeLossy found.value))⟩) := by
  refine ⟨?_, ?_, ?_⟩
  · intro bytes
    rw [← File.ofBytes_eq_ofText]
    rfl
  · intro text
    have decoded := File.ofBytes_eq_ofText (encode text.toList)
    rw [decodeLossy_encode, String.ofList_toList] at decoded
    rw [← decoded]
    rfl
  · intro client clock transport options argument candidates elapsed found usable answered
    rw [← File.ofBytes_eq_ofText]
    simp only [Client.policy, Client.lookup, usable, Run.andThen, answered]
    rfl

/-- A line feed that stands inside a character spoils that character alone. -/
theorem answer_with_broken_character :
    let body := encode "dane-only\r\nx".toList ++ [0xE2, 0x82, 10] ++ encode "auth-submit".toList
    let transport := Transport.ofReplies [⟨[], .fail .timeout⟩, ⟨[.sleep 2], .answer body⟩]
    let client : Client := ⟨Chain.default, 0, fun _ => .error []⟩
    ∃ candidates,
      (Client.checkDomain " example.org").bind (Client.places .policy) = .ok candidates ∧
      (fetch .standard transport candidates {} 0).result = some (2, .ok ⟨.direct, body⟩) ∧
      (client.policy .standard transport {} " example.org").result =
        some (2, .ok ⟨.direct, File.ofText "dane-only\r\nx\uFFFD\nauth-submit"⟩) := by
  intro body transport client
  let candidates := (Resource.policy.candidates "example.org").toOption.getD []
  have usable : (Client.checkDomain " example.org").bind (Client.places .policy) =
      .ok candidates := by
    have checked : Client.checkDomain " example.org" = .ok "example.org" := rfl
    rw [checked]
    rfl
  have answered : (fetch .standard transport candidates {} 0).result =
      some (2, .ok ⟨.direct, body⟩) := rfl
  have text : String.ofList (decodeLossy body) = "dane-only\r\nx\uFFFD\nauth-submit" := rfl
  obtain ⟨-, -, lookup⟩ := File.ofSource_eq_ofText
  refine ⟨candidates, usable, answered, ?_⟩
  rw [← text]
  exact lookup client .standard transport {} " example.org" candidates 2 ⟨.direct, body⟩ usable
    answered

end KeyDirectory.Policy
