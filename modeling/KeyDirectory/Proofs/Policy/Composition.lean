import KeyDirectory.Proofs.Policy.Files

/-!
# Policy files put together

A policy file that consists of whole lines, followed by more, is read as the two files one after the
other (`ofSource_append`): the policies are merged, and the reports follow each other with the numbers
of the second part moved on. So what one part contributes is the same whatever stands in the others,
down to bytes that are no text.
-/

namespace KeyDirectory.Policy

open KeyDirectory.Text

/-- The report on a line that has `more` lines before it. -/
def LineError.later (more : Nat) (e : LineError) : LineError :=
  { e with number := e.number + more }

/-- What is read when `more` lines of one file stand before those of another. -/
def File.followedBy (first : File) (more : Nat) (second : File) : File :=
  ⟨first.policy.merge second.policy, first.errors ++ second.errors.map (LineError.later more)⟩

theorem LineError.later_later (more further : Nat) (e : LineError) :
    (e.later further).later more = e.later (more + further) := by
  simp only [later, Nat.add_assoc, Nat.add_comm further]

/-- Lines further down are reported with higher numbers. -/
theorem Line.error?_add (number more : Nat) (line : Line) :
    line.error? (number + more) = (line.error? number).map (LineError.later more) := by
  cases line <;> rfl

theorem errorsFrom_add (number more : Nat) (lines : List Line) :
    errorsFrom (number + more) lines =
      (errorsFrom number lines).map (LineError.later more) := by
  induction lines generalizing number with
  | nil => rfl
  | cons line rest ih =>
    have next := ih (number + 1)
    rw [Nat.add_right_comm] at next
    rw [errorsFrom_cons, errorsFrom_cons, next, Line.error?_add, List.map_append,
      Option.toList_map]

/-- What follows in two parts is counted from the end of what comes before. -/
theorem File.followedBy_followedBy (first second third : File) (more further : Nat) :
    first.followedBy more (second.followedBy further third) =
      ⟨first.policy.merge (second.policy.merge third.policy),
        first.errors ++ second.errors.map (LineError.later more) ++
          third.errors.map (LineError.later (more + further))⟩ := by
  simp only [File.followedBy, List.map_append, List.map_map, List.append_assoc, Function.comp_def,
    LineError.later_later]

/-- Lines after others are read as a file that follows them. -/
theorem File.ofLines_append (lines more : List Line) :
    File.ofLines (lines ++ more) =
      (File.ofLines lines).followedBy lines.length (File.ofLines more) := by
  rw [File.ofLines_eq, File.ofLines_eq, File.ofLines_eq, File.followedBy, settingsOf_append,
    List.foldl_append, foldl_declare_eq_merge (settingsOf more), errorsFrom_append, errorsFrom_add]

/-- Bytes after whole lines are read as a file that follows them. -/
theorem File.ofBytes_append {a : List UInt8} (ended : Ended 10 a) (b : List UInt8) :
    File.ofBytes (a ++ b) =
      (File.ofBytes a).followedBy (lines 10 a).length (File.ofBytes b) := by
  rw [File.ofBytes, ended.lines_append, List.map_append, File.ofLines_append, List.length_map]
  rfl

/-- Whole lines and what follows them are read apart: the reports of the second part come after those
of the first, under numbers that are greater by the number of lines in the first, and the policies are
merged. With more lines in between, each of the three parts contributes what it would contribute
alone. -/
theorem File.ofSource_append {a : List UInt8} (ended : Ended 10 a) (b : List UInt8) :
    (lines 10 a).length = a.count 10 ∧
    ∃ first last, File.ofSource ⟨a, none⟩ = .ok first ∧ File.ofSource ⟨b, none⟩ = .ok last ∧
      File.ofSource ⟨a ++ b, none⟩ = .ok
        ⟨first.policy.merge last.policy,
          first.errors ++ last.errors.map (LineError.later (a.count 10))⟩ ∧
      ∀ m middle, Ended 10 m → File.ofSource ⟨m, none⟩ = .ok middle →
        File.ofSource ⟨a ++ m ++ b, none⟩ = .ok
          ⟨first.policy.merge (middle.policy.merge last.policy),
            first.errors ++ middle.errors.map (LineError.later (a.count 10)) ++
              last.errors.map (LineError.later (a.count 10 + m.count 10))⟩ := by
  have count := ended.length_lines
  refine ⟨count, File.ofBytes a, File.ofBytes b, rfl, rfl, ?_, ?_⟩
  · rw [← count]
    exact congrArg Except.ok (File.ofBytes_append ended b)
  · intro m middle endedMiddle read
    obtain rfl : File.ofBytes m = middle := Except.ok.inj read
    refine congrArg Except.ok ?_
    rw [List.append_assoc, File.ofBytes_append ended, File.ofBytes_append endedMiddle, count,
      endedMiddle.length_lines, File.followedBy_followedBy]

/-- A line that is no text, between two others, is reported under its number in the whole. -/
theorem ofSource_append_broken_line :
    let a : List UInt8 := Utf8.encode "DANE-only: no\nprotocol-version: x\n".toList
    let m : List UInt8 := [0xE2, 0x82, 10]
    let b : List UInt8 := Utf8.encode "protocol-version: -2\r\nbad".toList
    Ended 10 a ∧ Ended 10 m ∧ File.ofSource ⟨a ++ m ++ b, none⟩ = .ok
      ⟨{ daneOnly := true, protocolVersion := some (-2) },
        [⟨2, "protocol-version: x", "Invalid number x"⟩,
          ⟨3, "\uFFFD", "Unknown keyword \uFFFD"⟩, ⟨5, "bad", "Unknown keyword bad"⟩]⟩ := by
  intro a m b
  have ended : Ended 10 a := .inr rfl
  have endedMiddle : Ended 10 m := .inr rfl
  obtain ⟨-, first, last, readFirst, readLast, -, parts⟩ := File.ofSource_append ended b
  have readMiddle : File.ofSource ⟨m, none⟩ =
      .ok ⟨empty, [⟨1, "\uFFFD", "Unknown keyword \uFFFD"⟩]⟩ := rfl
  have whole := parts m _ endedMiddle readMiddle
  obtain rfl : File.ofBytes a = first := Except.ok.inj readFirst
  obtain rfl : File.ofBytes b = last := Except.ok.inj readLast
  refine ⟨ended, endedMiddle, ?_⟩
  rw [whole]
  rfl

end KeyDirectory.Policy
