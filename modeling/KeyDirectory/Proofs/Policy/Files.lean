import KeyDirectory.Proofs.Policy.Fields
import KeyDirectory.Proofs.Policy.Lines
import KeyDirectory.Proofs.Text.Lines
import Mathlib.Data.List.Induction

/-!
# Policy files line by line

A file is read one line at a time. `Effect` says what one line does to the file read so far, and
`Reads` puts these effects one after another; the reader makes up the one file that they lead to
(`reads_iff`). What a whole file holds is read off its lines (`ofLines_eq`): the declarations in order,
of which the last one under a keyword is in force, and the reports with the numbers of their lines.

The main result is `ofText_lines`.
-/

namespace KeyDirectory.Policy

open KeyDirectory.Text

/-! ## What lines contribute -/

def Line.setting? : Line → Option Setting
  | .setting s => some s
  | _ => none

def Line.error? (number : Nat) : Line → Option LineError
  | .defective text d => some ⟨number, text, d.message⟩
  | _ => none

def settingsOf (lines : List Line) : List Setting :=
  lines.filterMap Line.setting?

/-- The reports on lines, of which the first has the given number. -/
def errorsFrom (number : Nat) (lines : List Line) : List LineError :=
  (lines.zipIdx number).filterMap fun (line, n) => line.error? n

theorem settingsOf_cons (line : Line) (rest : List Line) :
    settingsOf (line :: rest) = line.setting?.toList ++ settingsOf rest := by
  cases line <;> rfl

theorem errorsFrom_cons (number : Nat) (line : Line) (rest : List Line) :
    errorsFrom number (line :: rest) =
      (line.error? number).toList ++ errorsFrom (number + 1) rest := by
  cases line <;> rfl

theorem settingsOf_append (lines more : List Line) :
    settingsOf (lines ++ more) = settingsOf lines ++ settingsOf more :=
  List.filterMap_append

/-- The lines after others are numbered from where these end. -/
theorem errorsFrom_append (number : Nat) (lines more : List Line) :
    errorsFrom number (lines ++ more) =
      errorsFrom number lines ++ errorsFrom (number + lines.length) more := by
  rw [errorsFrom, List.zipIdx_append, List.filterMap_append]
  rfl

theorem errorsFrom_eq_nil {lines : List Line} (number : Nat)
    (unreported : ∀ line ∈ lines, ∀ n, line.error? n = none) : errorsFrom number lines = [] := by
  rw [errorsFrom, List.filterMap_eq_nil_iff]
  rintro ⟨line, n⟩ mem
  exact unreported line (List.fst_mem_of_mem_zipIdx mem) n

theorem number_of_error? {line : Line} {number : Nat} {e : LineError}
    (h : line.error? number = some e) : e.number = number := by
  cases line with
  | defective text d =>
    obtain rfl := Option.some.inj h
    rfl
  | _ => contradiction

/-- The numbers of the errors are those of the lines that have one. -/
theorem number_mem_errorsFrom {lines : List Line} {first number : Nat} :
    number ∈ (errorsFrom first lines).map LineError.number ↔
      ∃ line, (line, number) ∈ lines.zipIdx first ∧ (line.error? number).isSome = true := by
  simp only [errorsFrom, List.mem_map, List.mem_filterMap, Prod.exists]
  constructor
  · rintro ⟨e, ⟨line, n, mem, said⟩, rfl⟩
    obtain rfl := number_of_error? said
    exact ⟨line, mem, by simp [said]⟩
  · rintro ⟨line, mem, said⟩
    obtain ⟨e, said⟩ := Option.isSome_iff_exists.mp said
    exact ⟨e, ⟨line, number, mem, said⟩, number_of_error? said⟩

/-- Reports come in the order of the lines. -/
theorem pairwise_errorsFrom (number : Nat) (lines : List Line) :
    ((errorsFrom number lines).map LineError.number).Pairwise (· < ·) := by
  have increasing : (lines.zipIdx number).Pairwise fun a b => a.2 < b.2 := by
    rw [← List.pairwise_map (f := Prod.snd) (R := (· < ·)), List.zipIdx_map_snd]
    exact List.pairwise_lt_range'
  rw [List.pairwise_map, errorsFrom, List.pairwise_filterMap]
  refine increasing.imp ?_
  rintro a b before e said e' said'
  rw [number_of_error? said, number_of_error? said']
  exact before

/-- A line adds its setting and its error, if it has them. -/
theorem File.feed_eq (file : File) (number : Nat) (line : Line) :
    file.feed number line =
      ⟨line.setting?.toList.foldl declare file.policy,
        file.errors ++ (line.error? number).toList⟩ := by
  cases line <;> simp [File.feed, Line.setting?, Line.error?]

theorem File.feedAll_eq (file : File) (number : Nat) (lines : List Line) :
    file.feedAll number lines =
      ⟨(settingsOf lines).foldl declare file.policy, file.errors ++ errorsFrom number lines⟩ := by
  induction lines generalizing file number with
  | nil => simp [File.feedAll, settingsOf, errorsFrom]
  | cons line rest ih =>
    rw [File.feedAll, ih, File.feed_eq, settingsOf_cons, errorsFrom_cons, List.foldl_append,
      List.append_assoc]

/-- A file has what its lines declare, in order, and their errors. -/
theorem File.ofLines_eq (lines : List Line) :
    File.ofLines lines = ⟨(settingsOf lines).foldl declare empty, errorsFrom 1 lines⟩ := by
  rw [File.ofLines, File.feedAll_eq, List.nil_append]

theorem File.ofLines_concat (lines : List Line) (line : Line) :
    File.ofLines (lines ++ [line]) = (File.ofLines lines).feed (lines.length + 1) line := by
  rw [File.ofLines_eq, File.ofLines_eq, File.feed_eq, settingsOf_append, errorsFrom_append,
    List.foldl_append, settingsOf_cons, errorsFrom_cons, Nat.add_comm]
  simp [settingsOf, errorsFrom]

/-! ## What a line does -/

/-- What a line with a number does to the file read so far. -/
inductive Effect (number : Nat) (line : List Char) (before : File) : File → Prop where
  /-- A line that says nothing changes nothing. -/
  | silent (silent : Silent line) : Effect number line before before
  /-- A declaration sets the one field that the keyword of the line names. -/
  | declared {s : Setting} {after : File} (declares : Declares line s)
    (set : after.policy.under s.keyword = some s)
    (others : ∀ k ≠ s.keyword, after.policy.under k = before.policy.under k)
    (errors : after.errors = before.errors) : Effect number line before after
  /-- A faulty line is reported, with its number and without the white space around it. The policy
  stays as it is. -/
  | reported {d : LineDefect} {after : File} (faulty : Faulty line d)
    (policy : after.policy = before.policy)
    (errors : after.errors =
      before.errors ++ [⟨number, String.ofList (trim line), d.message⟩]) :
    Effect number line before after

/-- The files that lines lead to, one after another from the first, which has the number 1. -/
inductive Reads : List (List Char) → File → Prop where
  | start : Reads [] ⟨empty, []⟩
  | next {lines : List (List Char)} {line : List Char} {before after : File}
    (front : Reads lines before) (effect : Effect (lines.length + 1) line before after) :
    Reads (lines ++ [line]) after

section Effects

variable {number : Nat} {line : List Char} {lines : List (List Char)} {before after : File}

/-- The effects of a line are those of feeding it. -/
theorem effect_iff :
    Effect number line before after ↔ after = before.feed number (Line.read line) := by
  constructor
  · intro effect
    cases effect with
    | silent silent => rw [Line.read_of_silent silent, File.feed]
    | @declared s _ declares set others errors =>
      rw [Line.read_of_declares declares, File.feed]
      obtain ⟨policy, reported⟩ := after
      obtain rfl : reported = before.errors := errors
      -- field by field, the policy is the one that the declaration makes
      have same : policy = before.policy.declare s := by
        apply ext_under
        intro k
        rw [under_declare]
        split
        · next own => rw [← own, set]
        · next other => rw [others k (Ne.symm other)]
      rw [same]
    | reported faulty policy errors =>
      rw [Line.read_of_faulty faulty, File.feed, ← policy, ← errors]
  · rintro rfl
    rcases kinds line with silent | ⟨s, declares⟩ | ⟨d, faulty⟩
    · rw [Line.read_of_silent silent]
      exact .silent silent
    · rw [Line.read_of_declares declares]
      refine .declared declares ?_ ?_ rfl
      · simp [File.feed, under_declare]
      · intro k other
        simp [File.feed, under_declare, other.symm]
    · rw [Line.read_of_faulty faulty]
      exact .reported faulty rfl rfl

/-- Reading line by line makes the file of all lines. -/
theorem reads_iff : Reads lines after ↔ after = File.ofLines (lines.map Line.read) := by
  constructor
  · intro reads
    induction reads with
    | start => rfl
    | next front effect ih =>
      rw [effect_iff.mp effect, ih, List.map_append, List.map_singleton, File.ofLines_concat,
        List.length_map]
  · rintro rfl
    -- the last line comes off first, as in `Reads`
    induction lines using List.reverseRecOn with
    | nil => exact .start
    | append_singleton lines line ih =>
      refine .next ih (effect_iff.mpr ?_)
      rw [List.map_append, List.map_singleton, File.ofLines_concat, List.length_map]

end Effects

/-! ## What a file holds -/

/-- The version that a line gives, if it carries the keyword and its value is valid. -/
def versionOn (line : List Char) : Option Int :=
  if Carries line .protocolVersion then readInt32? (valueText line) else none

/-- The address that a line gives, if it carries the keyword and its value is valid. -/
def addressOn (line : List Char) : Option MailAddress :=
  if Carries line .submissionAddress then (MailAddress.read (valueText line)).toOption else none

section Contents

variable {lines : List (List Char)} {s : Setting}

/-- A line has a setting iff it declares it. -/
theorem setting?_read {line : List Char} : (Line.read line).setting? = some s ↔ Declares line s := by
  rw [← Line.read_eq_setting_iff]
  cases Line.read line <;> simp [Line.setting?]

/-- The settings of a file are those that its lines declare. -/
theorem mem_settingsOf : s ∈ settingsOf (lines.map Line.read) ↔ ∃ line ∈ lines, Declares line s := by
  simp only [settingsOf, List.filterMap_map, List.mem_filterMap, Function.comp_apply, setting?_read]

/-- Of the settings under a keyword, the last one counts. -/
theorem under_ofLines (lines : List Line) (k : Keyword) :
    (File.ofLines lines).policy.under k =
      ((settingsOf lines).filter fun s => s.keyword = k).getLast? := by
  rw [File.ofLines_eq, under_foldl_declare, under_empty, Option.or_none]

/-- A flag is set iff some line carries its keyword. -/
theorem under_eq_some_iff_of_flag {k : Keyword} {flag : Setting} (own : flag.keyword = k)
    (only : ∀ s : Setting, s.keyword = k → s = flag)
    (any : ∀ line, Carries line k → Declares line flag) (lines : List (List Char)) :
    (File.ofLines (lines.map Line.read)).policy.under k = some flag ↔
      ∃ line ∈ lines, Carries line k := by
  subst own
  rw [under_ofLines]
  constructor
  · intro last
    have mem := (List.mem_filter.mp (List.mem_of_getLast? last)).1
    obtain ⟨line, inLines, declares⟩ := mem_settingsOf.mp mem
    exact ⟨line, inLines, declares.carries⟩
  · rintro ⟨line, inLines, carries⟩
    have mem : flag ∈ (settingsOf (lines.map Line.read)).filter fun s => s.keyword = flag.keyword :=
      List.mem_filter.mpr ⟨mem_settingsOf.mpr ⟨line, inLines, any line carries⟩, by simp⟩
    obtain ⟨s, last⟩ := Option.isSome_iff_exists.mp (List.getLast?_isSome.mpr (List.ne_nil_of_mem mem))
    have own := (List.mem_filter.mp (List.mem_of_getLast? last)).2
    rw [last, only s (by simpa using own)]

/-- A field that takes a value has the last one of its lines. -/
theorem under_eq_getLast? {α : Type} {k : Keyword} {make : α → Setting}
    {valueOn : List Char → Option α}
    (values : ∀ line s, (Declares line s ∧ s.keyword = k) ↔ ∃ a ∈ valueOn line, make a = s) :
    (File.ofLines (lines.map Line.read)).policy.under k =
      (lines.filterMap valueOn).getLast?.map make := by
  have own : ∀ line, (Line.read line).setting?.filter (fun s => s.keyword = k) =
      (valueOn line).map make := by
    intro line
    apply Option.ext
    intro s
    simp only [Option.filter_eq_some_iff, setting?_read, decide_eq_true_eq, values,
      Option.map_eq_some_iff]
    rfl
  have filtered : (settingsOf (lines.map Line.read)).filter (fun s => s.keyword = k) =
      (lines.filterMap valueOn).map make := by
    rw [settingsOf, List.filterMap_map, List.filter_filterMap, List.map_filterMap]
    exact congrArg (List.filterMap · lines) (funext own)
  rw [under_ofLines, filtered, List.getLast?_map]

theorem declares_protocolVersion_iff (line : List Char) (s : Setting) :
    Declares line s ∧ s.keyword = .protocolVersion ↔
      ∃ version ∈ versionOn line, .protocolVersion version = s := by
  unfold versionOn
  constructor
  · rintro ⟨declares, own⟩
    cases declares with
    | protocolVersion keyword value => exact ⟨_, by rwa [if_pos keyword], rfl⟩
    | _ => contradiction
  · rintro ⟨version, value, rfl⟩
    split at value
    · next keyword => exact ⟨.protocolVersion keyword value, rfl⟩
    · contradiction

theorem declares_submissionAddress_iff (line : List Char) (s : Setting) :
    Declares line s ∧ s.keyword = .submissionAddress ↔
      ∃ address ∈ addressOn line, .submissionAddress address = s := by
  unfold addressOn
  constructor
  · rintro ⟨declares, own⟩
    cases declares with
    | submissionAddress keyword value =>
      refine ⟨_, ?_, rfl⟩
      rw [if_pos keyword, value]
      rfl
    | _ => contradiction
  · rintro ⟨address, value, rfl⟩
    split at value
    · next keyword =>
      cases read : MailAddress.read (valueText line) with
      | ok found =>
        rw [read] at value
        obtain rfl := Option.some.inj value
        exact ⟨.submissionAddress keyword read, rfl⟩
      | error defect =>
        rw [read] at value
        contradiction
    · contradiction

/-- The version is the last one that a line declares. -/
theorem protocolVersion_ofLines (lines : List (List Char)) :
    (File.ofLines (lines.map Line.read)).policy.protocolVersion =
      (lines.filterMap versionOn).getLast? :=
  Option.map_injective (fun _ _ => Setting.protocolVersion.inj)
    (under_eq_getLast? declares_protocolVersion_iff)

/-- The address is the last one that a line declares. -/
theorem submissionAddress_ofLines (lines : List (List Char)) :
    (File.ofLines (lines.map Line.read)).policy.submissionAddress =
      (lines.filterMap addressOn).getLast? :=
  Option.map_injective (fun _ _ => Setting.submissionAddress.inj)
    (under_eq_getLast? declares_submissionAddress_iff)

end Contents

/-! ## Taking lines out -/

/-- The lines of a text, with their endings, but for those that say nothing and those that are
reported. -/
def keptLines (file : File) (text : List Char) : List (List Char) :=
  (((wholeLines text).zipIdx 1).filter fun (line, number) =>
    ¬ Silent line ∧ number ∉ file.errors.map LineError.number).map Prod.fst

/-- The file of a text is that of its whole lines. -/
theorem File.ofText_eq_ofLines (text : String) :
    File.ofText text = File.ofLines ((wholeLines text.toList).map Line.read) := by
  have read : Line.read ∘ withoutEnding = Line.read :=
    funext fun line => Line.read_congr (trim_withoutEnding line)
  rw [File.ofText, textLines_eq_map, List.map_map, read]

/-- A line is reported under its own number. -/
theorem number_mem_errorsFrom_of_mem {lines : List Line} {line : Line} {first number : Nat}
    (mem : (line, number) ∈ lines.zipIdx first) :
    number ∈ (errorsFrom first lines).map LineError.number ↔
      (line.error? number).isSome = true := by
  rw [number_mem_errorsFrom]
  constructor
  · rintro ⟨other, mem', said⟩
    -- a number stands beside one line only
    have place := (List.mk_mem_zipIdx_iff_le_and_getElem?_sub.mp mem).2
    rw [(List.mk_mem_zipIdx_iff_le_and_getElem?_sub.mp mem').2] at place
    rwa [← Option.some.inj place]
  · intro said
    exact ⟨line, mem, said⟩

/-- A line declares something iff it is neither silent nor reported. -/
theorem isSome_setting?_iff {line : List Char} (number : Nat) :
    (Line.read line).setting?.isSome = true ↔
      ¬ Silent line ∧ ¬ ((Line.read line).error? number).isSome = true := by
  rw [← Line.read_eq_void_iff]
  cases Line.read line <;> simp [Line.setting?, Line.error?]

/-- The lines that are kept are those that declare something. -/
theorem keptLines_ofText (text : String) :
    keptLines (File.ofText text) text.toList =
      (wholeLines text.toList).filter fun line => (Line.read line).setting?.isSome := by
  have numbered : ∀ numbered ∈ (wholeLines text.toList).zipIdx 1,
      decide (¬ Silent numbered.1 ∧
        numbered.2 ∉ (File.ofText text).errors.map LineError.number) =
      (Line.read numbered.1).setting?.isSome := by
    rintro ⟨line, number⟩ mem
    have mem' : (Line.read line, number) ∈ ((wholeLines text.toList).map Line.read).zipIdx 1 := by
      rw [List.zipIdx_map]
      exact List.mem_map_of_mem (f := Prod.map Line.read id) mem
    rw [File.ofText_eq_ofLines, File.ofLines_eq, Bool.eq_iff_iff, decide_eq_true_eq,
      number_mem_errorsFrom_of_mem mem', isSome_setting?_iff number]
  unfold keptLines
  rw [List.filter_congr numbered]
  -- the numbers play no part any more
  have unnumbered := List.filter_map (f := Prod.fst)
    (p := fun line => (Line.read line).setting?.isSome) (l := (wholeLines text.toList).zipIdx 1)
  rw [List.zipIdx_map_fst] at unnumbered
  exact unnumbered.symm

/-- Without the lines that say nothing and those that are reported, the text makes up the same policy,
and nothing is reported. -/
theorem File.ofText_keptLines (text : String) :
    File.ofText (String.ofList (keptLines (File.ofText text) text.toList).flatten) =
      ⟨(File.ofText text).policy, []⟩ := by
  rw [keptLines_ofText, File.ofText_eq_ofLines, String.toList_ofList,
    wholeLines_flatten List.filter_sublist, File.ofText_eq_ofLines, File.ofLines_eq,
    File.ofLines_eq]
  generalize wholeLines text.toList = lines
  -- the lines taken out made no declaration, and those that are left make no report
  have settings : settingsOf ((lines.filter fun line => (Line.read line).setting?.isSome).map
      Line.read) = settingsOf (lines.map Line.read) := by
    rw [settingsOf, settingsOf, List.filterMap_map, List.filterMap_map, List.filterMap_filter]
    refine congrArg (List.filterMap · lines) (funext fun line => ?_)
    cases said : (Line.read line).setting? <;> simp [said]
  have unreported : errorsFrom 1 ((lines.filter fun line => (Line.read line).setting?.isSome).map
      Line.read) = [] := by
    apply errorsFrom_eq_nil
    intro read mem number
    obtain ⟨line, kept, rfl⟩ := List.mem_map.mp mem
    have said := ((isSome_setting?_iff number).mp (List.mem_filter.mp kept).2).2
    simpa using said
  rw [settings, unreported]

/-! ## Whole files -/

/-- What a policy file makes of the lines of its text:

* the lines are the whole text, but for what ends them;
* it is the one file to which the effects of the lines lead, one after another;
* a line that is not silent makes a declaration or is faulty, and never both;
* the numbers of the reports increase;
* a flag is set iff some line carries its keyword;
* the version and the address are those of the last line that gives one;
* without the silent and the reported lines the text makes up the same policy without a report. -/
theorem File.ofText_lines (text : String) :
    let lines := textLines text.toList
    let file := File.ofText text
    ((wholeLines text.toList).flatten = text.toList ∧
      lines = (wholeLines text.toList).map withoutEnding) ∧
    (∀ read, Reads lines read ↔ read = file) ∧
    (∀ line, (¬ Silent line ↔ (∃ s, Declares line s) ∨ ∃ d, Faulty line d) ∧
      ¬ ((∃ s, Declares line s) ∧ ∃ d, Faulty line d)) ∧
    (file.errors.map LineError.number).Pairwise (· < ·) ∧
    (file.policy.mailboxOnly = true ↔ ∃ line ∈ lines, Carries line .mailboxOnly) ∧
    (file.policy.daneOnly = true ↔ ∃ line ∈ lines, Carries line .daneOnly) ∧
    (file.policy.authSubmit = true ↔ ∃ line ∈ lines, Carries line .authSubmit) ∧
    file.policy.protocolVersion = (lines.filterMap versionOn).getLast? ∧
    file.policy.submissionAddress = (lines.filterMap addressOn).getLast? ∧
    File.ofText (String.ofList (keptLines file text.toList).flatten) = ⟨file.policy, []⟩ := by
  refine ⟨⟨flatten_wholeLines _, textLines_eq_map _⟩, fun read => reads_iff, ?_, ?_, ?_, ?_, ?_,
    protocolVersion_ofLines _, submissionAddress_ofLines _, File.ofText_keptLines text⟩
  · intro line
    refine ⟨not_silent_iff, ?_⟩
    rintro ⟨⟨s, declares⟩, d, faulty⟩
    exact declares.not_faulty faulty
  · rw [File.ofText, File.ofLines_eq]
    exact pairwise_errorsFrom 1 _
  · have flag := under_eq_some_iff_of_flag (k := .mailboxOnly) rfl (by rintro (_ | _) ⟨⟩; rfl)
      (fun _ => .mailboxOnly) (textLines text.toList)
    simpa [under, File.ofText] using flag
  · have flag := under_eq_some_iff_of_flag (k := .daneOnly) rfl (by rintro (_ | _) ⟨⟩; rfl)
      (fun _ => .daneOnly) (textLines text.toList)
    simpa [under, File.ofText] using flag
  · have flag := under_eq_some_iff_of_flag (k := .authSubmit) rfl (by rintro (_ | _) ⟨⟩; rfl)
      (fun _ => .authSubmit) (textLines text.toList)
    simpa [under, File.ofText] using flag

end KeyDirectory.Policy
