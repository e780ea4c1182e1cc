import EditImpact.Engine.Basic
import EditImpact.Proofs.Impact.Limits
import EditImpact.Proofs.Text.CodePoints

/-!
# The guards of an analysis

Before its baseline is looked for, a file meets guards on its name, on its size on disk, and on the
contents and the size of its text. `Admitted` and `Rejected` say without any order of evaluation
which files pass them and which are turned away, and each value of `verdict` is tied to one such
condition (`verdict_eq_iff`).
-/

namespace EditImpact.Engine

open Baseline

set_option autoImplicit false

section Conditions

variable (scan : Settings.Scan) (files : Files.FileSystem) (path : Path)
  (buffer : Option Text.Given)

/-- The limit is a number of bytes and the size is within it. -/
def Within (size : Nat) : Prop := ∃ limit, scan.byteLimit = some limit ∧ size ≤ limit

/-- The limit is a number of bytes and the size is over it. -/
def Exceeds (size : Nat) : Prop := ∃ limit, scan.byteLimit = some limit ∧ limit < size

/-- The text of a file is looked at: its name is not that of a binary file, and if it comes from
disk, its size there is unknown or within the limit. -/
structure Opened : Prop where
  named : Files.isBinary path = false
  sized : buffer = none → ∀ size, files.size path = some size → Within scan size

/-- A file passes all guards with its current text. -/
structure Admitted (text : List Char) (origin : Origin) : Prop where
  opened : Opened scan files path buffer
  taken : currentText files path buffer = .ok (Text.given text, origin)
  textual : '\x00' ∉ text
  small : Within scan (Text.utf8Size text)

/-- A guard turns a file away: by its name, its size on disk, or the contents or the size of its
text. -/
inductive Rejected : Reason → Option Origin → Prop where
  | binaryName (binary : Files.isBinary path = true) : Rejected .binaryFile none
  | largeFile (size : Nat) (named : Files.isBinary path = false) (unbuffered : buffer = none)
    (known : files.size path = some size) (large : Exceeds scan size) :
    Rejected .fileTooLarge none
  | binaryText (text : Text.Given) (origin : Origin) (opened : Opened scan files path buffer)
    (taken : currentText files path buffer = .ok (text, origin))
    (binary : .char '\x00' ∈ text) :
    Rejected .binaryFile (some origin)
  | largeText (text : List Char) (origin : Origin) (opened : Opened scan files path buffer)
    (taken : currentText files path buffer = .ok (Text.given text, origin))
    (textual : '\x00' ∉ text) (large : Exceeds scan (Text.utf8Size text)) :
    Rejected .fileTooLarge (some origin)

/-- The guards need the limit in bytes and cannot have it: for the size on disk, or for that of a
text. -/
inductive Unmeasurable : Prop where
  | file (size : Nat) (uncountable : scan.byteLimit = none) (named : Files.isBinary path = false)
    (unbuffered : buffer = none) (known : files.size path = some size) : Unmeasurable
  | text (text : List Char) (origin : Origin) (uncountable : scan.byteLimit = none)
    (opened : Opened scan files path buffer)
    (taken : currentText files path buffer = .ok (Text.given text, origin))
    (textual : '\x00' ∉ text) :
    Unmeasurable

/-- The guards need the bytes of a text that has none, for halves of surrogate pairs. -/
structure Unencodable (why : Text.Halves) : Prop where
  opened : Opened scan files path buffer
  taken : ∃ text origin, currentText files path buffer = .ok (text, origin) ∧
    .char '\x00' ∉ text ∧ Text.characters text = .error why

end Conditions

section Sizes

variable {scan : Settings.Scan} {size : Nat}

theorem is_too_large_of_limit {limit : Nat} (counted : scan.byteLimit = some limit) :
    isTooLarge scan size = .ok (decide (limit < size)) := by
  rw [isTooLarge, Impact.limit_countable counted]
  rfl

theorem is_too_large_without_limit (uncountable : scan.byteLimit = none) :
    isTooLarge scan size = .error (.limitUncountable (.ofFloat scan.sizeLimit)) := by
  rw [isTooLarge, Impact.limit_uncountable uncountable]
  rfl

theorem not_too_large_iff : isTooLarge scan size = .ok false ↔ Within scan size := by
  unfold Within
  cases counted : scan.byteLimit with
  | none => simp [is_too_large_without_limit counted]
  | some limit => simp [is_too_large_of_limit counted]

theorem too_large_iff : isTooLarge scan size = .ok true ↔ Exceeds scan size := by
  unfold Exceeds
  cases counted : scan.byteLimit with
  | none => simp [is_too_large_without_limit counted]
  | some limit => simp [is_too_large_of_limit counted]

theorem unmeasured_iff {failure : Failure} :
    isTooLarge scan size = .error failure ↔
      scan.byteLimit = none ∧ failure = .limitUncountable (.ofFloat scan.sizeLimit) := by
  cases counted : scan.byteLimit with
  | none => simp [is_too_large_without_limit counted, eq_comm]
  | some limit => simp [is_too_large_of_limit counted]

end Sizes

theorem mem_given {c : Char} {text : List Char} : .char c ∈ Text.given text ↔ c ∈ text := by
  simp [Text.given]

section Verdicts

variable (scan : Settings.Scan) (files : Files.FileSystem) (path : Path)
  (buffer : Option Text.Given)

/-- The conditions of the verdicts, and of having none. -/
inductive Judged : Except Failure Verdict → Prop where
  | unmeasurable (reason : Unmeasurable scan files path buffer) :
    Judged (.error (.limitUncountable (.ofFloat scan.sizeLimit)))
  | unreadable (problem : Option String) (opened : Opened scan files path buffer)
    (unbuffered : buffer = none) (read : files.read path = .error problem) :
    Judged (.error (.fileUnreadable path.toString))
  | unencodable (why : Text.Halves) (reason : Unencodable scan files path buffer why) :
    Judged (.error (.textUnencodable why))
  | turnedAway (reason : Reason) (origin : Option Origin)
    (rejected : Rejected scan files path buffer reason origin) :
    Judged (.ok (.turnedAway reason origin))
  | admitted (text : List Char) (origin : Origin)
    (passed : Admitted scan files path buffer text origin) :
    Judged (.ok (.admitted text origin))

variable {scan files path buffer}

theorem verdict_of_named (named : Files.isBinary path = false) :
    verdict scan files path buffer = (do
      let tooLarge ← isTooLargeOnDisk scan files path buffer
      if tooLarge then return .turnedAway .fileTooLarge none
      let (text, origin) ← currentText files path buffer
      judgeText scan text origin) := by
  rw [verdict, named]
  rfl

theorem verdict_of_opened (opened : Opened scan files path buffer) :
    verdict scan files path buffer = (do
      let (text, origin) ← currentText files path buffer
      judgeText scan text origin) := by
  have small : isTooLargeOnDisk scan files path buffer = .ok false := by
    unfold isTooLargeOnDisk
    split
    · next size known => exact not_too_large_iff.mpr (opened.sized rfl size known)
    · rfl
  rw [verdict_of_named opened.named, small]
  rfl

theorem too_large_on_disk_of_known (unbuffered : buffer = none) {size : Nat}
    (known : files.size path = some size) :
    isTooLargeOnDisk scan files path buffer = isTooLarge scan size := by
  unfold isTooLargeOnDisk
  rw [unbuffered, known]

theorem judge_text_of_given {text : List Char} (origin : Origin) (textual : '\x00' ∉ text) :
    judgeText scan (Text.given text) origin = (do
      let tooLarge ← isTooLarge scan (Text.utf8Size text)
      return if tooLarge then .turnedAway .fileTooLarge (some origin)
        else .admitted text origin) := by
  have clean : (Text.given text).contains (.char '\x00') = false := by
    simpa [mem_given] using textual
  rw [judgeText, clean, encodable, Text.characters_given]
  rfl

theorem judge_text_of_binary {text : Text.Given} (origin : Origin) (binary : .char '\x00' ∈ text) :
    judgeText scan text origin = .ok (.turnedAway .binaryFile (some origin)) := by
  rw [judgeText, List.contains_iff_mem.mpr binary]
  rfl

theorem judge_text_unencodable {text : Text.Given} (origin : Origin)
    (textual : .char '\x00' ∉ text) {why : Text.Halves}
    (stuck : Text.characters text = .error why) :
    judgeText scan text origin = .error (.textUnencodable why) := by
  have clean : text.contains (.char '\x00') = false := by simpa using textual
  rw [judgeText, clean, encodable, stuck]
  rfl

/-- Each condition has its verdict. -/
theorem verdict_of_judged {judgement : Except Failure Verdict}
    (judged : Judged scan files path buffer judgement) :
    verdict scan files path buffer = judgement := by
  cases judged with
  | unmeasurable reason =>
      cases reason with
      | file size uncountable named unbuffered known =>
          rw [verdict_of_named named, too_large_on_disk_of_known unbuffered known,
            is_too_large_without_limit uncountable]
          rfl
      | text text origin uncountable opened taken textual =>
          rw [verdict_of_opened opened, taken]
          show judgeText scan (Text.given text) origin = _
          rw [judge_text_of_given origin textual, is_too_large_without_limit uncountable]
          rfl
  | unreadable problem opened unbuffered read =>
      rw [verdict_of_opened opened, unbuffered, currentText, read]
      rfl
  | unencodable why reason =>
      obtain ⟨text, origin, taken, textual, stuck⟩ := reason.taken
      rw [verdict_of_opened reason.opened, taken]
      exact judge_text_unencodable origin textual stuck
  | turnedAway reason origin rejected =>
      cases rejected with
      | binaryName binary =>
          rw [verdict, binary]
          rfl
      | largeFile size named unbuffered known large =>
          rw [verdict_of_named named, too_large_on_disk_of_known unbuffered known,
            too_large_iff.mpr large]
          rfl
      | binaryText text origin opened taken binary =>
          rw [verdict_of_opened opened, taken]
          exact judge_text_of_binary origin binary
      | largeText text origin opened taken textual large =>
          rw [verdict_of_opened opened, taken]
          show judgeText scan (Text.given text) origin = _
          rw [judge_text_of_given origin textual, too_large_iff.mpr large]
          rfl
  | admitted text origin passed =>
      rw [verdict_of_opened passed.opened, passed.taken]
      show judgeText scan (Text.given text) origin = _
      rw [judge_text_of_given origin passed.textual, not_too_large_iff.mpr passed.small]
      rfl

theorem current_text_eq_error_iff {failure : Failure} :
    currentText files path buffer = .error failure ↔
      buffer = none ∧ (∃ problem, files.read path = .error problem) ∧
        failure = .fileUnreadable path.toString := by
  unfold currentText
  cases buffer with
  | some text => simp
  | none => cases files.read path <;> simp [eq_comm]

/-- A file that is opened is judged by its text. -/
theorem judged_of_opened (opened : Opened scan files path buffer) :
    ∃ judgement, Judged scan files path buffer judgement := by
  cases taken : currentText files path buffer with
  | error failure =>
      obtain ⟨unbuffered, ⟨problem, read⟩, -⟩ := current_text_eq_error_iff.mp taken
      exact ⟨_, .unreadable problem opened unbuffered read⟩
  | ok found =>
      obtain ⟨given, origin⟩ := found
      by_cases binary : .char '\x00' ∈ given
      · exact ⟨_, .turnedAway _ _ (.binaryText given origin opened taken binary)⟩
      · cases whole : Text.characters given with
        | error why => exact ⟨_, .unencodable why ⟨opened, given, origin, taken, binary, whole⟩⟩
        | ok text =>
            obtain rfl := Text.characters_eq_ok_iff.mp whole
            have textual : '\x00' ∉ text := mt mem_given.mpr binary
            cases sized : isTooLarge scan (Text.utf8Size text) with
            | error failure =>
                obtain ⟨uncountable, -⟩ := unmeasured_iff.mp sized
                exact ⟨_, .unmeasurable (.text text origin uncountable opened taken textual)⟩
            | ok tooLarge =>
                cases tooLarge with
                | true =>
                    exact ⟨_, .turnedAway _ _
                      (.largeText text origin opened taken textual (too_large_iff.mp sized))⟩
                | false =>
                    exact ⟨_, .admitted text origin
                      ⟨opened, taken, textual, not_too_large_iff.mp sized⟩⟩

theorem some_judged (scan : Settings.Scan) (files : Files.FileSystem) (path : Path)
    (buffer : Option Text.Given) : ∃ judgement, Judged scan files path buffer judgement := by
  cases named : Files.isBinary path with
  | true => exact ⟨_, .turnedAway _ _ (.binaryName named)⟩
  | false =>
      by_cases opened : Opened scan files path buffer
      · exact judged_of_opened opened
      · have sized : ¬(buffer = none → ∀ size, files.size path = some size → Within scan size) :=
          fun sized => opened ⟨named, sized⟩
        push Not at sized
        obtain ⟨unbuffered, size, known, outside⟩ := sized
        cases counted : scan.byteLimit with
        | none => exact ⟨_, .unmeasurable (.file size counted named unbuffered known)⟩
        | some limit =>
            have large : Exceeds scan size :=
              ⟨limit, counted, Nat.lt_of_not_le fun small => outside ⟨limit, counted, small⟩⟩
            exact ⟨_, .turnedAway _ _ (.largeFile size named unbuffered known large)⟩

/-- The guards come to a verdict exactly on its condition. -/
theorem verdict_eq_iff {judgement : Except Failure Verdict} :
    verdict scan files path buffer = judgement ↔ Judged scan files path buffer judgement := by
  constructor
  · rintro rfl
    obtain ⟨judgement, judged⟩ := some_judged scan files path buffer
    rwa [verdict_of_judged judged]
  · exact verdict_of_judged

theorem verdict_of_rejected {reason : Reason} {origin : Option Origin}
    (rejected : Rejected scan files path buffer reason origin) :
    verdict scan files path buffer = .ok (.turnedAway reason origin) :=
  verdict_of_judged (.turnedAway reason origin rejected)

end Verdicts

end EditImpact.Engine
