import EditImpact.Impact.Report
import EditImpact.Proofs.Value.Order
import Mathlib.Data.List.Basic

/-!
Reports as text. The text of a report is read as exactly the data of the report, so no two reports
share one, and reports are compared by what they say.
-/

namespace EditImpact.Impact.Report

open Json Value

set_option autoImplicit false

/-! ### The data of a report -/

theorem textual_names (names : List String) : ∀ item ∈ Report.names names, Textual item := by
  induction names with
  | nil => exact fun _ member => nomatch member
  | cons name names induction =>
      intro item member
      rcases List.mem_cons.mp member with rfl | later
      · exact .text name
      · exact induction item later

theorem textual_issues (issues : List Issue) : ∀ item ∈ issueValues issues, Textual item := by
  induction issues with
  | nil => exact fun _ member => nomatch member
  | cons issue issues induction =>
      intro item member
      rcases List.mem_cons.mp member with rfl | later
      · refine .map (by decide : (["type", "target"] : List String).Nodup) ?_
        intro field inFields
        simp only [List.mem_cons, List.not_mem_nil, or_false] at inFields
        rcases inFields with rfl | rfl
        · exact .text _
        · exact .text _
      · exact induction item later

/-- The fields that every report has. -/
def mainFields (report : Report) : List (String × Value) :=
  [("sourceFile", .text report.sourceFile), ("functions", .list (Report.names report.functions)),
    ("classes", .list (Report.names report.classes)),
    ("downstreamFiles", .list (Report.names report.downstreamFiles)),
    ("tests", .list (Report.names report.tests)), ("issues", .list (issueValues report.issues))]

theorem to_value_unexplained {report : Report} (unexplained : report.reason = none) :
    report.toValue = .map (mainFields report) := by
  rw [toValue, unexplained, List.append_nil]
  rfl

theorem to_value_explained {report : Report} {reason : String}
    (explained : report.reason = some reason) :
    report.toValue = .map (mainFields report ++ [("reason", .text reason)]) := by
  rw [toValue, explained]
  rfl

theorem textual_main_fields (report : Report) :
    ∀ field ∈ mainFields report, Textual field.2 := by
  intro field inFields
  simp only [mainFields, List.mem_cons, List.not_mem_nil, or_false] at inFields
  rcases inFields with rfl | rfl | rfl | rfl | rfl | rfl
  · exact .text report.sourceFile
  · exact .list (textual_names report.functions)
  · exact .list (textual_names report.classes)
  · exact .list (textual_names report.downstreamFiles)
  · exact .list (textual_names report.tests)
  · exact .list (textual_issues report.issues)

theorem textual_value (report : Report) : Textual report.toValue := by
  have main := textual_main_fields report
  cases reason : report.reason with
  | none =>
      have distinct : (["sourceFile", "functions", "classes", "downstreamFiles", "tests",
        "issues"] : List String).Nodup := by decide
      rw [to_value_unexplained reason]
      exact .map distinct main
  | some text =>
      have distinct : (["sourceFile", "functions", "classes", "downstreamFiles", "tests",
        "issues", "reason"] : List String).Nodup := by decide
      rw [to_value_explained reason]
      refine .map distinct ?_
      intro field inFields
      rcases List.mem_append.mp inFields with inMain | last
      · exact main field inMain
      · rw [List.mem_singleton.mp last]
        exact .text text

theorem texts_of_names (names : List String) : (Report.names names).filterMap text? = names := by
  induction names with
  | nil => rfl
  | cons name names induction =>
      rw [Report.names, List.filterMap_cons, induction]
      rfl

/-- The issue that data stand for, if its kind is known. -/
def issueOf? (value : Value) : Option Issue :=
  (IssueKind.ofName? (value.textAt "type")).map (⟨·, value.textAt "target"⟩)

theorem issue_of_value (issue : Issue) : issueOf? (issueValue issue) = some issue := by
  obtain ⟨kind, target⟩ := issue
  cases kind <;> rfl

theorem issues_of_values (issues : List Issue) :
    (issueValues issues).filterMap issueOf? = issues := by
  induction issues with
  | nil => rfl
  | cons issue issues induction =>
      rw [issueValues, List.filterMap_cons, issue_of_value, induction]

/-- The data of a report stand for that report. -/
theorem of_value_to_value (report : Report) : ofValue report.toValue = report := by
  have read : ofValue report.toValue =
      { sourceFile := report.sourceFile
        functions := (Report.names report.functions).filterMap text?
        classes := (Report.names report.classes).filterMap text?
        downstreamFiles := (Report.names report.downstreamFiles).filterMap text?
        tests := (Report.names report.tests).filterMap text?
        issues := (issueValues report.issues).filterMap issueOf?
        reason := report.reason } := by
    cases reason : report.reason with
    | none => rw [to_value_unexplained reason]; rfl
    | some text => rw [to_value_explained reason]; rfl
  rw [read, issues_of_values]
  simp only [texts_of_names]

/-! ### Fields in name order -/

theorem text_at_in_name_order {value : Value} (textual : Textual value) (key : String) :
    value.inNameOrder.textAt? key = value.textAt? key := by
  rw [textAt?, get_in_name_order textual, text_in_name_order, textAt?]

theorem issue_in_name_order {value : Value} (textual : Textual value) :
    issueOf? value.inNameOrder = issueOf? value := by
  simp only [issueOf?, textAt, textOr, text_at_in_name_order textual]

theorem texts_at_in_name_order {value : Value} (textual : Textual value) (key : String) :
    value.inNameOrder.textsAt key = value.textsAt key := by
  have same : text? ∘ inNameOrder = text? := funext text_in_name_order
  rw [textsAt, itemsAt, get_in_name_order textual, list_in_name_order, List.filterMap_map, same,
    textsAt, itemsAt]

/-- The report that data stand for does not depend on the order of their fields. -/
theorem of_value_in_name_order {value : Value} (textual : Textual value) :
    ofValue value.inNameOrder = ofValue value := by
  have issues : (value.inNameOrder.itemsAt "issues").filterMap issueOf? =
      (value.itemsAt "issues").filterMap issueOf? := by
    rw [itemsAt, get_in_name_order textual, list_in_name_order, List.filterMap_map]
    exact List.filterMap_congr fun item member => issue_in_name_order (textual_item textual member)
  unfold issueOf? at issues
  rw [ofValue, issues]
  simp only [textAt, textOr, text_at_in_name_order textual, texts_at_in_name_order textual, ofValue]

/-! ### Texts -/

theorem data_of_text {left right : List Char} {first second : Value}
    (readFirst : Json.read? left = some first) (readSecond : Json.read? right = some second)
    (same : left = right) : first = second := by
  rw [same, readSecond] at readFirst
  exact (Option.some.inj readFirst).symm

/-- The text of a report is read as exactly its data, so reports with one text are one report; and
reports count as the same just if they are. -/
theorem text_tells_report (a b : Report) :
    (a.serialize = b.serialize ↔ a = b) ∧ (a.sameText b = true ↔ a = b) ∧
      Json.read? a.serialize = some a.toValue := by
  have reads (report : Report) : Json.read? report.serialize = some report.toValue :=
    read_of_spells (spells_indent (textual_value report) 0)
  have readsSorted (report : Report) : Json.read? (Json.write report.toValue.inNameOrder) =
      some report.toValue.inNameOrder :=
    read_of_spells (spells_write (textual_in_name_order (textual_value report)))
  refine ⟨⟨?_, congrArg serialize⟩, ?_, reads a⟩
  · intro same
    have data := data_of_text (reads a) (reads b) same
    rw [← of_value_to_value a, data, of_value_to_value]
  · rw [sameText, beq_iff_eq]
    refine ⟨?_, fun same => by rw [same]⟩
    intro same
    have data := data_of_text (readsSorted a) (readsSorted b) same
    rw [← of_value_to_value a, ← of_value_in_name_order (textual_value a), data,
      of_value_in_name_order (textual_value b), of_value_to_value]

end EditImpact.Impact.Report
