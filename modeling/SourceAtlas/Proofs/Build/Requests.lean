import SourceAtlas.Proofs.Build.Reports
import SourceAtlas.Proofs.Params.Requests

/-!
# Builds by requests and by their calls

A build by a request comes to the same as the call with its values, if these are plain.  Where they are not,
the two part in one of three ways: a value that no list can be made of is a fault of the request itself, a
missing text or flag is refused though the call leaves it out, and a value that is no list is refused by the
call though the request makes a list of it.
-/

namespace SourceAtlas

open Config

namespace Report

variable {colored : Bool} {ws : Workspace} {r : Request}

theorem ofRequest_of_ok {params : Params} (h : r.toParams = .ok params) :
    ofRequest colored ws r = ofParams colored ws params := by
  rw [ofRequest, h]

theorem cls_ne_type_of_ofParams {params : Params} {f : Fault}
    (h : (ofParams colored ws params).outcome = .error f) : f.cls ≠ .type := by
  obtain hfailure | rfl := fault_of_ofParams h
  · intro htype
    rw [Fault.isFailure, htype] at hfailure
    cases hfailure
  · decide

/-- A request is at fault by the kind of a value exactly if one of its lists cannot be made. -/
theorem ofRequest_refusedAs_type_iff :
    (ofRequest colored ws r).RefusedAs ws .type ↔ ¬ r.IsListable := by
  rw [← r.exists_toParams_iff]
  cases htranslated : r.toParams with
  | ok params =>
      refine iff_of_false (fun hrefused => ?_) (not_not_intro ⟨params, rfl⟩)
      obtain ⟨f, hf, htype⟩ := hrefused.fault
      rw [ofRequest_of_ok htranslated] at hf
      exact cls_ne_type_of_ofParams hf htype
  | error f =>
      refine iff_of_true ?_ (by simp)
      rw [ofRequest, htranslated]
      exact ⟨rfl, rfl, f, rfl, r.blames_toParams f htranslated⟩

/-- A missing text or flag is handed on, and refused. -/
theorem ofRequest_refusedAs_of_null (h : r.IsListable) (hnull : .null ∈ r.singles) :
    (ofRequest colored ws r).RefusedAs ws (.own .options) := by
  obtain ⟨params, htranslated⟩ := r.exists_toParams_iff.mpr h
  obtain ⟨f, hf, hvalue, hnot⟩ := r.exists_field_of_single hnull htranslated
  rw [ofRequest_of_ok htranslated]
  exact refusedAs_of_not_admits hf hvalue hnot colored ws

/-- A call refuses values for lists that are no lists. -/
theorem ofParams_call_refusedAs_of_not_isListed {v : Value} (hv : v ∈ r.emptyLists ++ r.defaultLists)
    (hnot : ¬ v.IsListed) : (ofParams colored ws r.call).RefusedAs ws (.own .options) := by
  obtain ⟨f, hf, hargument, hlisted⟩ := r.exists_field_of_list hv
  have hgiven : v.given? = some v := Value.given?_of_ne fun hnull => hnot (hnull ▸ .null)
  have hvalue : valueOf? r.call f.name.toList = some v := by
    rw [r.valueOf?_call, hargument, Option.bind_some, hgiven]
  exact refusedAs_of_not_admits hf hvalue (fun hadmits => hnot (hlisted hadmits)) colored ws

/-- Builds with faults of different classes do not come to the same. -/
theorem not_sameOutcome_of_cls_ne {report call : Report} (c d : FaultClass) (hne : c ≠ d)
    (hreport : ∃ f, report.outcome = .error f ∧ f.cls = c)
    (hcall : ∃ f, call.outcome = .error f ∧ f.cls = d) : ¬ report.SameOutcome call := by
  intro hsame
  obtain ⟨f, hf, rfl⟩ := (hsame.fault c).mp hreport
  obtain ⟨f', hf', rfl⟩ := hcall
  exact hne (congrArg Fault.cls (Except.error.inj (hf.symm.trans hf')))

end Report

/-- A build by a request comes to the same as the call with its values. -/
def Request.AgreesWithCall (colored : Bool) (ws : Workspace) (r : Request) : Prop :=
  (Report.ofRequest colored ws r).SameOutcome (Report.ofParams colored ws r.call)

/-- A request agrees with the call with its values where these are plain: texts and flags that are given, and
lists that are missing, lists, tuples, or texts in pieces of at most a letter.  A list that cannot be made is
a fault of the request; a text or a flag that is missing is refused; and the call refuses values for lists
that are no lists.  What is refused leaves everything as it is. -/
theorem request_agrees_with_call (colored : Bool) (ws : Workspace) (r : Request) :
    (r.IsPlain → r.AgreesWithCall colored ws) ∧
      ((Report.ofRequest colored ws r).RefusedAs ws .type ↔ ¬ r.IsListable) ∧
      (r.IsListable → .null ∈ r.singles →
        (Report.ofRequest colored ws r).RefusedAs ws (.own .options)) ∧
      ((∃ v ∈ r.emptyLists ++ r.defaultLists, ¬ v.IsListed) →
        (Report.ofParams colored ws r.call).RefusedAs ws (.own .options)) := by
  refine ⟨fun hplain => ?_, Report.ofRequest_refusedAs_type_iff, Report.ofRequest_refusedAs_of_null, ?_⟩
  · obtain ⟨params, htranslated, halike⟩ := hplain.exists_alike
    rw [Request.AgreesWithCall, Report.ofRequest_of_ok htranslated]
    exact Report.sameOutcome_of_alike halike colored ws
  · rintro ⟨v, hv, hnot⟩
    exact Report.ofParams_call_refusedAs_of_not_isListed hv hnot

/-- A request with a tuple and a text for its lists. -/
def plainRequest : Request :=
  { target := .text "structure.xml".toList, files := .tuple [.text "a.php, b.php".toList],
    ignore := .text "b,?".toList }

/-- A plain request is built, and agrees with its call. -/
theorem plain_request_is_built_as_its_call : plainRequest.IsPlain ∧
    (Report.ofRequest false oneFile plainRequest).outcome.isOk = true ∧
      plainRequest.AgreesWithCall false oneFile := by
  have hitems : (Value.text "b,?".toList).items? = some ["b".toList, "?".toList] := by decide
  have hletters : ∀ p ∈ ["b".toList, "?".toList], p.length ≤ 1 := by decide
  have hignore : (Value.text "b,?".toList).IsPlainList :=
    .text fun p hp => hletters p ((Value.mem_items?_iff hitems).mpr hp)
  have hplain : plainRequest.IsPlain :=
    { given := by simp [plainRequest, Request.singles]
      emptyLists := by simpa [plainRequest, Request.emptyLists, Value.IsPlainList.tuple,
        Value.IsPlainList.null] using hignore
      defaultLists := by simp [plainRequest, Request.defaultLists, Value.IsPlainList.null] }
  exact ⟨hplain, by decide +kernel, (request_agrees_with_call false oneFile plainRequest).1 hplain⟩

/-- A request parts from its call by a number for a list, by a flag for one, by a target that is missing, and
by a text for a list of which a piece is longer than a letter. -/
theorem other_requests_part_from_their_calls :
    ¬ ({ files := .integer 5 } : Request).AgreesWithCall false oneFile ∧
      ¬ ({ files := .flag false } : Request).AgreesWithCall false oneFile ∧
      ¬ ({ target := .null } : Request).AgreesWithCall false oneFile ∧
      ¬ ({ extensions := .text ".h".toList } : Request).AgreesWithCall false oneFile := by
  refine ⟨?number, ?flag, ?target, ?text⟩
  case number =>
    exact Report.not_sameOutcome_of_cls_ne .type (.own .options) (by decide) (by decide +kernel)
      (by decide +kernel)
  case flag =>
    exact Report.not_sameOutcome_of_cls_ne (.own .noFiles) (.own .options) (by decide) (by decide +kernel)
      (by decide +kernel)
  case target =>
    exact Report.not_sameOutcome_of_cls_ne (.own .options) (.own .noFiles) (by decide) (by decide +kernel)
      (by decide +kernel)
  case text =>
    exact Report.not_sameOutcome_of_cls_ne (.own .options) (.own .noFiles) (by decide) (by decide +kernel)
      (by decide +kernel)

end SourceAtlas
