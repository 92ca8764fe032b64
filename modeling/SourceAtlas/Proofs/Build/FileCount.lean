import SourceAtlas.Proofs.Build.Standard
import SourceAtlas.Proofs.Document.Describing

/-!
# One element for every file

However the elements of a document come about, made anew or taken over from an earlier document of
any content, there is one for each file, in the order of the files, with the path and the digest of
the file as it is now.  The product of a run counts them.
-/

namespace SourceAtlas

open Text Xml Describer

/-- Every document that is described has one element for each file, in order and up to date, and
every file is signalled once; a run counts the files of the document that it writes. -/
theorem one_element_for_every_file :
    (∀ (d : Describer) (ws : Workspace) (includeSource : Bool) (texts : List Text) (content : Text),
      (d.describe ws includeSource (texts.map Path.ofText)).outcome = .ok content →
        ∃ e, d.project ws includeSource (texts.map Path.ofText) = .ok e ∧
          content = e.write ++ ['\n'] ∧
          List.Forall₂ (fun file child => ∃ bytes, ws.read file.text = .ok bytes ∧
            StandsFor child (d.shownPath file) (Md5.hexDigest bytes))
            (texts.map Path.ofText) e.children ∧
          (d.describe ws includeSource (texts.map Path.ofText)).signals.count .processed =
            texts.length) ∧
      ∀ (rules : TargetRules) (colored : Bool) (ws : Workspace) (equipment : Equipment)
        (o : BuildOptions) (r : Run Equipment) (product : Product),
        build .standard rules colored ws equipment o = (r, .ok product) →
          ∃ (files : List Path) (e : Element),
            (o.selection.collect (rules.resolve ws o.target).workspace).outcome = .ok files ∧
            (preparedDescriber o product.target (rules.resolve ws o.target).workspace files).project
              (rules.resolve ws o.target).workspace o.description.includeSource files = .ok e ∧
            (rules.resolve ws o.target).workspace.write product.target.document.text
              (Utf8.encode (e.write ++ ['\n'])) = .ok r.workspace ∧
            ((preparedDescriber o product.target (rules.resolve ws o.target).workspace files).describe
              (rules.resolve ws o.target).workspace o.description.includeSource
                files).signals.count .processed = product.files ∧
            e.children.length = product.files ∧ files.length = product.files := by
  constructor
  · intro d ws includeSource texts content h
    obtain ⟨e, he, hcontent⟩ := describe_eq_ok h
    have hfiles : ∀ file ∈ texts.map Path.ofText, ∀ n ∈ file.names, n ≠ [] := by
      intro file hfile n hn
      obtain ⟨t, -, rfl⟩ := List.mem_map.mp hfile
      exact Path.ne_nil_of_mem_ofText hn
    refine ⟨e, he, hcontent, standsFor_project hfiles he, ?_⟩
    rw [count_processed_describe h, List.length_map]
  · intro rules colored ws equipment o r product h
    have hresult := build_standard rules colored ws equipment o
    rw [h] at hresult
    obtain ⟨files, content, -, hcollect, hdescribe, hwrite, hcount⟩ := resultOf_eq_ok hresult.symm
    obtain ⟨e, he, rfl⟩ := describe_eq_ok hdescribe
    refine ⟨files, e, hcollect, he, hwrite, ?_, ?_, hcount.symm⟩
    · rw [count_processed_describe hdescribe, hcount]
    · rw [length_children_project he, hcount]

theorem one_element_for_one_file :
    (∃ (content : Text) (e : Element), (Describer.describe { root := ⟨.root, ["w".toList]⟩ } oneFile
        false (["/w/a.php".toList].map Path.ofText)).outcome = .ok content ∧
      content = e.write ++ ['\n'] ∧ e.children.length = 1) ∧
      ∃ r product, build .standard {} false oneFile (.new oneFile) selectOneFile = (r, .ok product) ∧
        product.files = 1 := by
  constructor
  · have hok : (Describer.describe { root := ⟨.root, ["w".toList]⟩ } oneFile false
        (["/w/a.php".toList].map Path.ofText)).outcome.isOk = true := by decide
    obtain ⟨content, hdescribe⟩ := exists_eq_ok_of_isOk hok
    obtain ⟨e, -, hcontent, hchildren, -⟩ :=
      one_element_for_every_file.1 _ oneFile false ["/w/a.php".toList] content hdescribe
    exact ⟨content, e, hdescribe, hcontent, hchildren.length_eq.symm⟩
  · have hresult := build_standard {} false oneFile (.new oneFile) selectOneFile
    obtain ⟨product, hproduct⟩ := exists_eq_ok_of_isOk isOk_resultOf_oneFile
    rw [← hresult] at hproduct
    refine ⟨_, product, Prod.ext rfl hproduct, ?_⟩
    obtain ⟨files, -, hfiles, -, -, -, -, hcount⟩ := one_element_for_every_file.2 {} false oneFile
      (.new oneFile) selectOneFile _ product (Prod.ext rfl hproduct)
    rw [resolve_oneFile.1, collect_oneFile] at hfiles
    rw [← hcount, ← Except.ok.inj hfiles]
    rfl

end SourceAtlas
