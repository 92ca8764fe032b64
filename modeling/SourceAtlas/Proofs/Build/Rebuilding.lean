import SourceAtlas.Build.Checked
import SourceAtlas.Proofs.Build.Standard
import SourceAtlas.Proofs.Bytes.Utf8
import SourceAtlas.Proofs.Document.Repetition
import SourceAtlas.Proofs.Selecting

/-!
# Building again

A run that succeeds leaves a workspace in which the same run comes to the same and changes nothing:
the target is found where it is, the same files are selected, their elements are taken over, and the
document is written over itself.  The document must not be selected itself; and if the first run took
something over from an earlier document, its own document has to give it back.
-/

namespace SourceAtlas

open Text Workspace

/-- A request points to the same target once a file is written. -/
theorem TargetRules.PointsTo.written {rules : TargetRules} {ws ws' : Workspace} {request : Text}
    {target : Target} {d : Location} {n : Text} {content : Bytes}
    (hpoints : rules.PointsTo ws request target) (h : ws.Writes d n content ws') :
    rules.PointsTo ws' request target := by
  constructor
  · exact hpoints.usable
  · exact fun hsuffix => (h.isDirectory _).trans (hpoints.stands hsuffix)
  · exact (h.realPath _).trans hpoints.real
  · exact h.stat_isOk hpoints.accessible
  · exact hpoints.document

/-! ## The run -/

section Runs

variable {rules : TargetRules} {ws ws' : Workspace} {o : BuildOptions}

theorem resultOf_of_written {target : Target} {files : List Path} {content : Text}
    (htarget : (rules.resolve ws o.target).outcome = .ok target)
    (hcollect : (o.selection.collect (rules.resolve ws o.target).workspace).outcome = .ok files)
    (hdescribe : ((preparedDescriber o target (rules.resolve ws o.target).workspace files).describe
      (rules.resolve ws o.target).workspace o.description.includeSource files).outcome = .ok content)
    (hwrite : (rules.resolve ws o.target).workspace.write target.document.text
      (Utf8.encode content) = .ok ws') :
    resultOf rules ws o = (ws', .ok ⟨target, files.length, (Utf8.encode content).length⟩) := by
  simp only [resultOf, htarget, parsedIn, hcollect, hdescribe, persistedIn, hwrite]

theorem preparedDescriber_congr (h : ws'.workingDirectory = ws.workingDirectory) {target : Target}
    {files : List Path} : preparedDescriber o target ws' files = preparedDescriber o target ws files := by
  cases files with
  | nil => rw [preparedDescriber, preparedDescriber, Collection.commonDirectory,
      Collection.commonDirectory, h]
  | cons file files => rfl

/-- A run takes an element over from the document that it finds. -/
def Reuses (rules : TargetRules) (ws : Workspace) (o : BuildOptions) : Prop :=
  ∃ target files, (rules.resolve ws o.target).outcome = .ok target ∧
    (o.selection.collect (rules.resolve ws o.target).workspace).outcome = .ok files ∧
    (preparedDescriber o target (rules.resolve ws o.target).workspace files).TakesOver
      (rules.resolve ws o.target).workspace o.description.includeSource files

/-- What a run comes to, it comes to again in the workspace that it leaves. -/
theorem resultOf_again {product : Product} (hsound : ws.Sound)
    (hok : resultOf rules ws o = (ws', .ok product))
    (hselection : o.selection.PassesBy ws' product.target.document.text)
    (hlasting : Reuses rules ws o → ∃ content,
      ws'.read product.target.document.text = .ok (Utf8.encode content) ∧ Lasting content) :
    resultOf rules ws' o = (ws', .ok product) := by
  obtain ⟨files, content, htarget, hcollect, hdescribe, hwrite, -⟩ := resultOf_eq_ok hok
  have hfirst := resultOf_of_written htarget hcollect hdescribe hwrite
  rw [hfirst] at hok
  obtain ⟨d, n, hwrites, hlookup⟩ := (hsound.resolve rules o.target).writes_of_write hwrite
  have hdocument : ws'.entryAt true product.target.document.text =
      .ok (d ++ [n], .file (Utf8.encode content)) := by
    rw [entryAt, hlookup]
    rfl
  have hread := read_of_write hwrite
  have hreal := hwrites.realPath_of_reaches (hwrites.reaches hdocument)
  obtain ⟨htarget', hworkspace⟩ :=
    ((TargetRules.pointsTo_resolve htarget).written hwrites).resolve
  have hcollect' := Selection.collect_of_passesBy hwrites hreal hselection hcollect
  have hsegments := (hsound.resolve rules o.target).segments
  have hfiles := (Selection.collect_eq_ok hsegments hcollect).2
  have hdescribe' : ((preparedDescriber o product.target ws' files).describe ws'
      o.description.includeSource files).outcome = .ok content := by
    rw [preparedDescriber_congr hwrites.workingDirectory]
    refine Describer.describe_again (fun file hfile n hn => ((hfiles file hfile).2 n hn).ne_nil)
      (Describer.nodup_shownPath hsegments hcollect rfl) ?_ hdescribe ?_ ?_
    · intro htaken
      obtain ⟨content', hread', hlasts⟩ := hlasting ⟨_, files, htarget, hcollect, htaken⟩
      obtain rfl := Utf8.encode_injective (Except.ok.inj (hread.symm.trans hread'))
      exact hlasts
    · intro file hfile bytes hbytes
      apply hwrites.read_of_not_reaches _ hbytes
      intro hreaches
      rw [Selection.PassesBy, hcollect'] at hselection
      apply hselection file hfile
      rw [hreal, hwrites.realPath_of_reaches hreaches]
    · intro path hpath
      obtain rfl := Option.some.inj hpath
      exact hread
  rw [← hok]
  apply resultOf_of_written htarget'
  · rw [hworkspace]
    exact hcollect'
  · rw [hworkspace]
    exact hdescribe'
  · rw [hworkspace]
    exact hwrites.write_again hlookup

end Runs

/-- A run that succeeds in a sound workspace can be repeated: it has the same product and changes
nothing, whatever state its collaborators are in.  For this the document must not be among the files
that are selected once it is there; and if anything was taken over from an earlier document, the
document must be one that gives it back. -/
theorem building_again_changes_nothing {rules : TargetRules} {ws : Workspace} {o : BuildOptions}
    {product : Product} (hsound : ws.Sound) (colored colored' : Bool)
    (equipment equipment' : Equipment)
    (hok : (build .standard rules colored ws equipment o).2 = .ok product)
    (hselection : o.selection.PassesBy (build .standard rules colored ws equipment o).1.workspace
      product.target.document.text)
    (hlasting : Reuses rules ws o → ∃ content,
      (build .standard rules colored ws equipment o).1.workspace.read
        product.target.document.text = .ok (Utf8.encode content) ∧ Lasting content) :
    let left := (build .standard rules colored ws equipment o).1.workspace
    (build .standard rules colored' left equipment' o).2 = .ok product ∧
      (build .standard rules colored' left equipment' o).1.workspace = left := by
  intro left
  have hfirst : resultOf rules ws o = (left, .ok product) := by
    rw [← build_standard rules colored ws equipment o, hok]
  have hagain := resultOf_again hsound hfirst hselection hlasting
  rw [← build_standard rules colored' left equipment' o] at hagain
  obtain ⟨hworkspace, houtcome⟩ := Prod.mk.inj hagain
  exact ⟨houtcome, hworkspace⟩

theorem sound_oneFileAnd {entries : List (Location × Entry)}
    (h : ∀ entry ∈ (oneFileAnd entries).files.entries, (oneFileAnd entries).files.Stands entry) :
    (oneFileAnd entries).Sound :=
  ⟨FileSystem.sound_of_stands h, rfl⟩

theorem sound_oneFile : oneFile.Sound := @sound_oneFileAnd [] (by decide)

theorem load_oneFile (fingerprint : Text) :
    Describer.overDocument.load oneFile fingerprint = .ok {} := by
  apply Describer.StartsAnew.load
  right
  intro earlier hearlier
  obtain rfl := Option.some.inj hearlier
  rfl

/-- A build of the one file takes nothing over. -/
theorem not_reuses_oneFile : ¬ Reuses {} oneFile selectOneFile := by
  rintro ⟨target, files, htarget, hcollect, loading, hload, file, -, bytes, -, hfound⟩
  rw [resolve_oneFile.2] at htarget
  obtain rfl := Except.ok.inj htarget
  rw [resolve_oneFile.1] at hcollect hload
  obtain rfl := Except.ok.inj (collect_oneFile.symm.trans hcollect)
  obtain rfl := Except.ok.inj ((load_oneFile _).symm.trans hload)
  exact hfound rfl

theorem one_file_stays_built :
    ∃ product, (build .standard {} false oneFile (.new oneFile) selectOneFile).2 = .ok product ∧
      let left := (build .standard {} false oneFile (.new oneFile) selectOneFile).1.workspace
      (build .standard {} true left (.new left) selectOneFile).2 = .ok product ∧
        (build .standard {} true left (.new left) selectOneFile).1.workspace = left := by
  have hstandard := build_standard {} false oneFile (.new oneFile) selectOneFile
  obtain ⟨product, hproduct⟩ := exists_eq_ok_of_isOk isOk_resultOf_oneFile
  have hok : (build .standard {} false oneFile (.new oneFile) selectOneFile).2 = .ok product :=
    (congrArg Prod.snd hstandard).trans hproduct
  obtain ⟨files, content, htarget, -, -, hwrite, -⟩ := resultOf_eq_ok (Prod.ext rfl hproduct)
  rw [resolve_oneFile.2] at htarget
  rw [resolve_oneFile.1, ← Except.ok.inj htarget] at hwrite
  have hleft : (build .standard {} false oneFile (.new oneFile) selectOneFile).1.workspace =
      oneFileAnd [(["w".toList, "structure.xml".toList], .file (Utf8.encode content))] :=
    (congrArg Prod.fst hstandard).trans (Except.ok.inj hwrite).symm
  refine ⟨product, hok, building_again_changes_nothing sound_oneFile false true _ _ hok ?_ ?_⟩
  · rw [Selection.PassesBy, hleft, collect_oneFileAnd, ← Except.ok.inj htarget]
    intro file hfile
    obtain rfl := List.mem_singleton.mp hfile
    have hfile : (oneFileAnd [(["w".toList, "structure.xml".toList],
        .file (Utf8.encode content))]).realPath (Path.ofText "/w/a.php".toList).text =
          .ok (.ofText "/w/a.php".toList) := rfl
    have hdocument : (oneFileAnd [(["w".toList, "structure.xml".toList],
        .file (Utf8.encode content))]).realPath (Path.ofText "/w/structure.xml".toList).text =
          .ok (.ofText "/w/structure.xml".toList) := rfl
    rw [hfile, hdocument]
    decide
  · intro hreuses
    exact absurd hreuses not_reuses_oneFile

/-! ## Where building again changes something -/

namespace Report

theorem ofParams_eq {params : Params} {c : Config} (h : Config.ofParams params = .ok c)
    (colored : Bool) (ws : Workspace) :
    ((ofParams colored ws params).workspace, (ofParams colored ws params).outcome) =
      resultOf {} ws c.toOptions := by
  rw [← build_standard {} colored ws (.new ws), ofParams, h]
  rfl

/-- A build by parameters that succeeds in a sound workspace, and that fails or changes a file when it
is repeated. -/
structure Unsettled (ws : Workspace) (params : Params) : Prop where
  sound : ws.Sound
  succeeds : ∃ product, (ofParams false ws params).outcome = .ok product
  changes : ∀ product,
    (ofParams false (ofParams false ws params).workspace params).outcome = .ok product →
      ∃ path, (ofParams false (ofParams false ws params).workspace params).workspace.read path ≠
        (ofParams false ws params).workspace.read path

theorem Unsettled.of_resultOf {ws ws' : Workspace} {params : Params} {c : Config} {product : Product}
    (hsound : ws.Sound) (hparams : (Config.ofParams params).toOption = some c)
    (hfirst : resultOf {} ws c.toOptions = (ws', .ok product))
    (hsecond : ∀ ws'' product', resultOf {} ws' c.toOptions = (ws'', .ok product') →
      ∃ path, ws''.read path ≠ ws'.read path) : Unsettled ws params := by
  rw [toOption_eq_some] at hparams
  rw [← ofParams_eq hparams false] at hfirst
  obtain ⟨hworkspace, houtcome⟩ := Prod.mk.inj hfirst
  refine ⟨hsound, ⟨product, houtcome⟩, ?_⟩
  rw [hworkspace]
  intro product' hok
  apply hsecond _ product'
  rw [← ofParams_eq hparams false, hok]

end Report

section Unsettled

open Describer Xml

/-- The parameters of a build of the files of patterns. -/
def paramsFor (patterns : List Text) : Params :=
  [("target".toList, .text "/w".toList), ("filename".toList, .list (patterns.map .text))]

/-- The configuration that they are. -/
def configFor (patterns : List Text) : Config := { target := "/w".toList, filename := patterns }

/-- The path of the document. -/
def documentPath : Text := (Path.ofText "/w/structure.xml".toList).text

/-- Further entries beside the one file, and a document. -/
def withDocument (more : List (Location × Entry)) (document : Text) : List (Location × Entry) :=
  more ++ [(["w".toList, "structure.xml".toList], .file (Utf8.encode document))]

/-- The document with an element. -/
def documentOf (e : Element) : Text := e.write ++ ['\n']

/-- The element of the document of files for an earlier one. -/
def projectOf (entries : List (Location × Entry)) (files : List Path) (p : Previous) : Element :=
  overDocument.projectFor false (oneFileAnd entries).contentOf files p

/-- A build of the files of patterns finds files, which can be read, and can write their document. -/
structure Finds (entries more : List (Location × Entry)) (patterns : List Text)
    (files : List Path) : Prop where
  picked : (configFor patterns).toOptions.selection.filesOfPatterns (oneFileAnd entries) patterns =
    .ok files
  ordered : files.eraseDups = files ∧ files.Pairwise fun p q => Path.le p q = true
  ne_nil : files ≠ []
  root : Collection.commonDirectory (oneFileAnd entries) files = overDocument.root
  read : ∀ file ∈ files,
    (oneFileAnd entries).read file.text = .ok ((oneFileAnd entries).contentOf file)
  write : ∀ document, (oneFileAnd entries).write documentPath (Utf8.encode document) =
    .ok (oneFileAnd (withDocument more document))

namespace Finds

variable {entries more : List (Location × Entry)} {patterns : List Text} {files : List Path}
  (h : Finds entries more patterns files)
include h

theorem read_document (document : Text) :
    (oneFileAnd (withDocument more document)).read documentPath = .ok (Utf8.encode document) :=
  Workspace.read_of_write (h.write document)

theorem collect : ((configFor patterns).toOptions.selection.collect (oneFileAnd entries)).outcome =
    .ok files := by
  have hpicked : (configFor patterns).toOptions.selection.filesOfPatterns (oneFileAnd entries)
      (configFor patterns).toOptions.selection.files = .ok files := h.picked
  have hdirectories : (configFor patterns).toOptions.selection.directories = [] := rfl
  simp only [Selection.collect, hpicked, hdirectories, Selection.filesOfDirectories,
    List.append_nil, h.ordered.1, List.mergeSort_of_pairwise h.ordered.2]

theorem exists_resultOf {loading : Loading} (hload : overDocument.load (oneFileAnd entries)
      (overDocument.description.fingerprint false) = .ok loading) :
    ∃ product, resultOf {} (oneFileAnd entries) (configFor patterns).toOptions =
      (oneFileAnd (withDocument more (documentOf (projectOf entries files loading.previous))),
        .ok product) := by
  have hworkspace : (TargetRules.resolve {} (oneFileAnd entries)
      (configFor patterns).toOptions.target).workspace = oneFileAnd entries :=
    (resolve_oneFileAnd entries).1
  have hdescriber : preparedDescriber (configFor patterns).toOptions
      ⟨.ofText "/w/structure.xml".toList, .ofText "/w".toList⟩ (oneFileAnd entries) files =
        overDocument := by
    rw [preparedDescriber, h.root]
    rfl
  refine ⟨_, @resultOf_of_written {} (oneFileAnd entries) _ (configFor patterns).toOptions _ files
    (documentOf (projectOf entries files loading.previous)) (resolve_oneFileAnd entries).2 ?_ ?_ ?_⟩
  · rw [hworkspace]
    exact h.collect
  · rw [hworkspace, hdescriber]
    exact describe_projectFor h.ne_nil h.read hload
  · rw [hworkspace]
    exact h.write _

end Finds

/-- Describing files over the document with an element changes it, be it read or not. -/
def ChangesAgain (first : Element) (again : Previous → Element) : Prop :=
  (again {}).write ≠ first.write ∧
    ((∀ x ∈ first.elements, Legal x.text) → (again (.ofDocument first.seen)).write ≠ first.write)

instance (first : Element) (again : Previous → Element) : Decidable (ChangesAgain first again) :=
  inferInstanceAs (Decidable (_ ∧ (_ → _)))

theorem ChangesAgain.exists_load {bytesOf : Path → Bytes} {files : List Path} {p : Previous}
    {again : Previous → Element} {ws : Workspace}
    (h : ChangesAgain (overDocument.projectFor false bytesOf files p) again)
    (hlawful : ∀ entry ∈ p.entries, ∀ x ∈ entry.2.elements, x.Lawful)
    (hread : ws.read documentPath =
      .ok (Utf8.encode (documentOf (overDocument.projectFor false bytesOf files p)))) :
    ∃ loading, overDocument.load ws (overDocument.description.fingerprint false) = .ok loading ∧
      (again loading.previous).write ≠ (overDocument.projectFor false bytesOf files p).write := by
  obtain ⟨hunread, hreread⟩ := h
  obtain ⟨hwritable, hroot⟩ | ⟨-, message, hmalformed⟩ :=
    @read_projectFor overDocument false files bytesOf p hlawful
  · have hsettings : (overDocument.projectFor false bytesOf files p).seen.attribute?
        "settings".toList = some (overDocument.description.fingerprint false) := by
      rw [Element.attribute?, (hwritable _ (Element.self_mem_elements _)).seen_attributes]
      exact attribute?_projectFor
    obtain ⟨loading, hload, hprevious⟩ :=
      @exists_loading_of_read overDocument ws _ _ _ _ rfl rfl hread hroot hsettings
    refine ⟨loading, hload, ?_⟩
    rw [hprevious]
    exact hreread fun x hx => (hwritable x hx).text
  · exact ⟨_, load_of_malformed rfl hread rfl _ hmalformed, hunread⟩

/-- A build that comes to another document when it is repeated. -/
theorem unsettled_of_changesAgain {entries more : List (Location × Entry)} {patterns : List Text}
    {files files' : List Path} {loading : Loading} (hsound : (oneFileAnd entries).Sound)
    (hparams : (Config.ofParams (paramsFor patterns)).toOption = some (configFor patterns))
    (hload : overDocument.load (oneFileAnd entries)
      (overDocument.description.fingerprint false) = .ok loading)
    (hfirst : Finds entries more patterns files)
    (hsecond : Finds (withDocument more (documentOf (projectOf entries files loading.previous))) more
      patterns files')
    (hchanges : ChangesAgain (projectOf entries files loading.previous) (projectOf
      (withDocument more (documentOf (projectOf entries files loading.previous))) files')) :
    Report.Unsettled (oneFileAnd entries) (paramsFor patterns) := by
  obtain ⟨product, hresult⟩ := hfirst.exists_resultOf hload
  apply Report.Unsettled.of_resultOf hsound hparams hresult
  intro ws'' product' hagain
  have hread := hfirst.read_document (documentOf (projectOf entries files loading.previous))
  obtain ⟨loading', hload', hne⟩ := hchanges.exists_load (lawful_of_load hload) hread
  obtain ⟨_, hresult'⟩ := hsecond.exists_resultOf hload'
  rw [hresult'] at hagain
  obtain ⟨rfl, -⟩ := Prod.mk.inj hagain
  refine ⟨documentPath, ?_⟩
  rw [hsecond.read_document, hread]
  intro hsame
  exact hne (List.append_cancel_right (Utf8.encode_injective (Except.ok.inj hsame)))

/-! ### The document among the files -/

/-- The pattern of all that is in the directory. -/
def everything : Text := "/w/*".toList

/-- The document is described as well once it is there. -/
theorem unsettled_everything : Report.Unsettled oneFile (paramsFor [everything]) := by
  apply @unsettled_of_changesAgain [] [] [everything] [.ofText "/w/a.php".toList]
    [.ofText "/w/a.php".toList, .ofText "/w/structure.xml".toList] {}
  · exact sound_oneFile
  · rfl
  · exact load_oneFile _
  · constructor
    · decide +kernel
    · decide +kernel
    · exact List.cons_ne_nil _ _
    · rfl
    · rw [List.forall_mem_singleton]
      rfl
    · intro document
      rfl
  · constructor
    · decide +kernel
    · decide +kernel
    · exact List.cons_ne_nil _ _
    · rfl
    · rw [List.forall_mem_cons, List.forall_mem_singleton]
      exact ⟨rfl, rfl⟩
    · intro document
      rfl
  · decide +kernel

/-! ### Paths that are too long -/

/-- A name of 236 bytes. -/
def wideName : Text := List.replicate 59 '𝄞'

/-- A directory with this name. -/
def wideDirectory : List (Location × Entry) := [([wideName], .directory)]

/-- A pattern that goes in and out of the directory: with the name of the one file it makes a path,
with that of the document it is too long for one. -/
def windingPattern : Text :=
  '/' :: (List.replicate 17 (wideName ++ "/../".toList)).flatten ++ "w/*".toList

/-- Once the document is there, the paths of the pattern cannot be asked for. -/
theorem unsettled_windingPattern :
    Report.Unsettled (oneFileAnd wideDirectory) (paramsFor [windingPattern]) := by
  have hfinds : Finds wideDirectory wideDirectory [windingPattern] [.ofText "/w/a.php".toList] := by
    constructor
    · decide +kernel
    · decide +kernel
    · exact List.cons_ne_nil _ _
    · rfl
    · rw [List.forall_mem_singleton]
      rfl
    · intro document
      rfl
  have hload : overDocument.load (oneFileAnd wideDirectory)
      (overDocument.description.fingerprint false) = .ok {} := by
    apply StartsAnew.load
    right
    intro earlier hearlier
    obtain rfl := Option.some.inj hearlier
    rfl
  obtain ⟨product, hresult⟩ := hfinds.exists_resultOf hload
  apply Report.Unsettled.of_resultOf _ _ hresult
  · intro ws'' product' hagain
    obtain ⟨files, _, -, hcollect, -⟩ := resultOf_eq_ok hagain
    have hlong : ((configFor [windingPattern]).toOptions.selection.collect
        (oneFileAnd (withDocument wideDirectory
          (documentOf (projectOf wideDirectory [.ofText "/w/a.php".toList] {}))))).outcome.isOk =
            false := by
      decide +kernel
    have hworkspace : (TargetRules.resolve {} (oneFileAnd (withDocument wideDirectory
        (documentOf (projectOf wideDirectory [.ofText "/w/a.php".toList] {}))))
          (configFor [windingPattern]).toOptions.target).workspace = _ := (resolve_oneFileAnd _).1
    rw [hworkspace] at hcollect
    rw [hcollect] at hlong
    cases hlong
  · exact sound_oneFileAnd (by decide +kernel)
  · decide +kernel

/-! ### Documents from elsewhere -/

/-- A second file. -/
def secondFile (content : Text) : List (Location × Entry) :=
  [(["w".toList, "b.php".toList], .file (Utf8.encode content))]

/-- The one file, the second one, and a document. -/
def twoFiles (content document : Text) : Workspace :=
  oneFileAnd (withDocument (secondFile content) document)

/-- The two files, each as a pattern of its own. -/
def twoPatterns : List Text := ["/w/a.php".toList, "/w/b.php".toList]

theorem ofParams_twoPatterns :
    (Config.ofParams (paramsFor twoPatterns)).toOption = some (configFor twoPatterns) := by
  decide +kernel

theorem sound_twoFiles (content document : Text) : (twoFiles content document).Sound :=
  sound_oneFileAnd (of_decide_eq_true rfl)

theorem finds_twoFiles (content document : Text) :
    Finds (withDocument (secondFile content) document) (secondFile content) twoPatterns
      (twoPatterns.map .ofText) := by
  constructor
  · rfl
  · decide +kernel
  · exact List.cons_ne_nil _ _
  · rfl
  · rw [List.forall_mem_map, twoPatterns, List.forall_mem_cons, List.forall_mem_singleton]
    exact ⟨rfl, rfl⟩
  · intro document
    rfl

/-- A build of the two files over a document that changes what it took over when it is repeated. -/
theorem unsettled_twoFiles {content document : Text}
    (hchanges : (Xml.read (Utf8.encode document)).toOption.map (fun root =>
      let first := projectOf (withDocument (secondFile content) document)
        (twoPatterns.map .ofText) (.ofDocument root)
      decide (root.attribute? "settings".toList =
          some (overDocument.description.fingerprint false) ∧
        ChangesAgain first (projectOf (withDocument (secondFile content) (documentOf first))
          (twoPatterns.map .ofText)))) = some true) :
    Report.Unsettled (twoFiles content document) (paramsFor twoPatterns) := by
  obtain ⟨root, hroot, hdecided⟩ := Option.map_eq_some_iff.mp hchanges
  rw [toOption_eq_some] at hroot
  obtain ⟨hsettings, hchanges⟩ := of_decide_eq_true hdecided
  have hfinds := finds_twoFiles content
  obtain ⟨loading, hload, hprevious⟩ := @exists_loading_of_read overDocument _ _ _ _ _ rfl rfl
    ((hfinds document).read_document document) hroot hsettings
  rw [← hprevious] at hchanges
  exact unsettled_of_changesAgain (sound_twoFiles content document) ofParams_twoPatterns hload
    (hfinds _) (hfinds _) hchanges

/-- A document with the element of the first file also in that of the second one. -/
def nestedDocument : Text :=
  ("<project settings=\"213c713d4d172469a5fa90cfe1a20e64\">" ++
    "<file path=\"b.php\" hash=\"27c4d7ec0fc0e6d8ba01866c796fdb66\"><file path=\"a.php\"/></file>" ++
    "<file path=\"a.php\" hash=\"51184f56cf2d8c5beae9cb0fd3b61b20\"/></project>").toList

/-- A document with a carriage return in the element of the first file. -/
def returnDocument : Text :=
  ("<project settings=\"213c713d4d172469a5fa90cfe1a20e64\">" ++
    "<file path=\"a.php\" hash=\"51184f56cf2d8c5beae9cb0fd3b61b20\">&#13;</file></project>").toList

/-- A document with a bare element of the first file. -/
def bareDocument : Text :=
  ("<project settings=\"213c713d4d172469a5fa90cfe1a20e64\">" ++
    "<file path=\"a.php\" hash=\"51184f56cf2d8c5beae9cb0fd3b61b20\"/></project>").toList

/-- Once the element of the second file stands behind that of the first one, the one inside counts. -/
theorem unsettled_nestedDocument :
    Report.Unsettled (twoFiles "<?php\n// b\n".toList nestedDocument) (paramsFor twoPatterns) := by
  apply unsettled_twoFiles
  decide +kernel

/-- The carriage return is written as it is, and read as a line feed. -/
theorem unsettled_returnDocument :
    Report.Unsettled (twoFiles "<?php\n// b\n".toList returnDocument) (paramsFor twoPatterns) := by
  apply unsettled_twoFiles
  decide +kernel

/-- A control character in the second file makes a document that cannot be read, and the bare element
is lost. -/
theorem unsettled_bareDocument : Report.Unsettled
    (twoFiles ("# TODO ".toList ++ [Char.ofNat 1]) bareDocument) (paramsFor twoPatterns) := by
  apply unsettled_twoFiles
  decide +kernel

/-- Building again fails or changes the document where it is selected itself, where a path that is
selected gets too long, and where something was taken over and the document has the element of one file
in that of another, holds a carriage return, or cannot be read. -/
theorem building_again_changes_something :
    Report.Unsettled oneFile (paramsFor [everything]) ∧
      Report.Unsettled (oneFileAnd wideDirectory) (paramsFor [windingPattern]) ∧
      Report.Unsettled (twoFiles "<?php\n// b\n".toList nestedDocument) (paramsFor twoPatterns) ∧
      Report.Unsettled (twoFiles "<?php\n// b\n".toList returnDocument) (paramsFor twoPatterns) ∧
      Report.Unsettled (twoFiles ("# TODO ".toList ++ [Char.ofNat 1]) bareDocument)
        (paramsFor twoPatterns) :=
  ⟨unsettled_everything, unsettled_windingPattern, unsettled_nestedDocument,
    unsettled_returnDocument, unsettled_bareDocument⟩

end Unsettled

end SourceAtlas
