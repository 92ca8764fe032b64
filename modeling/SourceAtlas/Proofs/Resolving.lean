import SourceAtlas.Proofs.FileSystem.Settling

/-!
# Resolving a target again

The directory of a target is a real one unless the request is the path of a document whose directory
part leads to no directory.  Resolving a request again comes to the same target and changes nothing.
So does resolving the path of the document, unless the search for its directory broke off at a circle
of links.
-/

namespace SourceAtlas

open Text Workspace

/-! ## The paths of documents -/

/-- A name at the end of a text is part of what follows the last slash. -/
theorem splitPath_snd_append {n : Text} (hn : '/' ∉ n) (t : Text) :
    (splitPath (t ++ n)).2 = (splitPath t).2 ++ n := by
  have hname : ∀ c ∈ n.reverse, decide (c ≠ '/') = true := by
    intro c hc
    have hne : c ≠ '/' := fun heq => hn (heq ▸ List.mem_reverse.mp hc)
    simpa using hne
  rw [splitPath, splitPath]
  dsimp only
  rw [List.reverse_append, List.takeWhile_append_of_pos hname, List.reverse_append,
    List.reverse_reverse]

/-- The part after the last slash, and what precedes it. -/
theorem splitPath_concat {n : Text} (hn : '/' ∉ n) (d : Text) :
    splitPath (d ++ '/' :: n) =
      (if (d.reverse.dropWhile (· = '/')).reverse = [] then d ++ ['/']
        else (d.reverse.dropWhile (· = '/')).reverse, n) := by
  have htail : ((d ++ '/' :: n).reverse.takeWhile (· ≠ '/')).reverse = n := by
    calc ((d ++ '/' :: n).reverse.takeWhile (· ≠ '/')).reverse
        = (splitPath ((d ++ ['/']) ++ n)).2 := by rw [← List.append_cons]; rfl
      _ = (splitPath (d ++ ['/'])).2 ++ n := splitPath_snd_append hn _
      _ = n := by simp [splitPath]
  have hlength : (d ++ '/' :: n).length - n.length = (d ++ ['/']).length := by
    simp only [List.length_append, List.length_cons, List.length_nil]
    omega
  have hhead : (d ++ '/' :: n).take ((d ++ '/' :: n).length - n.length) = d ++ ['/'] := by
    rw [hlength, List.append_cons d '/' n, List.take_left]
  have hshown : (d ++ ['/']).reverse.dropWhile (· = '/') = d.reverse.dropWhile (· = '/') := by
    rw [List.reverse_append, List.reverse_singleton, List.singleton_append,
      List.dropWhile_cons_of_pos (by simp)]
  rw [splitPath]
  simp only [htail, hhead, hshown]

/-- A suffix without slashes is one of the part after the last slash. -/
theorem endsWith_splitPath {t suffix : Text} (hslash : '/' ∉ suffix)
    (h : endsWith t suffix = true) : endsWith (splitPath t).2 suffix = true := by
  obtain ⟨lead, rfl⟩ := List.isSuffixOf_iff_suffix.mp h
  rw [splitPath_snd_append hslash]
  exact List.isSuffixOf_iff_suffix.mpr (List.suffix_append _ _)

/-- The text of a path below another one that has an anchor of its own. -/
theorem Path.text_child_eq {p : Path} (h : p.anchor ≠ .relative) (n : Text) :
    (p.child n).text = (if p.names = [] then p.anchor.text.dropLast else p.text) ++ '/' :: n := by
  obtain ⟨anchor, names⟩ := p
  rw [text_child]
  dsimp only
  by_cases hnames : names = []
  · subst hnames
    rw [if_pos rfl]
    cases anchor with
    | relative => exact absurd rfl h
    | root => rfl
    | doubled => rfl
  · rw [if_neg hnames, join_concat hnames]
    cases anchor with
    | relative => exact absurd rfl h
    | root => simp [text]
    | doubled => simp [text]

/-- The text of a path below another one splits into the text of that and the name. -/
theorem splitPath_child {p : Path} (h : p.anchor ≠ .relative) (hp : ∀ m ∈ p.names, IsProperName m)
    {n : Text} (hn : '/' ∉ n) : splitPath (p.child n).text = (p.text, n) := by
  obtain ⟨anchor, names⟩ := p
  rw [Path.text_child_eq h, splitPath_concat hn]
  dsimp only at hp ⊢
  obtain rfl | ⟨k, m, rfl⟩ := List.eq_nil_or_concat' names
  · cases anchor with
    | relative => exact absurd rfl h
    | root => rfl
    | doubled => rfl
  · obtain ⟨t, c, hc, ht⟩ := (Path.mk anchor k).exists_last (hp m (by simp))
    have htext : Path.text ⟨anchor, k ++ [m]⟩ = t ++ [c] := ht
    have hlast : ((t ++ [c]).reverse.dropWhile (· = '/')).reverse = t ++ [c] := by
      rw [List.reverse_append, List.reverse_singleton, List.singleton_append,
        List.dropWhile_cons_of_neg (by simpa using hc)]
      simp
    have hbelow : k ++ [m] ≠ [] := by simp
    rw [if_neg hbelow, htext, hlast, if_neg (by simp)]

namespace TargetRules

variable {ws : Workspace} {request : Text} {target : Target}

/-- The name of a document holds no slash and has the suffix. -/
theorem documentName_spec (request : Text) :
    '/' ∉ ({} : TargetRules).documentName request ∧
      endsWith (({} : TargetRules).documentName request) ".xml".toList = true := by
  rw [documentName]
  split
  · next hsuffix => exact ⟨slash_of_splitPath _, endsWith_splitPath (by decide) hsuffix⟩
  · exact ⟨by decide, by decide⟩

theorem isProperName_documentName (request : Text) :
    IsProperName (({} : TargetRules).documentName request) := by
  obtain ⟨hslash, hsuffix⟩ := documentName_spec request
  constructor
  · intro hname
    rw [hname] at hsuffix
    cases hsuffix
  · intro hname
    rw [hname] at hsuffix
    cases hsuffix
  · exact hslash

/-- The document of a target stands in its directory. -/
theorem PointsTo.document_eq (h : ({} : TargetRules).PointsTo ws request target) :
    target.document = target.directory.child (({} : TargetRules).documentName request) := by
  have hname := isProperName_documentName request
  have hanchor : Anchor.ofText (({} : TargetRules).documentName request) = .relative := by
    apply Path.anchor_ofText_iff.mpr
    intro hhead
    obtain ⟨cs, hcs⟩ := List.head?_eq_some_iff.mp hhead
    apply hname.slash
    rw [hcs]
    exact List.mem_cons_self
  rw [h.document, Path.append, Path.ofText, hanchor]
  dsimp only
  rw [Path.namesOf_name hname]
  rfl

/-! ## The directory of a target -/

/-- The directory of a target is real if a directory stands there. -/
theorem PointsTo.isRealDirectory_iff {rules : TargetRules} (h : rules.PointsTo ws request target)
    (hsound : ws.Sound) : ws.IsRealDirectory target.directory ↔
      ∃ l, target.directory = Location.path l ∧ ws.files.get? l = some .directory :=
  hsound.isRealDirectory_iff h.accessible

/-- A directory that a request leads to is the real directory of its target. -/
theorem PointsTo.isRealDirectory {rules : TargetRules} (h : rules.PointsTo ws request target)
    (hsound : ws.Sound) (hdirectory : ws.isDirectory (rules.directoryText request) = true) :
    ws.IsRealDirectory target.directory := by
  obtain ⟨l, hreach, hl⟩ := hsound.reaches_of_stat (isDirectory_iff.mp hdirectory)
  have hplace := Except.ok.inj (h.real.symm.trans (hsound.realPath_of_reaches hreach))
  exact (h.isRealDirectory_iff hsound).mpr ⟨l, hplace, hl⟩

/-- Unless the search for it breaks off, the directory of a target is its own real path. -/
theorem PointsTo.breaksOff_or_settled {rules : TargetRules}
    (h : rules.PointsTo ws request target) (hsound : ws.Sound) :
    ws.BreaksOff (rules.directoryText request) ∨
      ∃ l e, target.directory = Location.path l ∧ ws.files.get? l = some e ∧
        ∀ link, e ≠ .link link := by
  refine (hsound.settled_realPath h.real).imp_right fun ⟨l, hplace, hsettled⟩ => ?_
  obtain ⟨e, hstat⟩ := exists_eq_ok_of_isOk h.accessible
  rw [hplace] at hstat
  obtain ⟨⟨m, e'⟩, hentry, -⟩ := map_eq_ok.mp hstat
  obtain rfl := hsound.entryAt_of_settled hsettled hentry
  exact ⟨m, e', hplace, hsound.get?_of_entryAt hentry, ne_link_of_entryAt hentry⟩

/-! ## The path of the document as a request -/

/-- The path of a document ends with the suffix. -/
theorem PointsTo.exists_lead (h : ({} : TargetRules).PointsTo ws request target) :
    ∃ lead, target.document.text = lead ++ ".xml".toList := by
  obtain ⟨name, hname⟩ :=
    List.isSuffixOf_iff_suffix.mp (documentName_spec request).2
  rw [h.document_eq, Path.text_child_eq (ws.anchor_ne_of_realPath h.real), ← hname, ← List.cons_append,
    ← List.append_assoc]
  exact ⟨_, rfl⟩

/-- The path of a document is a request for that document in the directory of the target. -/
theorem PointsTo.reads_document (h : ({} : TargetRules).PointsTo ws request target)
    (hdirectory : ∀ m ∈ target.directory.names, IsProperName m) :
    endsWith (trim target.document.text) ".xml".toList = true ∧
      directoryText {} target.document.text = target.directory.text ∧
      documentName {} target.document.text = ({} : TargetRules).documentName request := by
  have hanchor := ws.anchor_ne_of_realPath h.real
  obtain ⟨lead, hlead⟩ := h.exists_lead
  have hfirst : target.document.text.head? = some '/' := by
    rw [h.document_eq, Path.text_child]
    cases hdoubled : target.directory.anchor with
    | relative => exact absurd hdoubled hanchor
    | root => rfl
    | doubled => rfl
  have htrim : trim target.document.text = target.document.text := by
    apply trim_eq_self
    · intro c hc
      obtain rfl := Option.some.inj (hfirst.symm.trans hc)
      decide
    · intro c hc
      rw [hlead] at hc
      obtain rfl : 'l' = c := by simpa using hc
      decide
  have hsuffix : endsWith (trim target.document.text) ".xml".toList = true := by
    rw [htrim, hlead]
    exact List.isSuffixOf_iff_suffix.mpr (List.suffix_append _ _)
  have hsplit : splitPath (trim target.document.text) =
      (target.directory.text, ({} : TargetRules).documentName request) := by
    rw [htrim, h.document_eq]
    exact splitPath_child hanchor hdirectory (documentName_spec request).1
  refine ⟨hsuffix, ?_, ?_⟩
  · have hne := Path.text_ne_nil fun n hn => (hdirectory n hn).ne_nil
    rw [directoryText, if_pos hsuffix, holderOf, hsplit, if_neg hne]
  · rw [documentName, if_pos hsuffix, hsplit]

/-- The path of a document points to the target it is of if the directory is its own real path. -/
theorem PointsTo.document_iff (h : ({} : TargetRules).PointsTo ws request target)
    (hdirectory : ∀ m ∈ target.directory.names, IsProperName m) :
    PointsTo {} ws target.document.text target ↔
      ws.realPath target.directory.text = .ok target.directory := by
  obtain ⟨hsuffix, htext, hname⟩ := h.reads_document hdirectory
  constructor
  · intro hpoints
    rw [← htext]
    exact hpoints.real
  · intro hreal
    constructor
    · rintro (hempty | hroot)
      · rw [hempty] at hsuffix
        cases hsuffix
      · rw [hroot] at hsuffix
        cases hsuffix
    · exact fun hno => absurd (hno.symm.trans hsuffix) (by simp)
    · rw [htext]
      exact hreal
    · exact h.accessible
    · rw [hname]
      exact h.document

end TargetRules

/-- The directory of a target is the parent of its document.  It is a directory that is its own real
path exactly if a directory stands there, so whenever the request leads to a directory.  Otherwise the
request is the path of a document, and a file stands there or the search for the real path broke off
at a circle of links. -/
theorem target_directory_is_real_iff {ws : Workspace} (hsound : ws.Sound) {request : Text}
    {target : Target} (hok : (TargetRules.resolve {} ws request).outcome = .ok target) :
    let left := (TargetRules.resolve {} ws request).workspace
    target.document.parent = target.directory ∧
      (left.IsRealDirectory target.directory ↔
        ∃ l, target.directory = Location.path l ∧ left.files.get? l = some .directory) ∧
      (left.isDirectory (TargetRules.directoryText {} request) = true →
        left.IsRealDirectory target.directory) ∧
      (¬ left.IsRealDirectory target.directory →
        endsWith (trim request) ".xml".toList = true ∧
          ((∃ l content, target.directory = Location.path l ∧
              left.files.get? l = some (.file content)) ∨
            left.BreaksOff (TargetRules.directoryText {} request))) := by
  intro left
  have hpoints : TargetRules.PointsTo {} left request target := TargetRules.pointsTo_resolve hok
  have hleft : left.Sound := hsound.resolve {} request
  refine ⟨?_, hpoints.isRealDirectory_iff hleft, hpoints.isRealDirectory hleft, fun hnot => ⟨?_, ?_⟩⟩
  · rw [hpoints.document_eq]
    exact congrArg (Path.mk _) List.dropLast_concat
  · cases hsuffix : endsWith (trim request) ".xml".toList with
    | true => rfl
    | false => exact absurd (hpoints.isRealDirectory hleft (hpoints.stands hsuffix)) hnot
  · obtain hbroken | ⟨l, e, hplace, he, hlink⟩ := hpoints.breaksOff_or_settled hleft
    · exact .inr hbroken
    · cases e with
      | directory => exact absurd ((hpoints.isRealDirectory_iff hleft).mpr ⟨l, hplace, he⟩) hnot
      | file content => exact .inl ⟨l, content, hplace, he⟩
      | link text => exact absurd rfl (hlink text)

/-- A working directory with a file, a directory, a link to that, and a link that leads to itself. -/
def circled : Workspace :=
  { files := ⟨[(["w".toList], .directory), (["w".toList, "a.txt".toList], .file [120]),
      (["w".toList, "d".toList], .directory), (["w".toList, "link".toList], .link "d".toList),
      (["w".toList, "loop".toList], .link "loop".toList)]⟩
    workingDirectory := ["w".toList]
    homes := [] }

theorem sound_circled : circled.Sound :=
  ⟨FileSystem.sound_of_stands (by decide), rfl⟩

theorem resolve_new : (TargetRules.resolve {} circled "link/new".toList).outcome =
    .ok ⟨.ofText "/w/d/new/structure.xml".toList, .ofText "/w/d/new".toList⟩ := by
  rfl

/-- A new directory behind a link is the real directory of its target. -/
theorem new_target_directory_is_real :
    circled.Sound ∧ (TargetRules.resolve {} circled "link/new".toList).workspace.IsRealDirectory
      (.ofText "/w/d/new".toList) :=
  ⟨sound_circled, (target_directory_is_real_iff sound_circled resolve_new).2.1.mpr
    ⟨["w".toList, "d".toList, "new".toList], rfl, rfl⟩⟩

/-- The directory of a target need not be one: nothing asks for it where the request is the path of a
document. -/
theorem target_directory_can_be_a_file :
    (TargetRules.resolve {} circled "a.txt/x.xml".toList).outcome =
        .ok ⟨.ofText "/w/a.txt/x.xml".toList, .ofText "/w/a.txt".toList⟩ ∧
      (TargetRules.resolve {} circled "a.txt/x.xml".toList).workspace = circled ∧
      circled.isDirectory "/w/a.txt".toList = false :=
  ⟨rfl, rfl, rfl⟩

/-- Resolving a request makes directories at most, and none for the path of a document.  Resolving it
again comes to the same target and changes nothing.  Resolving the path of the document changes nothing
either; it comes to the same target exactly if the directory is its own real path, so whenever the
search for the directory did not break off at a circle of links. -/
theorem resolving_again_changes_nothing (ws : Workspace) (request : Text) :
    let left := (TargetRules.resolve {} ws request).workspace
    GainsDirectories ws left ∧ (endsWith (trim request) ".xml".toList = true → left = ws) ∧
      (ws.Sound → ∀ target, (TargetRules.resolve {} ws request).outcome = .ok target →
        (TargetRules.resolve {} left request).outcome = .ok target ∧
        (TargetRules.resolve {} left request).workspace = left ∧
        (TargetRules.resolve {} left target.document.text).workspace = left ∧
        ((TargetRules.resolve {} left target.document.text).outcome = .ok target ↔
          left.realPath target.directory.text = .ok target.directory) ∧
        ((TargetRules.resolve {} left target.document.text).outcome = .ok target ∨
          endsWith (trim request) ".xml".toList = true ∧
            left.BreaksOff (TargetRules.directoryText {} request))) := by
  intro left
  refine ⟨TargetRules.gainsDirectories_resolve {} ws request,
    fun hsuffix => TargetRules.workspace_resolve_of_suffix hsuffix ws, fun hsound target hok => ?_⟩
  have hpoints : TargetRules.PointsTo {} left request target := TargetRules.pointsTo_resolve hok
  have hleft : left.Sound := hsound.resolve {} request
  have hnames := isProperName_of_realPath hleft.segments hpoints.real
  have hworkspace : (TargetRules.resolve {} left target.document.text).workspace = left :=
    TargetRules.workspace_resolve_of_suffix (hpoints.reads_document hnames).1 left
  have hsame : (TargetRules.resolve {} left target.document.text).outcome = .ok target ↔
      left.realPath target.directory.text = .ok target.directory := by
    rw [← hpoints.document_iff hnames]
    constructor
    · intro hdocument
      have hpoints' := TargetRules.pointsTo_resolve hdocument
      rwa [hworkspace] at hpoints'
    · exact fun hpoints' => hpoints'.resolve.1
  refine ⟨hpoints.resolve.1, hpoints.resolve.2, hworkspace, hsame, ?_⟩
  obtain hbroken | ⟨l, e, hplace, he, hlink⟩ := hpoints.breaksOff_or_settled hleft
  · right
    refine ⟨?_, hbroken⟩
    cases hsuffix : endsWith (trim request) ".xml".toList with
    | true => rfl
    | false =>
        obtain ⟨l, hreach, -⟩ :=
          hleft.reaches_of_stat (isDirectory_iff.mp (hpoints.stands hsuffix))
        exact absurd hbroken (Sound.not_breaksOff_of_reaches hreach)
  · left
    rw [hsame, hplace]
    exact hleft.realPath_of_reaches (hleft.reaches_text he hlink)

/-- A new directory behind a link is found again, by the request and by the path of the document. -/
theorem new_target_is_found_again :
    let left := (TargetRules.resolve {} circled "link/new".toList).workspace
    (TargetRules.resolve {} left "link/new".toList).outcome =
        (TargetRules.resolve {} circled "link/new".toList).outcome ∧
      (TargetRules.resolve {} left "/w/d/new/structure.xml".toList).outcome =
        (TargetRules.resolve {} circled "link/new".toList).outcome := by
  have hagain := (resolving_again_changes_nothing circled "link/new".toList).2.2 sound_circled _
    resolve_new
  exact ⟨hagain.1.trans resolve_new.symm, (hagain.2.2.2.1.mpr (by rfl)).trans resolve_new.symm⟩

/-- After a circle of links, the path of a document can be another one when it is resolved. -/
theorem target_behind_circle_moves :
    (TargetRules.resolve {} circled "loop/../link/x.xml".toList).outcome =
        .ok ⟨.ofText "/w/link/x.xml".toList, .ofText "/w/link".toList⟩ ∧
      (TargetRules.resolve {} circled "loop/../link/x.xml".toList).workspace = circled ∧
      (TargetRules.resolve {} circled "/w/link/x.xml".toList).outcome =
        .ok ⟨.ofText "/w/d/x.xml".toList, .ofText "/w/d".toList⟩ :=
  ⟨rfl, rfl, rfl⟩

end SourceAtlas
