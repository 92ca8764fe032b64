import SourceAtlas.Proofs.Document.Fresh
import SourceAtlas.Proofs.FileSystem.Lookups

/-!
# Earlier documents that cannot be read

An earlier document whose bytes are not well-formed is reported with one warning and is then as good
as none: the document that is written is that of a full build.  Only an earlier document that names
an encoding which cannot be used makes the description fail, unless all is to be described anew.
-/

namespace SourceAtlas

open Text Xml

namespace Xml

/-! ## Named encodings -/

/-- The encoding that the declaration in front of a text names. -/
def declaredEncoding? (t : Text) : Option Text := do
  let (body, _) ← declarationBody? t
  let declaration ← (readDeclaration body).toOption
  declaration.encoding.map (·.1)

/-- A document names an encoding that cannot be used, however its first bytes are read. -/
def NamesUnusable (bytes : Bytes) (u : Encoding.Unusable) (name : Text) : Prop :=
  ∃ detected markLength, Encoding.detect? bytes = some (detected, markLength) ∧
    declaredEncoding? (detected.decode (bytes.drop markLength)).text = some name ∧
    Encoding.named detected name = .error (.unusable u)

/-- The names can be compared as strings, so that none of them has to be taken apart. -/
theorem Charset.isNamed_eq_any (names : List String) (name : Text) :
    Charset.isNamed names name = names.any fun n => n == String.ofList name ||
      (n == String.ofList (name.map fun c => if c = '.' then '_' else c) &&
        !Charset.fixedNames.contains n) := by
  unfold Charset.isNamed
  congr 1
  funext n
  simp only [← String.toList_inj, String.toList_ofList, beq_eq_decide]

/-- All names of encodings that are listed in normal form. -/
def Encoding.listedNames : List String :=
  Charset.all.flatMap Charset.names ++ (Charset.incompatibleNames ++
    (Charset.multiByteNames ++ Charset.byteNames))

/-- A name that is nowhere listed is that of no encoding. -/
theorem Encoding.named_of_unlisted {detected : Encoding} {name : Text}
    (hupper : ∀ s ∈ ["UTF-8", "UTF-16", "UTF-16BE", "UTF-16LE", "ISO-8859-1", "US-ASCII"],
      name.map Char.toUpper ≠ s.toList)
    (hlisted : Charset.isNamed listedNames (Charset.normalName name) = false)
    (hnormal : ∀ s ∈ ["idna", "punycode", "undefined"], Charset.normalName name ≠ s.toList) :
    named detected name = .error (.unusable .unknown) := by
  simp only [List.forall_mem_cons] at hupper hnormal
  obtain ⟨hutf8, hutf16, hutf16be, hutf16le, hlatin1, hascii, -⟩ := hupper
  obtain ⟨hidna, hpunycode, hundefined, -⟩ := hnormal
  simp only [Charset.isNamed, listedNames, List.any_append, List.any_flatMap,
    Bool.or_eq_false_iff] at hlisted
  obtain ⟨hall, hincompatible, hmultiByte, hbytes⟩ := hlisted
  have hfind : (Charset.all.find? fun c =>
      Charset.isNamed c.names (Charset.normalName name)) = none :=
    List.find?_eq_none.mpr (List.any_eq_false.mp hall)
  unfold named unusable
  dsimp only
  rw [if_neg hutf8, if_neg hutf16, if_neg hutf16be, if_neg hutf16le, if_neg hlatin1,
    if_neg hascii, hfind]
  dsimp only
  rw [Charset.isNamed, Charset.isNamed, Charset.isNamed, hincompatible, hmultiByte, hbytes,
    if_neg hidna, if_neg hpunycode, if_neg hundefined]
  rfl

theorem mapError_malformed_ne {ε α : Type} (x : Except ε α) (message : ε → Text)
    (u : Encoding.Unusable) (name : Text) :
    x.mapError (fun c => ReadFault.malformed (message c)) ≠ .error (.unusableEncoding u name) := by
  intro h
  obtain ⟨c, -, hc⟩ := mapError_eq_error.mp h
  exact absurd hc (by simp)

theorem readIn_eq_unusableEncoding_iff {e : Encoding} {bytes : Bytes} {markLength : Nat}
    {u : Encoding.Unusable} {name : Text} :
    readIn e bytes markLength = .error (.unusableEncoding u name) ↔
      declaredEncoding? (e.decode (bytes.drop markLength)).text = some name ∧
        Encoding.named e name = .error (.unusable u) := by
  unfold readIn declaredEncoding?
  dsimp only
  cases declarationBody? (e.decode (bytes.drop markLength)).text with
  | none => simpa using mapError_malformed_ne _ _ u name
  | some parts =>
      obtain ⟨body, rest⟩ := parts
      dsimp only [Option.bind_eq_bind, Option.bind_some]
      cases readDeclaration body with
      | error place => simp [Except.toOption]
      | ok declaration =>
          dsimp only [Except.toOption, Option.bind_some]
          cases declaration.encoding with
          | none => simpa using mapError_malformed_ne _ _ u name
          | some declared =>
              obtain ⟨declared, place⟩ := declared
              dsimp only [Option.map_some]
              constructor
              · intro h
                split at h
                · exact absurd h (by simp)
                · exact absurd h (by simp)
                · next u' hnamed =>
                    obtain ⟨rfl, rfl⟩ := ReadFault.unusableEncoding.inj (Except.error.inj h)
                    exact ⟨rfl, hnamed⟩
                · exact absurd h (mapError_malformed_ne _ _ u name)
              · rintro ⟨hdeclared, hnamed⟩
                obtain rfl := Option.some.inj hdeclared
                simp only [hnamed]

/-- Reading fails because of an encoding exactly if the document names one that cannot be used. -/
theorem read_eq_unusableEncoding_iff {bytes : Bytes} {u : Encoding.Unusable} {name : Text} :
    read bytes = .error (.unusableEncoding u name) ↔ NamesUnusable bytes u name := by
  unfold read NamesUnusable
  split
  · constructor
    · intro h
      exact absurd h (by simp)
    · rintro ⟨detected, markLength, hdetect, hdeclared, -⟩
      obtain ⟨rfl, rfl⟩ := Prod.mk.inj (Option.some.inj hdetect)
      have hnone : declaredEncoding? (Encoding.utf8.decode (List.drop 0 [])).text = none := by
        decide
      exact absurd (hnone.symm.trans hdeclared) (by simp)
  · next hdetect =>
      simp [hdetect]
  · next detected markLength _ hdetect =>
      rw [readIn_eq_unusableEncoding_iff]
      constructor
      · rintro ⟨hdeclared, hnamed⟩
        exact ⟨detected, markLength, hdetect, hdeclared, hnamed⟩
      · rintro ⟨detected', markLength', hdetect', hdeclared, hnamed⟩
        obtain ⟨rfl, rfl⟩ := Prod.mk.inj (Option.some.inj (hdetect.symm.trans hdetect'))
        exact ⟨hdeclared, hnamed⟩

/-- A document can be read, or it is malformed, or it names an encoding that cannot be used. -/
theorem read_cases (bytes : Bytes) :
    (∃ root, read bytes = .ok root) ∨ (∃ message, read bytes = .error (.malformed message)) ∨
      ∃ u name, NamesUnusable bytes u name := by
  cases hread : read bytes with
  | ok root => exact .inl ⟨root, rfl⟩
  | error f =>
      cases f with
      | malformed message => exact .inr (.inl ⟨message, rfl⟩)
      | unusableEncoding u name =>
          exact .inr (.inr ⟨u, name, read_eq_unusableEncoding_iff.mp hread⟩)

end Xml

/-! ## Warnings -/

/-- How many of the signals are warnings. -/
def warnings (signals : List Signal) : Nat :=
  signals.countP fun
    | .event e => e.priority = Event.warningPriority
    | .processed => false

@[simp] theorem warnings_append (signals signals' : List Signal) :
    warnings (signals ++ signals') = warnings signals + warnings signals' :=
  List.countP_append

theorem warnings_eq_zero {signals : List Signal}
    (h : ∀ e : Event, .event e ∈ signals → e.priority ≠ Event.warningPriority) :
    warnings signals = 0 := by
  rw [warnings, List.countP_eq_zero]
  intro s hs
  cases s with
  | event e => simpa using h e hs
  | processed => simp

namespace Describer

variable {d : Describer} {ws : Workspace} {includeSource : Bool} {previous : Previous}
  {files : List Path}

/-- What is told of one file is no warning. -/
theorem priority_of_mem_itemOf {file : Path} {bytes : Bytes} {e : Event}
    (h : e ∈ (d.itemOf includeSource previous file bytes).2) :
    e.priority ≠ Event.warningPriority := by
  unfold itemOf at h
  dsimp only at h
  split at h
  · obtain rfl := List.mem_singleton.mp h
    change Event.debugPriority ≠ Event.warningPriority
    decide
  · rcases List.mem_cons.mp h with rfl | h
    · change Event.infoPriority ≠ Event.warningPriority
      decide
    · unfold Description.fileElement decodeSource at h
      dsimp only at h
      split at h
      · obtain rfl := List.mem_singleton.mp h
        change Event.errorPriority ≠ Event.warningPriority
        decide
      · exact absurd h (by simp)

theorem warnings_itemsOf : warnings (d.itemsOf ws includeSource previous files).signals = 0 := by
  induction files with
  | nil => rfl
  | cons file files ih =>
      unfold itemsOf
      cases ws.read file.text with
      | error e => rfl
      | ok bytes =>
          have hitem : warnings (.processed ::
              (d.itemOf includeSource previous file bytes).2.map Signal.event) = 0 := by
            apply warnings_eq_zero
            intro e he
            apply priority_of_mem_itemOf
            simpa using he
          dsimp only
          rw [warnings_append, hitem, ih]

/-- A describer for which there is no earlier document. -/
def anew (d : Describer) : Describer :=
  { d with description := { d.description with force := true } }

/-- The force decides what is loaded, and nothing else. -/
theorem itemsOf_anew :
    d.anew.itemsOf ws includeSource previous files = d.itemsOf ws includeSource previous files := by
  induction files with
  | nil => rfl
  | cons file files ih =>
      unfold itemsOf
      cases ws.read file.text with
      | error e => rfl
      | ok bytes =>
          dsimp only
          rw [ih]
          rfl

section Loaded

variable {loading : Loading} (hfiles : files ≠ [])
  (hload : d.load ws (d.description.fingerprint includeSource) = .ok loading)
include hfiles hload

/-- Of the whole description only what comes of loading the earlier document can be a warning. -/
theorem warnings_describe : warnings (d.describe ws includeSource files).signals =
    warnings (loading.events.map Signal.event) := by
  unfold describe
  rw [if_neg (by simpa using hfiles)]
  dsimp only
  rw [hload]
  dsimp only
  rw [warnings_append, warnings_itemsOf, Nat.add_zero]

theorem exists_document_of_load (hread : ∀ file ∈ files, ∃ b, ws.read file.text = .ok b) :
    ∃ content, (d.describe ws includeSource files).outcome = .ok content := by
  have hcontents : ∀ file ∈ files, ws.read file.text = .ok (ws.contentOf file) := by
    intro file hfile
    obtain ⟨b, hb⟩ := hread file hfile
    exact Workspace.read_eq_contentOf hb
  have hproject := project_eq_ok.mpr ⟨loading, _, hload, itemsOf_readable hcontents, rfl⟩
  rw [describe_outcome, if_neg (by simpa using hfiles), hproject]
  exact ⟨_, rfl⟩

omit hfiles in
/-- Where nothing is loaded, the document is that of a description without an earlier document. -/
theorem describe_eq_anew (hnone : loading.previous = {}) :
    (d.describe ws includeSource files).outcome =
      (d.anew.describe ws includeSource files).outcome := by
  have hanew : d.anew.load ws (d.anew.description.fingerprint includeSource) = .ok {} :=
    StartsAnew.load (.inl rfl) _
  have hproject : d.project ws includeSource files = d.anew.project ws includeSource files := by
    unfold project
    dsimp only
    rw [hload, hanew]
    dsimp only
    rw [hnone, itemsOf_anew]
    rfl
  rw [describe_outcome, describe_outcome, hproject]

end Loaded

/-! ## What the earlier document decides -/

section Earlier

variable {earlier : Path} {bytes : Bytes} (hearlier : d.earlier = some earlier)
  (hbytes : ws.read earlier.text = .ok bytes)
include hearlier hbytes

theorem load_of_read (hforce : d.description.force = false) (fingerprint : Text) :
    d.load ws fingerprint = Loading.ofBytes earlier.text fingerprint bytes := by
  have hkind : ws.isKind Entry.isFile earlier.text = .ok true := by
    unfold Workspace.isKind
    rw [Workspace.read_eq_ok.mp hbytes]
    rfl
  unfold load
  rw [hearlier, hforce]
  dsimp only
  unfold Loading.ofPath
  rw [hkind, hbytes]
  rfl

/-- An earlier document that can be read is not warned of, be it used or not. -/
theorem load_of_ok (hforce : d.description.force = false) (fingerprint : Text) {root : Element}
    (hroot : Xml.read bytes = .ok root) :
    ∃ loading, d.load ws fingerprint = .ok loading ∧
      warnings (loading.events.map Signal.event) = 0 := by
  rw [load_of_read hearlier hbytes hforce, Loading.ofBytes, hroot]
  dsimp only
  split
  · exact ⟨_, rfl, rfl⟩
  · exact ⟨_, rfl, rfl⟩

theorem load_of_malformed (hforce : d.description.force = false) (fingerprint : Text)
    {message : Text} (hmalformed : Xml.read bytes = .error (.malformed message)) :
    d.load ws fingerprint = .ok { events := [Loading.unreadable message] } := by
  rw [load_of_read hearlier hbytes hforce, Loading.ofBytes, hmalformed]

variable (hfiles : files ≠ [])
include hfiles

theorem describe_of_unusable (hforce : d.description.force = false) {u : Encoding.Unusable}
    {name : Text} (hunusable : NamesUnusable bytes u name) :
    (d.describe ws includeSource files).outcome = .error (Loading.encodingFault u name) := by
  have hload : d.load ws (d.description.fingerprint includeSource) =
      .error (Loading.encodingFault u name) := by
    rw [load_of_read hearlier hbytes hforce, Loading.ofBytes,
      read_eq_unusableEncoding_iff.mpr hunusable]
  unfold describe
  rw [if_neg (by simpa using hfiles)]
  dsimp only
  rw [hload]

/-- A malformed document is warned of once and is as good as none. -/
theorem describe_of_malformed (hforce : d.description.force = false) {message : Text}
    (hmalformed : Xml.read bytes = .error (.malformed message)) :
    warnings (d.describe ws includeSource files).signals = 1 ∧
      (d.describe ws includeSource files).outcome =
        (d.anew.describe ws includeSource files).outcome := by
  have hload := load_of_malformed hearlier hbytes hforce
    (d.description.fingerprint includeSource) hmalformed
  constructor
  · rw [warnings_describe hfiles hload]
    rfl
  · exact describe_eq_anew hload rfl

theorem warnings_describe_of_ok {root : Element} (hroot : Xml.read bytes = .ok root) :
    warnings (d.describe ws includeSource files).signals = 0 := by
  cases hforce : d.description.force with
  | true =>
      have hload : d.load ws (d.description.fingerprint includeSource) = .ok {} :=
        StartsAnew.load (.inl hforce) _
      exact warnings_describe hfiles hload
  | false =>
      obtain ⟨loading, hload, hevents⟩ := load_of_ok hearlier hbytes hforce
        (d.description.fingerprint includeSource) hroot
      rw [warnings_describe hfiles hload, hevents]

/-- Readable files can be described unless the earlier document is asked for and names an encoding
that cannot be used. -/
theorem exists_document_iff (hread : ∀ file ∈ files, ∃ b, ws.read file.text = .ok b) :
    (∃ content, (d.describe ws includeSource files).outcome = .ok content) ↔
      d.description.force = true ∨ ∀ u name, ¬ NamesUnusable bytes u name := by
  constructor
  · rintro ⟨content, hcontent⟩
    cases hforce : d.description.force with
    | true => exact .inl rfl
    | false =>
        right
        intro u name hunusable
        have hfails : (d.describe ws includeSource files).outcome =
            .error (Loading.encodingFault u name) :=
          describe_of_unusable hearlier hbytes hfiles hforce hunusable
        exact absurd (hcontent.symm.trans hfails) (by simp)
  · intro h
    cases hforce : d.description.force with
    | true => exact exists_document_of_load hfiles (StartsAnew.load (.inl hforce) _) hread
    | false =>
        have husable := h.resolve_left (by simp [hforce])
        rcases read_cases bytes with ⟨root, hroot⟩ | ⟨message, hmalformed⟩ | ⟨u, name, hunusable⟩
        · obtain ⟨loading, hload, -⟩ := load_of_ok hearlier hbytes hforce
            (d.description.fingerprint includeSource) hroot
          exact exists_document_of_load hfiles hload hread
        · exact exists_document_of_load hfiles
            (load_of_malformed hearlier hbytes hforce _ hmalformed) hread
        · exact absurd hunusable (husable u name)

/-- A description fails for an earlier document only if that names an encoding which cannot be used,
and if it is asked for.  One that is malformed is warned of once and is as good as none; no other is
warned of. -/
theorem only_unusable_encodings_stop_descriptions
    (hread : ∀ file ∈ files, ∃ b, ws.read file.text = .ok b) :
    ((∃ content, (d.describe ws includeSource files).outcome = .ok content) ↔
        d.description.force = true ∨ ∀ u name, ¬ NamesUnusable bytes u name) ∧
      (d.description.force = false → ∀ u name, NamesUnusable bytes u name →
        (d.describe ws includeSource files).outcome = .error (Loading.encodingFault u name)) ∧
      (d.description.force = false → (∀ root, Xml.read bytes ≠ .ok root) →
        (∀ u name, ¬ NamesUnusable bytes u name) →
          warnings (d.describe ws includeSource files).signals = 1 ∧
          (d.describe ws includeSource files).outcome =
            (d.anew.describe ws includeSource files).outcome) ∧
      (d.description.force = true ∨ (∃ root, Xml.read bytes = .ok root) →
        warnings (d.describe ws includeSource files).signals = 0) := by
  refine ⟨exists_document_iff hearlier hbytes hfiles hread, ?_, ?_, ?_⟩
  · intro hforce u name hunusable
    exact describe_of_unusable hearlier hbytes hfiles hforce hunusable
  · intro hforce hunread husable
    rcases read_cases bytes with ⟨root, hroot⟩ | ⟨message, hmalformed⟩ | ⟨u, name, hunusable⟩
    · exact absurd hroot (hunread root)
    · exact describe_of_malformed hearlier hbytes hfiles hforce hmalformed
    · exact absurd hunusable (husable u name)
  · rintro (hforce | ⟨root, hroot⟩)
    · exact warnings_describe hfiles (StartsAnew.load (.inl hforce) _)
    · exact warnings_describe_of_ok hearlier hbytes hfiles hroot

end Earlier

/-- A workspace with one source file and a document. -/
def oneFileOver (document : Text) : Workspace :=
  { oneFile with
    files := ⟨oneFile.files.entries ++
      [(["w".toList, "structure.xml".toList], .file (Utf8.encode document))]⟩ }

/-- A describer of the one file over the document. -/
def overDocument : Describer :=
  { earlier := some (.ofText "/w/structure.xml".toList), root := ⟨.root, ["w".toList]⟩ }

theorem read_oneFileOver (document : Text) :
    (oneFileOver document).read (Path.ofText "/w/structure.xml".toList).text =
      .ok (Utf8.encode document) := by
  rfl

theorem readable_oneFileOver (document : Text) :
    ∀ file ∈ [Path.ofText "/w/a.php".toList], ∃ b, (oneFileOver document).read file.text = .ok b := by
  intro file hfile
  obtain rfl := List.mem_singleton.mp hfile
  exact ⟨Utf8.encode "# TODO tidy".toList, rfl⟩

theorem cut_off_document_is_warned_of :
    warnings (overDocument.describe (oneFileOver "<project".toList) false
        [.ofText "/w/a.php".toList]).signals = 1 ∧
      (overDocument.describe (oneFileOver "<project".toList) false
        [.ofText "/w/a.php".toList]).outcome =
      (overDocument.anew.describe (oneFileOver "<project".toList) false
        [.ofText "/w/a.php".toList]).outcome := by
  obtain ⟨-, -, hmalformed, -⟩ := @only_unusable_encodings_stop_descriptions overDocument
    (oneFileOver "<project".toList) false [.ofText "/w/a.php".toList] _ _ rfl
    (read_oneFileOver "<project".toList) (by simp) (readable_oneFileOver _)
  have hread : (Xml.read (Utf8.encode "<project".toList)).map (fun _ => ()) =
      .error (.malformed "unclosed token: line 1, column 0".toList) := by
    decide +kernel
  apply hmalformed rfl
  · intro root hroot
    rw [hroot] at hread
    exact absurd hread (by simp [Except.map])
  · intro u name hunusable
    rw [read_eq_unusableEncoding_iff.mpr hunusable] at hread
    exact absurd hread (by simp [Except.map])

/-- A document that names an encoding which is not known stops the description of a readable file. -/
theorem unknown_encoding_stops_description :
    let document : Text := "<?xml version='1.0' encoding='foo'?><project/>".toList
    (oneFileOver document).read (Path.ofText "/w/structure.xml".toList).text =
        .ok (Utf8.encode document) ∧
      (oneFileOver document).read (Path.ofText "/w/a.php".toList).text =
        .ok (Utf8.encode "# TODO tidy".toList) ∧
      (overDocument.describe (oneFileOver document) false [.ofText "/w/a.php".toList]).outcome =
        .error ⟨.lookup, "unknown encoding: foo".toList, none⟩ := by
  intro document
  refine ⟨rfl, rfl, ?_⟩
  have hlisted : Charset.isNamed Encoding.listedNames (Charset.normalName "foo".toList) = false := by
    rw [Charset.isNamed_eq_any]
    decide +kernel
  have hnamed : Encoding.named .utf8 "foo".toList = .error (.unusable .unknown) :=
    Encoding.named_of_unlisted (by decide +kernel) hlisted (by decide +kernel)
  have hunusable : NamesUnusable (Utf8.encode document) .unknown "foo".toList :=
    ⟨.utf8, 0, by decide +kernel, by decide +kernel, hnamed⟩
  have hearlier : overDocument.earlier = some (.ofText "/w/structure.xml".toList) := rfl
  rw [describe_of_unusable hearlier (read_oneFileOver document) (by simp) rfl hunusable]
  decide +kernel

end Describer

end SourceAtlas
