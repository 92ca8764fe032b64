import Mathlib.Data.List.Induction
import SourceAtlas.Proofs.Collecting

/-!
# Asking a collection

A collection may be asked for its files, for the directory that holds them and for the kinds of files it
takes, and between the questions something else may be selected, and the workspace may change in any way.
A collection keeps to the list from which the first question was answered since the last selection; until
then every question looks for the files as they are.
-/

namespace SourceAtlas

open Collection

/-! ## Histories -/

/-- What happens in the history of a collection. -/
inductive Act
  | configure (s : Selection)
  | askFiles
  | askRoot
  | askKinds
  | edit (ws : Workspace)

namespace Act

/-- The selection in force after an act. -/
def select (s : Selection) : Act → Selection
  | .configure t => t
  | _ => s

/-- The selection in force after a history. -/
def selected (s : Selection) (history : List Act) : Selection := history.foldl select s

theorem selected_concat (s : Selection) (history : List Act) (act : Act) :
    selected s (history ++ [act]) = select (selected s history) act := List.foldl_concat ..

/-- The workspace after an act. -/
def change (ws : Workspace) : Act → Workspace
  | .edit ws' => ws'
  | _ => ws

/-- The workspace after a history. -/
def changed (ws : Workspace) (history : List Act) : Workspace := history.foldl change ws

theorem changed_concat (ws : Workspace) (history : List Act) (act : Act) :
    changed ws (history ++ [act]) = change (changed ws history) act := List.foldl_concat ..

/-- A question that is answered from a list of files. -/
def Asks (act : Act) : Prop := act = .askFiles ∨ act = .askRoot

/-- Nothing is selected anew. -/
def Keeps (acts : List Act) : Prop := ∀ s, Act.configure s ∉ acts

theorem Keeps.nil : Keeps [] := fun _ => List.not_mem_nil

theorem Keeps.concat {acts : List Act} {act : Act} (h : Keeps acts) (hact : ∀ s, act ≠ .configure s) :
    Keeps (acts ++ [act]) := by
  intro s hs
  obtain hs | hs := List.mem_append.mp hs
  · exact h s hs
  · exact hact s (List.mem_singleton.mp hs).symm

end Act

/-- A collection in a workspace. -/
structure Scene where
  collection : Collection
  workspace : Workspace

namespace Scene

/-- A new collection. -/
def new (s : Selection) (ws : Workspace) : Scene := ⟨⟨s, none⟩, ws⟩

/-- The files with which the collection answers. -/
def files (scene : Scene) : Except Fault (List Path) :=
  (scene.collection.files scene.workspace).2.outcome

/-- The directory with which the collection answers. -/
def root (scene : Scene) : Except Fault Path := (scene.collection.root scene.workspace).2.2

def step (scene : Scene) : Act → Scene
  | .configure s => { scene with collection := scene.collection.configure s }
  | .askFiles => { scene with collection := (scene.collection.files scene.workspace).1 }
  | .askRoot => { scene with collection := (scene.collection.root scene.workspace).1 }
  | .askKinds => scene
  | .edit ws => { scene with workspace := ws }

/-- The scene after a history. -/
def after (scene : Scene) (history : List Act) : Scene := history.foldl step scene

/-- An act is a question, and is answered. -/
def Answers (scene : Scene) : Act → Prop
  | .askFiles => ∃ files, scene.files = .ok files
  | .askRoot => ∃ directory, scene.root = .ok directory
  | _ => False

variable {scene : Scene} {act : Act}

theorem root_eq (scene : Scene) :
    scene.root = scene.files.map (commonDirectory scene.workspace) := rfl

theorem answers_iff : scene.Answers act ↔ act.Asks ∧ ∃ files, scene.files = .ok files := by
  cases act with
  | askFiles => exact ⟨fun h => ⟨.inl rfl, h⟩, And.right⟩
  | askRoot =>
      constructor
      · rintro ⟨directory, h⟩
        rw [root_eq] at h
        obtain ⟨files, hfiles, -⟩ := map_eq_ok.mp h
        exact ⟨.inr rfl, files, hfiles⟩
      · rintro ⟨-, files, hfiles⟩
        exact ⟨_, by rw [root_eq, hfiles]; rfl⟩
  | configure s => simp [Answers, Act.Asks]
  | askKinds => simp [Answers, Act.Asks]
  | edit ws => simp [Answers, Act.Asks]

theorem after_concat (scene : Scene) (history : List Act) (act : Act) :
    scene.after (history ++ [act]) = (scene.after history).step act := List.foldl_concat ..

/-! ## One question -/

variable {s : Selection} {ws : Workspace} {files : List Path}

/-- A question leaves what it is answered from, and if it is not answered, nothing. -/
theorem step_of_asks (h : act.Asks) (scene : Scene) : scene.step act =
    ⟨⟨scene.collection.selection, scene.files.toOption⟩, scene.workspace⟩ := by
  have hstep : scene.step act = ⟨(scene.collection.files scene.workspace).1, scene.workspace⟩ := by
    obtain rfl | rfl := h <;> rfl
  rw [hstep]
  obtain ⟨⟨s, found⟩, ws⟩ := scene
  cases found with
  | some files => rfl
  | none =>
      have hfiles := files_configure {} s ws
      change Collection.files ⟨s, none⟩ ws = _ at hfiles
      rw [Scene.files, hfiles]
      split
      · next houtcome => rw [houtcome]; rfl
      · next houtcome => rw [houtcome]; rfl

/-- Until something is selected anew, a list is remembered. -/
theorem after_found {acts : List Act} (h : Act.Keeps acts) :
    after ⟨⟨s, some files⟩, ws⟩ acts = ⟨⟨s, some files⟩, Act.changed ws acts⟩ := by
  induction acts generalizing ws with
  | nil => rfl
  | cons act acts ih =>
      have hacts : Act.Keeps acts := fun t ht => h t (List.mem_cons_of_mem _ ht)
      cases act with
      | configure t => exact absurd List.mem_cons_self (h t)
      | askFiles => exact ih hacts
      | askRoot => exact ih hacts
      | askKinds => exact ih hacts
      | edit ws' => exact ih hacts

/-- A scene answers both questions from a list, and is left as it is. -/
structure AnswersFrom (scene : Scene) (files : List Path) : Prop where
  listed : scene.collection.files scene.workspace = (scene.collection, ⟨[], .ok files⟩)
  rooted : scene.collection.root scene.workspace =
    (scene.collection, [], .ok (commonDirectory scene.workspace files))

theorem answersFrom_found (s : Selection) (files : List Path) (ws : Workspace) :
    AnswersFrom ⟨⟨s, some files⟩, ws⟩ files := ⟨rfl, rfl⟩

end Scene

/-! ## The first answer -/

section FirstAnswer

variable {s : Selection} {ws : Workspace} {history : List Act} {act : Act} {files : List Path}

/-- No question was answered since the last selection. -/
def Unanswered (s : Selection) (ws : Workspace) (history : List Act) : Prop :=
  ∀ before act since, history = before ++ act :: since → Act.Keeps since →
    ¬ ((Scene.new s ws).after before).Answers act

/-- The list from which a new collection would answer a question, with the selection in force, where the
first one was answered since the last selection. -/
inductive FirstAnswer (s : Selection) (ws : Workspace) : List Act → List Path → Prop
  | intro {before since : List Act} {act : Act} {files : List Path} (hfirst : Unanswered s ws before)
      (hanswers : ((Scene.new s ws).after before).Answers act) (hkeeps : Act.Keeps since)
      (hfiles : (Scene.new (Act.selected s before) (Act.changed ws before)).files = .ok files) :
      FirstAnswer s ws (before ++ act :: since) files

/-- An act at the end of a history comes after another one, or is the last one itself. -/
theorem concat_eq_append_cons {before since : List Act} {last : Act}
    (h : history ++ [last] = before ++ act :: since) :
    (history = before ∧ last = act ∧ since = []) ∨
      ∃ since', since = since' ++ [last] ∧ history = before ++ act :: since' := by
  obtain rfl | ⟨since', a, rfl⟩ := since.eq_nil_or_concat'
  · obtain ⟨hhistory, hlast⟩ := List.append_inj' h rfl
    exact .inl ⟨hhistory, List.singleton_inj.mp hlast, rfl⟩
  · rw [← List.cons_append, ← List.append_assoc] at h
    obtain ⟨hhistory, hlast⟩ := List.append_inj' h rfl
    exact .inr ⟨since', by rw [List.singleton_inj.mp hlast], hhistory⟩

theorem unanswered_nil : Unanswered s ws [] := by
  intro before act since h
  simp at h

theorem unanswered_configure (t : Selection) : Unanswered s ws (history ++ [.configure t]) := by
  intro before act since h hkeeps
  obtain ⟨-, rfl, -⟩ | ⟨since', rfl, -⟩ := concat_eq_append_cons h
  · exact id
  · exact absurd (List.mem_append_right _ (List.mem_singleton_self _)) (hkeeps t)

theorem Unanswered.concat (h : Unanswered s ws history)
    (hact : ¬ ((Scene.new s ws).after history).Answers act) :
    Unanswered s ws (history ++ [act]) := by
  intro before act' since hsplit hkeeps
  obtain ⟨rfl, rfl, -⟩ | ⟨since', rfl, hhistory⟩ := concat_eq_append_cons hsplit
  · exact hact
  · exact h before act' since' hhistory fun t ht => hkeeps t (List.mem_append_left _ ht)

theorem FirstAnswer.concat (h : FirstAnswer s ws history files) (hact : ∀ t, act ≠ .configure t) :
    FirstAnswer s ws (history ++ [act]) files := by
  obtain ⟨hfirst, hanswers, hkeeps, hfiles⟩ := h
  rw [List.append_assoc, List.cons_append]
  exact .intro hfirst hanswers (hkeeps.concat hact) hfiles

theorem Unanswered.firstAnswer (h : Unanswered s ws history)
    (hact : ((Scene.new s ws).after history).Answers act)
    (hfiles : (Scene.new (Act.selected s history) (Act.changed ws history)).files = .ok files) :
    FirstAnswer s ws (history ++ [act]) files :=
  .intro h hact .nil hfiles

/-! ## Whole histories -/

/-- What a collection remembers after a history: nothing, or the list of the first answer. -/
inductive Remembers (s : Selection) (ws : Workspace) (history : List Act) : Option (List Path) → Prop
  | nothing (h : Unanswered s ws history) : Remembers s ws history none
  | first {files : List Path} (h : FirstAnswer s ws history files) : Remembers s ws history (some files)

variable {found : Option (List Path)}

theorem Remembers.concat (h : Remembers s ws history found) (hact : ∀ t, act ≠ .configure t)
    (hnot : ¬ ((Scene.new s ws).after history).Answers act) :
    Remembers s ws (history ++ [act]) found := by
  cases h with
  | nothing h => exact .nothing (h.concat hnot)
  | first h => exact .first (h.concat hact)

/-- The scene after a history in which a collection remembers something. -/
def sceneAfter (s : Selection) (ws : Workspace) (history : List Act) (found : Option (List Path)) :
    Scene :=
  ⟨⟨Act.selected s history, found⟩, Act.changed ws history⟩

/-- The first question that can be answered is the one whose answer is remembered. -/
theorem Remembers.step_of_asks (hact : act.Asks) (h : Remembers s ws history found)
    (hnow : (Scene.new s ws).after history = sceneAfter s ws history found) :
    Remembers s ws (history ++ [act]) (sceneAfter s ws history found).files.toOption := by
  have hnot : ∀ t, act ≠ .configure t := by
    obtain rfl | rfl := hact <;> simp
  cases h with
  | first h => exact .first (h.concat hnot)
  | nothing h =>
      cases hfiles : (sceneAfter s ws history none).files with
      | ok files =>
          refine .first (h.firstAnswer ?_ hfiles)
          rw [hnow]
          exact Scene.answers_iff.mpr ⟨hact, files, hfiles⟩
      | error f =>
          refine .nothing (h.concat ?_)
          rw [hnow, Scene.answers_iff, hfiles]
          simp

/-- After every history, a collection remembers the list of the first answer, if there was one. -/
theorem exists_remembers (s : Selection) (ws : Workspace) (history : List Act) :
    ∃ found, Remembers s ws history found ∧
      (Scene.new s ws).after history = sceneAfter s ws history found := by
  induction history using List.reverseRecOn with
  | nil => exact ⟨none, .nothing unanswered_nil, rfl⟩
  | append_singleton history act ih =>
      obtain ⟨found, hfound, hnow⟩ := ih
      simp only [Scene.after_concat, sceneAfter, Act.selected_concat, Act.changed_concat]
      rw [hnow]
      cases act with
      | askFiles => exact ⟨_, hfound.step_of_asks (.inl rfl) hnow, Scene.step_of_asks (.inl rfl) _⟩
      | askRoot => exact ⟨_, hfound.step_of_asks (.inr rfl) hnow, Scene.step_of_asks (.inr rfl) _⟩
      | configure t => exact ⟨none, .nothing (unanswered_configure t), rfl⟩
      | askKinds => exact ⟨found, hfound.concat (by simp) id, rfl⟩
      | edit ws' => exact ⟨found, hfound.concat (by simp) id, rfl⟩

end FirstAnswer

/-- A working directory with a file. -/
def lonely : Workspace :=
  { files := ⟨[(["w".toList], .directory), (["w".toList, "a.php".toList], .file [63])]⟩
    workingDirectory := ["w".toList]
    homes := [] }

/-- The same one without the file. -/
def deserted : Workspace := { lonely with files := ⟨[(["w".toList], .directory)]⟩ }

end SourceAtlas
