import SourceAtlas.FileSystem.Error

/-!
# Failures of a build

Everything that can go wrong in a build, each with the words that the operator reads.  The build's
own failures end a run; a fault is what a collaborator signals, a failure of the build among them.
-/

namespace SourceAtlas

open Text

/-- The classes of the build's own failures. -/
inductive FailureClass
  | general
  | options
  | target
  | noFiles
  | collaborator
  | notWritten
  deriving DecidableEq, Repr

/-- The classes of faults: the build's own failures, the common ones, and those that others define,
which are known by their names. -/
inductive FaultClass
  | own (c : FailureClass)
  | foreign (name : Text)
  | missingFile
  | presentFile
  | notDirectory
  | isDirectory
  | fileSystem
  | permission
  | value
  | type
  | runtime
  | lookup
  | validation
  deriving DecidableEq, Repr

/-- The name under which a class of failures is reported. -/
def FailureClass.name : FailureClass → Text
  | .general => "StructureError".toList
  | .options => "OptionsError".toList
  | .target => "InvalidTargetError".toList
  | .noFiles => "NoFilesFoundError".toList
  | .collaborator => "CollaboratorError".toList
  | .notWritten => "DocumentWriteError".toList

/-- The name under which a class of faults is reported. -/
def FaultClass.name : FaultClass → Text
  | .own c => c.name
  | .foreign name => name
  | .missingFile => "FileNotFoundError".toList
  | .presentFile => "FileExistsError".toList
  | .notDirectory => "NotADirectoryError".toList
  | .isDirectory => "IsADirectoryError".toList
  | .fileSystem => "OSError".toList
  | .permission => "PermissionError".toList
  | .value => "ValueError".toList
  | .type => "TypeError".toList
  | .runtime => "RuntimeError".toList
  | .lookup => "LookupError".toList
  | .validation => "ValidationError".toList

/-- The exit code of a class of failures: wrong options are told apart from all else. -/
def FailureClass.exitCode : FailureClass → Nat
  | .options => 2
  | _ => 1

/-- The class of a failed file operation. -/
def Reason.faultClass : Reason → FaultClass
  | .missing => .missingFile
  | .present => .presentFile
  | .notDirectory => .notDirectory
  | .isDirectory => .isDirectory
  | .nameTooLong | .tooManyLinks => .fileSystem
  | .nullCharacter => .value

/-- A fault: its class, its message, and the fault that it stems from. -/
structure Fault where
  cls : FaultClass
  message : Text
  cause : Option Fault := none
  deriving Repr

namespace Fault

/-- Faults are compared with all that they stem from. -/
def decEq : (f g : Fault) → Decidable (f = g)
  | ⟨c, m, none⟩, ⟨c', m', none⟩ => decidable_of_iff (c = c' ∧ m = m') (by simp)
  | ⟨c, m, some f⟩, ⟨c', m', some g⟩ =>
    have : Decidable (f = g) := decEq f g
    decidable_of_iff (c = c' ∧ m = m' ∧ f = g) (by simp)
  | ⟨_, _, none⟩, ⟨_, _, some _⟩ => .isFalse (by simp)
  | ⟨_, _, some _⟩, ⟨_, _, none⟩ => .isFalse (by simp)

instance : DecidableEq Fault := decEq

/-- The name under which a fault is reported. -/
def name (f : Fault) : Text := f.cls.name

/-- A failed file operation. -/
def ofFile (e : FileError) : Fault := ⟨e.reason.faultClass, e.message, none⟩

/-- A home directory that is not known. -/
def noHome : Fault := ⟨.runtime, "Could not determine home directory.".toList, none⟩

/-- A path that only links lead to. -/
def linkCircle (path : Text) : Fault :=
  ⟨.runtime, "Symlink loop from ".toList ++ quoted path, none⟩

/-- A failure of the build. -/
def failure (c : FailureClass) (message : Text) (cause : Option Fault := none) : Fault :=
  ⟨.own c, message, cause⟩

/-- The fault is one of the build's own failures. -/
def isFailure (f : Fault) : Bool :=
  match f.cls with
  | .own _ => true
  | _ => false

/-- The exit code that a fault is reported with. -/
def exitCode (f : Fault) : Nat :=
  match f.cls with
  | .own c => c.exitCode
  | _ => 1

end Fault

end SourceAtlas
