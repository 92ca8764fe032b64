import SourceAtlas.FileSystem.Lookup

/-!
# One name at a time

What a scan does with its first name depends on the name and on what stands under it: the scan goes on
from the same directory, from the one above or from the one of that name, or it stops there.  A look-up is
a scan and, behind a link, another one.  Whatever is proved of scans goes through the cases listed here.
-/

namespace SourceAtlas.FileSystem

open Text

variable {fs : FileSystem} {follow dirOnly : Bool} {l : Location} {n : Text} {ns : List Text}

/-! ## Scans -/

/-- A name that a scan looks for in its directory. -/
structure IsSought (n : Text) : Prop where
  ne_dot : n ≠ ['.']
  ne_up : n ≠ ['.', '.']
  short : ¬ nameLimit < byteCount n

/-- What a scan from a location comes upon with its first name. -/
inductive FirstName (fs : FileSystem) (l : Location) : Text → Prop
  | same : FirstName fs l ['.']
  | above : FirstName fs l ['.', '.']
  | tooLong {n : Text} (hlong : nameLimit < byteCount n) : FirstName fs l n
  | missing {n : Text} (hn : IsSought n) (hnone : fs.get? (l ++ [n]) = none) : FirstName fs l n
  | directory {n : Text} (hn : IsSought n) (hdirectory : fs.get? (l ++ [n]) = some .directory) :
      FirstName fs l n
  | file {n : Text} {b : Bytes} (hn : IsSought n) (hfile : fs.get? (l ++ [n]) = some (.file b)) :
      FirstName fs l n
  | link {n target : Text} (hn : IsSought n) (hlink : fs.get? (l ++ [n]) = some (.link target)) :
      FirstName fs l n

theorem firstName (fs : FileSystem) (l : Location) (n : Text) : FirstName fs l n := by
  by_cases hdot : n = ['.']
  · subst hdot
    exact .same
  by_cases hup : n = ['.', '.']
  · subst hup
    exact .above
  by_cases hlong : nameLimit < byteCount n
  · exact .tooLong hlong
  have hn : IsSought n := ⟨hdot, hup, hlong⟩
  cases hentry : fs.get? (l ++ [n]) with
  | none => exact .missing hn hentry
  | some e =>
      cases e with
      | directory => exact .directory hn hentry
      | file b => exact .file hn hentry
      | link target => exact .link hn hentry

theorem scan_same : scan fs follow dirOnly l (['.'] :: ns) = scan fs follow dirOnly l ns := by
  rw [scan, if_pos rfl]

theorem scan_above :
    scan fs follow dirOnly l (['.', '.'] :: ns) = scan fs follow dirOnly l.dropLast ns := by
  rw [scan, if_neg (by decide), if_pos rfl]

theorem scan_tooLong (hlong : nameLimit < byteCount n) :
    scan fs follow dirOnly l (n :: ns) = .failed .nameTooLong := by
  have hdot : n ≠ ['.'] := by
    rintro rfl
    exact absurd hlong (by decide)
  have hup : n ≠ ['.', '.'] := by
    rintro rfl
    exact absurd hlong (by decide)
  rw [scan, if_neg hdot, if_neg hup, if_pos hlong]

section Sought

variable (hn : IsSought n)
include hn

theorem scan_sought :
    scan fs follow dirOnly l (n :: ns) =
      match fs.get? (l ++ [n]) with
      | none =>
        if ns = [] then .arrived (if dirOnly then .barred false else .free l n)
        else .failed .missing
      | some .directory => scan fs follow dirOnly (l ++ [n]) ns
      | some (.file b) =>
        if ns = [] then .arrived (if dirOnly then .barred true else .found (l ++ [n]) (.file b))
        else .failed .notDirectory
      | some (.link target) =>
        if ns = [] && !dirOnly && !follow then .arrived (.found (l ++ [n]) (.link target))
        else .detour l target ns := by
  rw [scan, if_neg hn.ne_dot, if_neg hn.ne_up]
  exact if_neg hn.short

theorem scan_missing (hnone : fs.get? (l ++ [n]) = none) :
    scan fs follow dirOnly l (n :: ns) =
      if ns = [] then .arrived (if dirOnly then .barred false else .free l n)
      else .failed .missing := by
  rw [scan_sought hn, hnone]

theorem scan_directory (hdirectory : fs.get? (l ++ [n]) = some .directory) :
    scan fs follow dirOnly l (n :: ns) = scan fs follow dirOnly (l ++ [n]) ns := by
  rw [scan_sought hn, hdirectory]

theorem scan_file {b : Bytes} (hfile : fs.get? (l ++ [n]) = some (.file b)) :
    scan fs follow dirOnly l (n :: ns) =
      if ns = [] then .arrived (if dirOnly then .barred true else .found (l ++ [n]) (.file b))
      else .failed .notDirectory := by
  rw [scan_sought hn, hfile]

theorem scan_link {target : Text} (hlink : fs.get? (l ++ [n]) = some (.link target)) :
    scan fs follow dirOnly l (n :: ns) =
      if ns = [] && !dirOnly && !follow then .arrived (.found (l ++ [n]) (.link target))
      else .detour l target ns := by
  rw [scan_sought hn, hlink]

end Sought

/-! ## Look-ups -/

/-- A look-up is a scan and, behind a link that it may follow, another one with one link less. -/
theorem resolve_eq (links : Nat) :
    resolve fs follow links dirOnly l ns =
      match scan fs follow dirOnly l ns with
      | .arrived p => .ok p
      | .failed r => .error r
      | .detour origin target rest =>
        match links with
        | 0 => .error .tooManyLinks
        | links + 1 =>
          resolve fs follow links (if rest = [] then dirOnly || endsWith target ['/'] else dirOnly)
            (startOf target origin) (namesIn target ++ rest) := by
  cases hscan : scan fs follow dirOnly l ns with
  | arrived p => cases links <;> rw [resolve, hscan]
  | failed r => cases links <;> rw [resolve, hscan]
  | detour origin target rest => cases links <;> rw [resolve, hscan]

theorem resolve_congr {m : Location} {ms : List Text}
    (h : scan fs follow dirOnly l ns = scan fs follow dirOnly m ms) (links : Nat) :
    resolve fs follow links dirOnly l ns = resolve fs follow links dirOnly m ms := by
  rw [resolve_eq, resolve_eq, h]

theorem resolve_of_failed {r : Reason} (h : scan fs follow dirOnly l ns = .failed r) (links : Nat) :
    resolve fs follow links dirOnly l ns = .error r := by
  rw [resolve_eq, h]

theorem resolve_of_arrived {p : Place} (h : scan fs follow dirOnly l ns = .arrived p) (links : Nat) :
    resolve fs follow links dirOnly l ns = .ok p := by
  rw [resolve_eq, h]

theorem resolve_zero_of_detour {origin : Location} {target : Text} {rest : List Text}
    (h : scan fs follow dirOnly l ns = .detour origin target rest) :
    resolve fs follow 0 dirOnly l ns = .error .tooManyLinks := by
  rw [resolve_eq, h]

theorem resolve_succ_of_detour {origin : Location} {target : Text} {rest : List Text}
    (h : scan fs follow dirOnly l ns = .detour origin target rest) (links : Nat) :
    resolve fs follow (links + 1) dirOnly l ns =
      resolve fs follow links (if rest = [] then dirOnly || endsWith target ['/'] else dirOnly)
        (startOf target origin) (namesIn target ++ rest) := by
  rw [resolve_eq, h]

end SourceAtlas.FileSystem
