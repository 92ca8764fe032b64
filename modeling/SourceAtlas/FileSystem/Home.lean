import SourceAtlas.FileSystem.Basic

/-!
# Home directories in paths

A path that begins with `~` stands below a home directory: the own one, or that of the user whose
name follows the tilde.  A user who is not known leaves the path as it is.
-/

namespace SourceAtlas.Workspace

/-- The home directory of a user, the own one for the empty name. -/
def homeOf? (ws : Workspace) (user : Text) : Option Text :=
  (ws.homes.find? (·.1 = user)).map (·.2)

/-- A text with the home directory in place of its tilde. -/
def expandHome (ws : Workspace) (t : Text) : Text :=
  match t with
  | '~' :: rest =>
    let user := rest.takeWhile (· ≠ '/')
    match ws.homeOf? user with
    | some home =>
      let bare := (home.reverse.dropWhile (· = '/')).reverse
      let whole := bare ++ rest.dropWhile (· ≠ '/')
      if whole = [] then ['/'] else whole
    | none => t
  | _ => t

/-- A path with the home directory in place of a tilde at its beginning; `none` when no home
directory is known. -/
def expandHomePath? (ws : Workspace) (p : Path) : Option Path :=
  match p.anchor, p.names with
  | .relative, first :: rest =>
    if first.head? = some '~' then
      let home := ws.expandHome first
      if home.head? = some '~' then none
      else
        let base := Path.ofText home
        some { base with names := base.names ++ rest }
    else some p
  | _, _ => some p

end SourceAtlas.Workspace
