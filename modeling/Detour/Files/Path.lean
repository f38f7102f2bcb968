import Detour.Files.Fault

/-!
# Paths

A path is a root and parts. Repeated slashes, slashes at the end and parts that are a single dot are
dropped when a path is read; two dots stay, for what they mean depends on the files. Exactly two
slashes at the start are a root of their own.
-/
namespace Detour.Files

open Text

inductive Root
  | relative
  | single
  | double
  deriving DecidableEq, Repr

structure Path where
  root : Root
  parts : List Text
  deriving DecidableEq, Repr

namespace Path

def rootOf (t : Text) : Root :=
  match (t.takeWhile (· == 47)).length with
  | 0 => .relative
  | 2 => .double
  | _ => .single

def ofText (t : Text) : Path :=
  ⟨rootOf t, (splitOn 47 t).filter fun p => p ≠ [] && p ≠ [46]⟩

def rootText : Root → Text
  | .relative => []
  | .single => [47]
  | .double => [47, 47]

def text (p : Path) : Text :=
  if p.root = .relative && p.parts = [] then [46] else rootText p.root ++ joinWith [47] p.parts

def parent (p : Path) : Path := ⟨p.root, p.parts.dropLast⟩

/-- The last part; empty if there is none. -/
def name (p : Path) : Text := p.parts.getLastD []

def child (p : Path) (name : Text) : Path := ⟨p.root, p.parts ++ [name]⟩

/-- Two dots take back the part before them. -/
def foldDots (parts : List Text) : List Text :=
  parts.foldl (fun done p => if p = [46, 46] then done.dropLast else done ++ [p]) []

/-- The path from the root, without looking at the files. -/
def absolute (p base : Path) : Path :=
  let p := if p.root = .relative then ⟨base.root, base.parts ++ p.parts⟩ else p
  ⟨p.root, foldDots p.parts⟩

/-- The home directories of the user and of the other accounts. -/
structure Homes where
  own : Text
  accounts : Table Text Text

/-- The accounts that every system has. -/
def systemAccounts : Table Text Text :=
  [("root", "/root"), ("daemon", "/usr/sbin"), ("bin", "/bin"), ("sys", "/dev"), ("sync", "/bin"),
   ("games", "/usr/games"), ("man", "/var/cache/man"), ("lp", "/var/spool/lpd"),
   ("mail", "/var/mail"), ("news", "/var/spool/news"), ("uucp", "/var/spool/uucp"),
   ("proxy", "/bin"), ("www-data", "/var/www"), ("backup", "/var/backups"), ("list", "/var/list"),
   ("irc", "/run/ircd"), ("_apt", "/nonexistent"), ("nobody", "/nonexistent")]

/-- Why a home directory is not found. -/
inductive HomeFault
  | unknown
  | bad (fault : Fault)
  deriving DecidableEq, Repr

def HomeFault.toFailure : HomeFault → Failure
  | .unknown => .simple "RuntimeError" "Could not determine home directory."
  | .bad f => f.toFailure

/-- The home directory that a part starting with a tilde stands for. -/
def homeOf (homes : Homes) (user : Text) : Except HomeFault Text :=
  if user = [] then .ok homes.own
  else match pathOctets user with
    | .error f => .error (.bad f)
    | .ok _ =>
      match homes.accounts.get? user with
      | none => .error .unknown
      | some home => .ok home

def expandHome (homes : Homes) (p : Path) : Except HomeFault Path :=
  match p.root, p.parts with
  | .relative, (126 :: user) :: rest =>
    match homeOf homes user with
    | .error f => .error f
    | .ok home =>
      let home := dropEnd (· == 47) home
      if home.head? = some 126 then .error .unknown
      else
        let base := ofText (if home = [] then [47] else home)
        .ok ⟨base.root, base.parts ++ rest⟩
  | _, _ => .ok p

end Path
end Detour.Files
