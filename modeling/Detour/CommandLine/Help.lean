import Detour.Text.Basic

/-!
# Help texts

A help text begins with the usage and goes on with the arguments. Every argument has an explanation,
which stands in a column of its own.
-/
namespace Detour.CommandLine.Help

open Text

/-- The column of the explanations. -/
def column : Nat := 24

def line (t : Text) : Text := t ++ [10]

def spaces (n : Nat) : Text := repeated n 32

/-- A name with the lines of its explanation. The first of them stands beside the name if there is
room for two spaces between the two. -/
def row (indent : Nat) (name : Text) (explanation : List Text) : Text :=
  let name := spaces indent ++ name
  let explained := explanation.map fun l => line (spaces column ++ l)
  if name.length + 2 ≤ column then padTo column name ++ (explained.flatten.drop column)
  else line name ++ explained.flatten

def listing (title : Text) (rows : List Text) : Text :=
  line [] ++ line (title ++ ":") ++ rows.flatten

/-- The usage on two lines: the options stand on the first one, what else is expected on the second
one below them. -/
def usage (program options expected : Text) : Text :=
  let start := "usage: " ++ program ++ " "
  line (start ++ options) ++ line (spaces start.length ++ expected)

/-- Names of which one is chosen. -/
def choices (names : List Text) : Text := "\x7b" ++ joinWith [44] names ++ "\x7d"

def helpRow : Text := row 2 "-h, --help" ["show this help message and exit"]

end Detour.CommandLine.Help
