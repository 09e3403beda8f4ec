import Chartwright.Command.Run

/-!
# Endings

What the one who started the program sees of its end. Messages and tables are printed as marked-up
text, so there may be wrong marks in what files and names have brought into one, and then the
program ends with the error about them.
-/

namespace Chartwright.Command

/-- What is seen at the end of the program. -/
inductive Display where
  | text (text : String)
  | table (title : String) (rows : List (List String))
  | notice (shown : String)
  | usage
  | message (shown : String)
  /-- An error that nothing is prepared for. -/
  | crash (escape : Escape)
deriving DecidableEq, Repr

/-- How the program ends. -/
structure Ending where
  status : Nat
  display : Display
deriving DecidableEq, Repr

/-- A failure as it is printed. -/
def failureText (message : String) : String := "[red]Error:[/red] " ++ message

/-- The mark for what is done, or as it should be. -/
def mark : String := "[green]✓[/green]"

/-- The directory of a chart as it is printed. -/
def chartText (directory : Path) : String := mark ++ " Chart written to " ++ directory.render

/-- The cells of a row of the table of processes. -/
def cells (row : String × String × Bool) : List String :=
  [row.1, row.2.1, if row.2.2 then mark else ""]

/-- The end with what is to be seen, unless it cannot be shown. -/
def Ending.ofShown (status : Nat) : Except ForeignError Display → Ending
  | .ok display => ⟨status, display⟩
  | .error error => ⟨1, .crash (.raised error)⟩

namespace Libraries

/-- The table of the processes of a procfile. -/
def table (l : Libraries) (file : Path) (rows : List (String × String × Bool)) :
    Except ForeignError Display := do
  let title ← l.shown file.render
  let rows ← rows.mapM fun row => (cells row).mapM l.shown
  return .table title rows

/-- How the program ends with a result of its command. -/
def ending (l : Libraries) : Except Failure Output → Ending
  | .ok (.text text) => ⟨0, .text text⟩
  | .ok (.processes file rows) => .ofShown 0 (l.table file rows)
  | .ok (.chart directory) => .ofShown 0 ((l.shown (chartText directory)).map .notice)
  | .error .misused => ⟨2, .usage⟩
  | .error (.reported message) => .ofShown 1 ((l.shown (failureText message)).map .message)
  | .error (.escaped escape) => ⟨1, .crash escape⟩

end Libraries

end Chartwright.Command
