import Chartwright.Yaml.Printer
import Chartwright.Yaml.Reader
import Chartwright.Schema.Shape

/-!
# Libraries

What commands leave to others: loading YAML and writing it, checking what is loaded against a shape,
words for bytes that are no text, and showing a marked-up text. Each may fail with an error that the
commands are prepared for, or with another one. A command is run with any libraries, so nothing that
holds of it depends on how they work.
-/

namespace Chartwright.Command

open Schema

/-- Why a library fails. -/
inductive LibraryError where
  /-- With an error that is provided for; the text is what it says. -/
  | expected (text : String)
  | other (error : ForeignError)
deriving DecidableEq, Repr

/-- What the commands leave to others. -/
structure Libraries where
  /-- What a text can be loaded as; documents stand for what of it ends up in a chart. -/
  Loaded : Type
  load : String → Except LibraryError Loaded
  isMapping : Loaded → Bool
  validate : {α : Type} → Shape α → Loaded → Except LibraryError α
  dump : Document → Except ForeignError String
  /-- What is said about bytes that are not in UTF-8. -/
  undecodable : ByteArray → String
  /-- What is seen of a marked-up text; it may have wrong marks. -/
  shown : String → Except ForeignError String

/-- The first line about a document that has not its shape. -/
def rejectionLine (r : Rejection) : String :=
  let n := r.issues.length
  toString n ++ " validation error" ++ (if n = 1 then "" else "s") ++ " for " ++ r.title

namespace Libraries

/-- The error of a loader for a text without a value. -/
def loadError : Yaml.ReadProblem → LibraryError
  | .malformed => .expected "malformed"
  | .noSuchValue error => .other error

/-- A text without the marks for colours, whatever else is between brackets. -/
def withoutColours (text : String) : String :=
  ["[red]", "[/red]", "[green]", "[/green]"].foldl (fun text mark => text.replace mark "") text

/-- The libraries of this program. -/
def own : Libraries where
  Loaded := Document
  load text := (Yaml.read text).mapError loadError
  isMapping
    | .mapping _ => true
    | _ => false
  validate shape d := (shape.read d).mapError fun rejection => .expected (rejectionLine rejection)
  dump d := .ok (Yaml.print d)
  undecodable _ := "not in UTF-8"
  shown text := .ok (withoutColours text)

end Libraries

end Chartwright.Command
