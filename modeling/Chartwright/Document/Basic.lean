import Chartwright.Dict
import Chartwright.Number.Binary64
import Chartwright.Time.Moment

/-!
# Documents

Values of the data languages: scalars, lists and mappings whose order is kept. A mapping has
scalars for keys; in most of them all keys are texts.
-/

namespace Chartwright

/-- A value without parts. -/
inductive Scalar where
  | null
  | bool (value : Bool)
  | int (value : Int)
  | float (value : Binary64)
  | text (value : String)
  | date (value : Date)
  | moment (value : Moment)
deriving DecidableEq, Repr, Inhabited

/-- A value of a data language. -/
inductive Document where
  | scalar (value : Scalar)
  | list (items : List Document)
  | mapping (entries : List (Scalar × Document))
deriving Repr, Inhabited

namespace Document

@[match_pattern] abbrev null : Document := .scalar .null
@[match_pattern] abbrev bool (b : Bool) : Document := .scalar (.bool b)
@[match_pattern] abbrev int (n : Int) : Document := .scalar (.int n)
@[match_pattern] abbrev float (x : Binary64) : Document := .scalar (.float x)
@[match_pattern] abbrev text (s : String) : Document := .scalar (.text s)

/-- A mapping whose keys are texts. -/
def object (entries : List (String × Document)) : Document :=
  .mapping (entries.map fun (k, v) => (.text k, v))

/-- A mapping from texts to texts. -/
def textTable (entries : List (String × String)) : Document :=
  object (entries.map fun (k, v) => (k, .text v))

/-- A list of texts. -/
def texts (items : List String) : Document := .list (items.map .text)

/-- A value, or null if there is none. -/
def ofOption {α : Type} (f : α → Document) (x : Option α) : Document := x.elim .null f

/-- The entry of a mapping under a text. -/
def get? (d : Document) (key : String) : Option Document :=
  match d with
  | .mapping entries => Dict.get? entries (.text key)
  | _ => none

mutual

/-- Decides whether two documents are equal. -/
def decEq : (d e : Document) → Decidable (d = e)
  | .scalar a, .scalar b =>
    if h : a = b then isTrue (by rw [h]) else isFalse (by simp [h])
  | .list xs, .list ys =>
    match decEqList xs ys with
    | isTrue h => isTrue (by rw [h])
    | isFalse h => isFalse (by simp [h])
  | .mapping xs, .mapping ys =>
    match decEqEntries xs ys with
    | isTrue h => isTrue (by rw [h])
    | isFalse h => isFalse (by simp [h])
  | .scalar _, .list _ | .scalar _, .mapping _ | .list _, .scalar _ | .list _, .mapping _
  | .mapping _, .scalar _ | .mapping _, .list _ => isFalse (by simp)

/-- Decides whether two lists of documents are equal. -/
def decEqList : (xs ys : List Document) → Decidable (xs = ys)
  | [], [] => isTrue rfl
  | [], _ :: _ | _ :: _, [] => isFalse (by simp)
  | x :: xs, y :: ys =>
    match decEq x y, decEqList xs ys with
    | isTrue h, isTrue k => isTrue (by rw [h, k])
    | isFalse h, _ => isFalse (by simp [h])
    | _, isFalse k => isFalse (by simp [k])

/-- Decides whether two lists of entries are equal. -/
def decEqEntries : (xs ys : List (Scalar × Document)) → Decidable (xs = ys)
  | [], [] => isTrue rfl
  | [], _ :: _ | _ :: _, [] => isFalse (by simp)
  | (k, x) :: xs, (l, y) :: ys =>
    if hk : k = l then
      match decEq x y, decEqEntries xs ys with
      | isTrue h, isTrue t => isTrue (by rw [hk, h, t])
      | isFalse h, _ => isFalse (by simp [h])
      | _, isFalse t => isFalse (by simp [t])
    else isFalse (by simp [hk])

end

instance : DecidableEq Document := decEq

/-- Whether a value counts as empty: null, false, zero, or nothing inside. -/
def isEmpty : Document → Bool
  | .null | .bool false | .int 0 | .text "" | .list [] | .mapping [] => true
  | .float (.finite _ 0 _) => true
  | _ => false

end Document

end Chartwright
