import Chartwright.Document.Basic

/-!
# Issues

What can be wrong with a document that should have a certain shape, where it is, and the words for
it.
-/

namespace Chartwright.Schema

/-- A limit on an integer. -/
inductive Bound where
  | above (n : Int)
  | atLeast (n : Int)
  | below (n : Int)
  | atMost (n : Int)
deriving DecidableEq, Repr

/-- Whether an integer keeps a limit. -/
def Bound.holds (n : Int) : Bound → Bool
  | .above b => b < n
  | .atLeast b => b ≤ n
  | .below b => n < b
  | .atMost b => n ≤ b

/-- What is wrong with a value. -/
inductive Cause where
  | missing
  | unknownKey
  | keyNotText
  | notText
  | tooShort (least : Nat)
  | tooLong (most : Nat)
  | pattern (source : String)
  | notInteger
  | unreadableInteger
  | fractionalInteger
  | infiniteInteger
  | oversizedInteger
  | bound (limit : Bound)
  | notFlag
  | unreadableFlag
  | notList
  | notMapping
  | notRecord (title : String)
  | notChoice (options : List String)
  | notDuration
  | unreadableDuration
  | notMoment
  | momentOutOfRange
  | unreadableMoment
  | rule (text : String)
deriving DecidableEq, Repr

/-- A step into a document. -/
inductive Step where
  | key (name : Scalar)
  /-- A field, under the key that was given for it, next to the one that it goes by. -/
  | field (given usual : String)
  | index (n : Nat)
deriving DecidableEq, Repr

/-- Something wrong at a place. -/
structure Issue where
  path : List Step
  cause : Cause
deriving DecidableEq, Repr

/-- An issue seen from one step further out. -/
def Issue.under (step : Step) (issue : Issue) : Issue := { issue with path := step :: issue.path }

/-- The name of a kind of issue. -/
def Cause.kind : Cause → String
  | .missing => "missing"
  | .unknownKey => "extra_forbidden"
  | .keyNotText => "invalid_key"
  | .notText => "string_type"
  | .tooShort _ => "string_too_short"
  | .tooLong _ => "string_too_long"
  | .pattern _ => "string_pattern_mismatch"
  | .notInteger => "int_type"
  | .unreadableInteger => "int_parsing"
  | .fractionalInteger => "int_from_float"
  | .infiniteInteger => "finite_number"
  | .oversizedInteger => "int_parsing_size"
  | .bound (.above _) => "greater_than"
  | .bound (.atLeast _) => "greater_than_equal"
  | .bound (.below _) => "less_than"
  | .bound (.atMost _) => "less_than_equal"
  | .notFlag => "bool_type"
  | .unreadableFlag => "bool_parsing"
  | .notList => "list_type"
  | .notMapping => "dict_type"
  | .notRecord _ => "model_type"
  | .notChoice _ => "enum"
  | .notDuration => "time_delta_type"
  | .unreadableDuration => "time_delta_parsing"
  | .notMoment => "datetime_type"
  | .momentOutOfRange => "datetime_parsing"
  | .unreadableMoment => "datetime_from_date_parsing"
  | .rule _ => "value_error"

/-- A count of characters. -/
def characters (n : Nat) : String := toString n ++ if n = 1 then " character" else " characters"

/-- A text between single quotes, as it is. -/
def ticked (s : String) : String := "'" ++ s ++ "'"

/-- Options between quotes, the last one behind an "or". -/
def alternatives : List String → String
  | [] => ""
  | [a] => ticked a
  | [a, b] => ticked a ++ " or " ++ ticked b
  | a :: rest => ticked a ++ ", " ++ alternatives rest

/-- The words for a limit. -/
def Bound.message : Bound → String
  | .above n => "Input should be greater than " ++ toString n
  | .atLeast n => "Input should be greater than or equal to " ++ toString n
  | .below n => "Input should be less than " ++ toString n
  | .atMost n => "Input should be less than or equal to " ++ toString n

/-- The words for an issue; those for times say nothing that the kind does not say. -/
def Cause.message? : Cause → Option String
  | .missing => some "Field required"
  | .unknownKey => some "Extra inputs are not permitted"
  | .keyNotText => some "Keys should be strings"
  | .notText => some "Input should be a valid string"
  | .tooShort n => some ("String should have at least " ++ characters n)
  | .tooLong n => some ("String should have at most " ++ characters n)
  | .pattern source => some ("String should match pattern '" ++ source ++ "'")
  | .notInteger => some "Input should be a valid integer"
  | .unreadableInteger =>
    some "Input should be a valid integer, unable to parse string as an integer"
  | .fractionalInteger =>
    some "Input should be a valid integer, got a number with a fractional part"
  | .infiniteInteger => some "Input should be a finite number"
  | .oversizedInteger => some "Unable to parse input string as an integer, exceeded maximum size"
  | .bound limit => some limit.message
  | .notFlag => some "Input should be a valid boolean"
  | .unreadableFlag => some "Input should be a valid boolean, unable to interpret input"
  | .notList => some "Input should be a valid list"
  | .notMapping => some "Input should be a valid dictionary"
  | .notRecord title => some ("Input should be a valid dictionary or instance of " ++ title)
  | .notChoice options => some ("Input should be " ++ alternatives options)
  | .rule text => some ("Value error, " ++ text)
  | .notDuration | .unreadableDuration | .notMoment | .momentOutOfRange | .unreadableMoment => none

end Chartwright.Schema
