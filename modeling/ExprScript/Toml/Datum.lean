import ExprScript.Number.Basic

/-!
# Plain data

What a configuration holds: nothing, truth values, integers of any size, other numbers,
texts, dates and times, lists, and tables, which keep their keys in the order in which they
were first set.
-/

namespace ExprScript

/-- A piece of a configuration. Of a date or a time only that it is one is kept. -/
inductive PlainData where
  | null
  | truth (value : Bool)
  | whole (value : Int)
  | number (value : Number)
  | text (value : String)
  | moment
  | list (items : List PlainData)
  | table (entries : List (String × PlainData))
  deriving Inhabited

namespace PlainData

/-- The entries with `key` set to `value`: in its place, or else at the end. -/
def setEntry (key : String) (value : PlainData) :
    List (String × PlainData) → List (String × PlainData)
  | [] => [(key, value)]
  | (k, old) :: rest =>
    if k = key then (k, value) :: rest else (k, old) :: setEntry key value rest

end PlainData

end ExprScript
