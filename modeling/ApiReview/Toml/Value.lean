import ApiReview.Number.Binary64
import ApiReview.Table
import ApiReview.Toml.Moment

/-!
# TOML values

The values that a TOML text can give to a name.
-/

namespace ApiReview.Toml

/-- A value of a TOML text. -/
inductive Value where
  | text (s : String)
  | integer (n : Int)
  | real (x : Binary64)
  | flag (b : Bool)
  | moment (m : Moment)
  | list (items : List Value)
  | table (entries : List (String × Value))
deriving Repr, Inhabited

end ApiReview.Toml
