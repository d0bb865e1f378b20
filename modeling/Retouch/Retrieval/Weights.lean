/-
  Weighted token vectors.

  Fitting counts, for each token of a list of documents, how many of them have it.  The place of a
  token among all in increasing order, in a word of 32 bits, is its id, and at its place stands its
  weight: `log ((1 + n) / (1 + d)) + 1`, where `d` of the `n` documents have the token.  A text is then
  a sparse vector: for each id of its tokens, how often it occurs times the weight at the id, scaled to
  length one.  Entries are in increasing order of their ids.
-/
import Retouch.Retrieval.Tokens

namespace Retouch

/-! ## Sparse vectors -/

/-- Pairs of an id and a weight, the ids increasing. -/
abbrev SparseVector := List (Nat × Float)

namespace SparseVector

/-- Whether the vector has no entries. -/
def isZero (v : SparseVector) : Bool := v.isEmpty

/-- `acc` plus the products of the weights of the ids that both vectors have. -/
def dotFrom (acc : Float) : (v w : SparseVector) → Float
  | [], _ => acc
  | _ :: _, [] => acc
  | (i, x) :: v, (j, y) :: w =>
    if i < j then dotFrom acc v ((j, y) :: w)
    else if j < i then dotFrom acc ((i, x) :: v) w
    else dotFrom (acc + x * y) v w
termination_by v w => v.length + w.length

/-- The inner product. -/
def dot (v w : SparseVector) : Float := dotFrom 0 v w

/-- The length of the vector. -/
def norm (v : SparseVector) : Float :=
  Float.sqrt (v.foldl (fun (acc : Float) (e : Nat × Float) => acc + e.2 * e.2) 0)

/-- The vector scaled to length one; nothing if it has no length. -/
def normalized (v : SparseVector) : SparseVector :=
  if 0 < norm v then v.map fun e => (e.1, e.2 / norm v) else []

end SparseVector

/-! ## Tables in increasing order of their keys -/

section Tables

variable {α β : Type} [LT α] [DecidableLT α] [DecidableEq α]

/-- Steps the value at a key; a new key steps from `start`. -/
def stepKey (step : β → β) (start : β) (a : α) : List (α × β) → List (α × β)
  | [] => [(a, step start)]
  | (b, x) :: table =>
    if a < b then (a, step start) :: (b, x) :: table
    else if a = b then (b, step x) :: table
    else (b, x) :: stepKey step start a table

/-- The table of some keys, the value of each stepped as often as the key occurs. -/
def tally (step : β → β) (start : β) (keys : List α) : List (α × β) :=
  keys.foldl (fun table a => stepKey step start a table) []

end Tables

/-! ## Fitting -/

/-- A token put into an increasing list, unless it is there. -/
def insertTerm (t : Text) : List Text → List Text
  | [] => [t]
  | u :: us => if t < u then t :: u :: us else if t = u then u :: us else u :: insertTerm t us

/-- Some tokens in increasing order, each once. -/
def distinct (ts : List Text) : List Text := ts.foldr insertTerm []

/-- The tokens of some documents with the number of documents that have them. -/
def documentCounts (documents : List Text) : List (Text × Nat) :=
  tally (· + 1) 0 (documents.flatMap fun d => distinct (tokens d))

/-- The weight of a token that `d` of `n` documents have. -/
def termWeight (n d : Nat) : Float := ((1 + n.toFloat) / (1 + d.toFloat)).log + 1

/-- Ids are below this number. -/
def idSize : Nat := Nat.pow 2 32

/-- The weights at the ids, and the ids of the tokens. -/
structure Weights where
  idf : List Float
  ids : List (Text × Fin idf.length)

namespace Weights

/-- The weights of tokens in increasing order, with how many of `n` documents have each. -/
def ofCounts (n : Nat) (counts : List (Text × Nat)) : Weights where
  idf := counts.map fun e => termWeight n e.2
  ids := counts.mapFinIdx fun i e hi =>
    (e.1, ⟨i % idSize, by rw [List.length_map]; exact Nat.lt_of_le_of_lt (Nat.mod_le i idSize) hi⟩)

/-- The weights of the tokens of a list of documents. -/
def fit (documents : List Text) : Weights := ofCounts documents.length (documentCounts documents)

/-- The number of tokens. -/
def size (w : Weights) : Nat := w.idf.length

/-- The id of a token. -/
def termId? (w : Weights) (t : Text) : Option (Fin w.idf.length) := w.ids.lookup t

/-- How often each id of the tokens `ts` occurs, times the weight at the id. -/
def weigh (w : Weights) (ts : List Text) : SparseVector :=
  (tally (· + 1) (0 : Float) (ts.filterMap w.termId?)).map fun (id, n) => (id.val, n * w.idf.get id)

/-- The vector of a text. -/
def vector (w : Weights) (t : Text) : SparseVector := (w.weigh (tokens t)).normalized

end Weights

end Retouch
