/-
  Retrieval of the nearest entry of a corpus.

  The index of a corpus has a row for each entry: the vector of its code and its fingerprint.  A text
  that is the code of an entry is nearest to the first such entry, with similarity one; otherwise the
  row with the greatest inner product is nearest, the first of several (`better`).
-/
import Retouch.Corpus.Basic
import Retouch.Retrieval.Weights
import Retouch.Source

namespace Retouch

/-- Of two rows with their scores, the one that scores more, and the lower one if they tie. -/
def better {S : Type} [LT S] [DecidableLT S] [BEq S] (a b : Nat × S) : Nat × S :=
  if a.2 < b.2 ∨ (b.2 == a.2 ∧ b.1 < a.1) then b else a

/-- The best of a list of rows with their scores. -/
def best? {S : Type} [LT S] [DecidableLT S] [BEq S] : List (Nat × S) → Option (Nat × S)
  | [] => none
  | a :: rows => some (rows.foldl better a)

/-- A vector and a fingerprint for each entry of a corpus. -/
structure Index where
  weights : Weights
  rows : List SparseVector
  fingerprints : List Text

namespace Index

/-- The index of a corpus. -/
def build (c : Corpus) : Index :=
  let codes := c.map (·.code)
  let weights := Weights.fit codes
  ⟨weights, codes.map weights.vector, codes.map Source.fingerprintOf⟩

/-- The inner products of a vector with all rows. -/
def scores (i : Index) (v : SparseVector) : List (Nat × Float) :=
  i.rows.zipIdx.map fun (w, row) => (row, v.dot w)

/-- The nearest row to a text and its similarity. -/
def nearest? (i : Index) (t : Text) : Option (Nat × Float) :=
  if i.rows.isEmpty then none
  else
    let print := Source.fingerprintOf t
    match i.fingerprints.findIdx? (· == print) with
    | some row => some (row, 1)
    | none => best? (i.scores (i.weights.vector t))

end Index

/-- The nearest entry to a text. -/
structure Neighbour where
  index : Nat
  score : Float
  entry : Entry

/-- A corpus with its index. -/
structure Retriever where
  corpus : Corpus
  index : Index

namespace Retriever

/-- The retriever over a corpus. -/
def new (c : Corpus) : Retriever := ⟨c, Index.build c⟩

/-- Whether there is nothing to retrieve. -/
def isEmpty (r : Retriever) : Bool := r.corpus.isEmpty

/-- The nearest entry to a text. -/
def retrieve? (r : Retriever) (t : Text) : Option Neighbour := do
  let (index, score) ← r.index.nearest? t
  let entry ← r.corpus[index]?
  return ⟨index, score, entry⟩

end Retriever

end Retouch
