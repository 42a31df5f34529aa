import Flowprint.Flowgraph.Basic

/-! The n-grams of a function are the windows on its sequence of mnemonics. -/

namespace Flowprint

namespace Ngram

/--
The number of elements before a stop in a sequence.

A negative stop counts from the end, and nothing lies before the beginning.
-/
def stopIndex (length : Nat) (stop : Int) : Nat :=
  if 0 ≤ stop then stop.toNat else (length + stop).toNat

/-- The part of a sequence from an index on, up to the stop that lies `size` further. -/
def window {α : Type} (sequence : List α) (size : Int) (index : Nat) : List α :=
  -- A stop before the index leaves nothing.
  (sequence.drop index).take (stopIndex sequence.length (index + size) - index)

/-- The windows that start at each index from which `size` more elements end within the sequence. -/
def windows {α : Type} (sequence : List α) (size : Int) : List (List α) :=
  (List.range (sequence.length - size + 1).toNat).map (window sequence size)

end Ngram

/-- How many mnemonics make up a feature. -/
def mnemonicTupleSize : Int := 3

/-- The n-grams of a function; they do not stop at the boundary of a block. -/
def Flowgraph.ngrams (function : Flowgraph) (size : Int) : List (List String) :=
  Ngram.windows function.mnemonics size

end Flowprint
