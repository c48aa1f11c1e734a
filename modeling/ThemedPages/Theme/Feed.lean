/-!
# Feeds of changes

Announced changes reach subscribers through a buffer of limited size. A subscriber that has not
kept up misses the oldest changes, and is told how many.
-/

namespace ThemedPages

/-- The capacity of a feed, when nothing else is said. -/
def defaultCapacity : Nat := 64

/-- The size of a buffer of which a capacity is asked: a power of two, and at least one. -/
def bufferSize (capacity : Nat) : Nat := (max 1 capacity).nextPowerOfTwo

/-- What a subscriber receives. -/
inductive Delivery (α : Type u)
  /-- As many changes were missed. -/
  | missed (count : Nat)
  | change (x : α)
  deriving DecidableEq, Repr

/-- What a subscriber that has seen `seen` of all changes so far receives. -/
def deliveries (size seen : Nat) (all : List α) : List (Delivery α) :=
  let new := all.drop seen
  let count := new.length - size
  (if count = 0 then [] else [.missed count]) ++ (new.drop count).map .change

end ThemedPages
