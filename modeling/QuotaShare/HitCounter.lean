/-!
# Hit counter

The number of hits in a trailing window of time.  The window is cut into ten slices, and a ring of
ten slots counts the hits of the last slices; a slot is started over when a newer slice needs it.
-/

namespace QuotaShare

/-- The number of slices in a window. -/
def HitCounter.slices : Nat := 10

/-- The longest window, seven days in nanoseconds. -/
def HitCounter.maxWindow : Nat := 7 * 24 * 3600 * 1000000000

/-- The hits of one slice of time. -/
structure Slot where
  /-- The index of the slice, counted from the origin of the counter. -/
  stamp : UInt64
  /-- The hits in the slice, fewer than two to the power of 64.  They are kept in a word, but as many
  hits do not happen within a slice, so nothing is said of a number that does not fit it. -/
  hits : Nat
  deriving DecidableEq, Repr

/-- The slot of the first slice, without hits. -/
def Slot.empty : Slot := ⟨0, 0⟩

/-- The slot after a hit in slice `index`: one hit more, or started over for another slice. -/
def Slot.record (slot : Slot) (index : UInt64) : Slot :=
  if slot.stamp = index then { slot with hits := slot.hits + 1 } else ⟨index, 1⟩

/-- A counter of hits over a trailing window. -/
structure HitCounter where
  /-- The instant at which the counter was made. -/
  origin : Nat
  /-- The length of a slice in nanoseconds. -/
  width : Nat
  /-- The ring of slots; slice `i` is counted in slot `i` modulo the number of slots. -/
  ring : Vector Slot 10
  deriving DecidableEq, Repr

namespace HitCounter

/-- A counter made at `origin`, over a window that is cut at seven days. -/
def start (window origin : Nat) : HitCounter where
  origin
  width := max (min window maxWindow / slices) 1
  ring := Vector.replicate 10 Slot.empty

/-- The length of the window in nanoseconds. -/
def window (c : HitCounter) : Nat :=
  c.width * slices

/-- The index of the slice that holds an instant, as a word. -/
def slice (c : HitCounter) (now : Nat) : UInt64 :=
  ((now - c.origin) / c.width).toUInt64

/-- The place of a slice in the ring. -/
def place (index : UInt64) : Fin 10 :=
  ⟨index.toNat % 10, Nat.mod_lt _ (by decide)⟩

/-- The counter after a hit at `now`. -/
def hit (c : HitCounter) (now : Nat) : HitCounter :=
  let index := c.slice now
  { c with ring := c.ring.set (place index) (c.ring[place index].record index) }

/-- Whether slice `stamp` lies in the window that ends with slice `index`. -/
def recent (index stamp : UInt64) : Bool :=
  stamp ≤ index && index - stamp < 10

/-- The hits in the window that ends at `now`. -/
def count (c : HitCounter) (now : Nat) : Nat :=
  (c.ring.toList.filter fun slot => recent (c.slice now) slot.stamp).foldl
    (fun n slot => n + slot.hits) 0

end HitCounter

end QuotaShare
