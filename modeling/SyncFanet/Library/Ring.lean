import Mathlib.Data.List.Rotate

/-!
# Rings

A ring is an array that is written slot after slot and starts again at the front when
its end is reached. Read from the slot to be written next, it holds the last items in
the order in which they were written.
-/

set_option autoImplicit false

namespace SyncFanet

variable {Item : Type}

structure Ring (Item : Type) where
  slots : List Item
  next : Nat
  inside : next < slots.length

namespace Ring

def blank (size : Nat) (item : Item) (nonempty : 0 < size) : Ring Item where
  slots := List.replicate size item
  next := 0
  inside := by simpa using nonempty

def write (item : Item) (ring : Ring Item) : Ring Item where
  slots := ring.slots.set ring.next item
  next := (ring.next + 1) % ring.slots.length
  inside := by
    have positive : 0 < ring.slots.length := Nat.zero_lt_of_lt ring.inside
    simpa using Nat.mod_lt _ positive

/-- The item that is written over next. -/
def oldest (ring : Ring Item) : Item := ring.slots.get ⟨ring.next, ring.inside⟩

/-- The items, the oldest first. -/
def inOrder (ring : Ring Item) : List Item := ring.slots.rotate ring.next

@[simp] theorem blank_slots (size : Nat) (item : Item) (nonempty : 0 < size) :
    (blank size item nonempty).slots = List.replicate size item := rfl

@[simp] theorem blank_next (size : Nat) (item : Item) (nonempty : 0 < size) :
    (blank size item nonempty).next = 0 := rfl

@[simp] theorem write_slots (item : Item) (ring : Ring Item) :
    (ring.write item).slots = ring.slots.set ring.next item := rfl

@[simp] theorem write_next (item : Item) (ring : Ring Item) :
    (ring.write item).next = (ring.next + 1) % ring.slots.length := rfl

@[simp] theorem inOrder_blank (size : Nat) (item : Item) (nonempty : 0 < size) :
    (blank size item nonempty).inOrder = List.replicate size item := by
  simp [inOrder]

theorem inOrder_perm (ring : Ring Item) : ring.inOrder.Perm ring.slots :=
  List.rotate_perm ring.slots ring.next

/-- What is written is the newest item, and the oldest is gone. -/
theorem inOrder_write (item : Item) (ring : Ring Item) :
    (ring.write item).inOrder = ring.inOrder.tail ++ [item] := by
  have inside := ring.inside
  have sameLength : (ring.slots.set ring.next item).length = ring.slots.length := by simp
  have oldest : ring.slots.rotate ring.next =
      ring.slots[ring.next] :: (ring.slots.drop (ring.next + 1) ++ ring.slots.take ring.next) := by
    rw [List.rotate_eq_drop_append_take (Nat.le_of_lt inside), List.drop_eq_getElem_cons inside]
    rfl
  have newest : (ring.slots.set ring.next item).take (ring.next + 1) =
      ring.slots.take ring.next ++ [item] := by
    rw [List.take_add_one, List.take_set_of_le (Nat.le_refl _)]
    simp [inside]
  calc (ring.write item).inOrder
      = (ring.slots.set ring.next item).rotate (ring.next + 1) := by
        rw [inOrder, write_slots, write_next, ← sameLength, List.rotate_mod]
    _ = (ring.slots.set ring.next item).drop (ring.next + 1) ++
          (ring.slots.set ring.next item).take (ring.next + 1) :=
        List.rotate_eq_drop_append_take (by simpa using Nat.succ_le_of_lt inside)
    _ = ring.slots.drop (ring.next + 1) ++ (ring.slots.take ring.next ++ [item]) := by
        rw [List.drop_set_of_lt (Nat.lt_succ_self _), newest]
    _ = ring.inOrder.tail ++ [item] := by
        rw [inOrder, oldest]
        simp

end Ring

/-! ## Last items -/

/-- The last `size` items, after `blank`s where there are not so many. -/
def lastItems (size : Nat) (blank : Item) (items : List Item) : List Item :=
  List.replicate (size - items.length) blank ++ items.drop (items.length - size)

@[simp] theorem length_lastItems (size : Nat) (blank : Item) (items : List Item) :
    (lastItems size blank items).length = size := by
  simp [lastItems]
  omega

theorem lastItems_snoc {size : Nat} (blank : Item) (items : List Item) (item : Item)
    (nonempty : 0 < size) :
    lastItems size blank (items ++ [item]) = (lastItems size blank items).tail ++ [item] := by
  by_cases short : items.length < size
  · have fewer : size - items.length = (size - (items.length + 1)) + 1 := by omega
    have all : items.length - size = 0 := by omega
    have allNext : items.length + 1 - size = 0 := by omega
    simp [lastItems, fewer, all, allNext, List.replicate_succ]
  · have noBlank : size - items.length = 0 := by omega
    have noBlankNext : size - (items.length + 1) = 0 := by omega
    have one : items.length + 1 - size = (items.length - size) + 1 := by omega
    have within : items.length - size + 1 ≤ items.length := by omega
    simp [lastItems, noBlank, noBlankNext, one, List.drop_append_of_le_length within]

theorem Ring.length_writes (items : List Item) (ring : Ring Item) :
    (items.foldl (fun ring item => ring.write item) ring).slots.length = ring.slots.length := by
  induction items generalizing ring with
  | nil => rfl
  | cons item items ih =>
      rw [List.foldl_cons, ih]
      simp

/-- A ring after any number of writes, which may wrap any number of times. -/
theorem Ring.inOrder_writes {size : Nat} (blank : Item) (items : List Item)
    (nonempty : 0 < size) :
    (items.foldl (fun ring item => ring.write item) (Ring.blank size blank nonempty)).inOrder =
      lastItems size blank items := by
  induction items using List.reverseRecOn with
  | nil => simp [lastItems]
  | append_singleton items item ih =>
      rw [List.foldl_append, List.foldl_cons, List.foldl_nil, Ring.inOrder_write, ih,
        lastItems_snoc blank items item nonempty]

end SyncFanet
