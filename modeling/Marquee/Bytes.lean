/-!
# Byte blocks of a known length

Panels exchange byte runs whose length is part of the contract: a two byte header, half a bitmap,
a whole bitmap. `Bytes n` is a list of exactly `n` bytes, so that a function which takes one has
nothing left to check and a function which returns one has promised its length.
-/

namespace Marquee

/-- Exactly `n` bytes. -/
@[ext] structure Bytes (n : Nat) where
  /-- the bytes in order -/
  toList : List UInt8
  /-- there are `n` of them -/
  length_toList : toList.length = n
deriving DecidableEq

namespace Bytes

variable {n m : Nat}

/-- The list as a block of its own length. -/
def ofList (bytes : List UInt8) : Bytes bytes.length := ⟨bytes, rfl⟩

/-- The list as a block of `n` bytes, if it has that many. -/
def ofList? (n : Nat) (bytes : List UInt8) : Option (Bytes n) :=
  if h : bytes.length = n then some ⟨bytes, h⟩ else none

/-- The byte `b` written `n` times. -/
def replicate (n : Nat) (b : UInt8) : Bytes n := ⟨List.replicate n b, List.length_replicate⟩

/-- Every byte through `f`. -/
def map (f : UInt8 → UInt8) (bytes : Bytes n) : Bytes n :=
  ⟨bytes.toList.map f, by rw [List.length_map, bytes.length_toList]⟩

/-- One block after another. -/
def append (a : Bytes n) (b : Bytes m) : Bytes (n + m) :=
  ⟨a.toList ++ b.toList, by rw [List.length_append, a.length_toList, b.length_toList]⟩

/-- The first `n` bytes of a list, with zeros where the list is too short. -/
def padded (n : Nat) (bytes : List UInt8) : Bytes n :=
  ⟨bytes.take n ++ List.replicate (n - bytes.length) 0, by
    rw [List.length_append, List.length_take, List.length_replicate]; omega⟩

theorem ofList?_eq_some_iff {bytes : List UInt8} {block : Bytes n} :
    ofList? n bytes = some block ↔ bytes = block.toList := by
  unfold ofList?
  constructor
  · intro h
    split at h
    · cases h; rfl
    · cases h
  · rintro rfl
    rw [dif_pos block.length_toList]

theorem ofList?_eq_none_iff {bytes : List UInt8} :
    ofList? n bytes = none ↔ bytes.length ≠ n := by
  unfold ofList?
  split <;> simp_all

@[simp] theorem toList_replicate (n : Nat) (b : UInt8) :
    (replicate n b).toList = List.replicate n b := rfl

@[simp] theorem toList_map (f : UInt8 → UInt8) (bytes : Bytes n) :
    (bytes.map f).toList = bytes.toList.map f := rfl

@[simp] theorem toList_append (a : Bytes n) (b : Bytes m) :
    (a.append b).toList = a.toList ++ b.toList := rfl

@[simp] theorem toList_padded (n : Nat) (bytes : List UInt8) :
    (padded n bytes).toList = bytes.take n ++ List.replicate (n - bytes.length) 0 := rfl

end Bytes

end Marquee
