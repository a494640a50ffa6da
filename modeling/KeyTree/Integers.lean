import KeyTree.Value

/-!
# `KeyTree.Integers`: whole numbers of a fixed width as values

A value can be made of any whole number of the ten integer types up to 64
bits; those of the width of a pointer have 64 (`IntegerType`). The types that
the signed 64-bit range covers are widened to it. Numbers of the unsigned
64-bit types are signed as far as they fit (`Value.ofUInt64`).
-/

set_option autoImplicit false

namespace KeyTree

/-- The integer types that values are made of. -/
inductive IntegerType where
  | i8 | i16 | i32 | i64 | isize
  | u8 | u16 | u32 | u64 | usize
  deriving DecidableEq, Repr

namespace IntegerType

/-- The numbers of a type, by their bits. -/
abbrev Carrier : IntegerType → Type
  | i8 => Int8
  | i16 => Int16
  | i32 => Int32
  | i64 | isize => Int64
  | u8 => UInt8
  | u16 => UInt16
  | u32 => UInt32
  | u64 | usize => UInt64

/-- The whole number that a number of a type stands for. -/
def toInt : (type : IntegerType) → type.Carrier → Int
  | i8, x => Int8.toInt x
  | i16, x => Int16.toInt x
  | i32, x => Int32.toInt x
  | i64, x | isize, x => Int64.toInt x
  | u8, x => UInt8.toNat x
  | u16, x => UInt16.toNat x
  | u32, x => UInt32.toNat x
  | u64, x | usize, x => UInt64.toNat x

/-- The number of bits. -/
def width : IntegerType → Nat
  | i8 | u8 => 8
  | i16 | u16 => 16
  | i32 | u32 => 32
  | i64 | isize | u64 | usize => 64

/-- The least number of a type. -/
def least (type : IntegerType) : Int :=
  match type with
  | i8 | i16 | i32 | i64 | isize => -(Nat.pow 2 (type.width - 1) : Nat)
  | u8 | u16 | u32 | u64 | usize => 0

/-- The whole number is one of the type. -/
def Holds (type : IntegerType) (n : Int) : Prop :=
  type.least ≤ n ∧ n < type.least + (Nat.pow 2 type.width : Nat)

end IntegerType

namespace Value

/-- A number of a type that the signed 64-bit range covers. -/
def widened {α : Type} (widen : α → Int64) (x : α) : Value := .signed (widen x)

/-- A number of the unsigned 64-bit range: signed if it fits. -/
def ofUInt64 (x : UInt64) : Value :=
  if x < 0x8000000000000000 then .signed x.toInt64 else .unsigned x

/-- A number of an integer type as a value. -/
def ofInteger : (type : IntegerType) → type.Carrier → Value
  | .i8, x => widened Int8.toInt64 x
  | .i16, x => widened Int16.toInt64 x
  | .i32, x => widened Int32.toInt64 x
  | .i64, x => widened id x
  | .u8, x => widened (fun x => (UInt8.toUInt64 x).toInt64) x
  | .u16, x => widened (fun x => (UInt16.toUInt64 x).toInt64) x
  | .u32, x => widened (fun x => (UInt32.toUInt64 x).toInt64) x
  | .isize, x => .signed x
  | .u64, x | .usize, x => ofUInt64 x

end Value

end KeyTree
