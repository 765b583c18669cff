import MemoryInspector.Text.Numeral

/-!
# Types of the inspected program

Scalars, and the C types built from them. A record is referred to by its name and its layout is
kept in a registry, so that layouts may refer to each other.
-/

namespace MemoryInspector

open Text

inductive Scalar where
  | bool | char | int8 | uint8 | int16 | uint16 | int32 | uint32 | int64 | uint64
deriving DecidableEq, Repr

namespace Scalar

def all : List Scalar :=
  [bool, char, int8, uint8, int16, uint16, int32, uint32, int64, uint64]

/-- Size in bytes. -/
def size : Scalar → Nat
  | bool | char | int8 | uint8 => 1
  | int16 | uint16 => 2
  | int32 | uint32 => 4
  | int64 | uint64 => 8

def isSigned : Scalar → Bool
  | char | int8 | int16 | int32 | int64 => true
  | _ => false

/-- The spelling under which a type is shown. -/
def cName : Scalar → String
  | bool => "_Bool"
  | char => "char"
  | int8 => "int8_t"
  | uint8 => "unsigned char"
  | int16 => "short"
  | uint16 => "unsigned short"
  | int32 => "int"
  | uint32 => "unsigned int"
  | int64 => "long"
  | uint64 => "unsigned long"

/-- The spellings that name the scalar, words separated by single spaces. -/
def spellings : Scalar → List String
  | bool => ["_Bool", "bool"]
  | char => ["char"]
  | int8 => ["signed char", "int8_t"]
  | uint8 => ["unsigned char", "uint8_t"]
  | int16 => ["short", "short int", "signed short", "int16_t"]
  | uint16 => ["unsigned short", "unsigned short int", "uint16_t"]
  | int32 => ["int", "signed", "signed int", "int32_t"]
  | uint32 => ["unsigned", "unsigned int", "uint32_t"]
  | int64 => ["long", "long int", "signed long", "long long", "long long int", "int64_t",
      "ssize_t", "intptr_t", "ptrdiff_t", "time_t", "off_t"]
  | uint64 => ["unsigned long", "unsigned long int", "unsigned long long",
      "unsigned long long int", "uint64_t", "size_t", "uintptr_t"]

def ofCName? (name : String) : Option Scalar :=
  all.find? fun scalar ↦ name ∈ scalar.spellings

/-- The integer type of the given size and sign. -/
def integer? (size : Nat) (signed : Bool) : Option Scalar :=
  match size, signed with
  | 1, true => some int8
  | 1, false => some uint8
  | 2, true => some int16
  | 2, false => some uint16
  | 4, true => some int32
  | 4, false => some uint32
  | 8, true => some int64
  | 8, false => some uint64
  | _, _ => none

theorem ofCName?_cName (scalar : Scalar) : ofCName? scalar.cName = some scalar := by
  cases scalar <;> decide

end Scalar

inductive CType where
  | void
  | scalar (kind : Scalar)
  | pointer (pointee : CType)
  | array (element : CType) (length : UInt64)
  | record (name : String)
deriving DecidableEq, Repr

namespace CType

/-- Size of a pointer; a `long` has the same size. -/
def pointerSize : Nat := 8

def pointee? : CType → Option CType
  | pointer t => some t
  | _ => none

def recordName? : CType → Option String
  | record name => some name
  | _ => none

def isPointer : CType → Bool
  | pointer _ => true
  | _ => false

/-- The text under which a type is shown: only the innermost star of a chain has a blank before it. -/
def spelling : CType → String
  | void => "void"
  | scalar kind => kind.cName
  | pointer t => if t.isPointer then s!"{spelling t}*" else s!"{spelling t} *"
  | array t length => s!"{spelling t} [{decimal length.toNat}]"
  | record name => name

/-- One more than the number of type constructors under the outermost one. -/
def height : CType → Nat
  | pointer t => t.height + 1
  | array t _ => t.height + 1
  | _ => 1

example : (pointer (pointer (scalar .char))).spelling = "char **" := by decide

end CType

end MemoryInspector
