import Std.Data.TreeMap.Basic
import MemoryInspector.Binary.Recognition
import MemoryInspector.LoadError

/-!
# Symbols

Addresses of the named data and code of a binary, shifted to where the binary is loaded.
-/

namespace MemoryInspector

open Binary

abbrev SymbolTable := Std.TreeMap String UInt64

namespace SymbolTable

/-- The name under which a symbol is entered: it has to be defined, to be data or code, and to
have a name. -/
def nameOf? (symbol : Symbol) : Option String :=
  if symbol.isDefined ∧ symbol.kind ≠ .other then symbol.name.filter (!·.isEmpty) else none

/-- Add a symbol; the first one of a name counts. -/
def enter (bias : UInt64) (table : SymbolTable) (symbol : Symbol) : SymbolTable :=
  match nameOf? symbol with
  | some name => table.insertIfNew name (UInt64.ofNat symbol.address + bias)
  | none => table

def ofSymbols (bias : UInt64) (symbols : List Symbol) : SymbolTable :=
  symbols.foldl (enter bias) ∅

/-- The symbols of a binary. -/
def ofBinary (path : String) (contents : ByteArray) (bias : UInt64) :
    Except LoadError SymbolTable :=
  match ObjectFile.parse? contents with
  | none => .error (.malformedBinary path)
  | some file => .ok (ofSymbols bias file.symbols)

end SymbolTable

end MemoryInspector
