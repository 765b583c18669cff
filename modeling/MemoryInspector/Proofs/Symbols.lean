import Std.Data.TreeMap.Lemmas
import MemoryInspector.Symbols

/-!
# Addresses of symbols

A name has the address of the first symbol that bears it, moved by the bias. A symbol that is not
defined, that is neither data nor code or that has no name takes no name from those behind it, so only
the order of the other ones counts, among which those for dynamic linking come last.
-/

namespace MemoryInspector.SymbolTable

open Binary

variable {symbol : Symbol} {symbols : List Symbol} {name : String} {bias other : UInt64}

/-- The symbol is defined, it is data or code, and this is its name. -/
structure Bears (symbol : Symbol) (name : String) : Prop where
  isDefined : symbol.isDefined = true
  kind_eq : symbol.kind = .data ∨ symbol.kind = .text
  name_eq : symbol.name = some name

/-- The symbol bears the name, and none before it does. -/
def FirstBearer (symbols : List Symbol) (name : String) (symbol : Symbol) : Prop :=
  Bears symbol name ∧ ∃ before after, symbols = before ++ symbol :: after ∧
    ∀ earlier ∈ before, ¬ Bears earlier name

/-- The address of a symbol in a binary that is moved by the bias. -/
def moved (bias : UInt64) (symbol : Symbol) : UInt64 := UInt64.ofNat symbol.address + bias

theorem toNat_moved : (moved bias symbol).toNat = (symbol.address + bias.toNat) % UInt64.size := by
  rw [moved, UInt64.toNat_add, UInt64.toNat_ofNat', Nat.mod_add_mod]

/-- Two biases move an address apart by their difference. -/
theorem moved_eq_add_sub : moved other symbol = moved bias symbol + (other - bias) := by
  calc moved other symbol = UInt64.ofNat symbol.address + (bias + (other - bias)) := by
        rw [moved, UInt64.add_comm bias, UInt64.sub_add_cancel]
    _ = moved bias symbol + (other - bias) := by rw [moved, UInt64.add_assoc]

/-! ## The symbols that count -/

theorem nameOf?_eq_some_iff : nameOf? symbol = some name ↔ name ≠ "" ∧ Bears symbol name := by
  have hkind : symbol.kind ≠ .other ↔ symbol.kind = .data ∨ symbol.kind = .text := by
    cases symbol.kind <;> decide
  unfold nameOf?
  split
  · next h =>
    rw [Option.filter_eq_some_iff, Bool.not_eq_true', String.isEmpty_eq_false_iff]
    exact ⟨fun ⟨hname, hne⟩ ↦ ⟨hne, h.1, hkind.1 h.2, hname⟩, fun ⟨hne, hbears⟩ ↦ ⟨hbears.name_eq, hne⟩⟩
  · next h =>
    refine iff_of_false nofun fun ⟨_, hbears⟩ ↦ h ⟨hbears.isDefined, hkind.2 hbears.kind_eq⟩

/-- The first of the symbols that is entered under the name. -/
def firstNamed? (symbols : List Symbol) (name : String) : Option Symbol :=
  symbols.find? fun symbol ↦ nameOf? symbol = some name

theorem firstNamed?_eq_some_iff :
    firstNamed? symbols name = some symbol ↔ name ≠ "" ∧ FirstBearer symbols name symbol := by
  unfold firstNamed? FirstBearer
  rw [List.find?_eq_some_iff_append]
  simp only [decide_eq_true_eq, nameOf?_eq_some_iff, Bool.not_eq_true', decide_eq_false_iff_not, not_and]
  constructor
  · rintro ⟨⟨hne, hbears⟩, before, after, hsplit, hbefore⟩
    exact ⟨hne, hbears, before, after, hsplit, fun earlier hearlier ↦ hbefore earlier hearlier hne⟩
  · rintro ⟨hne, hbears, before, after, hsplit, hbefore⟩
    exact ⟨⟨hne, hbears⟩, before, after, hsplit, fun earlier hearlier _ ↦ hbefore earlier hearlier⟩

/-! ## The table -/

theorem getElem?_enter (table : SymbolTable) :
    (enter bias table symbol)[name]? =
      table[name]?.or (if nameOf? symbol = some name then some (moved bias symbol) else none) := by
  unfold enter
  cases hname : nameOf? symbol with
  | none => rw [if_neg nofun, Option.or_none]
  | some found =>
    rw [Std.TreeMap.getElem?_insertIfNew]
    simp only [Std.LawfulEqCmp.compare_eq_iff_eq, Std.TreeMap.mem_iff_isSome_getElem?, Option.some.injEq]
    by_cases hfound : found = name
    · rw [hfound, moved]
      cases table[name]? <;> simp
    · simp [hfound]

/-- The first symbol of a name stays, whatever follows it. -/
theorem getElem?_foldl_enter (table : SymbolTable) :
    (symbols.foldl (enter bias) table)[name]? =
      table[name]?.or ((firstNamed? symbols name).map (moved bias)) := by
  induction symbols generalizing table with
  | nil => exact Option.or_none.symm
  | cons symbol rest ih =>
    rw [List.foldl_cons, ih, getElem?_enter, Option.or_assoc, firstNamed?, firstNamed?, List.find?_cons]
    by_cases hname : nameOf? symbol = some name <;> simp [hname]

theorem getElem?_ofSymbols :
    (ofSymbols bias symbols)[name]? = (firstNamed? symbols name).map (moved bias) := by
  rw [ofSymbols, getElem?_foldl_enter, Std.TreeMap.getElem?_emptyc, Option.none_or]

theorem mem_ofSymbols_iff :
    name ∈ ofSymbols bias symbols ↔ name ≠ "" ∧ ∃ symbol ∈ symbols, Bears symbol name := by
  rw [Std.TreeMap.mem_iff_isSome_getElem?, getElem?_ofSymbols, Option.isSome_map, firstNamed?,
    List.find?_isSome]
  simp only [decide_eq_true_eq, nameOf?_eq_some_iff]
  constructor
  · rintro ⟨symbol, hsymbol, hne, hbears⟩
    exact ⟨hne, symbol, hsymbol, hbears⟩
  · rintro ⟨hne, symbol, hsymbol, hbears⟩
    exact ⟨symbol, hsymbol, hne, hbears⟩

/-- The names of the table are those that are borne, each with the address of its first bearer, and
another bias gives the same names with all addresses moved on by the difference. -/
theorem ofSymbols_maps_first_bearers (static dynamic : List Symbol) (bias : UInt64) :
    (∀ name, name ∈ ofSymbols bias (static ++ dynamic) ↔
      name ≠ "" ∧ ∃ symbol ∈ static ++ dynamic, Bears symbol name) ∧
    (∀ name address, (ofSymbols bias (static ++ dynamic))[name]? = some address ↔
      name ≠ "" ∧ ∃ symbol, FirstBearer (static ++ dynamic) name symbol ∧
        address.toNat = (symbol.address + bias.toNat) % UInt64.size) ∧
    ∀ (other : UInt64) (name : String), (ofSymbols other (static ++ dynamic))[name]? =
      (ofSymbols bias (static ++ dynamic))[name]?.map (· + (other - bias)) := by
  refine ⟨fun name ↦ mem_ofSymbols_iff, ?_, ?_⟩
  · intro name address
    rw [getElem?_ofSymbols, Option.map_eq_some_iff]
    simp only [firstNamed?_eq_some_iff, ← toNat_moved, UInt64.toNat_inj]
    constructor
    · rintro ⟨symbol, ⟨hne, hfirst⟩, rfl⟩
      exact ⟨hne, symbol, hfirst, rfl⟩
    · rintro ⟨hne, symbol, hfirst, rfl⟩
      exact ⟨symbol, ⟨hne, hfirst⟩, rfl⟩
  · intro other name
    rw [getElem?_ofSymbols, getElem?_ofSymbols, Option.map_map]
    congr 1
    funext symbol
    exact moved_eq_add_sub

/-- A symbol that is not defined and one for dynamic linking stand around the first bearer. -/
example : (ofSymbols 0x10 [⟨some "root", .data, false, 1⟩, ⟨some "root", .text, true, 2⟩,
    ⟨some "root", .data, true, 3⟩])["root"]? = some 0x12 := by
  decide

end MemoryInspector.SymbolTable
