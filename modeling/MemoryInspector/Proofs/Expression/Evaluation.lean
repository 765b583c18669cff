import Mathlib.Control.Monad.Basic
import MemoryInspector.Hierarchy.Layouts
import MemoryInspector.Memory.Snapshot
import MemoryInspector.Proofs.Expression.Meaning

/-!
# Evaluation and the grammar

An expression has a value exactly when its tokens are derived by the documented grammar as a term
with that meaning. The grammar is ambiguous only where a name is both a symbol and a type, so
without such a name the derivations of a text agree on its value.
-/

namespace MemoryInspector

open Expression

namespace Expression

variable {target : Target} {tokens : List Token} {term : Term} {value : Value}

/-- No symbol of the target has a name that means a type. -/
def NoSymbolType (target : Target) : Prop :=
  ∀ name ∈ target.symbols, ∀ type, target.types.resolve name ≠ .ok type

/-- A derivation whose term has a value follows the choices of the reader. -/
theorem Derives.ofTokens_eq {mayGroup : List Token → Prop} (htarget : NoSymbolType target)
    (hderives : Derives target.types mayGroup .unary tokens term) (hdenotes : term.Denotes target value) :
    Term.ofTokens target.types tokens = term :=
  (ofTokens_eq_iff hdenotes.faultless).2
    (hderives.reads fun name hname ↦ htarget name (hdenotes.mem_symbols name hname))

theorem spells_ofTokens (h : (Term.ofTokens target.types tokens).Denotes target value) :
    Spells target.types tokens (Term.ofTokens target.types tokens) :=
  ((ofTokens_eq_iff h.faultless).1 rfl).mono fun _ _ ↦ trivial

end Expression

namespace Target

variable {target : Target}

/-- A value is the meaning of the reading of the tokens. -/
theorem evaluate_eq_ok_iff {text : String} {value : Value} : target.evaluate text = .ok value ↔
    ∃ tokens, Token.scan text.toList = .ok tokens ∧
      (Term.ofTokens target.types tokens).Denotes target value := by
  unfold evaluate
  split
  · next tokens htokens => simp [htokens, Term.eval_eq_ok_iff]
  · next reason hreason => simp [hreason]

/-- Evaluation succeeds exactly on the texts of the grammar whose term has a meaning, with that
meaning, and all derivations of a token list that have a meaning have the same one. -/
theorem evaluate_eq_ok_iff_spells (htarget : NoSymbolType target) :
    (∀ text value, target.evaluate text = .ok value ↔
      ∃ tokens term, Token.scan text.toList = .ok tokens ∧ Spells target.types tokens term ∧
        term.Denotes target value) ∧
    ∀ tokens term₁ term₂ value₁ value₂,
      Spells target.types tokens term₁ → Spells target.types tokens term₂ →
      term₁.Denotes target value₁ → term₂.Denotes target value₂ → value₁ = value₂ := by
  constructor
  · intro text value
    rw [evaluate_eq_ok_iff]
    constructor
    · intro h
      rcases h with ⟨tokens, htokens, hdenotes⟩
      exact ⟨tokens, _, htokens, spells_ofTokens hdenotes, hdenotes⟩
    · intro h
      rcases h with ⟨tokens, term, htokens, hspells, hdenotes⟩
      exact ⟨tokens, htokens, (hspells.ofTokens_eq htarget hdenotes).symm ▸ hdenotes⟩
  · intro tokens term₁ term₂ value₁ value₂ hspells₁ hspells₂ hdenotes₁ hdenotes₂
    have hterm : term₁ = term₂ := calc
      term₁ = Term.ofTokens target.types tokens := (hspells₁.ofTokens_eq htarget hdenotes₁).symm
      _ = term₂ := hspells₂.ofTokens_eq htarget hdenotes₂
    subst hterm
    apply Except.ok.inj
    calc
      .ok value₁ = term₁.eval target "" := ((Term.eval_eq_ok_iff "" term₁).2 hdenotes₁).symm
      _ = .ok value₂ := (Term.eval_eq_ok_iff "" term₁).2 hdenotes₂

/-- A target without memory whose only symbol is a vector. -/
def oneVector : Target where
  memory := Snapshot.empty.memory
  types := Hierarchy.types
  symbols := Std.TreeMap.empty.insert "root" 0x1000
  symbolTypes := Std.TreeMap.empty.insert "root" (.record Hierarchy.vectorType)

theorem noSymbolType_oneVector : NoSymbolType oneVector := by
  intro name hname type
  have hroot : compare "root" name = .eq := by simpa [oneVector, Std.TreeMap.mem_insert] using hname
  obtain rfl := Std.LawfulEqCmp.eq_of_compare hroot
  have hresolve : oneVector.types.resolve "root" = .error (.unknownName "root") := by decide +kernel
  simp [hresolve]

/-- The first parentheses hold a type and the second ones a symbol. -/
theorem evaluate_eq_ok_iff_spells_oneVector : NoSymbolType oneVector ∧
    oneVector.evaluate "*(SVector **)&(root).vec_arr" =
      .ok (.atAddress 0x1028 (.pointer (.record Hierarchy.vectorType))) := by
  refine ⟨noSymbolType_oneVector, ?_⟩
  rw [(evaluate_eq_ok_iff_spells noSymbolType_oneVector).1]
  let member : List Token := [.mark .openParen, .word "root", .mark .closeParen, .mark .dot, .word "vec_arr"]
  have hmember : Derives oneVector.types (fun _ ↦ True) .suffixed member
      (.member (.symbol "root") "vec_arr") :=
    .member (.ofPrimary (.group trivial (.ofSuffixed (.ofPrimary .symbol))))
  have htype : oneVector.types.resolve (typeText ["SVector"] 2) =
      .ok (.pointer (.pointer (.record Hierarchy.vectorType))) := by decide +kernel
  refine ⟨.mark .star :: .mark .openParen :: (typeTokens ["SVector"] 2 ++
    .mark .closeParen :: .mark .ampersand :: member), _, by decide +kernel,
    .contents (.cast (by simp) htype (.addressOf (.ofSuffixed hmember))), ?_⟩
  have hroot : Term.Denotes oneVector (.symbol "root") (.atAddress 0x1000 (.record Hierarchy.vectorType)) :=
    .symbol (by decide +kernel)
  have hlayout : oneVector.types.record? Hierarchy.vectorType = some Hierarchy.vectorLayout := by
    decide +kernel
  have hfield : Hierarchy.vectorLayout.field? "vec_arr" =
      some ⟨"vec_arr", 40, .pointer (.pointer .void)⟩ := by decide +kernel
  have hslots : Term.Denotes oneVector (.member (.symbol "root") "vec_arr")
      (.atAddress 0x1028 (.pointer (.pointer .void))) := .member hroot hlayout hfield
  have hcast : CastBits oneVector (.ofBits 0x1028 (.pointer (.pointer (.pointer .void)))) 0x1028 :=
    .read rfl
  exact .contentsPointer (.castPointer (.addressOf hslots) hcast) rfl rfl

end Target

end MemoryInspector
