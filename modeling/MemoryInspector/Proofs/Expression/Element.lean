import MemoryInspector.Proofs.Expression.Evaluation
import MemoryInspector.Proofs.Hierarchy.Vector
import MemoryInspector.Proofs.TypeName

/-!
# Elements of a vector as expressions

An expression that denotes a vector can be put in parentheses and followed by a member, a
subscript and a cast. The result denotes the element that the slot of the vector points to.
-/

namespace MemoryInspector

open Expression Hierarchy Text

variable {target : Target} {text expression typeName : String} {value : Value} {names : List String}
  {stars index : Nat} {address data bits : UInt64} {pointee : CType} {tokens : List Token} {term : Term}

/-- Evaluation by the grammar that the reader follows, without a condition on the symbols. -/
theorem Target.evaluate_eq_ok_iff_reads : target.evaluate text = .ok value ↔
    ∃ tokens term, Spelling tokens text.toList ∧ Reads target.types .unary tokens term ∧
      term.Denotes target value := by
  rw [evaluate_eq_ok_iff]
  constructor
  · intro h
    obtain ⟨tokens, htokens, hdenotes⟩ := h
    exact ⟨tokens, _, scan_eq_ok_iff.1 htokens, (ofTokens_eq_iff hdenotes.faultless).1 rfl, hdenotes⟩
  · intro h
    obtain ⟨tokens, term, hspelling, hreads, hdenotes⟩ := h
    refine ⟨tokens, scan_eq_ok_iff.2 hspelling, ?_⟩
    rwa [(ofTokens_eq_iff hdenotes.faultless).2 hreads]

namespace Expression

/-- The tokens of an element of a vector, read as a value of a named type. -/
def elementTokens (names : List String) (stars : Nat) (vector : List Token) (index : UInt64) :
    List Token :=
  .mark .star :: .mark .openParen :: (typeTokens names (stars + 1) ++ .mark .closeParen ::
    .mark .openParen :: (vector ++ [.mark .closeParen, .mark .dot, .word "vec_arr",
      .mark .openBracket, .integer index, .mark .closeBracket]))

/-- The term that these tokens spell. -/
def elementTerm (pointee : CType) (vector : Term) (index : UInt64) : Term :=
  .contents (.cast (.pointer pointee) (.subscript (.member vector "vec_arr") index))

theorem reads_element (hnames : names ≠ [])
    (htype : target.types.resolve (typeText names (stars + 1)) = .ok (.pointer pointee))
    (hlone : NoLoneType target.types tokens) (hvector : Reads target.types .unary tokens term)
    (index : UInt64) :
    Reads target.types .unary (elementTokens names stars tokens index)
      (elementTerm pointee term index) := by
  have hmember : Reads target.types .suffixed
      (.mark .openParen :: (tokens ++ [.mark .closeParen]) ++ [.mark .dot, .word "vec_arr"])
      (.member term "vec_arr") := .member (.ofPrimary (.group hlone hvector))
  have hsubscript : Reads target.types .suffixed
      (.mark .openParen :: (tokens ++ [.mark .closeParen]) ++ [.mark .dot, .word "vec_arr"] ++
        [.mark .openBracket, .integer index, .mark .closeBracket])
      (.subscript (.member term "vec_arr") index) := hmember.subscript
  have helement : Reads target.types .unary _ (elementTerm pointee term index) :=
    .contents (.cast hnames htype (.ofSuffixed hsubscript))
  simpa only [elementTokens, List.cons_append, List.append_assoc, List.nil_append] using helement

theorem denotes_element (htypes : target.types = types)
    (hvector : term.Denotes target (.atAddress address (.record vectorType)))
    (hdata : target.readBits (.atAddress (address + 40) (.pointer (.pointer .void))) = .ok data)
    {index : UInt64}
    (hslot : target.readBits (.atAddress (data + index * 8) (.pointer pointee)) = .ok bits) :
    (elementTerm pointee term index).Denotes target (.atAddress bits pointee) := by
  have hlayout : target.types.record? vectorType = some vectorLayout := htypes ▸ record?_vectorType
  have hfield : vectorLayout.field? "vec_arr" = some ⟨"vec_arr", 40, .pointer (.pointer .void)⟩ := by
    decide
  have hmember : Term.Denotes target (.member term "vec_arr")
      (.atAddress (address + 40) (.pointer (.pointer .void))) := .member hvector hlayout hfield
  have hsubscript : Term.Denotes target (.subscript (.member term "vec_arr") index)
      (.atAddress (data + index * 8) (.pointer .void)) := .subscript hmember (.pointer rfl hdata) rfl
  have hcast : CastBits target (.atAddress (data + index * 8) (.pointer .void)) bits :=
    .read ((Target.readBits_pointer_congr _ _ _).trans hslot)
  exact .contentsPointer (.castPointer hsubscript hcast) rfl (Target.readBits_ofBits_pointer _ _)

theorem spelling_element (htype : Spelling (typeTokens names stars) typeName.toList)
    (hvector : Spelling tokens expression.toList) (hindex : index < UInt64.size) :
    Spelling (elementTokens names stars tokens (UInt64.ofNat index))
      ("*(" ++ typeName ++ " *)(" ++ expression ++ ").vec_arr[" ++ decimal index ++ "]").toList := by
  have hclose : Spelling [.mark .closeBracket] [']'] := spelling_mark .closeBracket
  have hinteger : Spelling [.integer (UInt64.ofNat index), .mark .closeBracket]
      (Nat.toDigits 10 index ++ [']']) := hclose.decimal hindex (noWordHead_cons (by decide))
  have hmember : Spelling [.word "vec_arr", .mark .openBracket, .integer (UInt64.ofNat index),
      .mark .closeBracket] ("vec_arr".toList ++ '[' :: (Nat.toDigits 10 index ++ [']'])) :=
    .word (by decide) (List.all_eq_true.1 (by decide)) rfl (noWordHead_cons (by decide))
      (.mark .openBracket hinteger)
  have hpointer : Spelling (typeTokens names (stars + 1)) (typeName.toList ++ [' ', '*']) := by
    have hstar : Spelling [.mark .star] [' ', '*'] := .blank (by decide) (spelling_mark .star)
    have happend := htype.append hstar (noWordHead_cons (by decide))
    rwa [typeTokens, List.append_assoc, ← List.replicate_succ'] at happend
  have helement := Spelling.mark .star
    (hpointer.parenthesize (hvector.parenthesize (.mark .dot hmember)))
  have htext : ("*(" ++ typeName ++ " *)(" ++ expression ++ ").vec_arr[" ++ decimal index ++
      "]").toList = '*' :: '(' :: (typeName.toList ++ [' ', '*'] ++ ')' :: '(' :: (expression.toList ++
        ')' :: '.' :: ("vec_arr".toList ++ '[' :: (Nat.toDigits 10 index ++ [']'])))) := by
    simp [String.toList_append, decimal]
  rw [htext]
  exact helement

end Expression

end MemoryInspector
