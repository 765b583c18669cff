import MemoryInspector.Proofs.Expression.Element
import MemoryInspector.Proofs.Expression.Failure

/-!
# Expressions that mean the same

Parentheses keep the value of an expression, `*` undoes `&`, the contents of a pointer or an array
are its first element, and an arrow leads to a member of the contents. An expression in parentheses
is read by itself, whatever is appended to it, so each of these is a fact about terms.
-/

namespace MemoryInspector

open Expression

namespace Expression

variable {types : Registry} {target : Target} {phrase : Phrase} {tokens : List Token}
  {term first second : Term} {text : String} {value result : Value}

/-- What a phrase is read as has no fault in it. -/
theorem Derives.faultless {mayGroup : List Token → Prop}
    (h : Derives types mayGroup phrase tokens term) : term.Faultless := by
  induction h <;> first | assumption | trivial

/-! ## Terms with the same values -/

namespace Term

/-- The terms denote the same value, or both of them none. -/
def Agree (target : Target) (first second : Term) : Prop :=
  ∀ value, first.Denotes target value ↔ second.Denotes target value

theorem agree_of_eval_eq (text : String) (h : first.eval target text = second.eval target text) :
    Agree target first second := by
  intro value
  rw [← eval_eq_ok_iff text first, h, eval_eq_ok_iff]

theorem agree_faultAfter {reason reason' : String} :
    Agree target (faultAfter first reason) (faultAfter second reason') := by
  intro value
  constructor <;> nofun

namespace Agree

theorem symm (h : Agree target first second) : Agree target second first := fun value ↦ (h value).symm

theorem denotes_member {name : String} (h : Agree target first second)
    (hfirst : (member first name).Denotes target value) : (member second name).Denotes target value := by
  cases hfirst with
  | member hterm hlayout hfield => exact .member ((h _).1 hterm) hlayout hfield

theorem denotes_arrow {name : String} (h : Agree target first second)
    (hfirst : (arrow first name).Denotes target value) : (arrow second name).Denotes target value := by
  cases hfirst with
  | arrow hterm htype hread hlayout hfield => exact .arrow ((h _).1 hterm) htype hread hlayout hfield

theorem denotes_subscript {index : UInt64} (h : Agree target first second)
    (hfirst : (subscript first index).Denotes target value) :
    (subscript second index).Denotes target value := by
  cases hfirst with
  | subscript hterm hstart hsize => exact .subscript ((h _).1 hterm) hstart hsize

/-- The same suffixes behind terms that agree leave the same tokens and terms that agree. -/
theorem suffixes (h : Agree target first second) (tokens : List Token) :
    (suffixes first tokens).2 = (suffixes second tokens).2 ∧
      Agree target (suffixes first tokens).1 (suffixes second tokens).1 := by
  fun_induction Term.suffixes first tokens generalizing second with
  | case1 term name rest ih =>
    exact ih fun value ↦ ⟨h.denotes_member, h.symm.denotes_member⟩
  | case3 term name rest ih =>
    exact ih fun value ↦ ⟨h.denotes_arrow, h.symm.denotes_arrow⟩
  | case5 term index rest ih =>
    exact ih fun value ↦ ⟨h.denotes_subscript, h.symm.denotes_subscript⟩
  | case2 | case4 | case6 | case7 =>
    rw [Term.suffixes]
    · exact ⟨rfl, agree_faultAfter⟩
    all_goals assumption
  | case8 =>
    rw [Term.suffixes]
    · exact ⟨rfl, h⟩
    all_goals assumption

/-- Behind an arrow stands what may stand behind a dot. -/
theorem suffixes_arrow (h : ∀ name, Agree target (arrow first name) (member second name))
    (tokens : List Token) :
    (Term.suffixes first (.mark .arrow :: tokens)).2 = (Term.suffixes second (.mark .dot :: tokens)).2 ∧
      Agree target (Term.suffixes first (.mark .arrow :: tokens)).1
        (Term.suffixes second (.mark .dot :: tokens)).1 := by
  by_cases hword : ∃ name rest, tokens = .word name :: rest
  · obtain ⟨name, rest, rfl⟩ := hword
    exact (h name).suffixes rest
  · have hnone : ∀ name rest, tokens ≠ .word name :: rest := by
      intro name rest htokens
      exact hword ⟨name, rest, htokens⟩
    rw [Term.suffixes, Term.suffixes]
    · exact ⟨rfl, agree_faultAfter⟩
    all_goals exact hnone

end Agree

variable {element : CType} {size : Nat}

/-- The contents of a pointer or an array are the element at index zero. -/
theorem agree_subscript_zero (hterm : term.Denotes target value)
    (helement : value.type = .pointer element ∨ ∃ length, value.type = .array element length)
    (hsize : target.types.byteSize element = .ok size) :
    Agree target (subscript term 0) (contents term) := by
  apply agree_of_eval_eq ""
  rw [eval, eval, (eval_eq_ok_iff "" term).2 hterm, Except.ok_bind, Except.ok_bind, contentsOf]
  rcases helement with htype | ⟨length, htype⟩
  · rw [elementAt_of_pointer htype, htype, Target.dereference, htype]
    apply Except.bind_congr_of_ok
    intro base _
    rw [hsize, Except.ok_bind, UInt64.zero_mul, UInt64.add_zero]
  · rw [htype]

/-- An arrow is a member of the contents. -/
theorem agree_arrow (hterm : term.Denotes target value) (htype : value.type = .pointer element)
    (name : String) : Agree target (arrow term name) (member (contents term) name) := by
  have hpointer : (CType.pointer element).isPointer = true := rfl
  apply agree_of_eval_eq ""
  rw [eval, eval, eval, (eval_eq_ok_iff "" term).2 hterm, Except.ok_bind, Except.ok_bind, contentsOf,
    arrowMember, htype, if_pos hpointer]

end Term

/-! ## Expressions in parentheses -/

variable {front rest : List Char}

/-- A text that is read as a term has the values of the term. -/
theorem evaluate_eq_ok_iff_denotes (hspelling : Spelling tokens text.toList)
    (hreads : Reads target.types .unary tokens term) :
    target.evaluate text = .ok value ↔ term.Denotes target value := by
  have hterm := (ofTokens_eq_iff hreads.faultless).2 hreads
  rw [Target.evaluate_eq_ok_iff, scan_eq_ok_iff.2 hspelling]
  constructor
  · rintro ⟨_, ⟨⟩, hdenotes⟩
    rwa [hterm] at hdenotes
  · intro hdenotes
    rw [← hterm] at hdenotes
    exact ⟨tokens, rfl, hdenotes⟩

/-- A text behind a primary is read as suffixes of its term. -/
theorem evaluate_append_eq_ok_iff (hspelling : Spelling tokens front)
    (hreads : Reads target.types .primary tokens term) (hrest : NoWordHead rest)
    (htext : text.toList = front ++ rest) :
    target.evaluate text = .ok value ↔ ∃ more, Token.scan rest = .ok more ∧
      (Term.suffixes term more).2 = [] ∧ (Term.suffixes term more).1.Denotes target value := by
  have hterm : ∀ more, (Term.ofTokens target.types (tokens ++ more)).Denotes target value ↔
      (Term.suffixes term more).2 = [] ∧ (Term.suffixes term more).1.Denotes target value := by
    intro more
    have hphrase : Phrase.primary = .unary → NoSuffix more := by
      rintro ⟨⟩
    rw [Term.ofTokens, unary_append hreads more hphrase]
    split
    · next found hfound => simp only [hfound, true_and]
    · next found token others hfound =>
      simp only [hfound, reduceCtorEq, false_and, iff_false]
      rintro ⟨⟩
  rw [Target.evaluate_eq_ok_iff, htext, scan_append hspelling hrest]
  simp only [Except.map_eq_ok_iff, ← hterm]
  constructor
  · rintro ⟨_, ⟨more, hmore, rfl⟩, hdenotes⟩
    exact ⟨more, hmore, hdenotes⟩
  · rintro ⟨more, hmore, hdenotes⟩
    exact ⟨_, ⟨more, hmore, rfl⟩, hdenotes⟩

end Expression

namespace Target

variable {target : Target} {text : String} {value : Value}

/-- An expression that has a value is a primary in parentheses, unless it is the name of a type. -/
theorem exists_group (hvalue : target.evaluate text = .ok value)
    (hlone : ∀ name, Token.scan text.toList = .ok [.word name] →
      ∀ type, target.types.resolve name ≠ .ok type) :
    ∃ group term, Spelling group ('(' :: (text.toList ++ [')'])) ∧
      Reads target.types .primary group term ∧ term.Denotes target value := by
  obtain ⟨tokens, term, hspelling, hreads, hdenotes⟩ := evaluate_eq_ok_iff_reads.1 hvalue
  have hlone' : NoLoneType target.types tokens := by
    intro name htokens
    exact hlone name (by rw [scan_eq_ok_iff, ← htokens]; exact hspelling)
  exact ⟨_, term, hspelling.parenthesize .nil, .group hlone' hreads, hdenotes⟩

section Group

variable {group : List Token} {term : Term} (hgroup : Spelling group ('(' :: (text.toList ++ [')'])))
  (hprimary : Reads target.types .primary group term) (hdenotes : term.Denotes target value)

include hgroup hprimary hdenotes

theorem evaluate_group : target.evaluate ("(" ++ text ++ ")") = .ok value :=
  (evaluate_eq_ok_iff_denotes (by simpa using hgroup) (.ofSuffixed (.ofPrimary hprimary))).2 hdenotes

theorem evaluate_contents_addressOf {address : UInt64} (haddress : value.location = .memory address) :
    target.evaluate ("*&(" ++ text ++ ")") = .ok value := by
  have hvalue : value = .atAddress address value.type :=
    Value.address?_eq_some_iff.1 (by rw [Value.address?, haddress])
  rw [hvalue] at hdenotes ⊢
  have htext : Spelling (.mark .star :: .mark .ampersand :: group) ("*&(" ++ text ++ ")").toList := by
    simpa [Mark.chars] using Spelling.mark .star (.mark .ampersand hgroup)
  apply (evaluate_eq_ok_iff_denotes htext
    (.contents (.addressOf (.ofSuffixed (.ofPrimary hprimary))))).2
  exact .contentsPointer (.addressOf hdenotes) rfl (readBits_ofBits_pointer address _)

theorem evaluate_subscript_zero_iff {element : CType} {size : Nat}
    (helement : value.type = .pointer element ∨ ∃ length, value.type = .array element length)
    (hsize : target.types.byteSize element = .ok size) (result : Value) :
    target.evaluate ("(" ++ text ++ ")[0]") = .ok result ↔
      target.evaluate ("*(" ++ text ++ ")") = .ok result := by
  have hindex : Spelling [.mark .openBracket, .integer 0, .mark .closeBracket] "[0]".toList :=
    scan_eq_ok_iff.1 (by decide +kernel)
  have hsubscript := hgroup.append hindex (noWordHead_cons (by decide))
  have hcontents : Spelling (.mark .star :: group) ("*(" ++ text ++ ")").toList := by
    simpa [Mark.chars] using Spelling.mark .star hgroup
  rw [evaluate_eq_ok_iff_denotes (by simpa using hsubscript)
      (.ofSuffixed (.subscript (.ofPrimary hprimary))),
    evaluate_eq_ok_iff_denotes hcontents (.contents (.ofSuffixed (.ofPrimary hprimary)))]
  exact Term.agree_subscript_zero hdenotes helement hsize result

theorem evaluate_arrow_iff {pointee : CType} (htype : value.type = .pointer pointee) (name : String)
    (result : Value) :
    target.evaluate ("(" ++ text ++ ")->" ++ name) = .ok result ↔
      target.evaluate ("(*(" ++ text ++ "))." ++ name) = .ok result := by
  have hcontents : Spelling (.mark .openParen :: (.mark .star :: group ++ [.mark .closeParen]))
      ('(' :: ('*' :: '(' :: (text.toList ++ [')']) ++ [')'])) :=
    (Spelling.mark .star hgroup).parenthesize .nil
  have hlone : NoLoneType target.types (.mark .star :: group) := by
    rintro _ ⟨⟩
  have hprimary' : Reads target.types .primary
      (.mark .openParen :: (.mark .star :: group ++ [.mark .closeParen])) (.contents term) :=
    .group hlone (.contents (.ofSuffixed (.ofPrimary hprimary)))
  have harrow : ("(" ++ text ++ ")->" ++ name).toList =
      ('(' :: (text.toList ++ [')'])) ++ (Mark.arrow.chars ++ name.toList) := by
    simp [Mark.chars]
  have hdot : ("(*(" ++ text ++ "))." ++ name).toList =
      ('(' :: ('*' :: '(' :: (text.toList ++ [')']) ++ [')'])) ++ (Mark.dot.chars ++ name.toList) := by
    simp [Mark.chars]
  have harrowHead : NoWordHead (Mark.arrow.chars ++ name.toList) := noWordHead_cons (by decide)
  have hdotHead : NoWordHead (Mark.dot.chars ++ name.toList) := noWordHead_cons (by decide)
  rw [evaluate_append_eq_ok_iff hgroup hprimary harrowHead harrow,
    evaluate_append_eq_ok_iff hcontents hprimary' hdotHead hdot]
  simp only [scan_mark_append, Except.map_eq_ok_iff, exists_exists_and_eq_and]
  apply exists_congr
  intro more
  obtain ⟨hrest, hagree⟩ := Term.Agree.suffixes_arrow (Term.agree_arrow hdenotes htype) more
  rw [hrest, hagree result]

end Group

/-- Parentheses keep a value, `*&` keeps one that lies in memory, an index of zero is the contents of
a pointer or an array, and an arrow is a member of the contents. -/
theorem evaluate_identities (hvalue : target.evaluate text = .ok value)
    (hlone : ∀ name, Token.scan text.toList = .ok [.word name] →
      ∀ type, target.types.resolve name ≠ .ok type) :
    target.evaluate ("(" ++ text ++ ")") = .ok value ∧
    (∀ address, value.location = .memory address →
      target.evaluate ("*&(" ++ text ++ ")") = .ok value) ∧
    (∀ element size, (value.type = .pointer element ∨ ∃ length, value.type = .array element length) →
      target.types.byteSize element = .ok size →
      ∀ result, target.evaluate ("(" ++ text ++ ")[0]") = .ok result ↔
        target.evaluate ("*(" ++ text ++ ")") = .ok result) ∧
    ∀ pointee, value.type = .pointer pointee →
      ∀ name result, target.evaluate ("(" ++ text ++ ")->" ++ name) = .ok result ↔
        target.evaluate ("(*(" ++ text ++ "))." ++ name) = .ok result := by
  obtain ⟨group, term, hgroup, hprimary, hdenotes⟩ := exists_group hvalue hlone
  refine ⟨evaluate_group hgroup hprimary hdenotes, ?_, ?_, ?_⟩
  · intro address haddress
    exact evaluate_contents_addressOf hgroup hprimary hdenotes haddress
  · intro element size helement hsize result
    exact evaluate_subscript_zero_iff hgroup hprimary hdenotes helement hsize result
  · intro pointee htype name result
    exact evaluate_arrow_iff hgroup hprimary hdenotes htype name result

/-- A target whose memory is a pointer to an address without memory. -/
def danglingPointer : Target where
  memory := (Snapshot.ofBytes 0x1000 (Text.toLittleEndian 8 0x2000).toArray).memory
  types := Hierarchy.types
  symbols := ∅
  symbolTypes := ∅

/-- The pointer lies in memory and has a type of several tokens. -/
theorem evaluate_identities_danglingPointer :
    danglingPointer.evaluate "*(SVector **)0x1000" =
      .ok (.atAddress 0x1000 (.pointer (.record Hierarchy.vectorType))) ∧
    danglingPointer.evaluate "(*(SVector **)0x1000)" =
      .ok (.atAddress 0x1000 (.pointer (.record Hierarchy.vectorType))) ∧
    danglingPointer.evaluate "*&(*(SVector **)0x1000)" =
      .ok (.atAddress 0x1000 (.pointer (.record Hierarchy.vectorType))) ∧
    danglingPointer.evaluate "(*(SVector **)0x1000)[0]" =
      .ok (.atAddress 0x2000 (.record Hierarchy.vectorType)) ∧
    danglingPointer.evaluate "(*(SVector **)0x1000)->vec_last" =
      .ok (.atAddress 0x2010 (.scalar .uint64)) := by
  have hvalue : danglingPointer.evaluate "*(SVector **)0x1000" =
      .ok (.atAddress 0x1000 (.pointer (.record Hierarchy.vectorType))) := by
    decide +kernel
  have hlone : ∀ name, Token.scan "*(SVector **)0x1000".toList = .ok [.word name] →
      ∀ type, danglingPointer.types.resolve name ≠ .ok type := by
    intro name hname
    have hlength : (Token.scan "*(SVector **)0x1000".toList).map List.length = .ok 7 := by
      decide +kernel
    rw [hname] at hlength
    cases hlength
  obtain ⟨hgroup, hplace, hindex, harrow⟩ := evaluate_identities hvalue hlone
  refine ⟨hvalue, hgroup, hplace 0x1000 rfl, ?_, ?_⟩
  · exact (hindex (.record Hierarchy.vectorType) 48 (.inl rfl) (by decide +kernel) _).2
      (by decide +kernel)
  · exact (harrow (.record Hierarchy.vectorType) rfl "vec_last" _).2 (by decide +kernel)

end Target

end MemoryInspector
