import MemoryInspector.Proofs.Expression.Element
import MemoryInspector.Proofs.Hierarchy.Dump
import MemoryInspector.Proofs.Hierarchy.Node
import MemoryInspector.Proofs.Hierarchy.Printable
import MemoryInspector.Proofs.Session.Command
import MemoryInspector.Proofs.Text.ShellWords

/-!
# Dumped and printed elements

A dump of a vector shows its elements as the print command shows them, when it is given the
expression of each element.
-/

namespace MemoryInspector

open Expression Hierarchy Text

variable {session : Session} {expression typeName : String} {address : UInt64}

/-- No text of tokens has a quote in it. -/
theorem Expression.Spelling.quote_not_mem {tokens : List Token} {text : List Char}
    (h : Spelling tokens text) : '\'' ∉ text := by
  intro hmem
  rcases h.mem_cases hmem with hblank | hword | ⟨kind, -, hkind⟩
  · exact absurd hblank (by decide)
  · exact absurd hword (by decide)
  · cases kind <;> exact absurd hkind (by decide)

namespace Session

/-- What a dump command reads and renders when it succeeds. -/
theorem execute_dump_of_ok (htypes : session.target.types = types)
    (hexpression : '\'' ∉ expression.toList) (htypeName : '\'' ∉ typeName.toList)
    (hvalue : session.target.evaluate expression = .ok (.atAddress address (.record vectorType)))
    (hok : (session.execute ("svector-dump '" ++ expression ++ "' '" ++ typeName ++ "'")).outcome =
      some (.ok .proceed)) :
    ∃ texts ending, (session.execute ("svector-dump '" ++ expression ++ "' '" ++ typeName ++ "'")).output =
        numberedLines texts ∧
      dump session.printers session.target ⟨.atAddress address (.record vectorType)⟩ typeName =
        (texts, ending) ∧ ending.run = some (.ok ()) := by
  have hline : "svector-dump '" ++ expression ++ "' '" ++ typeName ++ "'" =
      "svector-dump" ++ " " ++ ("'" ++ expression ++ "' '" ++ typeName ++ "'") := by
    apply String.toList_inj.1
    simp [String.toList_append]
  have hend : NoBlankEnd ("'" ++ expression ++ "' '" ++ typeName ++ "'").toList := by
    rw [String.toList_append]
    exact noBlankEnd_append_of_ne_nil (by decide) (by simp [NoBlankEnd]; decide) _
  have hne : ("'" ++ expression ++ "' '" ++ typeName ++ "'").toList ≠ [] := by
    simp [String.toList_append]
  have harguments : dumpArguments ("'" ++ expression ++ "' '" ++ typeName ++ "'") =
      .ok (expression, typeName) := by
    rw [dumpArguments, ShellWords.split?_quote_quote hexpression htypeName]
  have hvector : vectorOf session.target expression =
      .ok ⟨.atAddress address (.record vectorType)⟩ := by
    rw [vectorOf, hvalue, Except.ok_bind, VectorView.ofValue_record htypes]
  rw [hline, execute_dump hne hend, dumpVector_of_operands harguments hvector] at hok ⊢
  obtain ⟨⟨⟩, hending⟩ := outcomeOf_eq_proceed_iff.1 hok
  exact ⟨_, _, rfl, rfl, hending⟩

/-- The print command for an expression that starts with a star and ends with a bracket. -/
theorem execute_print_of_display {line text : String} {more : List Char} {value : Value}
    (hline : line.toList = '*' :: (more ++ [']'])) (hvalue : session.target.evaluate line = .ok value)
    (htext : display session.printers session.target value = pure text) :
    session.execute ("print" ++ " " ++ line) = ⟨text ++ "\n", some (.ok .proceed)⟩ := by
  have hend : NoBlankEnd ('*' :: (more ++ [']'])) :=
    noBlankEnd_append_of_ne_nil (by decide) (by simp [NoBlankEnd]; decide) ('*' :: more)
  have htrim : trim line.toList = line.toList := by
    rw [hline, trim_eq_self (by decide) hend]
  have hempty : line.isEmpty = false := by
    rw [String.isEmpty_eq_false_iff]
    intro hnil
    rw [hnil] at hline
    cases hline
  have hprint : session.print line = pure text := by
    rw [print, hempty, if_neg Bool.false_ne_true, hvalue, Rendering.liftM_ok, pure_bind, htext]
  rw [execute_print (by rw [hline]; exact List.cons_ne_nil _ _) (by rwa [hline]), htrim,
    String.ofList_toList, printLine, hprint]
  rfl

/-- The slot at an index of a dumped vector, and the element that it points to. -/
theorem slot_of_render (htypes : session.target.types = types) {pointee : CType} {slots : List Value}
    {texts : List String}
    (hslots : (VectorView.mk (.atAddress address (.record vectorType))).slots session.target pointee =
      .ok slots)
    (htexts : List.Forall₂ (fun slot text ↦ (do
      let element ← liftM (session.target.dereference slot)
      (ElementKind.ofType session.target.types pointee).render
        (display Hierarchy.printers session.target) session.target element : Rendering String) = pure text)
      slots texts) {index : Nat} (hindex : index < texts.length) :
    index < UInt64.size ∧ ∃ data bits,
      session.target.readBits (.atAddress (address + 40) (.pointer (.pointer .void))) = .ok data ∧
      session.target.readBits (.atAddress (data + UInt64.ofNat index * 8) (.pointer pointee)) =
        .ok bits ∧
      display Hierarchy.printers session.target (.atAddress bits pointee) = pure texts[index] := by
  have hlength := htexts.length_eq
  obtain ⟨count, -, hcount⟩ := (VectorView.slots_atAddress_eq_ok_iff htypes).1 hslots
  rcases hcount with ⟨-, rfl⟩ | ⟨-, data, hdata, -, rfl⟩
  · rw [← hlength] at hindex
    exact absurd hindex (Nat.not_lt_zero _)
  · rw [List.length_map, List.length_range] at hlength
    have hlt : index < count.toNat := by rwa [hlength]
    have hrender := htexts.get (i := index) (by simpa using hlt) hindex
    simp only [List.get_eq_getElem, List.getElem_map, List.getElem_range] at hrender
    obtain ⟨element, helement, htext⟩ := Rendering.liftM_bind_eq_pure_iff.1 hrender
    obtain ⟨pointee', bits, hpointee, hslot, rfl⟩ := Target.dereference_eq_ok_iff.1 helement
    cases hpointee
    have haddress : UInt64.ofNat (data.toNat + index * 8) = data + UInt64.ofNat index * 8 := by
      rw [UInt64.ofNat_add, UInt64.ofNat_toNat, UInt64.ofNat_mul]
      rfl
    rw [haddress] at hslot
    refine ⟨hlt.trans count.toNat_lt, data, bits, hdata, hslot, ?_⟩
    have htype : (Value.atAddress bits pointee).type = pointee := Value.type_atAddress
    rwa [render_ofType htype] at htext

/-- A dump that succeeds writes a line for each element of the vector, and each line shows the element as
the print command shows it. -/
theorem execute_dump_print {names : List String} {stars : Nat}
    (htypes : session.target.types = types) (hprinters : session.printers = Hierarchy.printers)
    (hvalue : session.target.evaluate expression = .ok (.atAddress address (.record vectorType)))
    (hlone : ∀ name, Token.scan expression.toList = .ok [.word name] →
      ∀ type, types.resolve name ≠ .ok type)
    (hnames : names ≠ [])
    (htypeName : Token.scan typeName.toList =
      .ok (names.map Token.word ++ List.replicate stars (.mark .star)))
    (hok : (session.execute ("svector-dump '" ++ expression ++ "' '" ++ typeName ++ "'")).outcome =
      some (.ok .proceed)) :
    ∃ (texts : List String) (count : UInt64),
      (VectorView.mk (.atAddress address (.record vectorType))).length session.target = .ok count ∧
      texts.length = count.toNat ∧ (∀ text ∈ texts, '\n' ∉ text.toList) ∧
      (session.execute ("svector-dump '" ++ expression ++ "' '" ++ typeName ++ "'")).output =
        String.join (texts.mapIdx fun index text ↦ s!"{decimal index}: {text}\n") ∧
      ∀ index (hindex : index < texts.length),
        session.execute ("print *(" ++ typeName ++ " *)(" ++ expression ++ ").vec_arr[" ++
          decimal index ++ "]") = ⟨texts[index] ++ "\n", some (.ok .proceed)⟩ := by
  obtain ⟨tokens, term, hspelling, hreads, hdenotes⟩ := Target.evaluate_eq_ok_iff_reads.1 hvalue
  have htype : Spelling (typeTokens names stars) typeName.toList := scan_eq_ok_iff.1 htypeName
  obtain ⟨texts, ending, houtput, hdump, hending⟩ := execute_dump_of_ok htypes
    hspelling.quote_not_mem htype.quote_not_mem hvalue hok
  obtain ⟨pointee, slots, hpointee, hslots, htexts⟩ := dump_of_ok hdump hending
  rw [hprinters] at htexts
  have hresolved := elementType_eq_ok_iff.1 hpointee
  obtain ⟨count, hcount, -⟩ := VectorView.slots_eq_ok_iff.1 hslots
  have hlength : texts.length = count.toNat :=
    htexts.length_eq.symm.trans (VectorView.length_slots hslots hcount)
  refine ⟨texts, count, hcount, hlength, ?_, houtput, ?_⟩
  · intro text htext
    obtain ⟨index, hindex, rfl⟩ := List.mem_iff_getElem.1 htext
    obtain ⟨-, data, bits, -, -, hdisplay⟩ := slot_of_render htypes hslots htexts hindex
    have hprintable : session.target.types.HasPrintable := by
      rw [htypes]
      exact types_hasPrintable
    have hnames := Registry.hasPrintable_of_resolve hprintable hresolved.1
    exact (printable_of_display hprintable printers_clean hnames hdisplay).newline_not_mem
  · intro index hindex
    obtain ⟨hbound, data, bits, hdata, hslot, hdisplay⟩ := slot_of_render htypes hslots htexts hindex
    have hresolve := resolve_typeText_succ hnames htype hresolved.1
    have hlone' : NoLoneType session.target.types tokens := by
      intro name hname type
      rw [htypes]
      exact hlone name (by rw [scan_eq_ok_iff, ← hname]; exact hspelling) type
    have helement := Target.evaluate_eq_ok_iff_reads.2 ⟨_, _, spelling_element htype hspelling hbound,
      reads_element hnames hresolve hlone' hreads _, denotes_element htypes hdenotes hdata hslot⟩
    rw [← hprinters] at hdisplay
    have hline : "print *(" ++ typeName ++ " *)(" ++ expression ++ ").vec_arr[" ++ decimal index ++ "]" =
        "print" ++ " " ++ ("*(" ++ typeName ++ " *)(" ++ expression ++ ").vec_arr[" ++
          decimal index ++ "]") := by
      apply String.toList_inj.1
      simp [String.toList_append]
    have hchars : ("*(" ++ typeName ++ " *)(" ++ expression ++ ").vec_arr[" ++ decimal index ++
        "]").toList = '*' :: ('(' :: (typeName ++ " *)(" ++ expression ++ ").vec_arr[" ++
          decimal index).toList ++ [']']) := by
      simp [String.toList_append]
    rw [hline]
    exact execute_print_of_display hchars helement hdisplay

/-- The hierarchy of two nodes, the first one under the name `root`. -/
def pairSession : Session where
  target := {
    memory := (Chunk.image (pair.chunks pairPlacement)).memory
    types := types
    symbols := (∅ : Std.TreeMap String UInt64).insert "root" 0x1000
    symbolTypes := (∅ : Std.TreeMap String CType).insert "root" (.record nodeType) }
  printers := Hierarchy.printers

theorem evaluate_pairSession :
    pairSession.target.evaluate "root.children" = .ok (.atAddress 0x1050 (.record vectorType)) := by
  decide +kernel

theorem execute_dump_print_pairSession :
    (pairSession.execute "svector-dump 'root.children' 'SelvaHierarchyNode'").outcome =
      some (.ok .proceed) ∧
    ∃ (texts : List String) (count : UInt64),
      (VectorView.mk (.atAddress 0x1050 (.record vectorType))).length pairSession.target = .ok count ∧
      texts.length = count.toNat ∧ (∀ text ∈ texts, '\n' ∉ text.toList) ∧
      (pairSession.execute "svector-dump 'root.children' 'SelvaHierarchyNode'").output =
        String.join (texts.mapIdx fun index text ↦ s!"{decimal index}: {text}\n") ∧
      ∀ index (hindex : index < texts.length),
        pairSession.execute ("print *(SelvaHierarchyNode *)(root.children).vec_arr[" ++
          decimal index ++ "]") = ⟨texts[index] ++ "\n", some (.ok .proceed)⟩ := by
  have hlone : ∀ name, Token.scan "root.children".toList = .ok [.word name] →
      ∀ type, types.resolve name ≠ .ok type := by
    intro name hname
    have hscan : Token.scan "root.children".toList =
        .ok [.word "root", .mark .dot, .word "children"] := by
      decide +kernel
    rw [hscan] at hname
    cases hname
  have hok : (pairSession.execute "svector-dump 'root.children' 'SelvaHierarchyNode'").outcome =
      some (.ok .proceed) := by
    decide +kernel
  have hline : "svector-dump '" ++ "root.children" ++ "' '" ++ "SelvaHierarchyNode" ++ "'" =
      "svector-dump 'root.children' 'SelvaHierarchyNode'" := by
    decide
  have helement : "print *(" ++ "SelvaHierarchyNode" ++ " *)(" ++ "root.children" ++ ").vec_arr[" =
      "print *(SelvaHierarchyNode *)(root.children).vec_arr[" := by
    decide
  have hdump := @execute_dump_print pairSession "root.children" "SelvaHierarchyNode" 0x1050
    ["SelvaHierarchyNode"] 0 rfl rfl evaluate_pairSession hlone (List.cons_ne_nil _ _)
    (by decide +kernel)
  rw [hline, helement] at hdump
  exact ⟨hok, hdump hok⟩

end Session

end MemoryInspector
