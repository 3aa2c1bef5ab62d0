import Mathlib.Data.List.Lattice
import Mathlib.Data.List.Perm.Basic
import Scaffold.Artifact.Rendering
import Scaffold.Proofs.Collision

/-!
# Names that a file exports

The model and the validation schemas export a declaration or two for each enumeration, beside a few
that every entity has. The names of the constants end in a word behind an underscore, and a name in
pascal case has no underscore, so the two kinds of names never meet. What is left are the names of
two enumerations, and an enumeration that is named like a fixed declaration.
-/
namespace Scaffold

open Artifact Script Text

/-! ## Letters -/

namespace Text

theorem eq_of_ofNat_eq_underscore {n : Nat} (h : Char.ofNat n = '_') : n = 95 := by
  by_cases hvalid : n.isValidChar
  · have hcode : (Char.ofNat n).toNat = n := by
      rw [Char.ofNat, dif_pos hvalid]
      rfl
    rw [← hcode, h]
    rfl
  · rw [Char.ofNat, dif_neg hvalid] at h
    exact absurd h (by decide)

theorem mapCode_upperRuns_ne {code : Nat} (h : 128 ≤ code) :
    Case.mapCode Case.upperRuns code ≠ 95 := by
  have hruns : ∀ r ∈ Case.upperRuns,
      95 < Int.ofNat r.first + r.shift ∨ Int.ofNat r.last + r.shift < 95 := by
    decide +kernel
  unfold Case.mapCode
  split
  · next r hfind =>
    have hcovers : r.covers code = true := by simpa using List.find?_some hfind
    have hrun := hruns r (List.mem_of_find?_eq_some hfind)
    simp only [Case.Run.covers, Bool.and_eq_true, decide_eq_true_eq] at hcovers
    have hfirst := hcovers.1.1
    have hlast := hcovers.1.2
    simp only [Int.ofNat_eq_natCast] at hrun ⊢
    omega
  · omega

/-- What holds for the first code points holds for each character of ASCII. -/
theorem of_ascii {P : Char → Prop} (h : ∀ code < 128, P (Char.ofNat code)) {c : Char}
    (hascii : c.toNat < 128) : P c := by
  have hc := h c.toNat hascii
  rwa [Char.ofNat_toNat] at hc

theorem mem_of_lookup {table : List (Nat × List Nat)} {code : Nat} {codes : List Nat}
    (h : table.lookup code = some codes) : (code, codes) ∈ table := by
  obtain ⟨before, after, rfl, _⟩ := List.lookup_eq_some_iff.1 h
  exact List.mem_append_right before List.mem_cons_self

/-- Nothing but an underscore turns into one. -/
theorem underscore_notMem_upperChar {c : Char} (h : c ≠ '_') : '_' ∉ upperChar c := by
  by_cases hascii : c.toNat < 128
  · rw [upperChar_ascii hascii, List.mem_singleton]
    exact of_ascii (P := fun c => c ≠ '_' → '_' ≠ c.toUpper) (by decide +kernel) hascii h
  · have hspecial : ∀ p ∈ Case.upperSpecial, '_' ∉ p.2.map Char.ofNat := by decide +kernel
    simp only [upperChar, hascii, if_false]
    cases hlookup : Case.upperSpecial.lookup c.toNat with
    | some codes => exact hspecial _ (mem_of_lookup hlookup)
    | none =>
      rw [List.mem_singleton]
      intro heq
      exact mapCode_upperRuns_ne (by omega) (eq_of_ofNat_eq_underscore heq.symm)

theorem underscore_notMem_camelChars (raised : Bool) (cs : List Char) :
    '_' ∉ camelChars raised cs := by
  induction cs generalizing raised with
  | nil => exact List.not_mem_nil
  | cons c rest ih =>
    by_cases hc : c = '_'
    · simpa [camelChars, hc] using ih true
    · have hhead : '_' ∉ if raised then upperChar c else [c] := by
        cases raised with
        | true => exact underscore_notMem_upperChar hc
        | false => simpa using Ne.symm hc
      simp only [camelChars, hc, if_false, List.mem_append, not_or]
      exact ⟨hhead, ih false⟩

theorem underscore_notMem_pascalCase (name : String) : '_' ∉ (pascalCase name).toList := by
  rw [toList_pascalCase, pascalChars]
  have hcamel := underscore_notMem_camelChars false name.toList
  cases hchars : camelChars false name.toList with
  | nil => exact List.not_mem_nil
  | cons c rest =>
    rw [hchars, List.mem_cons, not_or] at hcamel
    rw [List.mem_append, not_or]
    exact ⟨underscore_notMem_upperChar (Ne.symm hcamel.1), hcamel.2⟩

theorem lowerChar_ne_nil (c : Char) : lowerChar c ≠ [] := by
  have hspecial : ∀ p ∈ Case.lowerSpecial, p.2 ≠ [] := by decide
  unfold lowerChar
  split
  · exact List.cons_ne_nil _ _
  · split
    · next codes hlookup => simpa using hspecial _ (mem_of_lookup hlookup)
    · exact List.cons_ne_nil _ _

theorem upperChar_ne_nil (c : Char) : upperChar c ≠ [] := by
  have hspecial : ∀ p ∈ Case.upperSpecial, p.2 ≠ [] := by decide +kernel
  unfold upperChar
  split
  · exact List.cons_ne_nil _ _
  · split
    · next codes hlookup => simpa using hspecial _ (mem_of_lookup hlookup)
    · exact List.cons_ne_nil _ _

theorem length_le_flatMap {α β : Type} {f : α → List β} (h : ∀ a, f a ≠ []) (items : List α) :
    items.length ≤ (items.flatMap f).length := by
  induction items with
  | nil => exact Nat.le_refl 0
  | cons a rest ih =>
    have hhead : 0 < (f a).length := List.length_pos_iff.2 (h a)
    rw [List.flatMap_cons, List.length_append, List.length_cons]
    omega

theorem length_le_snakeChars (cs : List Char) : cs.length ≤ (snakeChars cs).length := by
  cases cs with
  | nil => exact Nat.le_refl 0
  | cons c rest =>
    have hhead : 0 < (lowerChar c).length := List.length_pos_iff.2 (lowerChar_ne_nil c)
    have hrest : rest.length ≤ (rest.flatMap fun d =>
        if isUppercase d then '_' :: lowerChar d else lowerChar d).length := by
      refine length_le_flatMap (fun d => ?_) rest
      split
      · exact List.cons_ne_nil _ _
      · exact lowerChar_ne_nil d
    rw [snakeChars, List.length_append, List.length_cons]
    omega

/-- A name does not get shorter on its way into a constant. -/
theorem length_le_upper_snakeCase (name : String) :
    name.toList.length ≤ (upper (snakeCase name)).toList.length := by
  have hsnake := length_le_snakeChars name.toList
  have hupper := length_le_flatMap upperChar_ne_nil (snakeChars name.toList)
  simp only [upper, toList_snakeCase, String.toList_ofList]
  omega

end Text

/-! ## Exported declarations -/

namespace Script

/-- A declaration that a file exports, by the line that opens it. -/
structure Declaration where
  keyword : String
  name : String
  rest : String
deriving DecidableEq, Repr

def Declaration.line (d : Declaration) : String :=
  "export " ++ d.keyword ++ " " ++ d.name ++ d.rest

def isExport (line : String) : Bool := "export ".toList.isPrefixOf line.toList

/-- A text is made of lines, and those that export something are those of the declarations, in
order. -/
def Exports (text : String) (lines : List String) (declarations : List Declaration) : Prop :=
  text = unlines lines ∧ lines.filter isExport = declarations.map Declaration.line

theorem isExport_eq_false {start : String} {c : Char} (h : start.toList.head? = some c)
    (hc : c ≠ 'e') (rest : String) : isExport (start ++ rest) = false := by
  obtain ⟨cs, hstart⟩ := List.head?_eq_some_iff.1 h
  simp [isExport, hstart, List.isPrefixOf, hc.symm]

theorem isExport_line (d : Declaration) : isExport d.line = true := by
  simp [isExport, Declaration.line]

theorem filter_isExport_eq_nil {lines : List String} (h : ∀ line ∈ lines, isExport line = false) :
    lines.filter isExport = [] := by
  rw [List.filter_eq_nil_iff]
  intro line hline
  simp [h line hline]

theorem isExport_memberLine (m : Member) : isExport m.line = false := by
  have hline : m.line = "  " ++ (m.name ++ onlyIf m.optional "?" ++ ": " ++ m.type
      ++ onlyIf m.nullable " | null") := by
    simp only [Member.line, String.append_assoc]
  rw [hline]
  exact isExport_eq_false (c := ' ') rfl (by decide) _

/-- Of the lines of an interface the first one may export it. -/
theorem filter_isExport_interface {i : Interface} {d : Declaration}
    (h : i.opening ++ " \x7b" = d.line) : i.lines.filter isExport = [d.line] := by
  have hbody : i.body.filter isExport = [] := by
    refine filter_isExport_eq_nil ?_
    intro line hline
    obtain ⟨m, _, rfl⟩ := List.mem_map.1 hline
    exact isExport_memberLine m
  have hclose : isExport "\x7d" = false := by decide
  simp [Interface.lines, h, isExport_line, hbody, hclose]

end Script

namespace Artifact

theorem filter_isExport_comment (text : List String) :
    (comment "" text).filter isExport = [] := by
  refine filter_isExport_eq_nil ?_
  intro line hline
  simp only [comment, List.mem_append, List.mem_singleton, List.mem_map] at hline
  rcases hline with (rfl | ⟨word, _, rfl⟩) | rfl
  · simp [isExport, List.isPrefixOf]
  · simp [isExport, List.isPrefixOf]
  · simp [isExport, List.isPrefixOf]

namespace Model

def enumDeclarations (s : Schema) (f : Field) : List Declaration := [
  ⟨"type", f.typeName s.name, " = " ++ literalUnion f.values⟩,
  ⟨"const", valuesConstant s f,
    ": " ++ f.typeName s.name ++ "[] = [" ++ literalList f.values ++ "]"⟩]

def fixedDeclarations (s : Schema) : List Declaration := [
  ⟨"interface", s.name ++ "DatabaseRecord", " \x7b"⟩,
  ⟨"interface", s.name ++ "Data", " \x7b"⟩,
  ⟨"type", s.name ++ "CreateInput", " = \x7b"⟩,
  ⟨"type", s.name ++ "UpdateInput", " = \x7b"⟩,
  ⟨"class", s.name, " \x7b"⟩]

def declarations (s : Schema) : List Declaration :=
  s.enumFields.flatMap (enumDeclarations s) ++ fixedDeclarations s

theorem map_name_declarations (s : Schema) : (declarations s).map (·.name) = exports s := by
  simp [declarations, exports, List.map_flatMap, enumDeclarations, fixedDeclarations]

theorem filter_isExport_enumLines (s : Schema) (f : Field) :
    (enumLines s f).filter isExport = (enumDeclarations s f).map Declaration.line := by
  have htype : s!"export type {f.typeName s.name} = {literalUnion f.values}" =
      (Declaration.mk "type" (f.typeName s.name) (" = " ++ literalUnion f.values)).line := by
    rw [← String.toList_inj]
    simp [Declaration.line, toString]
  have hconst :
      s!"export const {valuesConstant s f}: {f.typeName s.name}[] = [{literalList f.values}]" =
      (Declaration.mk "const" (valuesConstant s f)
        (": " ++ f.typeName s.name ++ "[] = [" ++ literalList f.values ++ "]")).line := by
    rw [← String.toList_inj]
    simp [Declaration.line, toString]
  have hblank : isExport "" = false := by decide
  rw [enumLines, htype, hconst]
  simp [enumDeclarations, isExport_line, hblank]

theorem filter_isExport_classLines (s : Schema) :
    (classLines s).filter isExport = [(Declaration.mk "class" s.name " \x7b").line] := by
  have hclass : s!"export class {s.name} \x7b" = (Declaration.mk "class" s.name " \x7b").line := by
    rw [← String.toList_inj]
    simp [Declaration.line, toString]
  have hlines : classLines s =
      "" :: s!"export class {s.name} \x7b" :: (classLines s).drop 2 := rfl
  have hbody : ∀ line ∈ (classLines s).drop 2, isExport line = false := by
    simp only [classLines, List.cons_append, List.nil_append, List.drop_succ_cons, List.drop_zero,
      List.forall_mem_append, List.forall_mem_map, List.forall_mem_cons, isExport_memberLine]
    simp [isExport, List.isPrefixOf, toString]
  rw [hlines, hclass, List.filter_cons_of_neg (by decide),
    List.filter_cons_of_pos (isExport_line _), filter_isExport_eq_nil hbody]

theorem exports_text (s : Schema) : Exports (text s) (lines s) (declarations s) := by
  refine ⟨rfl, ?_⟩
  have hblank : isExport "" = false := by decide
  have hinterface (word : String) : "export interface " ++ s.name ++ word ++ " \x7b" =
      (Declaration.mk "interface" (s.name ++ word) " \x7b").line := by
    rw [← String.toList_inj]
    simp [Declaration.line]
  have htype (word opening : String) (h : opening.toList = word.toList ++ [' ', '=']) :
      "export type " ++ s.name ++ opening ++ " \x7b" =
        (Declaration.mk "type" (s.name ++ word) " = \x7b").line := by
    rw [← String.toList_inj]
    simp [Declaration.line, h]
  have hrow := filter_isExport_interface (i := rowInterface s) (hinterface "DatabaseRecord")
  have hdata := filter_isExport_interface (i := dataInterface s) (hinterface "Data")
  have hcreate := filter_isExport_interface (i := createType s) 
    (htype "CreateInput" "CreateInput =" (by decide))
  have hupdate := filter_isExport_interface (i := updateType s) 
    (htype "UpdateInput" "UpdateInput =" (by decide))
  simp [lines, headerLines, declarations, fixedDeclarations, List.filter_flatMap, List.map_flatMap,
    filter_isExport_comment, filter_isExport_enumLines, filter_isExport_classLines, hblank, hrow,
    hdata, hcreate, hupdate]

/-! ## Names of the model -/

/-- A constant is never named like the entity with a word behind it. -/
theorem valuesConstant_ne (s : Schema) (f : Field) {word : String} (h : '_' ∉ word.toList) :
    valuesConstant s f ≠ s.name ++ word := by
  intro heq
  have hlength := length_le_upper_snakeCase s.name
  have hlists := congrArg String.toList heq
  simp only [valuesConstant, String.toList_append, List.append_assoc] at hlists
  -- the underscore after the entity would have to stand in the word
  rcases List.append_eq_append_iff.1 hlists with ⟨more, hname, hword⟩ | ⟨more, hupper, hword⟩
  · rw [hname, List.length_append] at hlength
    have hmore : more = [] := List.eq_nil_of_length_eq_zero (by omega)
    rw [hmore, List.nil_append] at hword
    exact h (by simp [← hword])
  · exact h (by simp [hword])

/-- The words that the entity's name has behind it in the declarations that are always there. -/
def fixedWords : List String := ["DatabaseRecord", "Data", "CreateInput", "UpdateInput", ""]

theorem perm_exports (s : Schema) : (exports s).Perm
    ((s.enumFields.map (fun f => pascalCase f.name) ++ fixedWords).map (s.name ++ ·) ++
      s.enumFields.map (valuesConstant s)) := by
  have hfixed : [s.name ++ "DatabaseRecord", s.name ++ "Data", s.name ++ "CreateInput",
      s.name ++ "UpdateInput", s.name] = fixedWords.map (s.name ++ ·) := by
    simp [fixedWords]
  have henums : (s.enumFields.map (Field.typeName s.name) ++
      s.enumFields.map (valuesConstant s)).Perm
        (s.enumFields.flatMap fun f => [f.typeName s.name, valuesConstant s f]) := by
    rw [List.map_eq_flatMap (f := valuesConstant s)]
    exact List.map_append_flatMap_perm _ _ _
  rw [exports, hfixed, List.map_append, List.map_map, List.append_assoc]
  refine (henums.symm.append_right _).trans ?_
  rw [List.append_assoc]
  exact List.Perm.append_left _ List.perm_append_comm

/-- Two enumerations have types and constants of their own, and no type is named like a
declaration that is always there. -/
structure NamesApart (s : Schema) : Prop where
  types : (s.enumFields.map fun f => pascalCase f.name).Nodup
  constants : (s.enumFields.map fun f => upper f.column).Nodup
  fixed : ∀ f ∈ s.enumFields, pascalCase f.name ∉ fixedWords

theorem nodup_exports_iff (s : Schema) : (exports s).Nodup ↔ NamesApart s := by
  have hentity : Function.Injective (s.name ++ ·) := fun a b h => by simpa using h
  have hconstant : Function.Injective fun column =>
      upper (snakeCase s.name) ++ "_" ++ column ++ "_VALUES" := by
    intro a b h
    simpa [String.append_left_inj] using h
  have hconstants : s.enumFields.map (valuesConstant s) = (s.enumFields.map fun f =>
      upper f.column).map fun column => upper (snakeCase s.name) ++ "_" ++ column ++ "_VALUES" := by
    rw [List.map_map]
    rfl
  have hwords : ∀ word ∈ s.enumFields.map (fun f => pascalCase f.name) ++ fixedWords,
      '_' ∉ word.toList := by
    rw [List.forall_mem_append, List.forall_mem_map]
    exact ⟨fun f _ => underscore_notMem_pascalCase f.name, by decide⟩
  have hdisjoint : ((s.enumFields.map (fun f => pascalCase f.name) ++ fixedWords).map
      (s.name ++ ·)).Disjoint (s.enumFields.map (valuesConstant s)) := by
    intro name hname hconst
    obtain ⟨word, hword, rfl⟩ := List.mem_map.1 hname
    obtain ⟨f, _, heq⟩ := List.mem_map.1 hconst
    exact valuesConstant_ne s f (hwords word hword) heq
  have hfixed : fixedWords.Nodup := by decide
  rw [(perm_exports s).nodup_iff, List.nodup_append', List.nodup_map_iff hentity,
    List.nodup_append', hconstants, List.nodup_map_iff hconstant]
  rw [← hconstants]
  constructor
  · rintro ⟨⟨htypes, _, hapart⟩, hconsts, _⟩
    exact ⟨htypes, hconsts, fun f hf => hapart (List.mem_map_of_mem hf)⟩
  · intro h
    refine ⟨⟨h.types, hfixed, ?_⟩, h.constants, hdisjoint⟩
    intro word hword
    obtain ⟨f, hf, rfl⟩ := List.mem_map.1 hword
    exact h.fixed f hf

end Model

/-! ## The validation schemas -/

namespace Validation

def enumDeclaration (s : Schema) (f : Field) : Declaration :=
  ⟨"const", enumConstant s f, " = z.enum([" ++ literalList f.values ++ "])"⟩

def declarations (s : Schema) : List Declaration :=
  s.enumFields.map (enumDeclaration s) ++ [
    ⟨"const", createConstant s, " = z.object(\x7b"⟩,
    ⟨"const", updateConstant s, " = z.object(\x7b"⟩,
    ⟨"type", s.name ++ "CreateInput", " = z.infer<typeof " ++ createConstant s ++ ">"⟩,
    ⟨"type", s.name ++ "UpdateInput", " = z.infer<typeof " ++ updateConstant s ++ ">"⟩]

/-- The names of the constants among the declarations. -/
theorem map_name_constants (s : Schema) :
    ((declarations s).filter (·.keyword = "const")).map (·.name) = constants s := by
  have henums : (s.enumFields.map (enumDeclaration s)).filter (·.keyword = "const") =
      s.enumFields.map (enumDeclaration s) := by
    rw [List.filter_eq_self, List.forall_mem_map]
    exact fun _ _ => rfl
  rw [declarations, List.filter_append, henums, List.map_append, List.map_map, constants]
  rfl

theorem filter_isExport_enumLines (s : Schema) (f : Field) :
    (enumLines s f).filter isExport = [(enumDeclaration s f).line] := by
  have hconst : s!"export const {enumConstant s f} = z.enum([{literalList f.values}])" =
      (enumDeclaration s f).line := by
    rw [← String.toList_inj]
    simp [enumDeclaration, Declaration.line, toString]
  have hblank : isExport "" = false := by decide
  rw [enumLines, hconst]
  simp [isExport_line, hblank]

theorem filter_isExport_objectLines (constant : String) (entries : List Entry) :
    (objectLines constant entries).filter isExport =
      [(Declaration.mk "const" constant " = z.object(\x7b").line] := by
  have hconst : s!"export const {constant} = z.object(\x7b" =
      (Declaration.mk "const" constant " = z.object(\x7b").line := by
    rw [← String.toList_inj]
    simp [Declaration.line, toString]
  have hentries : (entries.map Entry.line).filter isExport = [] := by
    refine filter_isExport_eq_nil ?_
    rw [List.forall_mem_map]
    intro e _
    simp [Entry.line, isExport, List.isPrefixOf]
  have hblank : isExport "" = false := by decide
  have hclose : isExport "\x7d)" = false := by decide
  rw [objectLines, hconst]
  simp [isExport_line, hentries, hblank, hclose]

theorem filter_isExport_typeLines (s : Schema) : (typeLines s).filter isExport = [
    (Declaration.mk "type" (s.name ++ "CreateInput")
      (" = z.infer<typeof " ++ createConstant s ++ ">")).line,
    (Declaration.mk "type" (s.name ++ "UpdateInput")
      (" = z.infer<typeof " ++ updateConstant s ++ ">")).line] := by
  have hblank : isExport "" = false := by decide
  have hcreate : s!"export type {s.name}CreateInput = z.infer<typeof {createConstant s}>" =
      (Declaration.mk "type" (s.name ++ "CreateInput")
        (" = z.infer<typeof " ++ createConstant s ++ ">")).line := by
    rw [← String.toList_inj]
    simp [Declaration.line, toString]
  have hupdate : s!"export type {s.name}UpdateInput = z.infer<typeof {updateConstant s}>" =
      (Declaration.mk "type" (s.name ++ "UpdateInput")
        (" = z.infer<typeof " ++ updateConstant s ++ ">")).line := by
    rw [← String.toList_inj]
    simp [Declaration.line, toString]
  rw [typeLines, hcreate, hupdate]
  simp [isExport_line, hblank]

theorem exports_text (s : Schema) : Exports (text s) (lines s) (declarations s) := by
  refine ⟨rfl, ?_⟩
  have hblank : isExport "" = false := by decide
  have himport : isExport "import \x7b z \x7d from 'https://deno.land/x/zod@v3.23.8/mod.ts'" =
      false := by decide
  have henums : (s.enumFields.flatMap (enumLines s)).filter isExport =
      (s.enumFields.map (enumDeclaration s)).map Declaration.line := by
    rw [List.filter_flatMap, List.map_map, List.map_eq_flatMap]
    simp only [filter_isExport_enumLines, Function.comp_apply]
  simp [lines, headerLines, declarations, filter_isExport_comment, henums,
    filter_isExport_objectLines, filter_isExport_typeLines, hblank, himport]

/-- The words that the entity's name has behind it in the constants that are always there. -/
def fixedWords : List String := ["Create", "Update"]

/-- Two enumerations have constants of their own, and none is named like one that is always
there. -/
structure NamesApart (s : Schema) : Prop where
  constants : (s.enumFields.map fun f => pascalCase f.name).Nodup
  fixed : ∀ f ∈ s.enumFields, pascalCase f.name ∉ fixedWords

theorem nodup_constants_iff (s : Schema) : (constants s).Nodup ↔ NamesApart s := by
  have hinjective : Function.Injective fun word => s.name ++ word ++ "Schema" := by
    intro a b h
    simpa [String.append_left_inj] using h
  have hconstants : constants s = (s.enumFields.map (fun f => pascalCase f.name) ++ fixedWords).map
      fun word => s.name ++ word ++ "Schema" := by
    rw [constants, fixedWords, List.map_append, List.map_map]
    simp [enumConstant, createConstant, updateConstant, Field.typeName, String.append_assoc]
  have hfixed : fixedWords.Nodup := by decide
  rw [hconstants, List.nodup_map_iff hinjective, List.nodup_append']
  constructor
  · rintro ⟨hconsts, _, hapart⟩
    exact ⟨hconsts, fun f hf => hapart (List.mem_map_of_mem hf)⟩
  · intro h
    refine ⟨h.constants, hfixed, ?_⟩
    intro word hword
    obtain ⟨f, hf, rfl⟩ := List.mem_map.1 hword
    exact h.fixed f hf

end Validation
end Artifact

/-! ## Names as they are usually written -/

namespace Text

/-- A name without underscores whose first character is in ASCII and no capital. -/
def CamelCased (name : String) : Prop :=
  '_' ∉ name.toList ∧ name.toList.head?.any (fun c => c.toNat < 128 && !c.isUpper) = true

instance : DecidablePred CamelCased := fun name =>
  inferInstanceAs (Decidable ('_' ∉ name.toList ∧
    name.toList.head?.any (fun c => c.toNat < 128 && !c.isUpper) = true))

theorem CamelCased.exists_cons {name : String} (h : CamelCased name) :
    ∃ c rest, name.toList = c :: rest ∧ c.toNat < 128 ∧ c.isUpper = false := by
  have hinitial := h.2
  cases hname : name.toList with
  | nil => simp [hname] at hinitial
  | cons c rest => exact ⟨c, rest, rfl, by simpa [hname] using hinitial⟩

/-- A name in ASCII without capitals. -/
def SnakeCased (name : String) : Prop := ∀ c ∈ name.toList, c.toNat < 128 ∧ c.isUpper = false

instance : DecidablePred SnakeCased := fun name =>
  decidable_of_iff (name.toList.all fun c => c.toNat < 128 && !c.isUpper) (by simp [SnakeCased])

theorem camelChars_eq_self {cs : List Char} (h : '_' ∉ cs) : camelChars false cs = cs := by
  induction cs with
  | nil => rfl
  | cons c rest ih =>
    rw [List.mem_cons, not_or] at h
    simp [camelChars, Ne.symm h.1, ih h.2]

/-- What is no capital is found again from its capital. -/
theorem toLower_toUpper {c : Char} (h : c.toNat < 128) (hupper : c.isUpper = false) :
    c.toUpper.toLower = c :=
  of_ascii (P := fun c => c.isUpper = false → c.toUpper.toLower = c) (by decide +kernel) h hupper

theorem SnakeCased.upper_inj {a b : String} (ha : SnakeCased a) (hb : SnakeCased b)
    (h : upper a = upper b) : a = b := by
  have hback {cs : List Char} (hcs : ∀ c ∈ cs, c.toNat < 128 ∧ c.isUpper = false) :
      (cs.flatMap upperChar).map Char.toLower = cs := by
    induction cs with
    | nil => rfl
    | cons c rest ih =>
      rw [List.forall_mem_cons] at hcs
      simp [upperChar_ascii hcs.1.1, toLower_toUpper hcs.1.1 hcs.1.2, ih hcs.2]
  have hchars : a.toList.flatMap upperChar = b.toList.flatMap upperChar := by
    simpa [upper] using congrArg String.toList h
  rw [← String.toList_inj, ← hback ha, ← hback hb, hchars]

theorem CamelCased.toList_pascalCase {name : String} (h : CamelCased name) {c : Char}
    {rest : List Char} (hname : name.toList = c :: rest) (hc : c.toNat < 128) :
    (pascalCase name).toList = c.toUpper :: rest := by
  rw [Text.toList_pascalCase, pascalChars, camelChars_eq_self h.1, hname]
  simp [upperChar_ascii hc]

theorem CamelCased.pascalCase_inj {a b : String} (ha : CamelCased a) (hb : CamelCased b)
    (h : pascalCase a = pascalCase b) : a = b := by
  obtain ⟨c, rest, haname, hc, hcupper⟩ := ha.exists_cons
  obtain ⟨d, rest', hbname, hd, hdupper⟩ := hb.exists_cons
  rw [← String.toList_inj, ha.toList_pascalCase haname hc, hb.toList_pascalCase hbname hd,
    List.cons.injEq] at h
  rw [← String.toList_inj, haname, hbname, ← toLower_toUpper hc hcupper,
    ← toLower_toUpper hd hdupper, h.1, h.2]

end Text

namespace Schema

/-- Whether the enumerations are named like most things are: in camel case in code, and in snake
case in the table. -/
def Conventional (s : Schema) : Prop :=
  ∀ f ∈ s.enumFields, CamelCased f.name ∧ SnakeCased f.column

instance : DecidablePred Conventional := fun s =>
  inferInstanceAs (Decidable (∀ f ∈ s.enumFields, CamelCased f.name ∧ SnakeCased f.column))

theorem nodup_pascalCase {s : Schema} (h : Field.CollisionFree s.fields) (hs : s.Conventional) :
    (s.enumFields.map fun f => pascalCase f.name).Nodup := by
  have hnames : (s.enumFields.map (·.name)).Nodup :=
    (nodup_columnNames h).sublist (List.filter_sublist.map _)
  have hinj : ∀ a ∈ s.enumFields.map (·.name), ∀ b ∈ s.enumFields.map (·.name),
      pascalCase a = pascalCase b → a = b := by
    rw [List.forall_mem_map]
    intro f hf
    rw [List.forall_mem_map]
    intro g hg heq
    exact (hs f hf).1.pascalCase_inj (hs g hg).1 heq
  have hpascal := hnames.map_on hinj
  rw [List.map_map] at hpascal
  exact hpascal

theorem nodup_upper {s : Schema} (h : Field.CollisionFree s.fields) (hs : s.Conventional) :
    (s.enumFields.map fun f => upper f.column).Nodup := by
  have hcolumns : (s.enumFields.map (·.column)).Nodup :=
    (nodup_columnColumns h).sublist (List.filter_sublist.map _)
  have hinj : ∀ a ∈ s.enumFields.map (·.column), ∀ b ∈ s.enumFields.map (·.column),
      upper a = upper b → a = b := by
    rw [List.forall_mem_map]
    intro f hf
    rw [List.forall_mem_map]
    intro g hg heq
    exact (hs f hf).2.upper_inj (hs g hg).2 heq
  have hupper := hcolumns.map_on hinj
  rw [List.map_map] at hupper
  exact hupper

/-- The names of an enumeration whose type would be named like another declaration. -/
def modelWords : List String := ["databaseRecord", "data", "createInput", "updateInput"]

/-- Those of one whose constant would be named like another one. -/
def validationWords : List String := ["create", "update"]

theorem pascalCase_mem_iff {name : String} (h : CamelCased name) {words : List String}
    (hwords : ∀ word ∈ words, CamelCased word) :
    pascalCase name ∈ words.map pascalCase ↔ name ∈ words := by
  constructor
  · intro hmem
    obtain ⟨word, hword, heq⟩ := List.mem_map.1 hmem
    exact (hwords word hword).pascalCase_inj h heq ▸ hword
  · exact List.mem_map_of_mem

theorem pascalCase_mem_fixedWords_iff {name : String} (h : CamelCased name) :
    pascalCase name ∈ Model.fixedWords ↔ name ∈ modelWords := by
  have hwords : Model.fixedWords = modelWords.map pascalCase ++ [""] := by decide
  have hne : pascalCase name ≠ "" := by
    obtain ⟨c, rest, hname, hc, _⟩ := h.exists_cons
    intro hempty
    have hcase := h.toList_pascalCase hname hc
    simp [hempty] at hcase
  rw [hwords, List.mem_append, List.mem_singleton, or_iff_left hne,
    pascalCase_mem_iff h (by decide)]

/-- When the names that the model and the validation schemas export are apart. -/
structure ExportsApart (s : Schema) : Prop where
  modelShown : Exports (Kind.model.text s) (Model.lines s) (Model.declarations s)
  model : ((Model.declarations s).map (·.name)).Nodup ↔ Model.NamesApart s
  validationShown : Exports (Kind.validation.text s) (Validation.lines s)
    (Validation.declarations s)
  validation : (((Validation.declarations s).filter (·.keyword = "const")).map (·.name)).Nodup ↔
    Validation.NamesApart s
  conventional : s.Accepted → s.Conventional →
    (Model.NamesApart s ↔ ∀ f ∈ s.enumFields, f.name ∉ modelWords) ∧
    (Validation.NamesApart s ↔ ∀ f ∈ s.enumFields, f.name ∉ validationWords)

end Schema

/-- The names that the model exports are different just where the enumerations have different names
in pascal case and different columns in capitals, and none is named like a declaration that is
always there; those of the validation schemas, where the names in pascal case are different and none
is `Create` or `Update`. -/
theorem exports_apart (s : Schema) : s.ExportsApart where
  modelShown := Model.exports_text s
  model := by rw [Model.map_name_declarations, Model.nodup_exports_iff]
  validationShown := Validation.exports_text s
  validation := by rw [Validation.map_name_constants, Validation.nodup_constants_iff]
  conventional := by
    intro haccepted hs
    have hfree := haccepted.collisionFree
    have htypes := Schema.nodup_pascalCase hfree hs
    have hmodel {f : Field} (hf : f ∈ s.enumFields) :
        pascalCase f.name ∉ Model.fixedWords ↔ f.name ∉ Schema.modelWords :=
      not_congr (Schema.pascalCase_mem_fixedWords_iff (hs f hf).1)
    have hwords : ∀ word ∈ Schema.validationWords, CamelCased word := by decide
    have hvalidation {f : Field} (hf : f ∈ s.enumFields) :
        pascalCase f.name ∉ Validation.fixedWords ↔ f.name ∉ Schema.validationWords :=
      not_congr (Schema.pascalCase_mem_iff (hs f hf).1 hwords)
    constructor
    · constructor
      · exact fun h f hf => (hmodel hf).1 (h.fixed f hf)
      · exact fun h => ⟨htypes, Schema.nodup_upper hfree hs, fun f hf => (hmodel hf).2 (h f hf)⟩
    · constructor
      · exact fun h f hf => (hvalidation hf).1 (h.fixed f hf)
      · exact fun h => ⟨htypes, fun f hf => (hvalidation hf).2 (h f hf)⟩

theorem article_exports_apart : Schema.article.Accepted ∧ Schema.article.Conventional ∧
    ((Model.declarations .article).map (·.name)).Nodup ∧
    (((Validation.declarations .article).filter (·.keyword = "const")).map (·.name)).Nodup := by
  have hall := exports_apart .article
  have hs : Schema.article.Conventional := by decide +kernel
  obtain ⟨hmodel, hvalidation⟩ := hall.conventional Schema.article_accepted hs
  exact ⟨Schema.article_accepted, hs, hall.model.2 (hmodel.2 (by decide)),
    hall.validation.2 (hvalidation.2 (by decide))⟩

/-! ## A shirt -/

namespace Schema

/-- Two enumerations whose names become the same in pascal case. -/
def shirt : Schema where
  name := "Shirt"
  table := "shirts"
  fields := [
    { name := "neckSize", column := "neck_size", type := .enum, enumValues := some ["S", "M"] },
    { name := "neck_size", column := "collar", type := .enum, enumValues := some ["S", "L"] }]
  operations := []
  policies := []

def shirtEntries : Entries := [
  (.text "name", .text "Shirt"),
  (.text "tableName", .text "shirts"),
  (.text "fields", .list [
    .map [(.text "name", .text "neckSize"), (.text "dbName", .text "neck_size"),
      (.text "type", .text "enum"), (.text "enumValues", .list [.text "S", .text "M"])],
    .map [(.text "name", .text "neck_size"), (.text "dbName", .text "collar"),
      (.text "type", .text "enum"), (.text "enumValues", .list [.text "S", .text "L"])]]),
  (.text "operations", .list []),
  (.text "rls", .list [])]

theorem shirt_accepted : shirt.Accepted := (accepted_iff shirt).2 ⟨shirtEntries, rfl⟩

end Schema

theorem shirt_exports_clash : Schema.shirt.Accepted ∧
    ¬ ((Model.declarations .shirt).map (·.name)).Nodup ∧
    ¬ (((Validation.declarations .shirt).filter (·.keyword = "const")).map (·.name)).Nodup := by
  refine ⟨Schema.shirt_accepted, ?_, ?_⟩
  · decide +kernel
  · decide +kernel

end Scaffold
