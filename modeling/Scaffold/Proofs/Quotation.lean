import Mathlib.Data.List.TakeWhile
import Scaffold.Document.Json
import Scaffold.Proofs.Soundness

/-!
# Values read back

The values of an enumeration stand in the layers as string literals between single quotes. A reader
of such literals is defined here as the language has it: a literal is a sequence of code units,
it ends at the first quote that no backslash precedes, and it cannot go on over the end of a line.
Quotes and backslashes are all that is marked by a backslash, so a literal is read as the value it
was written for if that has no line end, and is none otherwise.
-/
namespace Scaffold

open Artifact Script Text

namespace Script

/-! ## Code units -/

/-- A code point in UTF-16. -/
def pointUnits (n : Nat) : List Nat :=
  if n < 0x10000 then [n] else [0xd800 + (n - 0x10000) / 0x400, 0xdc00 + (n - 0x10000) % 0x400]

def charUnits (c : Char) : List Nat := pointUnits c.toNat

/-- The code units that a text consists of in a script. -/
def units (s : String) : List Nat := s.toList.flatMap charUnits

theorem charUnits_cancel {c d : Char} {xs ys : List Nat}
    (h : charUnits c ++ xs = charUnits d ++ ys) : c = d ∧ xs = ys := by
  have hc : c.toNat < 0xd800 ∨ 0xdfff < c.toNat ∧ c.toNat < 0x110000 := c.valid
  have hd : d.toNat < 0xd800 ∨ 0xdfff < d.toNat ∧ d.toNat < 0x110000 := d.valid
  have hcode : c.toNat = d.toNat → c = d := fun heq => Char.toNat_inj.1 heq
  unfold charUnits pointUnits at h
  by_cases hsmall : c.toNat < 0x10000
  · by_cases hsmall' : d.toNat < 0x10000
    · rw [if_pos hsmall, if_pos hsmall'] at h
      injection h with hhead htail
      exact ⟨hcode hhead, htail⟩
    · rw [if_pos hsmall, if_neg hsmall'] at h
      injection h with hhead htail
      omega
  · by_cases hsmall' : d.toNat < 0x10000
    · rw [if_neg hsmall, if_pos hsmall'] at h
      injection h with hhead htail
      omega
    · rw [if_neg hsmall, if_neg hsmall'] at h
      injection h with hhigh h
      injection h with hlow htail
      exact ⟨hcode (by omega), htail⟩

theorem units_injective : Function.Injective units := by
  have hchars (cs ds : List Char) (h : cs.flatMap charUnits = ds.flatMap charUnits) : cs = ds := by
    have hne (c : Char) : charUnits c ≠ [] := by
      unfold charUnits pointUnits
      split <;> exact List.cons_ne_nil _ _
    induction cs generalizing ds with
    | nil =>
      cases ds with
      | nil => rfl
      | cons d ds => simp [hne] at h
    | cons c cs ih =>
      cases ds with
      | nil => simp [hne] at h
      | cons d ds =>
        rw [List.flatMap_cons, List.flatMap_cons] at h
        obtain ⟨rfl, hrest⟩ := charUnits_cancel h
        rw [ih ds hrest]
  exact fun s t h => String.toList_inj.1 (hchars _ _ h)

/-! ## The reader -/

namespace StringLiteral

/-- Where a reader stands: among plain characters, or within what a backslash begins. -/
inductive Mode
  | plain
  /-- Among plain characters, behind a return that a line feed may still belong to. -/
  | returned
  | escaped
  /-- Within digits of which some are left, with the number so far. -/
  | hex (left number : Nat)
  | unicode
  /-- Within braces, with the number so far, if there is a digit. -/
  | braced (number : Option Nat)

def isLineEnd (c : Char) : Bool := c = '\n' || c = '\r' || c = '\u2028' || c = '\u2029'

/-- The code units of a character that has no other meaning behind a backslash. -/
def escapeUnits (c : Char) : List Nat :=
  if c = 'b' then [8]
  else if c = 't' then [9]
  else if c = 'n' then [10]
  else if c = 'v' then [11]
  else if c = 'f' then [12]
  else if c = 'r' then [13]
  else charUnits c

def prepend (us : List Nat) (more : Option (List Nat × List Char)) :
    Option (List Nat × List Char) :=
  more.map fun p => (us ++ p.1, p.2)

/-- The code units up to the closing quote, and the text behind it. -/
def body : Mode → List Char → Option (List Nat × List Char)
  | _, [] => none
  | .plain, c :: rest =>
    if c = '\'' then some ([], rest)
    else if c = '\\' then body .escaped rest
    else if c = '\n' ∨ c = '\r' then none
    else prepend (charUnits c) (body .plain rest)
  | .returned, c :: rest =>
    if c = '\'' then some ([], rest)
    else if c = '\\' then body .escaped rest
    else if c = '\n' then body .plain rest
    else if c = '\r' then none
    else prepend (charUnits c) (body .plain rest)
  | .escaped, c :: rest =>
    if c = 'x' then body (.hex 1 0) rest
    else if c = 'u' then body .unicode rest
    else if c = '\r' then body .returned rest
    else if isLineEnd c then body .plain rest
    else if c = '0' ∧ !rest.head?.any Document.Json.isDigit then prepend [0] (body .plain rest)
    else if Document.Json.isDigit c then none
    else prepend (escapeUnits c) (body .plain rest)
  | .hex left number, c :: rest =>
    (Document.Json.hexValue? c).bind fun d =>
      match left with
      | 0 => prepend [number * 16 + d] (body .plain rest)
      | left + 1 => body (.hex left (number * 16 + d)) rest
  | .unicode, c :: rest =>
    if c = '\x7b' then body (.braced none) rest
    else (Document.Json.hexValue? c).bind fun d => body (.hex 2 d) rest
  | .braced number, c :: rest =>
    if c = '\x7d' then
      number.bind fun n =>
        if n ≤ 0x10ffff then prepend (pointUnits n) (body .plain rest) else none
    else (Document.Json.hexValue? c).bind fun d =>
      body (.braced (some (number.getD 0 * 16 + d))) rest

/-- Reads a literal between single quotes that a text begins with. -/
def read : List Char → Option (List Nat × List Char)
  | '\'' :: rest => body .plain rest
  | _ => none

example : read "'it\\'s\\n\\x41\\u\x7b1f600\x7d' + 1".toList =
    some (units "it's\nA😀", " + 1".toList) := by decide +kernel

example : read "'one\ntwo'".toList = none := by decide

/-! ## What is written reads back -/

/-- A text that no end of a line interrupts. -/
def OneLine (s : String) : Prop := '\n' ∉ s.toList ∧ '\r' ∉ s.toList

instance : DecidablePred OneLine := fun s =>
  inferInstanceAs (Decidable ('\n' ∉ s.toList ∧ '\r' ∉ s.toList))

/-- A marked character stands for itself. -/
theorem body_marked {c : Char} (h : c = '\\' ∨ c = '\'') (rest : List Char) :
    body .plain ('\\' :: c :: rest) = prepend (charUnits c) (body .plain rest) := by
  rcases h with rfl | rfl
  · simp [body, isLineEnd, escapeUnits, Document.Json.isDigit]
  · simp [body, isLineEnd, escapeUnits, Document.Json.isDigit]

theorem body_plain {c : Char} (hquote : c ≠ '\'') (hmark : c ≠ '\\') (hend : c ≠ '\n' ∧ c ≠ '\r')
    (rest : List Char) : body .plain (c :: rest) = prepend (charUnits c) (body .plain rest) := by
  rw [body, if_neg hquote, if_neg hmark, if_neg (not_or.2 hend)]

theorem body_lineEnd {c : Char} (h : c = '\n' ∨ c = '\r') (rest : List Char) :
    body .plain (c :: rest) = none := by
  rcases h with rfl | rfl
  · rfl
  · rfl

/-- By induction on the text: what is written for it is read up to the first end of a line. -/
theorem body_written (cs rest : List Char) :
    body .plain (cs.flatMap Literal.scriptCode ++ '\'' :: rest) =
      if '\n' ∈ cs ∨ '\r' ∈ cs then none else some (cs.flatMap charUnits, rest) := by
  induction cs with
  | nil => rfl
  | cons c cs ih =>
    have hmore (hend : c ≠ '\n' ∧ c ≠ '\r') :
        prepend (charUnits c) (body .plain (cs.flatMap Literal.scriptCode ++ '\'' :: rest)) =
          if '\n' ∈ c :: cs ∨ '\r' ∈ c :: cs then none
          else some ((c :: cs).flatMap charUnits, rest) := by
      have hmem : ('\n' ∈ c :: cs ∨ '\r' ∈ c :: cs) ↔ '\n' ∈ cs ∨ '\r' ∈ cs := by
        simp [hend.1.symm, hend.2.symm]
      rw [ih, if_congr hmem rfl rfl]
      split
      · rfl
      · rw [List.flatMap_cons]
        rfl
    rw [List.flatMap_cons, List.append_assoc]
    by_cases hmarked : c = '\\' ∨ c = '\''
    · have hend : c ≠ '\n' ∧ c ≠ '\r' := by
        rcases hmarked with rfl | rfl
        · decide
        · decide
      rw [Literal.scriptCode, if_pos hmarked, List.cons_append, List.singleton_append,
        body_marked hmarked, hmore hend]
    · rw [Literal.scriptCode, if_neg hmarked, List.singleton_append]
      by_cases hend : c = '\n' ∨ c = '\r'
      · rw [body_lineEnd hend, if_pos]
        rcases hend with rfl | rfl
        · exact .inl List.mem_cons_self
        · exact .inr List.mem_cons_self
      · rw [not_or] at hmarked hend
        rw [body_plain hmarked.2 hmarked.1 hend, hmore hend]

/-- A literal is read as the value that it was written for, and as no other; but for a value with a
line end it is none. -/
theorem read_script_iff (v w : String) (rest rest' : List Char) :
    read ((Literal.script v).toList ++ rest) = some (units w, rest') ↔
      OneLine v ∧ w = v ∧ rest' = rest := by
  have hchars : (Literal.script v).toList ++ rest =
      '\'' :: (v.toList.flatMap Literal.scriptCode ++ '\'' :: rest) := by
    simp [Literal.script, Literal.scriptBody_eq]
  rw [hchars]
  change body .plain _ = _ ↔ _
  rw [body_written]
  by_cases hend : '\n' ∈ v.toList ∨ '\r' ∈ v.toList
  · rw [if_pos hend]
    exact iff_of_false (Option.some_ne_none _).symm fun h => hend.elim h.1.1 h.1.2
  · rw [if_neg hend, Option.some.injEq, Prod.mk.injEq]
    rw [not_or] at hend
    constructor
    · rintro ⟨hunits, rfl⟩
      exact ⟨hend, units_injective hunits.symm, rfl⟩
    · rintro ⟨_, rfl, rfl⟩
      exact ⟨rfl, rfl⟩

/-- Literals that a text begins with, with a separator between them, are read as these values. -/
def Reads (separator : List Char) (text : List Char) : List String → List Char → Prop
  | [], rest => text = rest
  | [v], rest => read text = some (units v, rest)
  | v :: w :: values, rest => ∃ more, read text = some (units v, separator ++ more) ∧
    Reads separator more (w :: values) rest

/-- By induction on the values: each of them is read if it has no line end. -/
theorem reads_iff (separator : String) (values : List String) (rest : List Char) :
    Reads separator.toList
      ((separator.intercalate (values.map Literal.script)).toList ++ rest) values rest ↔
      ∀ v ∈ values, OneLine v := by
  induction values with
  | nil => simp [Reads]
  | cons v values ih =>
    cases values with
    | nil => simp [Reads, read_script_iff]
    | cons w values =>
      rw [List.forall_mem_cons, ← ih, List.map_cons, List.map_cons, String.intercalate_cons_cons,
        Reads, String.toList_append, String.toList_append, List.append_assoc, List.append_assoc,
        ← List.map_cons]
      constructor
      · rintro ⟨more, hread, hmore⟩
        obtain ⟨hline, _, hrest⟩ := (read_script_iff v v _ _).1 hread
        obtain rfl := List.append_cancel_left hrest
        exact ⟨hline, hmore⟩
      · rintro ⟨hline, hmore⟩
        exact ⟨_, (read_script_iff v v _ _).2 ⟨hline, rfl, rfl⟩, hmore⟩

end StringLiteral

end Script

/-! ## Where values are printed -/

namespace Artifact

/-- A line of a file in which values stand as literals, with a separator between them. -/
structure Place where
  kind : Kind
  opening : String
  separator : String
  values : List String
  closing : String

namespace Place

def line (p : Place) : String :=
  p.opening ++ p.separator.intercalate (p.values.map Literal.script) ++ p.closing

/-- What stands in the line is read as the values, up to where the line goes on without them. -/
def Reads (p : Place) : Prop :=
  StringLiteral.Reads p.separator.toList (p.line.toList.drop p.opening.toList.length) p.values
    p.closing.toList

theorem reads_iff (p : Place) : p.Reads ↔ ∀ v ∈ p.values, StringLiteral.OneLine v := by
  have hline : p.line.toList.drop p.opening.toList.length =
      (p.separator.intercalate (p.values.map Literal.script)).toList ++ p.closing.toList := by
    rw [line, String.toList_append, String.toList_append, List.append_assoc, List.drop_left]
  rw [Reads, hline]
  exact StringLiteral.reads_iff p.separator p.values p.closing.toList

/-- A name for the union of the values of an enumeration. -/
def typeAlias (kind : Kind) (s : Schema) (f : Field) : Place :=
  ⟨kind, "export type " ++ f.typeName s.name ++ " = ", " | ", f.values, ""⟩

/-- A member that has one of the values of an enumeration. -/
def member (kind : Kind) (m : Member) (values : List String) : Place :=
  ⟨kind, "  " ++ m.name ++ onlyIf m.optional "?" ++ ": ", " | ", values,
    onlyIf m.nullable " | null"⟩

/-- A key whose value has to be one of an enumeration. -/
def entry (e : Validation.Entry) (values : List String) : Place :=
  ⟨.validation, "  " ++ e.key ++ ": z.enum([", ", ", values,
    "])" ++ onlyIf e.optional ".optional()" ++ onlyIf e.nullable ".nullable()" ++ ","⟩

/-- The value by which a helper filters. -/
def helper (f : Field) (v : String) : Place :=
  ⟨.client, "      filters: \x7b ...filters, " ++ f.name ++ ": ", "", [v], " \x7d,"⟩

/-- The value that a field has in an empty form. -/
def initial (kind : Kind) (indent : String) (f : Field) (first : String) : Place :=
  ⟨kind, indent ++ f.name ++ ": ", "", [first], ","⟩

end Place

/-- The places where the files have values of enumerations: in declarations, in members of records,
in validators and lists of choices, in empty forms, and in the requests of helpers. -/
inductive Printed (s : Schema) : Place → Prop
  | typeAlias {f : Field} (hf : f ∈ s.enumFields) : Printed s (.typeAlias .model s f)
  | constant {f : Field} (hf : f ∈ s.enumFields) : Printed s
      ⟨.model, "export const " ++ Model.valuesConstant s f ++ ": " ++ f.typeName s.name ++ "[] = [",
        ", ", f.values, "]"⟩
  | member {k : Kind} {i : Interface} {m : Member} {f : Field} (hi : (k, i) ∈ interfaces s)
      (hm : m ∈ i.members) (hf : f ∈ s.enumFields) (htype : m.type = f.scriptType) :
      Printed s (.member k m f.values)
  | classMember {f : Field} (hf : f ∈ s.enumFields) : Printed s (.member .model f.member f.values)
  | validator {f : Field} (hf : f ∈ s.enumFields) : Printed s
      ⟨.validation, "export const " ++ Validation.enumConstant s f ++ " = z.enum([", ", ", f.values,
        "])"⟩
  | entry {e : Validation.Entry} {f : Field}
      (he : e ∈ Validation.createEntries s ++ Validation.updateEntries s) (hf : f ∈ s.enumFields)
      (hvalidator : e.validator = f.validator) : Printed s (.entry e f.values)
  | service {f : Field} (hf : f ∈ s.enumFields) : Printed s
      ⟨.service, "  " ++ f.name ++ "Values: [", ", ", f.values,
        "] as " ++ f.typeName s.name ++ "[],"⟩
  | clientAlias {f : Field} (hf : f ∈ Client.enumFields s) : Printed s (.typeAlias .client s f)
  | helper {f : Field} {v : String} (hf : f ∈ Client.enumFields s)
      (hv : v ∈ Client.helperValues f) : Printed s (.helper f v)
  | options {f : Field} (hf : f ∈ s.enumFields) : Printed s
      ⟨.adminPage, "const " ++ AdminPage.optionsConstant f ++ " = [", ", ", f.values, "]"⟩
  | modelForm {f : Field} {first : String} {rest : List String} (hf : f ∈ s.enumFields)
      (hshown : f ∈ s.writableFields) (hrequired : f.required = true)
      (hvalues : f.values = first :: rest) : Printed s (.initial .model "      " f first)
  | pageForm {f : Field} {first : String} {rest : List String} (hf : f ∈ s.enumFields)
      (hshown : f ∈ s.updatableFields) (hrequired : f.required = true)
      (hvalues : f.values = first :: rest) : Printed s (.initial .adminPage "  " f first)
  | demoForm {f : Field} {first : String} {rest : List String} (hf : f ∈ s.enumFields)
      (hshown : f ∈ Demo.displayFields s) (hrequired : f.required = true)
      (hvalues : f.values = first :: rest) : Printed s (.initial .demo "  " f first)

/-- A file has a line. -/
def Contains (text line : String) : Prop := ∃ lines, text = unlines lines ∧ line ∈ lines

theorem Contains.of_block {text line : String} {block : List String}
    (h : ∃ lines, text = unlines lines ∧ block <:+: lines) (hline : line ∈ block) :
    Contains text line := by
  obtain ⟨lines, htext, hblock⟩ := h
  exact ⟨lines, htext, hblock.subset hline⟩

theorem Model.exists_enums (s : Schema) :
    ∃ lines, text s = unlines lines ∧ s.enumFields.flatMap (enumLines s) <:+: lines := by
  refine ⟨lines s, rfl, ?_⟩
  simp only [lines, List.append_assoc]
  exact List.infix_append' _ _ _

theorem Validation.exists_enums (s : Schema) :
    ∃ lines, text s = unlines lines ∧ s.enumFields.flatMap (enumLines s) <:+: lines := by
  refine ⟨lines s, rfl, ?_⟩
  simp only [lines, List.append_assoc]
  exact List.infix_append' _ _ _

theorem Service.exists_values (s : Schema) :
    ∃ lines, text s = unlines lines ∧ s.enumFields.flatMap (valuesLines s) <:+: lines := by
  have hobject : s.enumFields.flatMap (valuesLines s) <:+: objectLines s := by
    unfold objectLines
    simp only [List.append_assoc]
    exact List.infix_append' _ _ _
  exact ⟨_, rfl, List.infix_append_of_infix_right hobject⟩

section

variable {s : Schema} {f : Field}

theorem Model.contains_initial (h : f ∈ s.writableFields) :
    Contains (text s) ("      " ++ f.name ++ ": " ++ f.scriptDefault ++ ",") := by
  have hclass : "      " ++ f.name ++ ": " ++ f.scriptDefault ++ "," ∈ classLines s := by
    refine List.mem_append_left _ (List.mem_append_right _ ?_)
    exact List.mem_map.2 ⟨f, h, rfl⟩
  exact ⟨_, rfl, List.mem_append_right _ hclass⟩

theorem AdminPage.contains_initial (h : f ∈ s.updatableFields) :
    Contains (text s) ("  " ++ f.name ++ ": " ++ f.scriptDefault ++ ",") := by
  have hform : "  " ++ f.name ++ ": " ++ f.scriptDefault ++ "," ∈ formLines s := by
    refine List.mem_append_left _ (List.mem_append_right _ ?_)
    exact List.mem_map.2 ⟨f, h, rfl⟩
  refine ⟨lines s, rfl, ?_⟩
  simp only [lines, List.mem_append, hform, true_or, or_true]

theorem Demo.contains_initial (h : f ∈ displayFields s) :
    Contains (text s) ("  " ++ f.name ++ ": " ++ f.scriptDefault ++ ",") := by
  have hheader : "  " ++ f.name ++ ": " ++ f.scriptDefault ++ "," ∈ headerLines s := by
    refine List.mem_append_left _ (List.mem_append_right _ ?_)
    exact List.mem_map.2 ⟨f, h, rfl⟩
  exact ⟨_, rfl, List.mem_append_left _ (List.mem_append_left _ hheader)⟩

theorem Client.line_helper_mem (f : Field) (v : String) :
    (Place.helper f v).line ∈ "" :: (helperCall s f v).method.lines "" := by
  let property := "filters: \x7b ...filters, " ++ f.name ++ ": " ++ Literal.script v ++ " \x7d"
  have hline : (Place.helper f v).line = "    " ++ ("  " ++ property ++ ",") := by
    rw [← String.toList_inj]
    simp [Place.line, Place.helper, property]
  have hproperty : property ∈ (helperCall s f v).request.properties :=
    List.mem_cons_of_mem _ List.mem_cons_self
  have hbody : "  " ++ property ++ "," ∈ (helperCall s f v).method.body := by
    refine List.mem_append_left _ (List.mem_append_right _ ?_)
    exact List.mem_map.2 ⟨property, hproperty, rfl⟩
  rw [hline]
  refine List.mem_cons_of_mem _ (List.mem_append_left _ (List.mem_append_right _ ?_))
  exact List.mem_map.2 ⟨_, hbody, rfl⟩

theorem Place.line_member (kind : Kind) {m : Member} (hf : f ∈ s.enumFields)
    (htype : m.type = f.scriptType) : (Place.member kind m f.values).line = m.line := by
  rw [Field.scriptType_of_isEnum (List.mem_filter.1 hf).2] at htype
  rw [Member.line, htype]
  rfl

theorem Place.line_entry {e : Validation.Entry} (hf : f ∈ s.enumFields)
    (hvalidator : e.validator = f.validator) :
    (Place.entry e f.values).line = e.line := by
  rw [Validation.Entry.line, hvalidator, Field.validator_of_isEnum (List.mem_filter.1 hf).2]
  simp [Place.line, Place.entry, literalList, ← String.toList_inj]

theorem Place.line_initial (kind : Kind) (indent : String) (hf : f ∈ s.enumFields)
    (hrequired : f.required = true) {first : String} {rest : List String}
    (hvalues : f.values = first :: rest) :
    (Place.initial kind indent f first).line =
      indent ++ f.name ++ ": " ++ f.scriptDefault ++ "," := by
  have htype : f.type = .enum := by simpa [Field.isEnum] using (List.mem_filter.1 hf).2
  have hdefault : f.scriptDefault = Literal.script first := by
    simp [Field.scriptDefault, hrequired, htype, hvalues]
  rw [hdefault]
  rfl

end

section

variable {s : Schema} {p : Place}

/-- Each place is a line of its file. -/
theorem Printed.contains (h : Printed s p) : Contains (p.kind.text s) p.line := by
  cases h with
  | @typeAlias f hf =>
    refine .of_block (Model.exists_enums s) (List.mem_flatMap.2 ⟨f, hf, ?_⟩)
    simp [Model.enumLines, Place.line, Place.typeAlias, literalUnion, toString]
  | @constant f hf =>
    refine .of_block (Model.exists_enums s) (List.mem_flatMap.2 ⟨f, hf, ?_⟩)
    simp [Model.enumLines, Place.line, literalList, toString]
  | @member k i m f hi hm hf htype =>
    refine .of_block (declares_interfaces s (k, i) hi) ?_
    rw [Place.line_member k hf htype]
    simp only [Interface.lines, Interface.body, List.mem_append, List.mem_map]
    exact .inl (.inr ⟨m, hm, rfl⟩)
  | @classMember f hf =>
    refine .of_block (Model.exists_classMembers s) ?_
    rw [Place.line_member .model hf rfl]
    exact List.mem_map_of_mem (List.mem_map_of_mem (List.mem_of_mem_filter hf))
  | @validator f hf =>
    refine .of_block (Validation.exists_enums s) (List.mem_flatMap.2 ⟨f, hf, ?_⟩)
    simp [Validation.enumLines, Place.line, literalList, toString]
  | @entry e f he hf hvalidator =>
    have hline : Place.line _ = e.line := Place.line_entry hf hvalidator
    rw [hline]
    rcases List.mem_append.1 he with he | he
    · exact .of_block (Validation.exists_entries s _ (by simp)) (List.mem_map_of_mem he)
    · exact .of_block (Validation.exists_entries s _ (by simp)) (List.mem_map_of_mem he)
  | @service f hf =>
    refine .of_block (Service.exists_values s) (List.mem_flatMap.2 ⟨f, hf, ?_⟩)
    simp [Service.valuesLines, Place.line, literalList, toString, String.append_assoc]
  | @clientAlias f hf =>
    refine .of_block ((Client.prints_enums s).exists_block hf) ?_
    simp [Client.enumLines, Place.line, Place.typeAlias, literalUnion, toString]
  | @helper f v hf hv =>
    have hcall : Client.helperCall s f v ∈ Client.calls s :=
      List.mem_append_right _ (List.mem_flatMap.2 ⟨f, hf, List.mem_map_of_mem hv⟩)
    exact .of_block ((Client.prints_calls s).exists_block hcall) (Client.line_helper_mem f v)
  | @options f hf =>
    refine .of_block ((AdminPage.prints_options s).exists_block hf) ?_
    simp [AdminPage.optionsLines, Place.line, literalList, toString]
  | @modelForm f first rest hf hshown hrequired hvalues =>
    rw [Place.line_initial .model "      " hf hrequired hvalues]
    exact Model.contains_initial hshown
  | @pageForm f first rest hf hshown hrequired hvalues =>
    rw [Place.line_initial .adminPage "  " hf hrequired hvalues]
    exact AdminPage.contains_initial hshown
  | @demoForm f first rest hf hshown hrequired hvalues =>
    rw [Place.line_initial .demo "  " hf hrequired hvalues]
    exact Demo.contains_initial hshown

/-- The values at a place are values of an enumeration. -/
theorem Printed.exists_enum (h : Printed s p) {v : String} (hv : v ∈ p.values) :
    ∃ f ∈ s.enumFields, v ∈ f.values := by
  cases h with
  | typeAlias hf | constant hf | member _ _ hf _ | classMember hf | validator hf | entry _ hf _
  | service hf | options hf => exact ⟨_, hf, hv⟩
  | clientAlias hf => exact ⟨_, (Client.enumFields_sublist s).subset hf, hv⟩
  | helper hf hvalue =>
    obtain rfl := List.mem_singleton.1 hv
    exact ⟨_, (Client.enumFields_sublist s).subset hf, List.mem_of_mem_drop hvalue⟩
  | modelForm hf _ _ hvalues | pageForm hf _ _ hvalues | demoForm hf _ _ hvalues =>
    obtain rfl := List.mem_singleton.1 hv
    exact ⟨_, hf, hvalues ▸ List.mem_cons_self⟩

end

/-- In a schema that was accepted a row can be given each enumeration. -/
theorem mem_writableFields_of_mem_enumFields {s : Schema} (h : Field.CollisionFree s.fields)
    {f : Field} (hf : f ∈ s.enumFields) : f ∈ s.writableFields := by
  rw [s.enumFields_eq] at hf
  rw [Schema.writableFields_eq h]
  exact List.mem_cons_of_mem _ (List.mem_of_mem_filter hf)

/-- The kinds of files in which the values of an enumeration stand as literals. -/
def quotingKinds : List Kind := [.model, .validation, .service, .client, .adminPage]

theorem exists_printed {s : Schema} (h : Field.CollisionFree s.fields) {f : Field}
    (hf : f ∈ s.enumFields) :
    ∀ k ∈ quotingKinds, ∃ p, Printed s p ∧ p.kind = k ∧ p.values = f.values := by
  have hwritable := mem_writableFields_of_mem_enumFields h hf
  have hmember : f.member ∈ (Client.recordInterface s).members :=
    List.mem_append_left _ (List.mem_map_of_mem hwritable)
  have hinterface : (Kind.client, Client.recordInterface s) ∈ interfaces s := by
    simp [interfaces]
  simp only [quotingKinds, List.forall_mem_cons]
  exact ⟨⟨_, .typeAlias hf, rfl, rfl⟩, ⟨_, .validator hf, rfl, rfl⟩, ⟨_, .service hf, rfl, rfl⟩,
    ⟨_, .member hinterface hmember hf rfl, rfl, rfl⟩, ⟨_, .options hf, rfl, rfl⟩, by simp⟩

/-! ## Options of the demo -/

namespace Demo

/-- What stands before the value of an option. -/
def optionOpening : String := "          <option value=\""

/-- The value in the line of an option: it ends at the first double quote. -/
def optionValue (line : String) : String :=
  String.ofList ((line.toList.drop optionOpening.toList.length).takeWhile (· ≠ '"'))

theorem optionLine_eq (v : String) :
    optionLine v = optionOpening ++ (v ++ ("\"" ++ (">" ++ (v ++ "</option>")))) := by
  have hquote : "\">" = "\"" ++ ">" := rfl
  have hline : optionLine v = optionOpening ++ v ++ "\">" ++ v ++ "</option>" := rfl
  rw [hline, hquote]
  simp only [String.append_assoc]

theorem optionValue_optionLine_iff (v : String) :
    optionValue (optionLine v) = v ↔ '"' ∉ v.toList := by
  have hplain : v.toList.takeWhile (· ≠ '"') = v.toList ↔ '"' ∉ v.toList := by
    simpa [List.takeWhile_eq_self_iff] using List.forall_mem_ne'
  have hquote : "\"".toList = ['"'] := rfl
  rw [optionValue, optionLine_eq, String.toList_append, List.drop_left, String.toList_append,
    String.toList_append, hquote, List.takeWhile_append, ← String.toList_inj, String.toList_ofList]
  split
  · next hlength =>
    have hall := (List.takeWhile_prefix _).eq_of_length hlength
    simpa using hplain.1 hall
  · next hlength =>
    have hsome : v.toList.takeWhile (· ≠ '"') ≠ v.toList := fun heq =>
      hlength (congrArg List.length heq)
    exact iff_of_false hsome fun hnone => hsome (hplain.2 hnone)

/-- A field with values is a choice between options. -/
theorem exists_options (s : Schema) {f : Field} (hf : f ∈ displayFields s) :
    ∃ lines, text s = unlines lines ∧ f.values.map optionLine <:+: lines := by
  have hwidget : f.values.map optionLine <:+: widgetLines f := by
    cases hvalues : f.values with
    | nil => exact List.nil_infix
    | cons first rest =>
      have hchoice : widget f = .choice := by simp [widget, hvalues]
      unfold widgetLines
      rw [hchoice, hvalues]
      exact List.infix_append _ _ _
  have hform : (displayFields s).flatMap widgetLines <:+: formLines s := List.infix_append _ _ _
  have hfields : widgetLines f <:+: (displayFields s).flatMap widgetLines :=
    List.infix_of_mem_flatten (List.mem_map_of_mem hf)
  exact ⟨_, rfl, List.infix_append_of_infix_left (List.infix_append_of_infix_right
    ((hwidget.trans hfields).trans hform))⟩

end Demo

/-! ## All values -/

/-- Where values are read back from the files as they were declared. -/
structure ValuesRead (s : Schema) : Prop where
  shown : ∀ p, Printed s p → Contains (p.kind.text s) p.line
  covered : ∀ f ∈ s.enumFields, ∀ k ∈ quotingKinds,
    ∃ p, Printed s p ∧ p.kind = k ∧ p.values = f.values
  reads_iff : ∀ p, Printed s p → (p.Reads ↔ ∀ v ∈ p.values, StringLiteral.OneLine v)
  all_iff : (∀ p, Printed s p → p.Reads) ↔
    ∀ f ∈ s.enumFields, ∀ v ∈ f.values, StringLiteral.OneLine v
  optionsShown : ∀ f ∈ Demo.displayFields s, ∃ lines, Kind.demo.text s = unlines lines ∧
    f.values.map Demo.optionLine <:+: lines
  option_iff : ∀ f ∈ Demo.displayFields s, ∀ v ∈ f.values,
    (Demo.optionValue (Demo.optionLine v) = v ↔ '"' ∉ v.toList)

/-- Wherever a value stands in a file as a literal, it is read back just if it has no line end; and
where it stands in an attribute, just if it has no double quote. -/
theorem values_read {s : Schema} (h : s.Accepted) : ValuesRead s where
  shown _ hprinted := hprinted.contains
  covered _ hf := exists_printed h.collisionFree hf
  reads_iff p _ := p.reads_iff
  all_iff := by
    constructor
    · intro hall f hf v hv
      obtain ⟨p, hprinted, _, hvalues⟩ := exists_printed h.collisionFree hf .model (by decide)
      exact p.reads_iff.1 (hall p hprinted) v (hvalues ▸ hv)
    · intro hlines p hprinted
      refine p.reads_iff.2 fun v hv => ?_
      obtain ⟨f, hf, hmem⟩ := hprinted.exists_enum hv
      exact hlines f hf v hmem
  optionsShown _ hf := Demo.exists_options s hf
  option_iff _ _ v _ := Demo.optionValue_optionLine_iff v

theorem article_values_read : ValuesRead .article ∧ ∀ p, Printed .article p → p.Reads := by
  have hread := values_read Schema.article_accepted
  exact ⟨hread, hread.all_iff.2 (by decide)⟩

end Artifact

/-! ## A screen -/

namespace Schema

/-- An enumeration of which one value has a line end, and another one a double quote. -/
def screen : Schema where
  name := "Screen"
  table := "screens"
  fields := [
    { name := "label", column := "label", type := .enum,
      enumValues := some ["one\ntwo", "5\" wide"] }]
  operations := []
  policies := []

def screenEntries : Entries := [
  (.text "name", .text "Screen"),
  (.text "tableName", .text "screens"),
  (.text "fields", .list [
    .map [(.text "name", .text "label"), (.text "dbName", .text "label"),
      (.text "type", .text "enum"),
      (.text "enumValues", .list [.text "one\ntwo", .text "5\" wide"])]]),
  (.text "operations", .list []),
  (.text "rls", .list [])]

theorem screen_accepted : screen.Accepted := (accepted_iff screen).2 ⟨screenEntries, rfl⟩

end Schema

namespace Artifact

/-- The alias of the screen's label is no union of literals, and an option ends at its quote. -/
theorem screen_values_misread : Schema.screen.Accepted ∧
    (∃ p, Printed .screen p ∧ p.kind = .model ∧ ¬ p.Reads) ∧
    ∃ f ∈ Demo.displayFields .screen, ∃ v ∈ f.values,
      Demo.optionValue (Demo.optionLine v) ≠ v := by
  refine ⟨Schema.screen_accepted, ⟨.typeAlias .model .screen Schema.screen.fields[0], ?_, rfl, ?_⟩,
    Schema.screen.fields[0], by decide, "5\" wide", by decide, ?_⟩
  · exact .typeAlias (by decide)
  · rw [Place.reads_iff]
    decide
  · rw [ne_eq, Demo.optionValue_optionLine_iff]
    decide

end Artifact
end Scaffold
