import Scaffold.Proofs.Literals
import Scaffold.Proofs.Tables

/-!
# Literals of a migration read back

A reader of SQL literals is defined here by their rule alone: a literal stands between quotes, two
quotes within it stand for one, and a single quote ends it. It reads exactly what is written for
some text and is not followed by a quote. In a migration no literal is: a column goes on with a
blank, a comma or the end of its line, a list of values with a parenthesis, and the remark of the
table with a semicolon. So the values, the defaults and the description are read back as they were
declared.
-/
namespace Scaffold

open Artifact Script Text

/-! ## The reader -/

namespace Sql

/-- The text within a literal, behind its first quote, and what is left behind its last one. -/
def body : List Char → Option (List Char × List Char)
  | [] => none
  | '\'' :: '\'' :: rest => (body rest).map fun p => ('\'' :: p.1, p.2)
  | '\'' :: rest => some ([], rest)
  | c :: rest => (body rest).map fun p => (c :: p.1, p.2)

/-- Reads a literal that a text begins with. -/
def literal? : List Char → Option (String × List Char)
  | '\'' :: rest => (body rest).map fun p => (String.ofList p.1, p.2)
  | _ => none

theorem body_plain {c : Char} (h : c ≠ '\'') (rest : List Char) :
    body (c :: rest) = (body rest).map fun p => (c :: p.1, p.2) := by
  rw [body]
  · rintro _ rfl
    contradiction
  · rintro rfl
    contradiction

theorem body_single {rest : List Char} (h : rest.head? ≠ some '\'') :
    body ('\'' :: rest) = some ([], rest) := by
  rw [body]
  rintro more rfl
  exact h rfl

/-- Read by induction on what is read, and written by induction on the text. -/
theorem body_eq_some_iff {cs within rest : List Char} : body cs = some (within, rest) ↔
    cs = within.flatMap Literal.sqlCode ++ '\'' :: rest ∧ rest.head? ≠ some '\'' := by
  constructor
  · intro h
    fun_induction body cs generalizing within with
    | case1 => cases h
    | case2 more ih =>
      obtain ⟨⟨before, _⟩, hmore, heq⟩ := Option.map_eq_some_iff.1 h
      obtain ⟨rfl, rfl⟩ := Prod.mk.inj heq
      obtain ⟨rfl, hrest⟩ := ih hmore
      exact ⟨by simp [Literal.sqlCode], hrest⟩
    | case3 more hsingle =>
      obtain ⟨rfl, rfl⟩ := Prod.mk.inj (Option.some.inj h)
      refine ⟨rfl, fun hhead => ?_⟩
      obtain ⟨after, hmore⟩ := List.head?_eq_some_iff.1 hhead
      exact hsingle after hmore
    | case4 c more _ hplain ih =>
      have hc : c ≠ '\'' := hplain
      obtain ⟨⟨before, _⟩, hmore, heq⟩ := Option.map_eq_some_iff.1 h
      obtain ⟨rfl, rfl⟩ := Prod.mk.inj heq
      obtain ⟨rfl, hrest⟩ := ih hmore
      exact ⟨by simp [Literal.sqlCode, hc], hrest⟩
  · rintro ⟨rfl, hrest⟩
    induction within with
    | nil => exact body_single hrest
    | cons c within ih =>
      rw [List.flatMap_cons, List.append_assoc]
      by_cases hc : c = '\''
      · rw [hc, Literal.sqlCode, if_pos rfl, List.cons_append, List.singleton_append, body, ih]
        rfl
      · rw [Literal.sqlCode, if_neg hc, List.singleton_append, body_plain hc, ih]
        rfl

theorem toList_sql (v : String) :
    (Literal.sql v).toList = '\'' :: (v.toList.flatMap Literal.sqlCode ++ ['\'']) := by
  rw [Literal.sql, Literal.sqlBody_eq, String.toList_ofList, List.cons_append]

/-- What is read is what was written, up to where no further quote follows. -/
theorem literal?_eq_some_iff (cs : List Char) (v : String) (rest : List Char) :
    literal? cs = some (v, rest) ↔
      cs = (Literal.sql v).toList ++ rest ∧ rest.head? ≠ some '\'' := by
  have hwritten : (Literal.sql v).toList ++ rest =
      '\'' :: (v.toList.flatMap Literal.sqlCode ++ '\'' :: rest) := by
    rw [toList_sql]
    simp
  rw [hwritten]
  constructor
  · intro h
    unfold literal? at h
    split at h
    · next more =>
      obtain ⟨⟨within, _⟩, hmore, heq⟩ := Option.map_eq_some_iff.1 h
      obtain ⟨rfl, rfl⟩ := Prod.mk.inj heq
      obtain ⟨rfl, hrest⟩ := body_eq_some_iff.1 hmore
      exact ⟨by rw [String.toList_ofList], hrest⟩
    · cases h
  · rintro ⟨rfl, hrest⟩
    rw [literal?, body_eq_some_iff.2 ⟨rfl, hrest⟩]
    simp

theorem literal?_sql (v : String) {rest : List Char} (h : rest.head? ≠ some '\'') :
    literal? ((Literal.sql v).toList ++ rest) = some (v, rest) :=
  (literal?_eq_some_iff _ _ _).2 ⟨rfl, h⟩

example : literal? "'''it''s''', 'x'".toList = some ("'it's'", ", 'x'".toList) := by decide

theorem length_lt_of_literal? {cs : List Char} {v : String} {rest : List Char}
    (h : literal? cs = some (v, rest)) : rest.length < cs.length := by
  obtain ⟨rfl, _⟩ := (literal?_eq_some_iff _ _ _).1 h
  rw [toList_sql]
  simp only [List.cons_append, List.length_cons, List.length_append]
  omega

/-- Reads literals that a text begins with, as long as a comma and a blank lead on to another. -/
def literals? (cs : List Char) : Option (List String × List Char) :=
  match _h : literal? cs with
  | none => none
  | some (v, rest) =>
    match rest with
    | ',' :: ' ' :: more => (literals? more).map fun p => (v :: p.1, p.2)
    | _ => some ([v], rest)
termination_by cs.length
decreasing_by
  have := length_lt_of_literal? _h
  simp only [List.length_cons] at this
  omega

theorem literals?_of_literal? {cs : List Char} {v : String} {rest : List Char}
    (h : literal? cs = some (v, rest)) : literals? cs = match rest with
      | ',' :: ' ' :: more => (literals? more).map fun p => (v :: p.1, p.2)
      | _ => some ([v], rest) := by
  rw [literals?]
  split
  · next hnone => rw [hnone] at h; cases h
  · next w after hsome =>
    rw [h, Option.some.injEq, Prod.mk.injEq] at hsome
    obtain ⟨rfl, rfl⟩ := hsome
    rfl

theorem literals?_last {cs : List Char} {v : String} {rest : List Char}
    (h : literal? cs = some (v, rest)) (hrest : ¬ [',', ' '] <+: rest) :
    literals? cs = some ([v], rest) := by
  rw [literals?_of_literal? h]
  split
  · exact absurd (List.prefix_append [',', ' '] _) hrest
  · rfl

theorem literals?_more {cs : List Char} {v : String} {rest : List Char}
    (h : literal? cs = some (v, ',' :: ' ' :: rest)) :
    literals? cs = (literals? rest).map fun p => (v :: p.1, p.2) :=
  literals?_of_literal? h

/-- By induction on the values: a list of them is read up to its end. -/
theorem literals?_valueList {values : List String} (hvalues : values ≠ []) {rest : List Char}
    (hquote : rest.head? ≠ some '\'') (hmore : ¬ [',', ' '] <+: rest) :
    literals? ((Migration.valueList values).toList ++ rest) = some (values, rest) := by
  induction values with
  | nil => exact absurd rfl hvalues
  | cons v values ih =>
    cases values with
    | nil =>
      have hlist : Migration.valueList [v] = Literal.sql v := String.intercalate_singleton
      rw [hlist]
      exact literals?_last (literal?_sql v hquote) hmore
    | cons w values =>
      have hlist : (Migration.valueList (v :: w :: values)).toList ++ rest = (Literal.sql v).toList
          ++ ',' :: ' ' :: ((Migration.valueList (w :: values)).toList ++ rest) := by
        rw [Migration.valueList, List.map_cons, List.map_cons, String.intercalate_cons_cons,
          ← List.map_cons, ← Migration.valueList]
        simp
      rw [hlist, literals?_more (literal?_sql v (by simp)), ih (List.cons_ne_nil _ _)]
      rfl

end Sql

/-! ## Columns -/

namespace Artifact.Migration

/-- A default that is no expression is written as a literal. -/
theorem defaultText_eq {f : Field} {value : String} (h : f.defaultValue = some value)
    (htype : f.type = .string ∨ f.type = .enum)
    (hplain : ∀ start ∈ Field.expressionStarts, ¬ start.toList <+: value.toList) :
    defaultText f = " DEFAULT " ++ Literal.sql value := by
  have hexpression : Field.isExpression value = false := by
    simpa [Field.isExpression] using hplain
  have hdefault : f.sqlDefault = some (Literal.sql value) := by
    simp [Field.sqlDefault, h, htype, hexpression]
  rw [defaultText, hdefault]

/-- What a column is read back as from its definition and the text behind it. -/
structure ColumnRead (f : Field) (rest : String) : Prop where
  check : f.values ≠ [] → ∃ list, columnText f ++ rest =
      openingText f ++ presenceText f ++ onlyIf f.unique " UNIQUE" ++ defaultText f
        ++ referenceText f ++ " CHECK (" ++ f.column ++ " IN (" ++ list ∧
    Sql.literals? list.toList = some (f.values, ("))" ++ rest).toList)
  default : ∀ value, f.defaultValue = some value → f.type = .string ∨ f.type = .enum →
    (∀ start ∈ ["'", "gen_random_uuid", "NOW"], ¬ start.toList <+: value.toList) →
    ∃ literal, columnText f ++ rest =
        openingText f ++ presenceText f ++ onlyIf f.unique " UNIQUE" ++ " DEFAULT " ++ literal ∧
      Sql.literal? literal.toList = some (value, (referenceText f ++ checkText f ++ rest).toList)

theorem head?_afterDefault (f : Field) {rest : String} (hrest : rest.toList.head? ≠ some '\'') :
    (referenceText f ++ checkText f ++ rest).toList.head? ≠ some '\'' := by
  unfold referenceText checkText
  split
  · simp
  · split_ifs
    · simpa using hrest
    · simp

theorem columnRead (f : Field) {rest : String} (hrest : rest.toList.head? ≠ some '\'') :
    ColumnRead f rest where
  check hvalues := by
    refine ⟨valueList f.values ++ "))" ++ rest, ?_, ?_⟩
    · rw [columnText, checkText, if_neg hvalues]
      simp only [String.append_assoc]
    · rw [String.append_assoc, String.toList_append]
      refine Sql.literals?_valueList hvalues ?_ ?_
      · simp
      · simp
  default value hvalue htype hplain := by
    refine ⟨Literal.sql value ++ (referenceText f ++ checkText f ++ rest), ?_, ?_⟩
    · rw [columnText, defaultText_eq hvalue htype hplain]
      simp only [String.append_assoc]
    · rw [String.toList_append]
      exact Sql.literal?_sql value (head?_afterDefault f hrest)

/-- What stands before a column in its file. -/
def columnStart (s : Schema) (before : List Field) : String :=
  preamble s ++ tableOpening s ++ unlines (before.map fun f => columnText f ++ ",")

theorem exists_text_eq_columnText {s : Schema} {f : Field} {before after : List Field}
    (h : s.columns = before ++ f :: after) :
    ∃ rest, text s = columnStart s before ++ columnText f ++ rest ∧
      rest.toList.head? ≠ some '\'' := by
  have hsplit : separated (s.columns.map columnText) =
      before.map (fun f => columnText f ++ ",")
        ++ separated (columnText f :: after.map columnText) := by
    rw [h, List.map_append, List.map_cons, separated_append, List.map_map]
    rfl
  have hcolumn : ∃ rest, unlines (separated (columnText f :: after.map columnText)) =
      columnText f ++ rest ∧ ∃ c, rest.toList.head? = some c ∧ c ≠ '\'' := by
    cases after with
    | nil => exact ⟨"\n", by simp [separated], '\n', by decide, by decide⟩
    | cons g after =>
      refine ⟨"," ++ "\n" ++ unlines (separated (columnText g :: after.map columnText)), ?_, ',',
        ?_⟩
      · rw [List.map_cons, separated, unlines_cons]
        simp only [String.append_assoc]
      · simp
  obtain ⟨rest, hcolumn, c, hhead, hc⟩ := hcolumn
  refine ⟨rest ++ (");\n" ++ unlines (followingLines s)), ?_, ?_⟩
  · rw [text_eq, ← unlines_tableLines_eq_tableText, unlines_tableLines, hsplit, unlines_append,
      hcolumn, columnStart]
    simp only [String.append_assoc]
  · rw [String.toList_append, List.head?_append, hhead]
    simpa using hc

/-! ## The remark -/

/-- A description that says something is the remark of the table. -/
theorem commentLines_eq {s : Schema} {d : String} (h : s.description = some d) (hd : d ≠ "") :
    commentLines s =
      ["", "COMMENT ON TABLE public." ++ s.table ++ " IS " ++ Literal.sql d ++ ";"] := by
  have hremark : remark? s = some d := by simp [remark?, h, hd]
  rw [commentLines, hremark]
  simp [toString]

theorem exists_text_eq_comment {s : Schema} {d : String} (h : s.description = some d)
    (hd : d ≠ "") : ∃ more, text s = preamble s ++ tableText s
      ++ "\nCOMMENT ON TABLE public." ++ s.table ++ " IS "
      ++ (Literal.sql d ++ (";\n" ++ more)) := by
  refine ⟨unlines (indexLines s ++ triggerLines s ++ securityLines s), ?_⟩
  have hcomment : unlines (commentLines s) =
      "\nCOMMENT ON TABLE public." ++ s.table ++ " IS " ++ Literal.sql d ++ ";\n" := by
    rw [commentLines_eq h hd]
    simp [← String.toList_inj]
  rw [text_eq, followingLines, List.append_assoc, List.append_assoc, unlines_append, hcomment]
  simp only [String.append_assoc, List.append_assoc]

/-! ## The file -/

/-- What the literals of a migration are read back as, each where it stands in the file. -/
structure LiteralsRead (s : Schema) : Prop where
  columns : ∀ before f after, s.columns = before ++ f :: after →
    ∃ rest, text s = columnStart s before ++ columnText f ++ rest ∧ ColumnRead f rest
  comment : ∀ d, s.description = some d → d ≠ "" → ∃ literal more,
    text s =
        preamble s ++ tableText s ++ "\nCOMMENT ON TABLE public." ++ s.table ++ " IS " ++ literal ∧
      Sql.literal? literal.toList = some (d, (";\n" ++ more).toList)

theorem literalsRead (s : Schema) : LiteralsRead s where
  columns before f after h := by
    obtain ⟨rest, htext, hrest⟩ := exists_text_eq_columnText h
    exact ⟨rest, htext, columnRead f hrest⟩
  comment d h hd := by
    obtain ⟨more, htext⟩ := exists_text_eq_comment h hd
    refine ⟨_, more, htext, ?_⟩
    rw [String.toList_append]
    exact Sql.literal?_sql d (by simp)

end Artifact.Migration

/-- The reader takes exactly what is written for a text, up to where no further quote follows, and
so the literals of every migration are read back as what was declared. -/
theorem sql_literals_read :
    (∀ cs v rest, Sql.literal? cs = some (v, rest) ↔
      cs = (Literal.sql v).toList ++ rest ∧ rest.head? ≠ some '\'') ∧
    ∀ s : Schema, Migration.LiteralsRead s :=
  ⟨Sql.literal?_eq_some_iff, Migration.literalsRead⟩

end Scaffold
