import Scaffold.Proofs.Comments
import Scaffold.Proofs.Identifiers
import Scaffold.Proofs.Rendering

/-!
# The table of a migration

A migration is made of lines. Read as one text, the definition of its table is one definition for
each column with a comma and a line feed between them, and a definition is the name and the type of
its column with every clause that applies behind a blank. Only the key of the table has the clause
of a key. Of the lines that follow, one for each column with an index makes it, and as the columns
of an accepted schema differ, so do the names of the indexes.
-/
namespace Scaffold.Artifact.Migration

open Script Text

/-! ## Columns -/

/-- The key of the table, or a column that needs a value. -/
def presenceText (f : Field) : String :=
  if f.primaryKey then " PRIMARY KEY" else onlyIf f.required " NOT NULL"

def defaultText (f : Field) : String :=
  match f.sqlDefault with
  | some value => " DEFAULT " ++ value
  | none => ""

/-- What happens to a row when the one that it refers to goes. -/
def actionText (f : Field) : String :=
  match f.onDelete.filter (· ≠ "") with
  | some action => " ON DELETE " ++ upper action
  | none => ""

def referenceText (f : Field) : String :=
  match f.references.filter (· ≠ "") with
  | some target => " REFERENCES " ++ target ++ actionText f
  | none => ""

def checkText (f : Field) : String :=
  if f.values = [] then "" else " CHECK (" ++ f.column ++ " IN (" ++ valueList f.values ++ "))"

def openingText (f : Field) : String := "  " ++ f.column ++ " " ++ f.sqlType

def columnText (f : Field) : String :=
  openingText f ++ presenceText f ++ onlyIf f.unique " UNIQUE" ++ defaultText f ++ referenceText f
    ++ checkText f

/-- Each of some words behind a blank. -/
def spaced (words : List String) : String := String.join (words.map (" " ++ ·))

theorem spaced_append (words more : List String) :
    spaced (words ++ more) = spaced words ++ spaced more := by
  simp [spaced]

theorem intercalate_blank (word : String) (words : List String) :
    " ".intercalate (word :: words) = word ++ spaced words := by
  induction words generalizing word with
  | nil => simp [spaced]
  | cons next rest ih =>
    rw [String.intercalate_cons_cons, ih]
    simp [spaced, String.append_assoc]

theorem spaced_presence (f : Field) : spaced (presence f) = presenceText f := by
  unfold presence presenceText
  split
  · rfl
  · cases f.required <;> rfl

theorem spaced_default (f : Field) :
    spaced (f.sqlDefault.map ("DEFAULT " ++ ·)).toList = defaultText f := by
  unfold defaultText
  cases f.sqlDefault with
  | none => rfl
  | some value => simp [spaced, ← String.toList_inj]

theorem spaced_reference (f : Field) : spaced (reference f) = referenceText f := by
  unfold reference referenceText actionText
  cases f.references.filter (· ≠ "") with
  | none => rfl
  | some target =>
    cases f.onDelete.filter (· ≠ "") with
    | none => simp [spaced, ← String.toList_inj]
    | some action => simp [spaced, ← String.toList_inj]

theorem spaced_restriction (f : Field) : spaced (restriction f) = checkText f := by
  unfold restriction checkText
  cases f.values with
  | nil => rfl
  | cons v vs => simp [spaced, ← String.toList_inj]

theorem definition_eq (f : Field) : definition f = columnText f := by
  have hunique : spaced (if f.unique then ["UNIQUE"] else []) = onlyIf f.unique " UNIQUE" := by
    cases f.unique <;> rfl
  have hopening : spaced (f.sqlType :: clauses f) = " " ++ f.sqlType ++ spaced (clauses f) := by
    simp [spaced]
  rw [definition, intercalate_blank, hopening, clauses, spaced_append, spaced_append,
    spaced_append, spaced_append, spaced_presence, hunique, spaced_default, spaced_reference,
    spaced_restriction, columnText, openingText]
  simp only [String.append_assoc]

example : columnText
    { name := "state", column := "state", type := .enum, required := true, unique := true,
      defaultValue := some "it's", references := some "states(id)", onDelete := some "set null",
      enumValues := some ["it's", "over"] } =
    "  state TEXT NOT NULL UNIQUE DEFAULT 'it''s' REFERENCES states(id) ON DELETE SET NULL "
      ++ "CHECK (state IN ('it''s', 'over'))" := by decide +kernel

/-! ## The key -/

/-- The name and the type of a column are followed by the clause of a key. -/
def CarriesKey (f : Field) : Prop :=
  (openingText f ++ " PRIMARY KEY").toList <+: (columnText f).toList

instance : DecidablePred CarriesKey := fun f =>
  inferInstanceAs (Decidable ((openingText f ++ " PRIMARY KEY").toList <+: (columnText f).toList))

/-- What follows the name and the type of a column that is no key begins like another clause. -/
theorem not_key_prefix {f : Field} (h : f.primaryKey = false) :
    ¬ " PRIMARY KEY".toList <+: (presenceText f ++ (onlyIf f.unique " UNIQUE" ++ (defaultText f
      ++ (referenceText f ++ checkText f)))).toList := by
  have hother {cs : List Char} (rest : String)
      (hdiffer : differ [' ', 'P', 'R', 'I', 'M', 'A', 'R', 'Y', ' ', 'K', 'E', 'Y'] cs = true) :
      ¬ " PRIMARY KEY".toList <+: (String.ofList cs ++ rest).toList := by
    rw [String.toList_ofList]
    exact not_prefix_ofList_append hdiffer rest
  have hcheck : ¬ " PRIMARY KEY".toList <+: (checkText f).toList := by
    unfold checkText
    split_ifs
    · decide
    · simp only [String.append_assoc]
      exact hother _ rfl
  have hreference : ¬ " PRIMARY KEY".toList <+: (referenceText f ++ checkText f).toList := by
    unfold referenceText
    cases f.references.filter (· ≠ "") with
    | none => simpa using hcheck
    | some target =>
      simp only [String.append_assoc]
      exact hother _ rfl
  have hdefault :
      ¬ " PRIMARY KEY".toList <+: (defaultText f ++ (referenceText f ++ checkText f)).toList := by
    unfold defaultText
    cases f.sqlDefault with
    | none => simpa using hreference
    | some value =>
      simp only [String.append_assoc]
      exact hother _ rfl
  have hunique : ¬ " PRIMARY KEY".toList <+: (onlyIf f.unique " UNIQUE" ++ (defaultText f
      ++ (referenceText f ++ checkText f))).toList := by
    cases f.unique with
    | false => simpa [onlyIf] using hdefault
    | true => exact hother _ rfl
  unfold presenceText
  rw [if_neg (by simp [h])]
  cases f.required with
  | false => simpa [onlyIf] using hunique
  | true => exact hother _ rfl

theorem carriesKey_iff (f : Field) : CarriesKey f ↔ f.primaryKey = true := by
  have hcolumn : (columnText f).toList = (openingText f).toList ++ (presenceText f
      ++ (onlyIf f.unique " UNIQUE" ++ (defaultText f ++ (referenceText f
        ++ checkText f)))).toList := by
    rw [← String.toList_append, columnText]
    simp only [String.append_assoc]
  rw [CarriesKey, hcolumn, String.toList_append, List.prefix_append_right_inj]
  constructor
  · intro hprefix
    by_contra hkey
    exact not_key_prefix (by simpa using hkey) hprefix
  · intro hkey
    rw [presenceText, if_pos hkey, String.toList_append]
    exact List.prefix_append _ _

/-- No declared field of an accepted schema is a key. -/
theorem filter_carriesKey {s : Schema} (h : Field.CollisionFree s.fields) :
    s.columns.filter (fun f => CarriesKey f) = [Field.id] := by
  have hfields : s.fields.filter (fun f => CarriesKey f) = [] := by
    rw [List.filter_eq_nil_iff]
    intro f hf
    simp [carriesKey_iff, h.noPrimaryKey f hf]
  have hleading : Field.leading.filter (fun f => CarriesKey f) = [Field.id] := by
    simp [Field.leading, carriesKey_iff, Field.id, Field.owner]
  have htrailing : Field.trailing.filter (fun f => CarriesKey f) = [] := by
    simp [Field.trailing, carriesKey_iff, Field.createdAt, Field.updatedAt]
  rw [Schema.columns, List.filter_append, List.filter_append, hfields, hleading, htrailing]
  rfl

/-! ## The definition of the table -/

theorem separated_append (before : List String) (line : String) (after : List String) :
    separated (before ++ line :: after) = before.map (· ++ ",") ++ separated (line :: after) := by
  induction before with
  | nil => rfl
  | cons first rest ih =>
    rw [List.map_cons, List.cons_append, List.cons_append, ← ih]
    cases rest <;> rfl

theorem unlines_separated (line : String) (lines : List String) :
    unlines (separated (line :: lines)) = ",\n".intercalate (line :: lines) ++ "\n" := by
  induction lines generalizing line with
  | nil => simp [separated]
  | cons next rest ih =>
    have hbreak : ",\n" = "," ++ "\n" := rfl
    rw [separated, unlines_cons, ih, String.intercalate_cons_cons, hbreak]
    simp only [String.append_assoc]

def tableOpening (s : Schema) : String := "CREATE TABLE IF NOT EXISTS public." ++ s.table ++ " (\n"

/-- A line for each column, with a comma between two of them. -/
def tableText (s : Schema) : String :=
  tableOpening s ++ ",\n".intercalate (s.columns.map columnText) ++ "\n);\n"

theorem unlines_tableLines (s : Schema) : unlines (tableLines s) =
    tableOpening s ++ unlines (separated (s.columns.map columnText)) ++ ");\n" := by
  have hdefinition : definition = columnText := funext definition_eq
  have hopening : unlines [s!"CREATE TABLE IF NOT EXISTS public.{s.table} ("] = tableOpening s := by
    rw [unlines_cons, unlines_nil, String.append_empty]
    unfold tableOpening
    simp [toString, ← String.toList_inj]
  have hend : unlines [");"] = ");\n" := by decide
  rw [tableLines, hdefinition, unlines_append, unlines_append, hopening, hend]

theorem unlines_tableLines_eq_tableText (s : Schema) : unlines (tableLines s) = tableText s := by
  have hfirst : s.columns = Field.id :: (Field.owner :: s.fields ++ Field.trailing) := rfl
  have hend : "\n" ++ ");\n" = "\n);\n" := by decide
  rw [unlines_tableLines, tableText, hfirst, List.map_cons, unlines_separated, ← hend]
  simp only [String.append_assoc]

theorem text_eq (s : Schema) :
    text s = preamble s ++ tableText s ++ unlines (followingLines s) := by
  rw [text, lines, unlines_append, unlines_append, unlines_tableLines_eq_tableText,
    preamble]

/-! ## Indexes -/

/-- A line that begins a statement which makes an index. -/
def MakesIndex (line : String) : Prop := "CREATE INDEX".toList <+: line.toList

instance : DecidablePred MakesIndex := fun line =>
  inferInstanceAs (Decidable ("CREATE INDEX".toList <+: line.toList))

theorem not_makesIndex {cs : List Char} (rest : String)
    (h : differ ['C', 'R', 'E', 'A', 'T', 'E', ' ', 'I', 'N', 'D', 'E', 'X'] cs = true) :
    ¬ MakesIndex (String.ofList cs ++ rest) := by
  rw [MakesIndex, String.toList_ofList]
  exact not_prefix_ofList_append h rest

/-- No line of these makes an index. -/
def Indexless (lines : List String) : Prop := ∀ line ∈ lines, ¬ MakesIndex line

instance : DecidablePred Indexless := fun lines =>
  inferInstanceAs (Decidable (∀ line ∈ lines, ¬ MakesIndex line))

@[simp]
theorem indexless_nil : Indexless [] := List.forall_mem_nil _

@[simp]
theorem indexless_cons {line : String} {lines : List String} :
    Indexless (line :: lines) ↔ ¬ MakesIndex line ∧ Indexless lines := List.forall_mem_cons

@[simp]
theorem indexless_append {lines more : List String} :
    Indexless (lines ++ more) ↔ Indexless lines ∧ Indexless more := List.forall_mem_append

theorem Indexless.filter_eq_nil {lines : List String} (h : Indexless lines) :
    lines.filter (fun line => MakesIndex line) = [] := by
  rw [List.filter_eq_nil_iff]
  intro line hline
  simpa using h line hline

theorem not_makesIndex_indented (rest : String) : ¬ MakesIndex ("  " ++ rest) :=
  not_makesIndex rest rfl

theorem not_makesIndex_dashes (rest : String) : ¬ MakesIndex ("-- " ++ rest) :=
  not_makesIndex rest rfl

theorem indexLine_named (s : Schema) (f : Field) :
    ("CREATE INDEX IF NOT EXISTS " ++ indexName s f ++ " ON public." ++ s.table).toList <+:
      (indexLine s f).toList := by
  obtain ⟨rest, hline⟩ := exists_indexLine_eq s f
  refine ⟨rest.toList, ?_⟩
  rw [hline, ← String.toList_append]

theorem makesIndex_indexLine (s : Schema) (f : Field) : MakesIndex (indexLine s f) := by
  have hword : "CREATE INDEX".toList <+: "CREATE INDEX IF NOT EXISTS ".toList := by decide
  refine (hword.trans ?_).trans (indexLine_named s f)
  simp only [String.append_assoc]
  rw [String.toList_append]
  exact List.prefix_append _ _

theorem exists_of_mem_separated {line : String} {lines : List String}
    (h : line ∈ separated lines) : ∃ l ∈ lines, ∃ rest, line = l ++ rest := by
  induction lines with
  | nil => cases h
  | cons first more ih =>
    cases more with
    | nil => exact ⟨first, List.mem_cons_self, "", by simpa [separated] using h⟩
    | cons second more =>
      rcases List.mem_cons.1 h with rfl | h
      · exact ⟨first, List.mem_cons_self, ",", rfl⟩
      · obtain ⟨l, hl, hrest⟩ := ih h
        exact ⟨l, List.mem_cons_of_mem _ hl, hrest⟩

theorem exists_of_mem_terminated {line : String} {lines : List String}
    (h : line ∈ terminated lines) : ∃ l ∈ lines, ∃ rest, line = l ++ rest := by
  induction lines with
  | nil => cases h
  | cons first more ih =>
    cases more with
    | nil => exact ⟨first, List.mem_cons_self, ";", by simpa [terminated] using h⟩
    | cons second more =>
      rcases List.mem_cons.1 h with rfl | h
      · exact ⟨line, List.mem_cons_self, "", by rw [String.append_empty]⟩
      · obtain ⟨l, hl, hrest⟩ := ih h
        exact ⟨l, List.mem_cons_of_mem _ hl, hrest⟩

theorem indexless_headerLines (s : Schema) : Indexless (headerLines s) := by
  have hrule : ¬ MakesIndex rule := not_makesIndex_dashes _
  have hremark : Indexless ((remark? s).map ("-- " ++ ·)).toList := by
    cases remark? s with
    | none => simp
    | some text => simpa using not_makesIndex_dashes text
  have hname : ¬ MakesIndex s!"-- {s.name} Migration" := by
    simp only [toString, String.append_assoc]
    exact not_makesIndex_dashes _
  have hgenerated : ¬ MakesIndex "-- Generated by apiforge. Do not edit by hand." := by decide
  simp [headerLines, hrule, hname, hremark, hgenerated]

theorem indexless_tableLines (s : Schema) : Indexless (tableLines s) := by
  have hopening : ¬ MakesIndex s!"CREATE TABLE IF NOT EXISTS public.{s.table} (" := by
    simp only [toString, String.append_assoc]
    exact not_makesIndex _ rfl
  have hcolumns : Indexless (separated (s.columns.map definition)) := by
    intro line hline
    obtain ⟨l, hl, rest, rfl⟩ := exists_of_mem_separated hline
    obtain ⟨f, _, rfl⟩ := List.mem_map.1 hl
    rw [definition, String.append_assoc]
    exact not_makesIndex_indented _
  have hend : ¬ MakesIndex ");" := by decide
  rw [tableLines, indexless_append, indexless_append, indexless_cons, indexless_cons]
  exact ⟨⟨⟨hopening, indexless_nil⟩, hcolumns⟩, hend, indexless_nil⟩

theorem indexless_commentLines (s : Schema) : Indexless (commentLines s) := by
  unfold commentLines
  cases remark? s with
  | none => simp
  | some text =>
    have hempty : ¬ MakesIndex "" := by decide
    have hcomment :
        ¬ MakesIndex (s!"COMMENT ON TABLE public.{s.table} IS " ++ Literal.sql text ++ ";") := by
      simp only [toString, String.append_assoc]
      exact not_makesIndex _ rfl
    simp [hempty, hcomment]

theorem indexless_triggerLines (s : Schema) : Indexless (triggerLines s) := by
  have hfunction (rest : String) : ¬ MakesIndex ("CREATE OR REPLACE FUNCTION public." ++ rest) :=
    not_makesIndex _ rfl
  have htrigger (rest : String) : ¬ MakesIndex ("CREATE TRIGGER " ++ rest) :=
    not_makesIndex _ rfl
  have hupdate (rest : String) : ¬ MakesIndex ("  BEFORE UPDATE ON public." ++ rest) :=
    not_makesIndex _ rfl
  have hexecute (rest : String) : ¬ MakesIndex ("  EXECUTE FUNCTION public." ++ rest) :=
    not_makesIndex _ rfl
  have hfixed : Indexless ["", "-- Auto-update updated_at", "RETURNS TRIGGER AS $$", "BEGIN",
      "  NEW.updated_at = NOW();", "  RETURN NEW;", "END;", "$$ LANGUAGE plpgsql;",
      "  FOR EACH ROW"] := by decide
  simp only [indexless_cons, indexless_nil, and_true] at hfixed
  unfold triggerLines
  split_ifs
  · simp [toString, String.append_assoc, hfixed, hfunction, htrigger, hupdate, hexecute]
  · simp

theorem indexless_policyLines (s : Schema) (p : Policy) : Indexless (policyLines s p) := by
  have hempty : ¬ MakesIndex "" := by decide
  have hname : ¬ MakesIndex s!"CREATE POLICY \"{p.name}\" ON public.{s.table}" := by
    simp only [toString, String.append_assoc]
    exact not_makesIndex _ rfl
  have hclause (word : String) (condition : Option String) :
      ∀ l ∈ clause word condition, ∃ rest, l = "  " ++ rest := by
    unfold clause
    cases condition.filter (· ≠ "") with
    | none => simp
    | some text => simp [String.append_assoc]
  have hindented : ∀ l ∈ ["  FOR " ++ upper p.action] ++ clause "USING" p.condition
      ++ clause "WITH CHECK" p.check, ∃ rest, l = "  " ++ rest := by
    have hfor : ∃ rest, "  FOR " ++ upper p.action = "  " ++ rest := ⟨"FOR " ++ upper p.action, rfl⟩
    simp only [List.forall_mem_append, List.forall_mem_singleton]
    exact ⟨⟨hfor, hclause _ _⟩, hclause _ _⟩
  have hterminated : Indexless (terminated (["  FOR " ++ upper p.action]
      ++ clause "USING" p.condition ++ clause "WITH CHECK" p.check)) := by
    intro line hline
    obtain ⟨l, hl, rest, rfl⟩ := exists_of_mem_terminated hline
    obtain ⟨inside, rfl⟩ := hindented l hl
    rw [String.append_assoc]
    exact not_makesIndex_indented _
  rw [policyLines, indexless_append, indexless_cons, indexless_cons]
  exact ⟨⟨hempty, hname, indexless_nil⟩, hterminated⟩

theorem indexless_securityLines (s : Schema) : Indexless (securityLines s) := by
  have hfixed : Indexless ["", "-- Row Level Security"] := by decide
  have henable : ¬ MakesIndex s!"ALTER TABLE public.{s.table} ENABLE ROW LEVEL SECURITY;" := by
    simp only [toString, String.append_assoc]
    exact not_makesIndex _ rfl
  unfold securityLines
  rw [indexless_append]
  refine ⟨?_, List.forall_mem_flatMap.2 fun p _ => indexless_policyLines s p⟩
  simpa [henable] using hfixed

/-- The lines that make indexes are those of the columns that have one. -/
theorem filter_makesIndex_indexLines (s : Schema) :
    (indexLines s).filter (fun line => MakesIndex line) = s.indexedFields.map (indexLine s) := by
  have hne : s.indexedFields.isEmpty = false :=
    List.isEmpty_eq_false_iff_exists_mem.2 ⟨_, owner_mem_indexedFields s⟩
  have hheading : ["", "-- Indexes"].filter (fun line => MakesIndex line) = [] := by decide
  have hlines : (s.indexedFields.map (indexLine s)).filter (fun line => MakesIndex line) =
      s.indexedFields.map (indexLine s) := by
    rw [List.filter_eq_self]
    intro line hline
    obtain ⟨f, _, rfl⟩ := List.mem_map.1 hline
    simpa using makesIndex_indexLine s f
  rw [indexLines, hne, if_neg Bool.false_ne_true, List.filter_append, hheading, hlines,
    List.nil_append]

theorem filter_makesIndex_followingLines (s : Schema) :
    (followingLines s).filter (fun line => MakesIndex line) =
      s.indexedFields.map (indexLine s) := by
  rw [followingLines, List.filter_append, List.filter_append, List.filter_append,
    filter_makesIndex_indexLines, (indexless_commentLines s).filter_eq_nil,
    (indexless_triggerLines s).filter_eq_nil, (indexless_securityLines s).filter_eq_nil]
  simp

theorem filter_makesIndex_lines (s : Schema) :
    (lines s).filter (fun line => MakesIndex line) = s.indexedFields.map (indexLine s) := by
  have hempty : [""].filter (fun line => MakesIndex line) = [] := by decide
  rw [lines, List.filter_append, List.filter_append, List.filter_append, hempty,
    filter_makesIndex_followingLines, (indexless_headerLines s).filter_eq_nil,
    (indexless_tableLines s).filter_eq_nil]
  rfl

/-- Lines without a line feed are the lines of their text. -/
theorem linesOf_unlines {lines : List String} (h : ∀ line ∈ lines, '\n' ∉ line.toList) :
    linesOf false (unlines lines) = lines.map String.toList ++ [[]] := by
  induction lines with
  | nil => simp [linesOf]
  | cons line rest ih =>
    rw [List.forall_mem_cons] at h
    have hplain : ∀ c ∈ line.toList, endsLine false c = false := by
      intro c hc
      have hfeed : c ≠ '\n' := fun heq => h.1 (heq ▸ hc)
      simp [endsLine, hfeed]
    have hline : linesOf false line = [line.toList] := List.splitOnP_eq_singleton hplain
    rw [unlines_cons, linesOf_append_lineFeed, hline, ih h.2]
    rfl

/-- Where no text of a schema breaks a line, no other line of the file makes an index. -/
theorem filter_linesOf_text {s : Schema} (h : ∀ line ∈ lines s, '\n' ∉ line.toList) :
    (linesOf false (text s)).filter (fun line => "CREATE INDEX".toList <+: line) =
      s.indexedFields.map fun f => (indexLine s f).toList := by
  have hempty : [[]].filter (fun line : List Char => "CREATE INDEX".toList <+: line) = [] := by
    decide
  rw [text, linesOf_unlines h, List.filter_append, hempty, List.append_nil,
    List.filter_map]
  have hlines := congrArg (List.map String.toList) (filter_makesIndex_lines s)
  rw [List.map_map] at hlines
  exact hlines

/-- Columns that differ have indexes whose names differ. -/
theorem nodup_indexNames {s : Schema} (h : Field.CollisionFree s.fields) :
    (indexNames s).Nodup := by
  have hcolumns : (s.indexedFields.map (·.column)).Nodup :=
    (Schema.nodup_columnColumns h).sublist (List.filter_sublist.map _)
  have hnames : indexNames s =
      (s.indexedFields.map (·.column)).map fun column => s!"idx_{s.table}_{column}" := by
    rw [List.map_map]
    rfl
  rw [hnames]
  refine hcolumns.map fun c d heq => ?_
  simpa [toString] using heq

/-! ## The file -/

/-- What a migration has of its table: the text of the definition, one key in it, and below it an
index for each column that has one, under a name of its own. -/
structure TableWritten (s : Schema) : Prop where
  rendered : render .shipped .migration ⟨.migration, s⟩ =
    .ok (preamble s ++ tableText s ++ unlines (followingLines s))
  key : s.columns.filter (fun f => CarriesKey f) = [Field.id]
  indexes : (followingLines s).filter (fun line => MakesIndex line) =
    s.indexedFields.map (indexLine s)
  named : ∀ f,
    ("CREATE INDEX IF NOT EXISTS " ++ indexName s f ++ " ON public." ++ s.table).toList <+:
      (indexLine s f).toList
  distinct : (indexNames s).Nodup
  counted : (∀ line ∈ lines s, '\n' ∉ line.toList) →
    (linesOf false (text s)).filter (fun line => "CREATE INDEX".toList <+: line) =
      s.indexedFields.map fun f => (indexLine s f).toList

/-- The table of an accepted schema is written column by column, with one key and an index of its
own for each column that has one. -/
theorem table_written {s : Schema} (h : s.Accepted) : TableWritten s where
  rendered := by
    rw [← text_eq]
    exact render_shipped .migration s
  key := filter_carriesKey h.collisionFree
  indexes := filter_makesIndex_followingLines s
  named := indexLine_named s
  distinct := nodup_indexNames h.collisionFree
  counted := filter_linesOf_text

theorem article_table_written : Schema.article.Accepted ∧ TableWritten .article ∧
    columnText Schema.article.fields[0] = "  title TEXT NOT NULL" :=
  ⟨Schema.article_accepted, table_written Schema.article_accepted, by decide⟩

end Scaffold.Artifact.Migration
