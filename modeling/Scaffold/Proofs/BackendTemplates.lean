import Scaffold.Proofs.Templates
import Scaffold.Artifact.Validation
import Scaffold.Artifact.Repository
import Scaffold.Artifact.Endpoint

/-!
# The templates of the backend
-/
namespace Scaffold.Artifact

open Script Template Text

attribute [local simp] ok_bind pure_eq_ok bind_ok toString_text Node.run run Expr.eval dot pick
  filterBy filters List.lookup_cons Except.map

/-! ## The migration -/

namespace Migration

theorem writes_header (s : Schema) : Writes (scope s) headerNodes (headerLines s) := by
  have hname : lookUp (scope s) "name" = .ok (.text s.name) := rfl
  have hdescription : lookUp (scope s) "description" = .ok (.ofOption .text s.description) := rfl
  have hremark : Writes (scope s) [.cond "description" (line ["-- ", .print "description"]) []]
      ((remark? s).elim [] fun text => ["-- " ++ text]) :=
    .said hdescription fun text htext => .line (by simp [hdescription, htext, Document.ofOption])
  have htitle : Writes (scope s) (line ["-- ", .print "name", " Migration"])
      ["-- " ++ s.name ++ " Migration"] :=
    .line (by simp [hname, String.append_assoc])
  have hlines : headerLines s = [rule] ++ ["-- " ++ s.name ++ " Migration"] ++ [rule] ++
      ((remark? s).elim [] fun text => ["-- " ++ text]) ++
      ["-- Generated by apiforge. Do not edit by hand.", rule] := by
    unfold headerLines
    cases remark? s <;> rfl
  rw [hlines]
  exact .append (.append (.append (.append (.plain _) htitle) (.plain _)) hremark) (.plain _)

/-- The parts of a definition, each after a blank. -/
theorem intercalate_eq_join (first : String) (rest : List String) :
    " ".intercalate (first :: rest) = first ++ String.join (rest.map (" " ++ ·)) := by
  induction rest generalizing first with
  | nil => simp
  | cons second rest ih =>
    rw [String.intercalate_cons_cons, ih, List.map_cons, String.join_cons]
    simp only [String.append_assoc]

section

variable {scope : Variables} {f : Field} (hfield : lookUp scope "field" = .ok f.columnView)

include hfield

theorem run_presence : run scope [presenceNode] =
    .ok (String.join ((presence f).map (" " ++ ·))) := by
  unfold presence presenceNode
  cases hkey : f.primaryKey <;> cases hrequired : f.required <;>
    simp [hfield, Field.columnView, hkey, hrequired]

theorem run_unique : run scope [uniqueNode] =
    .ok (String.join ((if f.unique then ["UNIQUE"] else []).map (" " ++ ·))) := by
  cases hunique : f.unique <;> simp [uniqueNode, hfield, Field.columnView, hunique]

theorem run_default : run scope [defaultNode] =
    .ok (String.join ((f.sqlDefault.map ("DEFAULT " ++ ·)).toList.map (" " ++ ·))) := by
  cases hdefault : f.sqlDefault <;>
    simp [defaultNode, hfield, Field.columnView, hdefault, Document.ofOption, ← String.toList_inj]

theorem run_reference : run scope [referenceNode] =
    .ok (String.join ((reference f).map (" " ++ ·))) := by
  have htarget : (dot "field" "references").eval scope = .ok (.ofOption .text f.references) := by
    simp [hfield, Field.columnView]
  have haction : (dot "field" "on_delete").eval scope = .ok (.ofOption .text f.onDelete) := by
    simp [hfield, Field.columnView]
  have hdelete : run scope [actionNode] =
      .ok ((f.onDelete.filter (· ≠ "")).elim "" fun text => " ON DELETE " ++ upper text) :=
    run_said haction fun text htext => by
      simp [hfield, Field.columnView, htext, Document.ofOption]
  have hwhole : run scope [referenceNode] = .ok ((f.references.filter (· ≠ "")).elim "" fun text =>
      " REFERENCES " ++ text ++
        (f.onDelete.filter (· ≠ "")).elim "" fun text => " ON DELETE " ++ upper text) :=
    run_said htarget fun text htext =>
      run_append (m := [" REFERENCES ", .print (dot "field" "references")])
        (by simp [hfield, Field.columnView, htext, Document.ofOption]) hdelete
  rw [hwhole]
  unfold reference
  cases f.references.filter (· ≠ "") <;> cases f.onDelete.filter (· ≠ "") <;>
    simp [← String.toList_inj]

theorem run_check : run scope [checkNode] =
    .ok (String.join ((restriction f).map (" " ++ ·))) := by
  have hvalues : (dot "field" "enum_values").eval scope = .ok (.ofTexts f.values) := by
    simp [hfield, Field.columnView]
  have hlist := run_joined "sql_string" hvalues rfl ", "
  unfold checkNode restriction valueList
  generalize Node.print (.joined (.mapped (dot "field" "enum_values") "sql_string") ", ") = list
    at hlist
  rcases hempty : f.values with _ | ⟨first, rest⟩
  · simp [hfield, Field.columnView, hempty, Document.ofTexts]
  · rw [hempty] at hlist
    simp [hfield, Field.columnView, hempty, Document.ofTexts, hlist, ← String.toList_inj]

theorem run_definition : run scope definitionNodes = .ok (definition f) := by
  have hstart : run scope ["  ", .print (dot "field" "db_name"), " ",
      .print (dot "field" "sql_type")] = .ok ("  " ++ f.column ++ " " ++ f.sqlType) := by
    simp [hfield, Field.columnView, String.append_assoc]
  have hpieces := run_append (run_append (run_append (run_append (run_append hstart
    (run_presence hfield)) (run_unique hfield)) (run_default hfield)) (run_reference hfield))
    (run_check hfield)
  refine hpieces.trans ?_
  rw [definition, intercalate_eq_join, clauses]
  simp [String.append_assoc]

end

theorem writes_table (s : Schema) : Writes (scope s) tableNodes (tableLines s) := by
  have htable : lookUp (scope s) "table_name" = .ok (.text s.table) := rfl
  have hfields : (Expr.var "fields").eval (scope s) =
      .ok (.list (s.columns.map Field.columnView)) := rfl
  have hround (f : Field) (last : Bool) : run (inRound (scope s) "field" (f.columnView, last))
      (line (definitionNodes ++ [between ","])) =
        .ok (definition f ++ onlyIf (!last) "," ++ "\n") := by
    have hfield : lookUp (inRound (scope s) "field" (f.columnView, last)) "field" =
        .ok f.columnView :=
      lookUp_inRound (by decide) _
    have hdefinition := run_definition hfield
    exact run_append (run_append hdefinition (run_singleton (eval_between ..))) rfl
  have hcolumns := run_each hfields fun f _ last => hround f last
  rw [join_rounds_separated definition] at hcolumns
  refine .append (.append (.line ?_) hcolumns) (.plain _)
  simp [htable, String.append_assoc]

theorem writes_comment (s : Schema) : Writes (scope s) commentNodes (commentLines s) := by
  have htable : lookUp (scope s) "table_name" = .ok (.text s.table) := rfl
  have hdescription : lookUp (scope s) "description" = .ok (.ofOption .text s.description) := rfl
  have hlines : commentLines s = (remark? s).elim [] fun text =>
      ["", "COMMENT ON TABLE public." ++ s.table ++ " IS " ++ Literal.sql text ++ ";"] := by
    unfold commentLines
    cases remark? s <;> rfl
  rw [hlines]
  refine .said hdescription fun text htext => .append (a := [""]) (.plain _) (.line ?_)
  simp [htable, hdescription, htext, Document.ofOption, String.append_assoc]

theorem run_index (s : Schema) (f : Field) (last : Bool) :
    run (inRound (scope s) "field" (f.columnView, last)) indexParts = .ok (indexLine s f) := by
  have htable : lookUp (scope s) "table_name" = .ok (.text s.table) := rfl
  unfold indexLine indexName indexParts
  cases hmethod : f.indexMethod with
  | none => simp [htable, Field.columnView, hmethod, Document.ofOption, String.append_assoc]
  | some name =>
    by_cases hempty : name = "" <;>
      simp [htable, Field.columnView, hmethod, Document.ofOption, hempty, Option.filter_some,
        String.append_assoc]

theorem writes_indexes (s : Schema) : Writes (scope s) indexNodes (indexLines s) := by
  have hfields : (Expr.var "indexed_fields").eval (scope s) =
      .ok (.list (s.indexedFields.map Field.columnView)) := rfl
  have hindexes : Writes (scope s) (plain ["", "-- Indexes"] ++
      [.each "field" "indexed_fields" (line indexParts)])
      (["", "-- Indexes"] ++ s.indexedFields.map (indexLine s)) :=
    .append (.plain _) (.eachLine hfields fun f _ last => run_index s f last)
  have hcond := Writes.cond hfields (fun _ => hindexes) fun _ => .nil
  unfold indexLines indexNodes
  cases hempty : s.indexedFields.isEmpty <;> simpa [hempty] using hcond

theorem writes_trigger (s : Schema) : Writes (scope s) triggerNodes (triggerLines s) := by
  have htable : lookUp (scope s) "table_name" = .ok (.text s.table) := rfl
  have hupdated : (Expr.var "has_updated_at").eval (scope s) = .ok (.bool (hasUpdatedAt s)) := rfl
  have hfunction : run (scope s) triggerFunctionParts = .ok (triggerFunction s) := by
    unfold triggerFunction
    simp [triggerFunctionParts, htable, String.append_assoc]
  have hname : run (scope s) ([.text "trigger_"] ++ triggerFunctionParts) =
      .ok (triggerName s) := by
    rw [run_append rfl hfunction]
    unfold triggerFunction triggerName
    simp [← String.toList_inj]
  have hcreate := run_append (run_append (m := [.text "CREATE OR REPLACE FUNCTION public."]) rfl
    hfunction) (n := [.text "()"]) rfl
  have htrigger := run_append (m := [.text "CREATE TRIGGER "]) rfl hname
  have hbefore : run (scope s) ["  BEFORE UPDATE ON public.", .print "table_name"] =
      .ok ("  BEFORE UPDATE ON public." ++ s.table) := by
    simp [htable]
  have hexecute := run_append (run_append (m := [.text "  EXECUTE FUNCTION public."]) rfl
    hfunction) (n := [.text "();"]) rfl
  refine .cond hupdated (fun _ => ?_) fun _ => .nil
  exact .of_eq (.append (.append (.append (.append (.append (.append (.plain _) (.line hcreate))
    (.plain _)) (.line htrigger)) (.line hbefore)) (.plain _)) (.line hexecute)) rfl

/-- Lines of which the last ends with a semicolon, as the first and what follows it. -/
theorem unlines_terminated (first : String) (rest : List String) :
    unlines (terminated (first :: rest)) =
      first ++ String.join (rest.map ("\n" ++ ·)) ++ ";" ++ "\n" := by
  induction rest generalizing first with
  | nil => simp [terminated]
  | cons second rest ih =>
    rw [terminated, unlines_cons, ih, List.map_cons, String.join_cons]
    simp only [String.append_assoc]

theorem run_clause {scope : Variables} {word key : String} {value : Option String}
    (hvalue : (dot "policy" key).eval scope = .ok (.ofOption .text value)) :
    run scope [clauseNode word key] = .ok (String.join ((clause word value).map ("\n" ++ ·))) := by
  unfold clauseNode clause
  generalize dot "policy" key = condition at hvalue
  have hsaid : run scope
      [.cond condition ["\n", "  ", .text word, " (", .print condition, ")"] []] =
        .ok ((value.filter (· ≠ "")).elim "" fun text =>
          "\n" ++ ("  " ++ word ++ " (" ++ text ++ ")")) :=
    run_said hvalue fun text htext => by
      simp [hvalue, htext, Document.ofOption, String.append_assoc]
  rw [hsaid]
  cases value.filter (· ≠ "") <;> simp

theorem writes_policy (s : Schema) (p : Policy) (last : Bool) :
    Writes (inRound (scope s) "policy" (p.view, last)) policyNodes (policyLines s p) := by
  have htable : lookUp (scope s) "table_name" = .ok (.text s.table) := rfl
  have hopening : run (inRound (scope s) "policy" (p.view, last)) [
      "CREATE POLICY \"",
      .print (dot "policy" "name"),
      "\" ON public.",
      .print "table_name"] = .ok ("CREATE POLICY \"" ++ p.name ++ "\" ON public." ++ s.table) := by
    simp [htable, Policy.view, String.append_assoc]
  have haction : run (inRound (scope s) "policy" (p.view, last))
      [.text "  FOR ", .print (.filtered (dot "policy" "action") "upper")] =
        .ok ("  FOR " ++ upper p.action) := by
    simp [Policy.view]
  have hcondition : run (inRound (scope s) "policy" (p.view, last)) [clauseNode "USING" "using"] =
      .ok (String.join ((clause "USING" p.condition).map ("\n" ++ ·))) :=
    run_clause (by simp [Policy.view])
  have hcheck : run (inRound (scope s) "policy" (p.view, last))
      [clauseNode "WITH CHECK" "with_check"] =
        .ok (String.join ((clause "WITH CHECK" p.check).map ("\n" ++ ·))) :=
    run_clause (by simp [Policy.view])
  refine .append (a := ["", _]) (.append (a := [""]) (.plain _) (.line hopening)) ?_
  refine (run_append (run_append (run_append (run_append haction hcondition) hcheck) rfl) rfl).trans
    (congrArg Except.ok ?_)
  rw [List.append_assoc, List.singleton_append, unlines_terminated]
  simp [String.append_assoc]

theorem writes_security (s : Schema) : Writes (scope s) securityNodes (securityLines s) := by
  have htable : lookUp (scope s) "table_name" = .ok (.text s.table) := rfl
  have hpolicies : (Expr.var "rls").eval (scope s) = .ok (.list (s.policies.map Policy.view)) := rfl
  exact .append (.of_eq (.append (.plain _) (.around htable)) rfl)
    (.each hpolicies fun p _ last => writes_policy s p last)

theorem writes (s : Schema) : Writes (scope s) nodes (lines s) := by
  unfold nodes lines followingLines
  simp only [← List.append_assoc]
  exact .append (.append (.append (.append (.append (.append (writes_header s) (.plain _))
    (writes_table s)) (writes_comment s)) (writes_indexes s)) (writes_trigger s))
    (writes_security s)

end Migration

/-! ## The validation schemas -/

namespace Validation

theorem writes_header (s : Schema) : Writes (scope s) headerNodes (headerLines s) := by
  have hname : lookUp (scope s) "name" = .ok (.text s.name) := rfl
  have htable : lookUp (scope s) "table_name" = .ok (.text s.table) := rfl
  unfold headerLines headerNodes
  refine .append (.commentNodes (.cons (.words ?_ ?_) (.cons (.words ?_ ?_) .nil))) (.plain _)
  · simp [hname, htable, String.append_assoc]
  · simp
  · simp
  · decide

theorem writes_enum (s : Schema) (f : Field) (last : Bool) :
    Writes (inRound (scope s) "field" (f.enumView, last)) enumNodes (enumLines s f) := by
  have hname : lookUp (scope s) "name" = .ok (.text s.name) := rfl
  have hf := showsEnum_enumView f
  refine .append (a := [""]) (.plain _) (.line ?_)
  simp [hname, run_enumName hf, run_enumValues hf, enumConstant, Field.typeName, literalList,
    String.append_assoc]

/-- The object for a list of fields, each with an entry. -/
theorem writes_object {s : Schema} {kind items constant : String} {marks : List Node}
    {fields : List Field} (entry : Field → Entry)
    (hconstant : constant = s.name ++ (kind ++ "Schema"))
    (hitems : lookUp (scope s) items = .ok (Variables.codeFields fields))
    (hkey : ∀ f, (entry f).key = f.name) (hvalidator : ∀ f, (entry f).validator = f.validator)
    (hmarks : ∀ f last, run (inRound (scope s) "field" (f.codeView, last)) marks =
      .ok (onlyIf (entry f).optional ".optional()" ++ onlyIf (entry f).nullable ".nullable()")) :
    Writes (scope s) (objectNodes kind items marks) (objectLines constant (fields.map entry)) := by
  have hname : lookUp (scope s) "name" = .ok (.text s.name) := rfl
  have hopening : run (scope s)
      ["export const ", .print "name", .text (kind ++ "Schema = z.object(\x7b")] =
        .ok ("export const " ++ constant ++ " = z.object(\x7b") := by
    simp [hname, hconstant, ← String.toList_inj]
  have hentry (f : Field) (last : Bool) : run (inRound (scope s) "field" (f.codeView, last))
      ([.text "  ", .print (dot "field" "name"), .text ": ",
        .print (dot "field" "zod_type")] ++ marks ++ [.text ","]) = .ok (entry f).line := by
    have hstart : run (inRound (scope s) "field" (f.codeView, last)) [.text "  ",
        .print (dot "field" "name"), .text ": ", .print (dot "field" "zod_type")] =
          .ok ("  " ++ f.name ++ ": " ++ f.validator) := by
      simp [Field.codeView, String.append_assoc]
    rw [run_append (run_append hstart (hmarks f last)) (run_singleton rfl), Entry.line, hkey,
      hvalidator]
    simp [String.append_assoc]
  unfold objectNodes objectLines
  rw [List.map_map]
  refine .append (.append (.append (a := [""]) (.plain _) (.line hopening)) ?_) (.plain _)
  exact .eachLine hitems fun f _ last => hentry f last

theorem writes (s : Schema) : Writes (scope s) nodes (lines s) := by
  have hname : lookUp (scope s) "name" = .ok (.text s.name) := rfl
  have hcreate : Writes (scope s) createNodes (objectLines (createConstant s) (createEntries s)) :=
    writes_object createEntry rfl rfl (fun _ => rfl) (fun _ => rfl) fun f last => by
      cases hrequired : f.required <;> simp [Field.codeView, createEntry, onlyIf, hrequired]
  have hupdate : Writes (scope s) updateNodes (objectLines (updateConstant s) (updateEntries s)) :=
    writes_object updateEntry rfl rfl (fun _ => rfl) (fun _ => rfl) fun f last => by
      cases hrequired : f.required <;> simp [Field.codeView, updateEntry, onlyIf, hrequired]
  have htypes : Writes (scope s) (plain [""] ++ typeNodes "Create" ++ typeNodes "Update")
      (typeLines s) := by
    refine .append (a := ["", _]) (.append (a := [""]) (.plain _) (.line ?_)) (.line ?_)
    · simp [hname, createConstant, ← String.toList_inj]
    · simp [hname, updateConstant, ← String.toList_inj]
  unfold nodes lines
  rw [List.append_assoc _ (typeNodes _), List.append_assoc]
  refine .append (.append (.append (.append (writes_header s) ?_) hcreate) hupdate) htypes
  exact .each (v := Field.enumView) rfl fun f _ last => writes_enum s f last

end Validation

/-! ## The repository -/

namespace Repository

theorem writes_header (s : Schema) : Writes (scope s) headerNodes (headerLines s) := by
  have hname : lookUp (scope s) "name" = .ok (.text s.name) := rfl
  have htable : lookUp (scope s) "table_name" = .ok (.text s.table) := rfl
  unfold headerLines headerNodes
  refine .append (.commentNodes (.cons (.words ?_ ?_) (.cons (.words ?_ ?_) (.cons .blank
    (.cons (.words ?_ ?_) .nil))))) (.plain _)
  · simp [hname]
  · simp
  · simp [htable]
  · simp
  · simp
  · decide

theorem writes_interfaces (s : Schema) : Writes (scope s) interfacesNodes
    ([""] ++ (recordInterface s).lines ++ [""] ++ (inputInterface s).lines ++ [""] ++
      (filtersInterface s).lines) := by
  have hname : lookUp (scope s) "name" = .ok (.text s.name) := rfl
  have hrecord : Writes (scope s) [members "fields" "db_name" ""] (recordInterface s).body :=
    .members showsField_codeView rfl (fun _ => rfl) (fun _ _ _ => rfl) (fun _ => rfl) fun _ => rfl
  have hinput : Writes (scope s) [members "writable_fields" "name" "?"] (inputInterface s).body :=
    .members showsField_codeView rfl (fun _ => rfl) (fun _ _ _ => rfl) (fun _ => rfl) fun _ => rfl
  have hfilters : Writes (scope s) ([filterMembers] ++ plain (pageMembers.map Member.line))
      (filtersInterface s).body := by
    unfold Interface.body filtersInterface
    rw [List.map_append]
    exact .append (.filterMembers rfl) (.plain _)
  have hopening (kind : String) : run (scope s) ["export interface ", .print "name", .text kind] =
      .ok ("export interface " ++ s.name ++ kind) := by
    simp [hname, String.append_assoc]
  exact .append (.append (.append (.append (.append (.plain _)
    (.interfaceNodes (hopening "Record") hrecord)) (.plain _))
    (.interfaceNodes (hopening "Input") hinput)) (.plain _))
    (.interfaceNodes (hopening "Filters") hfilters)

theorem writes_columns (s : Schema) : Writes (scope s) columnsNodes (columnsLines s) := by
  have hfields : (Expr.var "fields").eval (scope s) = .ok (.list (s.columns.map Field.codeView)) :=
    rfl
  refine .append (.append (.plain _) (.eachLine hfields fun f _ last => ?_)) (.plain _)
  simp [Field.codeView, columnLine, String.append_assoc]

theorem writes_toRecord (s : Schema) : Writes (scope s) toRecordNodes (toRecordLines s) := by
  have hname : lookUp (scope s) "name" = .ok (.text s.name) := rfl
  have hfields : (Expr.var "writable_fields").eval (scope s) =
      .ok (.list (s.writableFields.map Field.codeView)) := rfl
  refine .append (.append (.of_eq (.append (.append (.plain _) (.around hname)) (.plain _)) rfl)
    (.eachLine hfields fun f _ last => ?_)) (.plain _)
  unfold assignmentLine
  simp [Field.codeView, String.append_assoc]

/-! ### Methods -/

theorem writes_applyFilters (s : Schema) :
    Writes (scope s) applyFiltersNodes (applyFiltersLines s) := by
  have hname : lookUp (scope s) "name" = .ok (.text s.name) := rfl
  have hopening : run (scope s) ["  private ", .text applyFiltersName, "(query: any, filters: ",
      .print "name", "Filters, keys: string[]): any \x7b"] =
        .ok ("  private " ++ applyFiltersName ++ "(query: any, filters: " ++ s.name ++
          "Filters, keys: string[]): any \x7b") := by
    simp [hname, String.append_assoc]
  exact .of_eq (.append (.append (.plain _) (.line hopening)) (.plain _)) rfl

section

variable {scope : Variables} {s : Schema} (hname : lookUp scope "name" = .ok (.text s.name))

include hname

theorem writes_failure {action : Node} {text : String} (haction : action.run scope = .ok text) :
    Writes scope (failureNodes action) ([failure s text].map ("    " ++ ·)) := by
  refine .bodyLine ?_
  unfold failure
  simp [hname, haction, String.append_assoc]

theorem writes_query {remarks : List Node} {name filters keys action : Node} (q : Query)
    (hremarks : run scope remarks = .ok q.remark) (hmethod : name.run scope = .ok q.name)
    (hfilters : filters.run scope = .ok q.filters)
    (hkeys : keys.run scope = .ok (quotedList q.keys))
    (haction : action.run scope = .ok q.label) :
    Writes scope (queryNodes remarks name q.order filters keys action)
      ("" :: (q.method s).lines "") := by
  have hselect : run scope ["let query = this.supabase.from(this.table).select('*')",
      .text q.order] =
        .ok ("let query = this.supabase.from(this.table).select('*')" ++ q.order) := by
    simp
  have happly : run scope ["query = this.applyFilters(query, ", filters, ", [", keys, "])"] =
      .ok ("query = this.applyFilters(query, " ++ q.filters ++ ", " ++ keyList q.keys ++ ")") := by
    simp [hfilters, hkeys, keyList, ← String.toList_inj]
  refine .append (a := [""]) (.plain _) (.method (.methodRemark hremarks) hmethod ?_ ?_ ?_)
  · simp [hname, Query.method, String.append_assoc]
  · simp [hname, Query.method, String.append_assoc]
  · exact .of_eq (.append (.append (.append (.append (.bodyLine hselect) (.bodyLine happly))
      (.bodyLines _)) (writes_failure hname haction)) (.bodyLines _)) rfl

end

theorem writes_list (s : Schema) :
    Writes (scope s) listNodes ("" :: ((listQuery s).method s).lines "") := by
  have hname : lookUp (scope s) "name" = .ok (.text s.name) := rfl
  have htable : lookUp (scope s) "table_name" = .ok (.text s.table) := rfl
  have hfilters : (Expr.var "list_filters").eval (scope s) = .ok (.ofTexts (listFilters s)) := rfl
  have hkeys : (quotedNames "key" "list_filters" "key" ", ").run (scope s) =
      .ok (quotedList (listFilters s)) :=
    run_quotedTexts hfilters (by decide) ", "
  have hjoined := eval_joined hfilters ", "
  refine writes_query hname (listQuery s) ?_ rfl rfl hkeys rfl
  generalize (Expr.var "list_filters").joined ", " = names at hjoined
  unfold listQuery
  by_cases hempty : ", ".intercalate (listFilters s) = "" <;>
    simp [htable, hjoined, hempty, String.append_assoc]

theorem writes_find (s : Schema) : Writes (scope s) findNodes ("" :: (findMethod s).lines "") := by
  have hname : lookUp (scope s) "name" = .ok (.text s.name) := rfl
  refine .append (a := [""]) (.plain _) (.method .nil rfl rfl ?_ (.of_eq (.append (.append
    (.bodyLines _) (writes_failure hname rfl)) (.bodyLines _)) rfl))
  simp [hname, findMethod, String.append_assoc]

theorem writes_create (s : Schema) :
    Writes (scope s) createNodes ("" :: (createMethod s).lines "") := by
  have hname : lookUp (scope s) "name" = .ok (.text s.name) := rfl
  refine .append (a := [""]) (.plain _) (.method .nil rfl ?_ ?_ (.of_eq (.append (.append
    (.bodyLines _) (writes_failure hname rfl)) (.bodyLines _)) rfl))
  · simp [hname, createMethod, String.append_assoc]
  · simp [hname, createMethod, String.append_assoc]

theorem writes_update (s : Schema) :
    Writes (scope s) updateNodes ("" :: (updateMethod s).lines "") := by
  have hname : lookUp (scope s) "name" = .ok (.text s.name) := rfl
  refine .append (a := [""]) (.plain _) (.method .nil rfl ?_ ?_ (.of_eq (.append (.append
    (.bodyLines _) (writes_failure hname rfl)) (.bodyLines _)) rfl))
  · simp [hname, updateMethod, String.append_assoc]
  · simp [hname, updateMethod, String.append_assoc]

theorem writes_delete (s : Schema) :
    Writes (scope s) deleteNodes ("" :: (deleteMethod s).lines "") := by
  have hname : lookUp (scope s) "name" = .ok (.text s.name) := rfl
  exact .append (a := [""]) (.plain _) (.method .nil rfl rfl rfl (.of_eq (.append
    (.bodyLines _) (writes_failure hname rfl)) rfl))

theorem writes_custom (s : Schema) {op : Operation} (hcustom : op.type = .custom) (last : Bool) :
    Writes (inRound (scope s) "op" (op.customView, last)) customNodes
      ("" :: ((customQuery op).method s).lines "") := by
  have hop : ShowsOperation (inRound (scope s) "op" (op.customView, last)) op :=
    showsOperation_of_customView (lookUp_inRound (by decide) _)
  have hlabel : Node.run (inRound (scope s) "op" (op.customView, last))
      (.print (dot "op" "name")) = .ok op.label := by
    rw [Node.run, hop.name hcustom]
    rfl
  have hlimited : (limited "" "filters").run (inRound (scope s) "op" (op.customView, last)) =
      .ok (customQuery op).filters := by
    rw [run_limited hop, customQuery]
    cases op.limited? <;> simp
  refine writes_query rfl (customQuery op) (run_singleton (run_customRemark hop hcustom))
    (run_methodName hop hcustom) hlimited ?_ hlabel
  exact run_quotedTexts hop.filters (by decide) ", "

theorem writes_class (s : Schema) : Writes (scope s) classNodes (classLines s) := by
  have hname : lookUp (scope s) "name" = .ok (.text s.name) := rfl
  have htable : lookUp (scope s) "table_name" = .ok (.text s.table) := rfl
  have hoperations : (Expr.var "custom_operations").eval (scope s) =
      .ok (.list ((s.operationsOf .custom).map Operation.customView)) := rfl
  have hcustom := Writes.each hoperations fun op hop last =>
    writes_custom s (by simpa [Schema.operationsOf] using (List.mem_filter.1 hop).2) last
  have hlines : classLines s = ["", s!"export class {s.name}Repository extends BaseRepository \x7b",
        s!"  private readonly table = '{s.table}'"] ++ applyFiltersLines s ++
      ("" :: ((listQuery s).method s).lines "") ++ ("" :: (findMethod s).lines "") ++
      ("" :: (createMethod s).lines "") ++ ("" :: (updateMethod s).lines "") ++
      ("" :: (deleteMethod s).lines "") ++
      (s.operationsOf .custom).flatMap (fun op => "" :: ((customQuery op).method s).lines "") ++
      ["\x7d"] := by
    unfold classLines methods queries
    simp only [List.flatMap_append, List.flatMap_map, List.flatMap_cons, List.flatMap_nil,
      List.append_nil, List.append_assoc]
  rw [hlines]
  exact .append (.append (.append (.append (.append (.append (.append (.append (.of_eq (.append
    (.append (.plain _) (.around hname)) (.around htable)) rfl) (writes_applyFilters s))
    (writes_list s)) (writes_find s)) (writes_create s)) (writes_update s)) (writes_delete s))
    hcustom) (.plain _)

theorem writes (s : Schema) : Writes (scope s) nodes (lines s) := by
  have hlines : lines s = headerLines s ++ ([""] ++ (recordInterface s).lines ++ [""] ++
      (inputInterface s).lines ++ [""] ++ (filtersInterface s).lines) ++ columnsLines s ++
      toRecordLines s ++ classLines s := by
    unfold lines
    simp only [List.append_assoc]
  rw [hlines]
  exact .append (.append (.append (.append (writes_header s) (writes_interfaces s))
    (writes_columns s)) (writes_toRecord s)) (writes_class s)

end Repository

/-! ## The endpoint -/

namespace Endpoint

theorem writes_header (s : Schema) : Writes (scope s) headerNodes (headerLines s) := by
  have hname : lookUp (scope s) "name" = .ok (.text s.name) := rfl
  have htable : lookUp (scope s) "table_name" = .ok (.text s.table) := rfl
  have hcomment : Writes (scope s) (commentNodes [
      [.print "table_name", "-crud Edge Function"],
      ["CRUD endpoint for ", .print "name"],
      [],
      ["Request body: \x7b action, id?, data?, filters? \x7d"],
      [.text generated]]) (comment "" [
        s!"{s.table}-crud Edge Function",
        s!"CRUD endpoint for {s.name}",
        "",
        "Request body: \x7b action, id?, data?, filters? \x7d",
        generated]) := by
    refine .commentNodes (.cons (.words ?_ (by simp)) (.cons (.words ?_ (by simp)) (.cons .blank
      (.cons (.fixed (by decide)) (.cons (.fixed (by decide)) .nil)))))
    · simp [htable]
    · simp [hname]
  have hrepository : run (scope s) ["import \x7b ", .print "name", "Repository \x7d from '",
      "../_shared/repositories/", .print "name", "Repository.ts", "'"] =
        .ok ("import \x7b " ++ s.name ++ "Repository \x7d from '" ++ repositoryImport s ++
          "'") := by
    unfold repositoryImport
    simp [hname, String.append_assoc]
  have hschema : run (scope s) ["import \x7b ", .print "name", "CreateSchema, ", .print "name",
      "UpdateSchema \x7d from '", .text schemaImport, "'"] =
        .ok ("import \x7b " ++ s.name ++ "CreateSchema, " ++ s.name ++ "UpdateSchema \x7d from '" ++
          schemaImport ++ "'") := by
    simp [hname, String.append_assoc]
  exact .of_eq (.append (.append (.append hcomment (.plain _)) (.line hrepository))
    (.line hschema)) rfl

theorem eval_actionName {scope : Variables} {op : Operation}
    (hop : lookUp scope "op" = .ok op.view) : actionName.eval scope =
      .ok (.text (if op.type = .custom then op.name.getD "" else op.type.name)) := by
  cases htype : op.type <;>
    simp [actionName, ofType, hop, Operation.view, htype, OperationType.name, Operation.label]

theorem writes_request (s : Schema) : Writes (scope s) requestNodes (requestLines s) := by
  have hoperations : (Expr.var "operations").eval (scope s) =
      .ok (.list (s.operations.map Operation.view)) := rfl
  have hfields : (Expr.var "writable_fields").eval (scope s) =
      .ok (.list (s.writableFields.map Field.codeView)) := rfl
  have hnames := run_quotedNames _ hoperations
    (fun op _ last => eval_actionName (lookUp_inRound (by decide) (op.view, last))) " | "
  have hunion := run_keyUnion hoperations (by simp) hnames
  have hactions : run (scope s) ([.text "type Action = "] ++
      [pick (.negated "operations") "never" "",
        quotedNames "op" "operations" actionName " | "]) = .ok (actionLine s) :=
    run_append rfl hunion
  have hwritable : (quotedNames "field" "writable_fields" (dot "field" "name") ", ").run (scope s) =
      .ok (quotedList (s.writableFields.map (·.name))) :=
    run_quotedNames _ hfields (fun f _ last => by simp [Field.codeView]) ", "
  have hkeys : run (scope s) ["const WRITABLE_FIELDS = ", "[",
      quotedNames "field" "writable_fields" (dot "field" "name") ", ", "]"] =
        .ok ("const WRITABLE_FIELDS = " ++ keyList (s.writableFields.map (·.name))) := by
    generalize quotedNames "field" "writable_fields" (dot "field" "name") ", " = names at hwritable
    simp [hwritable, keyList, String.append_assoc]
  exact .of_eq (.append (.append (.append (.plain _) (.line hactions)) (.plain _)) (.line hkeys))
    rfl

section

variable {scope : Variables} {s : Schema} {op : Operation}

theorem writes_rows {method : Node} {name : String} (hmethod : method.run scope = .ok name)
    (hop : ShowsOperation scope op) : Writes scope (rowsNodes method)
      ["        return json(\x7b data: " ++ ("await repo." ++ name ++ "(" ++
        ("pick(body.filters, " ++ keyList op.filters ++ ")") ++ ")") ++ " \x7d)"] := by
  have hkeys := run_filterNames hop ", "
  refine .line ?_
  generalize filterNames ", " = keys at hkeys
  simp [hmethod, hkeys, keyList, quotedList, String.append_assoc]

theorem writes_input (hname : lookUp scope "name" = .ok (.text s.name)) (parse : String) :
    Writes scope (inputNodes parse) ["        const input = " ++ (s.name ++ parse)] :=
  .line (by simp [hname])

theorem writes_branch (hname : lookUp scope "name" = .ok (.text s.name))
    (hop : lookUp scope "op" = .ok op.view) : Writes scope branchNodes (branch s op).lines := by
  have hshows := showsOperation_of_view hop
  unfold Writes branchNodes branch
  rw [run_byType hop]
  cases htype : op.type with
  | list => exact Writes.of_eq (.append (.plain _) (writes_rows rfl hshows)) rfl
  | get => exact Writes.of_eq (.plain _) rfl
  | create =>
    exact Writes.of_eq (.append (.append (.plain _) (writes_input hname _)) (.plain _)) rfl
  | update =>
    exact Writes.of_eq (.append (.append (.plain _) (writes_input hname _)) (.plain _)) rfl
  | delete => exact Writes.of_eq (.plain _) rfl
  | custom =>
    have hlabel : run scope ["      case '", .print (dot "op" "name"), "':"] =
        .ok ("      case " ++ quoted op.label ++ ":") := by
      have hname := hshows.name htype
      generalize dot "op" "name" = label at hname
      simp [hname, quoted, ← String.toList_inj]
    have hrows := writes_rows (run_methodName hshows htype) hshows
    exact Writes.of_eq (.append (.line hlabel) hrows) rfl

end

theorem writes_setup (s : Schema) : Writes (scope s) setupNodes (setupLines s) := by
  have hname : lookUp (scope s) "name" = .ok (.text s.name) := rfl
  exact .of_eq (.append (.around hname) (.plain _)) rfl

theorem writes (s : Schema) : Writes (scope s) nodes (lines s) := by
  have hoperations : (Expr.var "operations").eval (scope s) =
      .ok (.list (s.operations.map Operation.view)) := rfl
  have hbranches : Writes (scope s) [.each "op" "operations" branchNodes]
      ((branches s).flatMap Branch.lines) := by
    rw [branches, List.flatMap_map]
    exact .each hoperations fun op _ last =>
      writes_branch rfl (lookUp_inRound (by decide) (op.view, last))
  have hlines : lines s = headerLines s ++ requestLines s ++ (functionLines ++ guardLines) ++
      setupLines s ++ ["    switch (body.action) \x7b"] ++ (branches s).flatMap Branch.lines ++
      ("      default:" :: refusalLines) := by
    unfold lines serverLines
    simp only [List.append_assoc, List.cons_append, List.nil_append]
  rw [hlines]
  exact .append (.append (.append (.append (.append (.append (writes_header s) (writes_request s))
    (.plain _)) (writes_setup s)) (.plain _)) hbranches) (.plain _)

end Endpoint

end Scaffold.Artifact
