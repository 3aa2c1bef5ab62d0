import Scaffold.Proofs.Templates
import Scaffold.Artifact.AdminPage
import Scaffold.Artifact.Demo

/-!
# The templates of the pages
-/
namespace Scaffold.Artifact

open Script Template Text

attribute [local simp] ok_bind pure_eq_ok bind_ok toString_text Node.run run Expr.eval dot pick
  filterBy filters List.lookup_cons Except.map

/-- A list of fields of which each is written to one line. -/
theorem writes_formFields {scope : Variables} {items : String} {fields : List Field}
    {parts : List Node} {text : Field → String}
    (hitems : lookUp scope items = .ok (Variables.formFields fields))
    (htext : ∀ f last, run (inRound scope "field" (f.formView, last)) parts = .ok (text f)) :
    Writes scope [.each "field" (.var items) (line parts)] (fields.map text) :=
  .eachLine hitems fun f _ last => htext f last

/-- A list of fields of which each has a block. -/
theorem writes_formBlocks {scope : Variables} {items : String} {fields : List Field}
    {body : List Node} {block : Field → List String}
    (hitems : lookUp scope items = .ok (Variables.formFields fields))
    (hblock : ∀ f last, Writes (inRound scope "field" (f.formView, last)) body (block f)) :
    Writes scope [.each "field" (.var items) body] (fields.flatMap block) :=
  .each hitems fun f _ last => hblock f last

/-! ## The admin page -/

namespace AdminPage

theorem writes_header (s : Schema) : Writes (scope s) headerNodes (headerLines s) := by
  have hname : lookUp (scope s) "name" = .ok (.text s.name) := rfl
  have htable : lookUp (scope s) "table_name" = .ok (.text s.table) := rfl
  have hcomment : Writes (scope s) (commentNodes [
      [.print "name", " Admin Page"],
      ["CRUD management UI for public.", .print "table_name"],
      [],
      [.text generated]]) (comment "" [
        s!"{s.name} Admin Page",
        s!"CRUD management UI for public.{s.table}",
        "",
        generated]) := by
    refine .commentNodes (.cons (.words ?_ (by simp)) (.cons (.words ?_ (by simp)) (.cons .blank
      (.cons (.fixed (by decide)) .nil))))
    · simp [hname]
    · simp [htable]
  exact .of_eq (.append (.append hcomment (.plain _)) (.around htable)) (by
    unfold headerLines nameLines
    simp only [List.append_assoc, List.cons_append, List.nil_append]
    rfl)

theorem run_optionsName {scope : Variables} {f : Field} {view : Document}
    (hname : attributeOf "name" view = .ok (.text f.name))
    (hfield : lookUp scope "field" = .ok view) :
    run scope optionsName = .ok (optionsConstant f) := by
  unfold optionsConstant
  simp [optionsName, hfield, hname]

theorem writes_options (s : Schema) (f : Field) (last : Bool) :
    Writes (inRound (scope s) "field" (f.enumView, last)) optionsNodes (optionsLines f) := by
  have hf := showsEnum_enumView f
  have hoptions : run (inRound (scope s) "field" (f.enumView, last)) optionsName =
      .ok (optionsConstant f) :=
    run_optionsName hf.name (lookUp_inRound (by decide) _)
  have hvalues : run (inRound (scope s) "field" (f.enumView, last))
      [.text " = [", enumValues ", ", .text "]"] = .ok (" = [" ++ literalList f.values ++ "]") := by
    simp [run_enumValues hf, literalList, String.append_assoc]
  refine .append (a := [""]) (.plain _) (.line ((run_append (run_append (m := [.text "const "]) rfl
    hoptions) hvalues).trans (congrArg Except.ok ?_)))
  simp [String.append_assoc]

theorem writes_examples (s : Schema) : Writes (scope s) examplesNodes (examplesLines s) := by
  have htitle (e : Example) : attributeOf "title" e.toDocument = .ok (.text e.title) := rfl
  have hcode (e : Example) : attributeOf "code" e.toDocument = .ok (.text e.code) := rfl
  refine .append (.append (.plain _) (.eachLine (v := Example.toDocument) rfl fun e _ last => ?_))
    (.plain _)
  unfold exampleLine
  simp [htitle, hcode, String.append_assoc]

theorem writes_row (s : Schema) : Writes (scope s) rowNodes ([""] ++ (rowInterface s).lines) := by
  have hname : lookUp (scope s) "name" = .ok (.text s.name) := rfl
  have hopening : run (scope s) ["interface ", .print "name", "Row"] =
      .ok ("interface " ++ s.name ++ "Row") := by
    simp [hname, String.append_assoc]
  have hmembers : Writes (scope s) [members "writable_fields" "db_name" ""]
      ((s.writableFields.map Field.columnMember).map Member.line) :=
    .members showsField_formView rfl (fun _ => rfl) (fun _ _ _ => rfl) (fun _ => rfl) fun _ => rfl
  refine .append (.plain _) (.interfaceNodes hopening ?_)
  unfold Interface.body rowInterface
  rw [List.map_append, List.map_append]
  exact .append (.append (.plain _) hmembers) (.plain _)

theorem writes_values (s : Schema) : Writes (scope s) valuesNodes (formLines s) := by
  refine .append (.append (.plain _) (writes_formFields rfl fun f last => ?_)) (.plain _)
  simp [Field.formView, String.append_assoc]

theorem writes_load (s : Schema) : Writes (scope s) loadNodes (loadLines s) := by
  have hname : lookUp (scope s) "name" = .ok (.text s.name) := rfl
  have hcall : run (scope s) ["      setRows(await call<", .print "name",
      "Row[]>(\x7b action: 'list', filters: \x7b\x7d \x7d))"] =
        .ok ("      setRows(await call<" ++ s.name ++ "Row[]>(" ++ listRequest.text ++ "))") := by
    simp [hname, listRequest, Request.text, Request.properties, quoted, ← String.toList_inj]
  exact .of_eq (.append (.append (.append (.around hname) (.plain _)) (.line hcall)) (.plain _)) rfl

theorem writes_change (s : Schema) : Writes (scope s) changeNodes (changeLines s) := by
  have hname : lookUp (scope s) "name" = .ok (.text s.name) := rfl
  have hfields : Writes (scope s) [.each "field" "updatable_fields" (line ["      ",
      .print (dot "field" "name"), ": row.", .print (dot "field" "db_name"), ","])]
      (s.updatableFields.map fun f => "      " ++ f.name ++ ": row." ++ f.column ++ ",") :=
    writes_formFields rfl fun f last => by simp [Field.formView, String.append_assoc]
  exact .of_eq (.append (.append (.append (.append (.plain _) (.around hname)) (.plain _)) hfields)
    (.plain _)) rfl

theorem writes_heading (s : Schema) : Writes (scope s) headingNodes (headingLines s) := by
  have hname : lookUp (scope s) "name" = .ok (.text s.name) := rfl
  have hcontent : (Expr.var "has_content_field").eval (scope s) = .ok (.bool s.hasContent) := rfl
  have hwidth := run_append (run_append (m := [.text "    <div className=\""]) rfl
    (run_pick hcontent "max-w-5xl" "max-w-4xl")) (n := [.text " mx-auto space-y-6 p-6\">"]) rfl
  exact .of_eq (.append (.append (.append (.plain _) (.line hwidth)) (.around hname)) (.plain _))
    rfl

/-! ### The form -/

section

variable {scope : Variables} {f : Field} (hfield : lookUp scope "field" = .ok f.formView)

include hfield

theorem writes_value : Writes scope valueNodes [valueLine f] := by
  refine .line ?_
  unfold valueLine
  simp [hfield, Field.formView, String.append_assoc]

theorem writes_update (value : String) : Writes scope (updateNodes value) [onChange f value] := by
  refine .line ?_
  unfold onChange
  simp [hfield, Field.formView, String.append_assoc]

theorem writes_typed (opening : List String) (value : String) :
    Writes scope (typedNodes opening value)
      (opening ++ [valueLine f] ++ [onChange f value] ++ ["          />"]) :=
  .append (.append (.append (.plain _) (writes_value hfield)) (writes_update hfield value))
    (.plain _)

theorem writes_choice : Writes scope choiceNodes (["          <select", inputStyle] ++
    [valueLine f] ++ [onChange f "e.target.value"] ++ ["          >"] ++
    ["            \x7b" ++ optionsConstant f ++ ".map((option) => ("] ++ [
      "              <option key=\x7boption\x7d value=\x7boption\x7d>",
      "                \x7boption\x7d",
      "              </option>",
      "            ))\x7d",
      "          </select>"]) := by
  have hoptions := run_append (run_append (m := [.text "            ", .print (.literal "\x7b")])
    (a := "            \x7b") rfl (run_optionsName rfl hfield)) (n := [.text ".map((option) => ("])
    rfl
  exact .append (.append (.append (.append (.append (.plain _) (writes_value hfield))
    (writes_update hfield _)) (.plain _)) (.line hoptions)) (.plain _)

theorem writes_checkbox : Writes scope checkboxNodes
    (["          <input", "            type=\"checkbox\"", "            className=\"ml-2\""] ++
      ["            checked=\x7bBoolean(form." ++ f.name ++ ")\x7d"] ++
      [onChange f "e.target.checked"] ++ ["          />"]) := by
  have hchecked : run scope ["            checked=\x7bBoolean(form.",
      .print (dot "field" "name"), ")\x7d"] =
        .ok ("            checked=\x7bBoolean(form." ++ f.name ++ ")\x7d") := by
    simp [hfield, Field.formView, String.append_assoc]
  exact .append (.append (.append (.plain _) (.line hchecked)) (writes_update hfield _)) (.plain _)

theorem writes_widget : Writes scope widgetNodes (widgetLines f) := by
  have hvalues : (dot "field" "enum_values").eval scope = .ok (.list (f.values.map .text)) := by
    simp [hfield, Field.formView, Document.ofTexts]
  have hboolean : (Expr.equal (dot "field" "field_type") (.literal "boolean")).eval scope =
      .ok (.bool (f.type.name = "boolean")) := by
    simp [hfield, Field.formView]
  have hnumber : (Expr.among (dot "field" "field_type") ["number", "integer"]).eval scope =
      .ok (.bool (["number", "integer"].contains f.type.name)) := by
    simp [hfield, Field.formView]
  have hcontent : isContent.eval scope = .ok (.bool (f.name = Field.contentName)) := by
    simp [isContent, hfield, Field.formView]
    rfl
  refine .of_eq (.cond hvalues (fun _ => writes_choice hfield) fun _ => .cond hboolean
    (fun _ => writes_checkbox hfield) fun _ => .cond hnumber (fun _ => writes_typed hfield _ _)
    fun _ => .cond hcontent (fun _ => writes_typed hfield _ _) fun _ => writes_typed hfield _ _) ?_
  unfold widgetLines widget
  rcases hempty : f.values with _ | ⟨first, rest⟩
  · cases htype : f.type <;> by_cases hname : f.name = Field.contentName <;>
      simp [hname, FieldType.name]
  · simp

end

theorem writes_input (s : Schema) (f : Field) (last : Bool) :
    Writes (inRound (scope s) "field" (f.formView, last)) inputNodes (inputLines f) := by
  have hfield : lookUp (inRound (scope s) "field" (f.formView, last)) "field" = .ok f.formView :=
    lookUp_inRound (by decide) _
  have hmark : run (inRound (scope s) "field" (f.formView, last)) [
      "          <span className=\"text-sm\">",
      .print (dot "field" "name"),
      pick (dot "field" "required") " *" "",
      "</span>"] = .ok ("          <span className=\"text-sm\">" ++ f.name ++
        onlyIf f.required " *" ++ "</span>") := by
    cases hrequired : f.required <;>
      simp [Field.formView, hrequired, onlyIf, String.append_assoc]
  exact .of_eq (.append (.append (.append (.plain _) (.line hmark)) (writes_widget hfield))
    (.plain _)) rfl

theorem writes_form (s : Schema) : Writes (scope s) formNodes
    (formOpening s ++ s.updatableFields.flatMap inputLines ++ formClosing) := by
  have hname : lookUp (scope s) "name" = .ok (.text s.name) := rfl
  have hheading : run (scope s) [
      "        <h2 className=\"font-semibold\">\x7beditingId ? 'Edit ",
      .print "name",
      "' : 'New ",
      .print "name",
      "'\x7d</h2>"] = .ok ("        <h2 className=\"font-semibold\">" ++
        ("\x7beditingId ? 'Edit " ++ s.name ++ "' : 'New " ++ s.name ++ "'\x7d</h2>")) := by
    simp [hname, ← String.toList_inj]
  exact .append (.append (.of_eq (.append (.plain _) (.line hheading)) rfl)
    (writes_formBlocks rfl fun f last => writes_input s f last)) (.plain _)

/-! ### The table -/

theorem writes_cell (s : Schema) (f : Field) (last : Bool) :
    Writes (inRound (scope s) "field" (f.formView, last)) cellNodes [cellLine f] := by
  have hcontent : isContent.eval (inRound (scope s) "field" (f.formView, last)) =
      .ok (.bool (f.name = Field.contentName)) := by
    simp [isContent, Field.formView]
    rfl
  have hcell (cut : String) : run (inRound (scope s) "field" (f.formView, last)) [
      "              <td className=\"p-2\">\x7bString(row.",
      .print (dot "field" "db_name"),
      .text (" ?? '')" ++ cut ++ "\x7d</td>")] =
        .ok ("              <td className=\"p-2\">\x7bString(row." ++ f.column ++ " ?? '')" ++
          cut ++ "\x7d</td>") := by
    simp [Field.formView, String.append_assoc]
  refine .of_eq (.cond hcontent (fun _ => .line (hcell ".slice(0, 80)")) fun _ =>
    .line (hcell "")) ?_
  unfold cellLine
  by_cases hname : f.name = Field.contentName <;> simp [hname, onlyIf]

theorem writes_table (s : Schema) : Writes (scope s) tableNodes (tableLines s) := by
  have hheads : Writes (scope s) [.each "field" "display_fields" (line [
      "            <th className=\"p-2\">", .print (dot "field" "name"), "</th>"])]
      ((displayFields s).map fun f => "            <th className=\"p-2\">" ++ f.name ++ "</th>") :=
    writes_formFields rfl fun f last => by simp [Field.formView, String.append_assoc]
  have hcells : Writes (scope s) [.each "field" "display_fields" cellNodes]
      ((displayFields s).map cellLine) := by
    rw [List.map_eq_flatMap]
    exact writes_formBlocks rfl fun f last => writes_cell s f last
  exact .append (.append (.append (.append (.plain _) hheads) (.plain _)) hcells) (.plain _)

theorem writes (s : Schema) : Writes (scope s) nodes (lines s) := by
  have hname : lookUp (scope s) "name" = .ok (.text s.name) := rfl
  have hoptions : Writes (scope s) [.each "field" "enum_fields" optionsNodes]
      (s.enumFields.flatMap optionsLines) :=
    .each (v := Field.enumView) rfl fun f _ last => writes_options s f last
  have hlines : lines s = headerLines s ++ s.enumFields.flatMap optionsLines ++ examplesLines s ++
      ([""] ++ (rowInterface s).lines) ++ formLines s ++ callLines ++ [""] ++
      ["export function " ++ s.name ++ "AdminPage() \x7b"] ++ loadLines s ++ changeLines s ++
      headingLines s ++ (formOpening s ++ s.updatableFields.flatMap inputLines ++ formClosing) ++
      tableLines s ++ (excerptLines ++ [""]) ++ ["export default " ++ s.name ++ "AdminPage"] := by
    unfold lines pageLines
    simp only [List.append_assoc]
    rfl
  rw [hlines]
  exact .append (.append (.append (.append (.append (.append (.append (.append (.append (.append
    (.append (.append (.append (.append (writes_header s) hoptions) (writes_examples s))
    (writes_row s)) (writes_values s)) (.plain _)) (.plain _)) (.around hname)) (writes_load s))
    (writes_change s)) (writes_heading s)) (writes_form s)) (writes_table s)) (.plain _))
    (.around hname)

end AdminPage

/-! ## The demo component -/

namespace Demo

theorem writes_header (s : Schema) : Writes (scope s) headerNodes (headerLines s) := by
  have hname : lookUp (scope s) "name" = .ok (.text s.name) := rfl
  have htable : lookUp (scope s) "table_name" = .ok (.text s.table) := rfl
  have hcomment : Writes (scope s) (commentNodes [
      [.print "name", "s Demo"],
      ["Minimal showcase of the generated ", .print "table_name", " stack (hook + service)"],
      [],
      [.text generated]]) (comment "" [
        s!"{s.name}s Demo",
        s!"Minimal showcase of the generated {s.table} stack (hook + service)",
        "",
        generated]) := by
    refine .commentNodes (.cons (.words ?_ (by simp)) (.cons (.words ?_ (by simp)) (.cons .blank
      (.cons (.fixed (by decide)) .nil))))
    · simp [hname]
    · simp [htable, String.append_assoc]
  have himport : run (scope s) ["import \x7b use", .print "name",
      "s \x7d from '../../../hooks/use", .print "name", "s'"] =
        .ok ("import \x7b use" ++ s.name ++ "s \x7d from '" ++ hookImport s ++ "'") := by
    unfold hookImport
    simp [hname, ← String.toList_inj]
  have hempty : Writes (scope s) [.each "field" "display_fields" (line ["  ",
      .print (dot "field" "name"), ": ", .print (dot "field" "typescript_default"), ","])]
      ((displayFields s).map fun f => "  " ++ f.name ++ ": " ++ f.scriptDefault ++ ",") :=
    writes_formFields rfl fun f last => by simp [Field.formView, String.append_assoc]
  exact .of_eq (.append (.append (.append (.append (.append hcomment (.plain _)) (.line himport))
    (.plain _)) hempty) (.plain _)) (by
      unfold headerLines
      simp only [List.append_assoc, List.cons_append, List.nil_append]
      rfl)

/-! ### The form -/

section

variable {scope : Variables} {f : Field} (hfield : lookUp scope "field" = .ok f.formView)

include hfield

theorem writes_value : Writes scope valueNodes [valueLine f] := by
  refine .line ?_
  unfold valueLine
  simp [hfield, Field.formView, String.append_assoc]

theorem writes_change (indent value : String) :
    Writes scope (changeNodes indent value) [indent ++ onChange f value] := by
  refine .line ?_
  unfold onChange
  simp [hfield, Field.formView, String.append_assoc]

theorem writes_choice : Writes scope choiceNodes
    (["        <select", inputStyle] ++ [valueLine f] ++
      ["          " ++ onChange f "e.target.value"] ++ ["        >"] ++ f.values.map optionLine ++
      ["        </select>"]) := by
  have hvalues : (dot "field" "enum_values").eval scope = .ok (.list (f.values.map .text)) := by
    simp [hfield, Field.formView, Document.ofTexts]
  have hoption (value : String) (last : Bool) : run (inRound scope "value" (.text value, last))
      ["          <option value=\"", .print "value", "\">", .print "value", "</option>"] =
        .ok (optionLine value) := by
    unfold optionLine
    simp [String.append_assoc]
  exact .append (.append (.append (.append (.append (.plain _) (writes_value hfield))
    (writes_change hfield _ _)) (.plain _))
    (.eachLine hvalues fun value _ last => hoption value last)) (.plain _)

theorem writes_checkbox : Writes scope checkboxNodes
    (["        <label className=\"flex items-center gap-2\">", "          <input",
      "            type=\"checkbox\""] ++
      ["            checked=\x7bBoolean(form." ++ f.name ++ ")\x7d"] ++
      ["            " ++ onChange f "e.target.checked"] ++ ["          />"] ++
      ["          " ++ f.name] ++ ["        </label>"]) := by
  have hchecked : run scope ["            checked=\x7bBoolean(form.",
      .print (dot "field" "name"), ")\x7d"] =
        .ok ("            checked=\x7bBoolean(form." ++ f.name ++ ")\x7d") := by
    simp [hfield, Field.formView, String.append_assoc]
  have hlabel : run scope ["          ", .print (dot "field" "name")] =
      .ok ("          " ++ f.name) := by
    simp [hfield, Field.formView]
  exact .append (.append (.append (.append (.append (.plain _) (.line hchecked))
    (writes_change hfield _ _)) (.plain _)) (.line hlabel)) (.plain _)

theorem writes_text (opening : List String) : Writes scope (textNodes opening)
    (opening ++ ["          placeholder=\"" ++ f.name ++ "\""] ++ [inputStyle] ++ [valueLine f] ++
      ["          " ++ onChange f "e.target.value"] ++ ["        />"]) := by
  have hplaceholder : run scope ["          placeholder=\"", .print (dot "field" "name"), "\""] =
      .ok ("          placeholder=\"" ++ f.name ++ "\"") := by
    simp [hfield, Field.formView, String.append_assoc]
  exact .append (.append (.append (.append (.append (.plain _) (.line hplaceholder)) (.plain _))
    (writes_value hfield)) (writes_change hfield _ _)) (.plain _)

theorem writes_widget : Writes scope widgetNodes (widgetLines f) := by
  have hvalues : (dot "field" "enum_values").eval scope = .ok (.list (f.values.map .text)) := by
    simp [hfield, Field.formView, Document.ofTexts]
  have hboolean : (Expr.equal (dot "field" "field_type") (.literal "boolean")).eval scope =
      .ok (.bool (f.type.name = "boolean")) := by
    simp [hfield, Field.formView]
  have hcontent : isContent.eval scope = .ok (.bool (f.name = Field.contentName)) := by
    simp [isContent, hfield, Field.formView]
    rfl
  refine .of_eq (.cond hvalues (fun _ => writes_choice hfield) fun _ => .cond hboolean
    (fun _ => writes_checkbox hfield) fun _ => .cond hcontent (fun _ => writes_text hfield _)
    fun _ => writes_text hfield _) ?_
  unfold widgetLines widget
  rcases hempty : f.values with _ | ⟨first, rest⟩
  · cases htype : f.type <;> by_cases hname : f.name = Field.contentName <;>
      simp [hname, FieldType.name]
  · simp

end

theorem writes_form (s : Schema) : Writes (scope s) formNodes (formLines s) := by
  have hname : lookUp (scope s) "name" = .ok (.text s.name) := rfl
  have hhook : run (scope s) ["  const \x7b items, isLoading, error, create, remove \x7d = use",
      .print "name", "s()"] = .ok ("  const \x7b " ++ ", ".intercalate hookMembers ++
        (" \x7d = use" ++ s.name ++ "s()")) := by
    simp [hname, hookMembers, ← String.toList_inj]
  have hwidgets : Writes (scope s) [.each "field" "display_fields" widgetNodes]
      ((displayFields s).flatMap widgetLines) :=
    writes_formBlocks rfl fun f last => writes_widget (lookUp_inRound (by decide) _)
  have hadd : run (scope s) ["          Add ", .print "name"] =
      .ok ("          Add " ++ s.name) := by
    simp [hname]
  exact .of_eq (.append (.append (.append (.append (.append (.append (.append (.append (.append
    (.plain _) (.around hname)) (.line hhook)) (.plain _)) (.around hname)) (.plain _)) hwidgets)
    (.plain _)) (.line hadd)) (.plain _)) (by
      unfold formLines
      simp only [List.append_assoc, List.cons_append, List.nil_append]
      rfl)

/-! ### The list -/

theorem writes_item (s : Schema) (f : Field) (last : Bool) :
    Writes (inRound (scope s) "field" (f.formView, last)) itemNodes (itemLines f) := by
  have hcontent : isContent.eval (inRound (scope s) "field" (f.formView, last)) =
      .ok (.bool (f.name = Field.contentName)) := by
    simp [isContent, Field.formView]
    rfl
  have hparagraph : run (inRound (scope s) "field" (f.formView, last)) [
      "              <p className=\"whitespace-pre-wrap text-sm\">\x7bString(item.",
      .print (dot "field" "name"),
      " ?? '')\x7d</p>"] = .ok ("              <p className=\"whitespace-pre-wrap text-sm\">" ++
        ("\x7bString(item." ++ f.name ++ " ?? '')\x7d</p>")) := by
    simp [Field.formView, ← String.toList_inj]
  have hspan : run (inRound (scope s) "field" (f.formView, last)) [
      "                <span className=\"text-gray-500\">",
      .print (dot "field" "name"),
      ":</span> \x7bString(item.",
      .print (dot "field" "name"),
      " ?? '')\x7d"] = .ok ("                <span className=\"text-gray-500\">" ++ f.name ++
        ":</span> " ++ ("\x7bString(item." ++ f.name ++ " ?? '')\x7d")) := by
    simp [Field.formView, ← String.toList_inj]
  refine .of_eq (.cond hcontent (fun _ => .line hparagraph) fun _ =>
    .append (.append (.plain _) (.line hspan)) (.plain _)) ?_
  unfold itemLines
  by_cases hname : f.name = Field.contentName <;> simp [hname]

theorem writes_list (s : Schema) : Writes (scope s) listNodes (listLines s) := by
  have hname : lookUp (scope s) "name" = .ok (.text s.name) := rfl
  have hcontent : (Expr.var "has_content_field").eval (scope s) = .ok (.bool s.hasContent) := rfl
  have hspacing := run_append (run_append (m := [.text "      <ul className=\""]) rfl
    (run_pick hcontent "space-y-4" "space-y-2")) (n := [.text "\">"]) rfl
  have hitems : Writes (scope s) [.each "field" "display_fields" itemNodes]
      ((displayFields s).flatMap itemLines) :=
    writes_formBlocks rfl fun f last => writes_item s f last
  exact .of_eq (.append (.append (.append (.append (.append (.plain _) (.line hspacing)) (.plain _))
    hitems) (.plain _)) (.around hname)) (by
      unfold listLines
      simp only [List.append_assoc, List.cons_append, List.nil_append]
      rfl)

theorem writes (s : Schema) : Writes (scope s) nodes (lines s) :=
  .append (.append (writes_header s) (writes_form s)) (writes_list s)

end Demo

end Scaffold.Artifact
