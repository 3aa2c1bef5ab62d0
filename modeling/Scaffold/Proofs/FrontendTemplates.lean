import Scaffold.Proofs.Templates
import Scaffold.Artifact.Model
import Scaffold.Artifact.Service
import Scaffold.Artifact.Hook
import Scaffold.Artifact.Client

/-!
# The templates of the frontend
-/
namespace Scaffold.Artifact

open Script Template Text

attribute [local simp] ok_bind pure_eq_ok bind_ok toString_text Node.run run Expr.eval dot pick
  filterBy filters List.lookup_cons Except.map

/-! ## The model -/

namespace Model

theorem writes_header (s : Schema) : Writes (scope s) headerNodes (headerLines s) := by
  have hname : lookUp (scope s) "name" = .ok (.text s.name) := rfl
  have htable : lookUp (scope s) "table_name" = .ok (.text s.table) := rfl
  unfold headerLines headerNodes
  refine .commentNodes (.cons (.words ?_ (by simp)) (.cons (.words ?_ (by simp)) (.cons .blank
    (.cons (.words rfl ?_) (.cons (.words rfl ?_) .nil)))))
  · simp [hname]
  · simp [htable]
  · decide
  · decide

theorem writes_enum (s : Schema) (f : Field) (last : Bool) :
    Writes (inRound (scope s) "field" (f.enumView, last)) enumNodes (enumLines s f) := by
  have hname : lookUp (scope s) "name" = .ok (.text s.name) := rfl
  have hcolumn : attributeOf "db_name" f.enumView = .ok (.text f.column) := rfl
  have hf := showsEnum_enumView f
  have htype : run (inRound (scope s) "field" (f.enumView, last))
      ["export type ", .print "name", enumName, " = ", enumValues " | "] =
        .ok ("export type " ++ f.typeName s.name ++ " = " ++ literalUnion f.values) := by
    simp [hname, run_enumName hf, run_enumValues hf, Field.typeName, literalUnion,
      String.append_assoc]
  have hvalues : run (inRound (scope s) "field" (f.enumView, last)) [
      "export const ",
      .print (.filtered (.filtered "name" "snake_case") "upper"),
      "_",
      .print (.filtered (dot "field" "db_name") "upper"),
      "_VALUES: ",
      .print "name",
      enumName,
      "[] = [",
      enumValues ", ",
      "]"] = .ok ("export const " ++ valuesConstant s f ++ ": " ++ f.typeName s.name ++ "[] = [" ++
        literalList f.values ++ "]") := by
    unfold valuesConstant
    simp [hname, hcolumn, run_enumName hf, run_enumValues hf, Field.typeName, literalList,
      String.append_assoc]
  exact .of_eq (.append (.append (.append (.plain _) (.line htype)) (.plain _)) (.line hvalues)) rfl

theorem writes_interfaces (s : Schema) : Writes (scope s) interfacesNodes
    ([""] ++ (rowInterface s).lines ++ [""] ++ (dataInterface s).lines ++ [""] ++
      (createType s).lines ++ [""] ++ (updateType s).lines) := by
  have hname : lookUp (scope s) "name" = .ok (.text s.name) := rfl
  have howner : lookUp (scope s) "owner_field" = .ok (.text Field.owner.name) := rfl
  have hrow : Writes (scope s) [members "fields" "db_name" ""] (rowInterface s).body :=
    .members showsField_codeView rfl (fun _ => rfl) (fun _ _ _ => rfl) (fun _ => rfl) fun _ => rfl
  have hdata : Writes (scope s) [members "fields" "name" ""] (dataInterface s).body :=
    .members showsField_codeView rfl (fun _ => rfl) (fun _ _ _ => rfl) (fun _ => rfl) fun _ => rfl
  have hcreate : Writes (scope s) [members "writable_fields" "name" createMark]
      (createType s).body := by
    refine .members showsField_codeView rfl (fun _ => rfl) (fun f _ last => ?_) (fun _ => rfl)
      fun _ => rfl
    cases hrequired : f.required <;> by_cases hequal : f.name = Field.owner.name <;>
      simp [createMark, markUnless, howner, Field.codeView, createMember, onlyIf, hrequired, hequal]
  have hupdate : Writes (scope s) [members "updatable_fields" "name" "?"] (updateType s).body :=
    .members showsField_codeView rfl (fun _ => rfl) (fun _ _ _ => rfl) (fun _ => rfl) fun _ => rfl
  have hinterface (kind : String) : run (scope s) ["export interface ", .print "name", .text kind] =
      .ok ("export interface " ++ s.name ++ kind) := by
    simp [hname, String.append_assoc]
  have htype (kind : String) : run (scope s) ["export type ", .print "name", .text kind] =
      .ok ("export type " ++ s.name ++ kind) := by
    simp [hname, String.append_assoc]
  exact .append (.append (.append (.append (.append (.append (.append (.plain _)
    (.interfaceNodes (hinterface "DatabaseRecord") hrow)) (.plain _))
    (.interfaceNodes (hinterface "Data") hdata)) (.plain _))
    (.interfaceNodes (htype "CreateInput =") hcreate)) (.plain _))
    (.interfaceNodes (htype "UpdateInput =") hupdate)

theorem writes_fields {scope : Variables} {items : String} {fields : List Field} {parts : List Node}
    {text : Field → String} (hitems : lookUp scope items = .ok (Variables.codeFields fields))
    (htext : ∀ f last, run (inRound scope "field" (f.codeView, last)) parts = .ok (text f)) :
    Writes scope (fieldNodes items parts) (fields.map text) :=
  .eachLine hitems fun f _ last => htext f last

theorem writes_class (s : Schema) : Writes (scope s) classNodes (classLines s) := by
  have hname : lookUp (scope s) "name" = .ok (.text s.name) := rfl
  have hmembers : Writes (scope s) [members "fields" "name" ""]
      ((s.columns.map Field.member).map Member.line) :=
    .members showsField_codeView rfl (fun _ => rfl) (fun _ _ _ => rfl) (fun _ => rfl) fun _ => rfl
  have hfrom : run (scope s) ["  static fromDatabase(record: ", .print "name", "DatabaseRecord): ",
      .print "name", " \x7b"] =
        .ok ("  static fromDatabase(record: " ++ s.name ++ "DatabaseRecord): " ++ s.name ++
          " \x7b") := by
    simp [hname, String.append_assoc]
  have hassign : Writes (scope s)
      (fieldNodes "fields" ["    this.", .print (dot "field" "name"), " = data.",
        .print (dot "field" "name")])
      (s.columns.map fun f => "    this." ++ f.name ++ " = data." ++ f.name) :=
    writes_fields rfl fun f last => by simp [Field.codeView, String.append_assoc]
  have hread : Writes (scope s)
      (fieldNodes "fields" ["      ", .print (dot "field" "name"), ": record.",
        .print (dot "field" "db_name"), ","])
      (s.columns.map fun f => "      " ++ f.name ++ ": record." ++ f.column ++ ",") :=
    writes_fields rfl fun f last => by simp [Field.codeView, String.append_assoc]
  have hwrite : Writes (scope s)
      (fieldNodes "writable_fields" ["      ", .print (dot "field" "db_name"), ": this.",
        .print (dot "field" "name"), ","])
      (s.writableFields.map fun f => "      " ++ f.column ++ ": this." ++ f.name ++ ",") :=
    writes_fields rfl fun f last => by simp [Field.codeView, String.append_assoc]
  have hempty : Writes (scope s)
      (fieldNodes "writable_fields" ["      ", .print (dot "field" "name"), ": ",
        .print (dot "field" "typescript_default"), ","])
      (s.writableFields.map fun f => "      " ++ f.name ++ ": " ++ f.scriptDefault ++ ",") :=
    writes_fields rfl fun f last => by simp [Field.codeView, String.append_assoc]
  have hstart : Writes (scope s) (plain [""] ++ line ["export class ", .print "name", " \x7b"] ++
      [members "fields" "name" ""] ++ plain [""] ++
      line ["  constructor(data: ", .print "name", "Data) \x7b"]) _ :=
    .append (.append (.append (.append (.plain _) (.around hname)) hmembers) (.plain _))
      (.around hname)
  have hnew : Writes (scope s) (line ["    return new ", .print "name", "(\x7b"]) _ :=
    .around hname
  have hto : Writes (scope s)
      (line ["  toDatabase(): Partial<", .print "name", "DatabaseRecord> \x7b"]) _ :=
    .around hname
  have hrows := Writes.append (.append (.append (.append (.append hstart hassign)
    (.plain ["  \x7d", ""])) (.line hfrom)) hnew) hread
  have hback := Writes.append (.append (.append (.append hrows
    (.plain ["    \x7d)", "  \x7d", ""])) hto) (.plain ["    return \x7b"])) hwrite
  exact .of_eq (.append (.append (.append hback (.plain _)) hempty) (.plain _)) (by
    unfold classLines
    simp only [List.append_assoc, List.cons_append, List.nil_append]
    rfl)

theorem writes (s : Schema) : Writes (scope s) nodes (lines s) := by
  have hlines : lines s = headerLines s ++ s.enumFields.flatMap (enumLines s) ++
      ([""] ++ (rowInterface s).lines ++ [""] ++ (dataInterface s).lines ++ [""] ++
        (createType s).lines ++ [""] ++ (updateType s).lines) ++ classLines s := by
    unfold lines
    simp only [List.append_assoc]
  rw [hlines]
  refine .append (.append (.append (writes_header s) ?_) (writes_interfaces s)) (writes_class s)
  exact .each (v := Field.enumView) rfl fun f _ last => writes_enum s f last

end Model

/-! ## What is imported from the model -/

section

variable {scope : Variables} {s : Schema} (hname : lookUp scope "name" = .ok (.text s.name))

include hname

theorem writes_enumNames
    (henums : lookUp scope "enum_fields" = .ok (Variables.enumFields s.enumFields)) :
    Writes scope [.each "field" "enum_fields" (line ["  ", .print "name", enumName, ","])]
      (s.enumFields.map fun f => "  " ++ f.typeName s.name ++ ",") := by
  refine .eachLine (v := Field.enumView) henums fun f _ last => ?_
  simp [hname, run_enumName (showsEnum_enumView f), Field.typeName, String.append_assoc]

theorem run_modelPath : run scope ["\x7d from '../models/", .print "name", "'"] =
    .ok ("\x7d from '" ++ s!"../models/{s.name}" ++ "'") := by
  simp [hname, ← String.toList_inj]

end

/-! ## The service -/

namespace Service

theorem writes_header (s : Schema) : Writes (scope s) headerNodes (headerLines s) := by
  have hname : lookUp (scope s) "name" = .ok (.text s.name) := rfl
  have htable : lookUp (scope s) "table_name" = .ok (.text s.table) := rfl
  have hcomment : Writes (scope s) (commentNodes [
      [.print "name", " Service"],
      ["Calls the ", .print "table_name", "-crud Edge Function"],
      [],
      [.text generated]]) (comment "" [
        s!"{s.name} Service",
        s!"Calls the {s.table}-crud Edge Function",
        "",
        generated]) := by
    refine .commentNodes (.cons (.words ?_ (by simp)) (.cons (.words ?_ (by simp)) (.cons .blank
      (.cons (.fixed (by decide)) .nil))))
    · simp [hname]
    · simp [htable, String.append_assoc]
  have himport : run (scope s)
      ["import \x7b ", .print "name", " \x7d from '../models/", .print "name", "'"] =
        .ok ("import \x7b " ++ s.name ++ " \x7d from '" ++ modelImport s ++ "'") := by
    unfold modelImport
    simp [hname, ← String.toList_inj]
  exact .of_eq (.append hcomment (.append (.append (.append (.append (.append (.append (.append
    (.append (.plain _) (.line himport)) (.plain _)) (.around hname)) (.around hname))
    (.around hname)) (.around hname)) (writes_enumNames hname rfl))
    (.line (run_modelPath hname)))) (by
      unfold headerLines
      simp only [List.append_assoc, List.cons_append, List.nil_append]
      rfl)

theorem writes_function (s : Schema) : Writes (scope s) functionNodes (functionLines s) := by
  have hname : lookUp (scope s) "name" = .ok (.text s.name) := rfl
  have htable : lookUp (scope s) "table_name" = .ok (.text s.table) := rfl
  have hthrow (condition message : String) : Writes (scope s) (throwNodes condition message)
      ["  if (" ++ condition ++ ") throw new Error(`[" ++ s.name ++
        ("Service] $\x7bString(body.action)\x7d failed: $\x7b" ++ message ++ "\x7d`)")] :=
    .line (by simp [hname, String.append_assoc])
  have hopening : run (scope s) ["function toModels(records: ", .print "name",
      "DatabaseRecord[] | null): ", .print "name", "[] \x7b"] =
        .ok ("function toModels(records: " ++ s.name ++ "DatabaseRecord[] | null): " ++ s.name ++
          "[] \x7b") := by
    simp [hname, String.append_assoc]
  refine .of_eq (.append (.append (.append (.append (.append (.append (.append (.append (.plain _)
    (.around htable)) (.plain _)) (hthrow "error" "error.message"))
    (hthrow "data?.error" "data.error")) (.plain _)) (.line hopening)) (.around hname))
    (.plain _)) ?_
  unfold functionLines
  simp [String.append_assoc]

theorem writes_values (s : Schema) (f : Field) (last : Bool) :
    Writes (inRound (scope s) "field" (f.enumView, last)) valuesNodes (valuesLines s f) := by
  have hname : lookUp (scope s) "name" = .ok (.text s.name) := rfl
  have hf := showsEnum_enumView f
  have hvalues : run (inRound (scope s) "field" (f.enumView, last)) [
      "  ",
      .print (dot "field" "name"),
      "Values: [",
      enumValues ", ",
      "] as ",
      .print "name",
      enumName,
      "[],"] = .ok ("  " ++ f.name ++ "Values: [" ++ literalList f.values ++ "] as " ++
        f.typeName s.name ++ "[],") := by
    simp [hname, hf.name, run_enumName hf, run_enumValues hf, Field.typeName, literalList,
      String.append_assoc]
  exact .of_eq (.append (.line hvalues) (.plain _)) rfl

section

variable {scope : Variables} {s : Schema} {op : Operation}
  (hname : lookUp scope "name" = .ok (.text s.name))

include hname

theorem writes_query (hop : ShowsOperation scope op) {remarks name action : Node}
    {method label remark : String} (hremarks : remarks.run scope = .ok remark)
    (hmethod : name.run scope = .ok method) (hlabel : action.run scope = .ok label) :
    Writes scope (queryNodes remarks name action)
      ((query s method label remark op).method.lines "," ++ [""]) := by
  have hunion : run scope [pick (.negated (dot "op" "filters")) "never" "", filterNames " | "] =
      .ok (keyUnion op.filters) :=
    run_keyUnion hop.filters (by simp) (run_filterNames hop " | ")
  have hparameters := run_append (run_append (m := ["filters: Partial<Pick<", .print "name",
    "Data, "]) (a := "filters: Partial<Pick<" ++ s.name ++ "Data, ")
    (by simp [hname, String.append_assoc]) hunion) (n := [">> & PageOptions = \x7b\x7d"]) rfl
  have hinvoke : run scope [.text "return toModels(await invoke<", .print "name",
      .text "DatabaseRecord[]>(\x7b action: '", action, .text "', "] =
        .ok ("return toModels(await invoke<" ++ s.name ++ "DatabaseRecord[]>(\x7b action: '" ++
          label ++ "', ") := by
    simp [hname, hlabel, String.append_assoc]
  have hbody := run_append (run_append hinvoke (run_filtersArgument hop)) (n := [" \x7d))"]) rfl
  refine .append (.method (.methodRemark (run_singleton hremarks)) hmethod ?_ ?_
    (.bodyLine (hbody.trans (congrArg Except.ok ?_)))) (.plain _)
  · refine hparameters.trans (congrArg Except.ok ?_)
    unfold query filtersParameter
    simp [Call.method, String.append_assoc]
  · simp [hname, query, Call.method, String.append_assoc]
  · simp [query, Request.text, Request.properties, quoted, ← String.toList_inj]

theorem writes_row {name : String} {parameters : List Node} {request : String}
    {m : Method} (hmethod : m.name = name) (hremark : m.remark = none)
    (hparameters : run scope parameters = .ok m.parameters)
    (hresult : m.result = "Promise<" ++ s.name ++ ">")
    (hbody : m.body = ["return " ++ s.name ++ ".fromDatabase(await invoke<" ++ s.name ++
      "DatabaseRecord>(" ++ request ++ "))"]) :
    Writes scope (rowNodes name parameters request) (m.lines "," ++ [""]) := by
  refine .append (.method (.of_eq .nil ?_) ?_ hparameters ?_ ?_) (.plain _)
  · rw [hremark]
    rfl
  · rw [hmethod]
    rfl
  · simp [hname, hresult, String.append_assoc]
  · rw [hbody]
    exact .bodyLine (by simp [hname, String.append_assoc])

end

theorem writes_operation (s : Schema) (op : Operation) (last : Bool) :
    Writes (inRound (scope s) "op" (op.view, last)) operationNodes
      ((call s op).method.lines "," ++ [""]) := by
  have hname : lookUp (inRound (scope s) "op" (op.view, last)) "name" = .ok (.text s.name) := rfl
  have hop : lookUp (inRound (scope s) "op" (op.view, last)) "op" = .ok op.view :=
    lookUp_inRound (by decide) _
  have hshows := showsOperation_of_view hop
  unfold Writes operationNodes call
  rw [run_byType hop]
  cases htype : op.type with
  | list =>
    exact writes_query hname hshows (run_listRemark hshows rfl) rfl rfl
  | get =>
    have hread : run (inRound (scope s) "op" (op.view, last)) ["const record = await invoke<",
        .print "name", "DatabaseRecord | null>(\x7b action: 'get', id \x7d)"] =
          .ok ("const record = await invoke<" ++ s.name ++
            "DatabaseRecord | null>(\x7b action: 'get', id \x7d)") := by
      simp [hname, String.append_assoc]
    have hconvert : run (inRound (scope s) "op" (op.view, last))
        ["return record ? ", .print "name", ".fromDatabase(record) : null"] =
          .ok ("return record ? " ++ s.name ++ ".fromDatabase(record) : null") := by
      simp [hname, String.append_assoc]
    refine Writes.append (.method .nil rfl rfl ?_ (.of_eq (.append (.bodyLine hread)
      (.bodyLine hconvert)) ?_)) (.plain _)
    · simp [hname, Call.method, String.append_assoc]
    · simp [Call.method, Request.text, Request.properties, quoted, ← String.toList_inj]
  | create =>
    exact writes_row hname rfl rfl (by simp [hname, Call.method, String.append_assoc]) rfl rfl
  | update =>
    exact writes_row hname rfl rfl (by simp [hname, Call.method, String.append_assoc]) rfl rfl
  | delete => exact Writes.append (.method .nil rfl rfl rfl (.bodyLines _)) (.plain _)
  | custom =>
    have hlabel := hshows.name htype
    exact writes_query hname hshows (run_customRemark hshows htype) (run_methodName hshows htype)
      (by rw [Node.run, hlabel]; rfl)

theorem writes (s : Schema) : Writes (scope s) nodes (lines s) := by
  have hname : lookUp (scope s) "name" = .ok (.text s.name) := rfl
  have hvalues : Writes (scope s) [.each "field" "enum_fields" valuesNodes]
      (s.enumFields.flatMap (valuesLines s)) :=
    .each (v := Field.enumView) rfl fun f _ last => writes_values s f last
  have hmethods : Writes (scope s) [.each "op" "operations" operationNodes]
      ((calls s).flatMap fun c => c.method.lines "," ++ [""]) := by
    rw [calls, List.flatMap_map]
    exact .each (v := Operation.view) rfl fun op _ last => writes_operation s op last
  have hlines : lines s = headerLines s ++ functionLines s ++ [""] ++
      ["export const " ++ s.name ++ "Service = \x7b"] ++ s.enumFields.flatMap (valuesLines s) ++
      ((calls s).flatMap fun c => c.method.lines "," ++ [""]) ++ ["\x7d"] := by
    unfold lines objectLines
    simp only [List.append_assoc]
    rfl
  rw [hlines]
  exact .append (.append (.append (.append (.append (.append (writes_header s) (writes_function s))
    (.plain _)) (.around hname)) hvalues) hmethods) (.plain _)

end Service

/-! ## The hook -/

namespace Hook

theorem writes_import (s : Schema) : Writes (scope s) importNodes (
    ["", "import \x7b useMutation, useQuery, useQueryClient \x7d from '@tanstack/react-query'"] ++
    ["import \x7b " ++ s.name ++ "Service \x7d from '" ++ serviceImport s ++ "'"] ++
    ["import type \x7b"] ++ ["  " ++ s.name ++ "CreateInput,"] ++
    ["  " ++ s.name ++ "UpdateInput,"] ++
    s.enumFields.map (fun f => "  " ++ f.typeName s.name ++ ",") ++
    ["\x7d from '" ++ modelImport s ++ "'"] ++ [""] ++
    ["const QUERY_KEY = '" ++ s.table ++ "'"]) := by
  have hname : lookUp (scope s) "name" = .ok (.text s.name) := rfl
  have htable : lookUp (scope s) "table_name" = .ok (.text s.table) := rfl
  have hservice : run (scope s) ["import \x7b ", .print "name",
      "Service \x7d from '../services/", .print "name", "Service'"] =
        .ok ("import \x7b " ++ s.name ++ "Service \x7d from '" ++ serviceImport s ++ "'") := by
    unfold serviceImport
    simp [hname, ← String.toList_inj]
  exact .append (.append (.append (.append (.append (.append (.append (.append (.plain _)
    (.line hservice)) (.plain _)) (.around hname)) (.around hname)) (writes_enumNames hname rfl))
    (.line (run_modelPath hname))) (.plain _)) (.around htable)

theorem writes_header (s : Schema) : Writes (scope s) headerNodes (headerLines s) := by
  have hname : lookUp (scope s) "name" = .ok (.text s.name) := rfl
  have htable : lookUp (scope s) "table_name" = .ok (.text s.table) := rfl
  have hcomment : Writes (scope s) (commentNodes [
      ["use", .print "name", "s Hook"],
      ["React Query hook for ", .print "table_name"],
      [],
      ["- useQuery for fetching"],
      ["- useMutation for create/update/delete"],
      ["- Automatic cache invalidation"],
      [],
      [.text generated]]) (comment "" [
        s!"use{s.name}s Hook",
        s!"React Query hook for {s.table}",
        "",
        "- useQuery for fetching",
        "- useMutation for create/update/delete",
        "- Automatic cache invalidation",
        "",
        generated]) := by
    refine .commentNodes (.cons (.words ?_ (by simp)) (.cons (.words ?_ (by simp)) (.cons .blank
      (.cons (.fixed (by decide)) (.cons (.fixed (by decide)) (.cons (.fixed (by decide))
      (.cons .blank (.cons (.fixed (by decide)) .nil))))))))
    · simp [hname, String.append_assoc]
    · simp [htable]
  exact .of_eq (.append hcomment (writes_import s)) (by
    unfold headerLines
    simp only [List.append_assoc, List.cons_append, List.nil_append]
    rfl)

theorem writes_filters (s : Schema) : Writes (scope s) filtersNodes (filtersInterface s).lines := by
  have hname : lookUp (scope s) "name" = .ok (.text s.name) := rfl
  have hopening : run (scope s) ["export interface Use", .print "name", "sFilters"] =
      .ok ("export interface Use" ++ s.name ++ "sFilters") := by
    simp [hname, String.append_assoc]
  refine .interfaceNodes hopening ?_
  unfold Interface.body filtersInterface
  rw [List.map_append, List.map_append]
  exact .append (.append (.enumMembers rfl rfl) (.filterMembers rfl)) (.plain _)

section

variable {scope : Variables} {s : Schema} (hname : lookUp scope "name" = .ok (.text s.name))

include hname

theorem writes_query {constant : List Node} {key method : Node} {name label callee : String}
    (hconstant : run scope constant = .ok name) (hkey : key.run scope = .ok label)
    (hmethod : method.run scope = .ok callee) :
    Writes scope (queryNodes constant key method) ("" :: query s name label callee) := by
  have hopening := run_append (run_append (m := [.text "  const "]) rfl hconstant)
    (n := [.text " = useQuery(\x7b"]) rfl
  have hquery : run scope ["    queryKey: [QUERY_KEY, '", key, "', filters],"] =
      .ok ("    queryKey: [QUERY_KEY, " ++ quoted label ++ ", filters],") := by
    simp [hkey, quoted, ← String.toList_inj]
  have hcall : run scope ["    queryFn: () => ", .print "name", "Service.", method,
      "(filters),"] = .ok ("    queryFn: () => " ++ s.name ++ "Service." ++ callee ++
        "(filters),") := by
    simp [hname, hmethod, String.append_assoc]
  exact .of_eq (.append (.append (.append (.append (.plain _) (.line hopening)) (.line hquery))
    (.line hcall)) (.plain _)) rfl

theorem writes_mutation {parameters : List Node} {constant taken method arguments call : String}
    (hparameters : run scope parameters = .ok taken)
    (hcall : call = method ++ "(" ++ arguments ++ ")") :
    Writes scope (mutationNodes constant parameters call)
      ("" :: mutation s constant taken method arguments) := by
  have hfunction := run_append (run_append (m := [.text "    mutationFn: ("]) rfl hparameters)
    (n := [.text ") => ", .print "name", .text ("Service." ++ call ++ ",")])
    (b := ") => " ++ s.name ++ "Service." ++ call ++ ",") (by simp [hname, String.append_assoc])
  refine .of_eq (.append (.append (.plain _) (.line hfunction)) (.plain _)) ?_
  rw [hcall]
  unfold mutation
  simp [String.append_assoc]

end

theorem writes_binding (s : Schema) (op : Operation) (last : Bool) :
    Writes (inRound (scope s) "op" (op.view, last)) bindingNodes ("" :: (binding s op).lines) := by
  have hname : lookUp (inRound (scope s) "op" (op.view, last)) "name" = .ok (.text s.name) := rfl
  have hop : lookUp (inRound (scope s) "op" (op.view, last)) "op" = .ok op.view :=
    lookUp_inRound (by decide) _
  have hshows := showsOperation_of_view hop
  unfold Writes bindingNodes binding
  rw [run_byType hop]
  cases htype : op.type with
  | list => exact writes_query hname (run_singleton rfl) rfl rfl
  | get =>
    have hfetch : run (inRound (scope s) "op" (op.view, last)) ["      queryFn: () => ",
        .print "name", "Service.getById(id),"] =
          .ok ("      queryFn: () => " ++ s.name ++ "Service.getById(id),") := by
      simp [hname, String.append_assoc]
    exact Writes.of_eq (.append (.append (.plain _) (.line hfetch)) (.plain _)) rfl
  | create => exact writes_mutation hname (by simp [hname, String.append_assoc]) rfl
  | update => exact writes_mutation hname (by simp [hname, String.append_assoc]) rfl
  | delete => exact writes_mutation hname (run_singleton rfl) rfl
  | custom =>
    have hmethod := run_methodName hshows htype
    have hlabel := hshows.name htype
    exact writes_query hname (run_append (run_singleton hmethod) rfl)
      (by rw [Node.run, hlabel]; rfl) hmethod

theorem writes_entries (s : Schema) (op : Operation) (last : Bool) :
    Writes (inRound (scope s) "op" (op.view, last)) entryNodes
      ((binding s op).entries.map entryLine) := by
  have hop : lookUp (inRound (scope s) "op" (op.view, last)) "op" = .ok op.view :=
    lookUp_inRound (by decide) _
  unfold Writes entryNodes binding
  rw [run_byType hop]
  cases htype : op.type with
  | custom =>
    have hmethod := run_methodName (showsOperation_of_view hop) htype
    refine Writes.of_eq (.line (run_append (run_append (run_append (run_append
      (m := [.text "    "]) rfl (run_singleton hmethod)) (n := [.text ": "]) rfl)
      (run_singleton hmethod)) (n := [.text "Query.data ?? [],"]) rfl)) ?_
    simp [entryLine, ← String.toList_inj]
  | _ => exact Writes.plain _

theorem writes_function (s : Schema) : Writes (scope s) functionNodes (functionLines s) := by
  have hname : lookUp (scope s) "name" = .ok (.text s.name) := rfl
  have hopening : run (scope s) ["export function use", .print "name", "s(filters: Use",
      .print "name", "sFilters = \x7b\x7d) \x7b"] =
        .ok ("export function use" ++ s.name ++ "s(filters: Use" ++ s.name ++
          "sFilters = \x7b\x7d) \x7b") := by
    simp [hname, String.append_assoc]
  have hbindings : Writes (scope s) [.each "op" "operations" bindingNodes]
      ((bindings s).flatMap fun b => "" :: b.lines) := by
    rw [bindings, List.flatMap_map]
    exact .each (v := Operation.view) rfl fun op _ last => writes_binding s op last
  have hentries : Writes (scope s) [.each "op" "operations" entryNodes]
      ((bindings s).flatMap fun b => b.entries.map entryLine) := by
    rw [bindings, List.flatMap_map]
    exact .each (v := Operation.view) rfl fun op _ last => writes_entries s op last
  exact .of_eq (.append (.append (.append (.append (.append (.append (.plain _) (.line hopening))
    (.plain _)) hbindings) (.plain _)) hentries) (.plain _)) (by
      unfold functionLines
      simp only [List.append_assoc, List.cons_append, List.nil_append]
      rfl)

theorem writes (s : Schema) : Writes (scope s) nodes (lines s) :=
  .append (.append (.append (writes_header s) (.plain _)) (writes_filters s)) (writes_function s)

end Hook

/-! ## The command-line client -/

namespace Client

theorem run_stem (s : Schema) :
    stemNode.run (scope s) = .ok (lower (camelCase s.name)) := by
  have hname : lookUp (scope s) "name" = .ok (.text s.name) := rfl
  simp [stemNode, hname]

theorem writes_header (s : Schema) : Writes (scope s) headerNodes (headerLines s) := by
  have hname : lookUp (scope s) "name" = .ok (.text s.name) := rfl
  have htable : lookUp (scope s) "table_name" = .ok (.text s.table) := rfl
  have hstem := run_stem s
  have hcomment : Writes (scope s) (commentNodes [
      [.print "name", " API Client (app-cli)"],
      [],
      ["Usage:"],
      ["```typescript"],
      ["import \x7b ApiClient \x7d from '../client.js'"],
      ["import \x7b ", .print "name", "sClient \x7d from './", .print "name", "sClient.js'"],
      [],
      ["const client = new ApiClient()"],
      ["await client.login(email, password)"],
      [],
      ["const ", stemNode, "s = new ", .print "name", "sClient(client)"],
      ["const items = await ", stemNode, "s.list()"],
      ["```"],
      [],
      [.text generated]]) (comment "" [
        s.name ++ " API Client (app-cli)",
        "",
        "Usage:",
        "```typescript",
        "import \x7b ApiClient \x7d from '../client.js'",
        "import \x7b " ++ s.name ++ "sClient \x7d from './" ++ s.name ++ "sClient.js'",
        "",
        "const client = new ApiClient()",
        "await client.login(email, password)",
        "",
        "const " ++ lower (camelCase s.name) ++ "s = new " ++ s.name ++ "sClient(client)",
        "const items = await " ++ lower (camelCase s.name) ++ "s.list()",
        "```",
        "",
        generated]) := by
    refine .commentNodes (.cons (.words ?_ (by simp)) (.cons .blank (.cons (.fixed (by decide))
      (.cons (.fixed (by decide)) (.cons (.fixed (by decide)) (.cons (.words ?_ (by simp))
      (.cons .blank (.cons (.fixed (by decide)) (.cons (.fixed (by decide)) (.cons .blank
      (.cons (.words ?_ (by simp)) (.cons (.words ?_ (by simp)) (.cons (.fixed (by decide))
      (.cons .blank (.cons (.fixed (by decide)) .nil)))))))))))))))
    · simp [hname]
    · simp [hname, String.append_assoc]
    · simp [hname, hstem, String.append_assoc]
    · simp [hstem, String.append_assoc]
  exact .of_eq (.append (.append hcomment (.plain _)) (.around htable)) (by
    unfold headerLines nameLines
    simp only [List.append_assoc, List.cons_append, List.nil_append]
    rfl)

theorem writes_enum (s : Schema) (f : Field) (last : Bool) :
    Writes (inRound (scope s) "field" (f.enumView, last)) enumNodes (enumLines s f) := by
  have hname : lookUp (scope s) "name" = .ok (.text s.name) := rfl
  have hf := showsEnum_enumView f
  refine .append (a := [""]) (.plain _) (.line ?_)
  simp [hname, run_enumName hf, run_enumValues hf, Field.typeName, literalUnion,
    String.append_assoc]

/-! ### Interfaces -/

theorem writes_titled {s : Schema} {title : String} {declaration : List Node} {lines : List String}
    (h : Writes (scope s) declaration lines) (htitle : s.name ++ (" " ++ title) ≠ "") :
    Writes (scope s) (titledNodes title declaration) (titled (s.name ++ (" " ++ title)) lines) := by
  have hname : lookUp (scope s) "name" = .ok (.text s.name) := rfl
  have hremark : RemarkGives (scope s) [.print "name", .text (" " ++ title)]
      (s.name ++ (" " ++ title)) :=
    .words (by simp [hname]) htitle
  exact .append (.append (.plain _) (.commentNodes (.cons hremark .nil))) h

theorem writes_interfaces (s : Schema) : Writes (scope s) interfacesNodes
    (titled (s.name ++ " type") (recordInterface s).lines ++
      titled (s.name ++ " create input") (createInterface s).lines ++
      titled (s.name ++ " update input") (updateInterface s).lines ++
      titled (s.name ++ " list filters") (filtersInterface s).lines) := by
  have hname : lookUp (scope s) "name" = .ok (.text s.name) := rfl
  have hrecord : Writes (scope s) ([members "writable_fields" "name" ""] ++
      plain (keptMembers.map Member.line)) (recordInterface s).body := by
    unfold Interface.body recordInterface
    rw [List.map_append]
    refine .append ?_ (.plain _)
    exact .members showsField_codeView rfl (fun _ => rfl) (fun _ _ _ => rfl) (fun _ => rfl)
      fun _ => rfl
  have hcreate : Writes (scope s)
      [members "updatable_fields" "name" (markUnless (dot "field" "required"))]
      (createInterface s).body := by
    refine .members showsField_codeView rfl (fun _ => rfl) (fun f _ last => ?_) (fun _ => rfl)
      fun _ => rfl
    cases hrequired : f.required <;>
      simp [markUnless, Field.codeView, createMember, onlyIf, hrequired]
  have hupdate : Writes (scope s) [members "updatable_fields" "name" "?"]
      (updateInterface s).body :=
    .members showsField_codeView rfl (fun _ => rfl) (fun _ _ _ => rfl) (fun _ => rfl) fun _ => rfl
  have hfilters : Writes (scope s) ([enumMembers, filterMembers] ++
      plain (pageMembers.map Member.line)) (filtersInterface s).body := by
    unfold Interface.body filtersInterface
    rw [List.map_append, List.map_append]
    exact .append (.append (.enumMembers rfl rfl) (.filterMembers rfl)) (.plain _)
  have hopening (kind : String) : run (scope s) ["export interface ", .print "name", .text kind] =
      .ok ("export interface " ++ s.name ++ kind) := by
    simp [hname, String.append_assoc]
  have hentity : run (scope s) ["export interface ", .print "name"] =
      .ok ("export interface " ++ s.name) := by
    simp [hname]
  exact .append (.append (.append
    (writes_titled (.interfaceNodes hentity hrecord) (by simp))
    (writes_titled (.interfaceNodes (hopening "CreateInput") hcreate) (by simp)))
    (writes_titled (.interfaceNodes (hopening "UpdateInput") hupdate) (by simp)))
    (writes_titled (.interfaceNodes (hopening "Filters") hfilters) (by simp))

/-! ### Methods -/

section

variable {scope : Variables}

theorem writes_answer {remarks : List Node} {name : Node} {parameters answer request : List Node}
    {c : Call} {type : String} (hanswer : c.answer = some type)
    (hremarks : run scope remarks = .ok c.remark) (hmethod : name.run scope = .ok c.name)
    (hparameters : run scope parameters = .ok c.parameters) (htype : run scope answer = .ok type)
    (hrequest : Writes scope request
      ((c.request.properties.map fun p => "  " ++ p ++ ",").map ("    " ++ ·))) :
    Writes scope (answerNodes remarks name parameters answer request)
      ("" :: c.method.lines "") := by
  have hresult := run_append (run_append (m := [.text "Promise<"]) rfl htype) (n := [.text ">"]) rfl
  have hopening := run_append (run_append (m := [.text "return this.client.invoke<"]) rfl htype)
    (n := [.text ">", .text "(FUNCTION_NAME, \x7b"]) rfl
  refine .append (a := [""]) (.plain _) (.method (.methodRemark hremarks) hmethod hparameters ?_ ?_)
  · simpa [Call.method, hanswer, String.append_assoc] using hresult
  · refine .of_eq (.append (.append (.bodyLine hopening) hrequest) (.bodyLines _)) ?_
    simp [Call.method, hanswer, ← String.toList_inj]

theorem Writes.property {parts : List Node} {text : String} (h : run scope parts = .ok text) :
    Writes scope (propertyLine parts) (["  " ++ text ++ ","].map ("    " ++ ·)) :=
  .bodyLine (run_append (run_append (m := [.text "  "]) rfl h) (n := [.text ","]) rfl)

variable {s : Schema} (hname : lookUp scope "name" = .ok (.text s.name))

include hname

theorem writes_query {remarks : List Node} {name action : Node} {filters : List Node}
    {remark method label argument : String} (hremarks : run scope remarks = .ok remark)
    (hmethod : name.run scope = .ok method) (hlabel : action.run scope = .ok label)
    (hfilters : run scope filters = .ok argument) :
    Writes scope (queryNodes remarks name action filters)
      ("" :: (query s remark method label argument).method.lines "") := by
  have haction : run scope ["action: '", action, "'"] = .ok ("action: " ++ quoted label) := by
    simp [hlabel, quoted, ← String.toList_inj]
  have hanswer : run scope [.print "name", "[]"] = .ok (s.name ++ "[]") := by
    simp [hname]
  refine writes_answer rfl hremarks hmethod ?_ hanswer
    (.of_eq (.append (Writes.property haction) (Writes.property hfilters)) rfl)
  simp [hname, query, String.append_assoc]

theorem writes_fixed {parameters : List Node} {c : Call} {remark name : String}
    {properties : List String} (hanswer : c.answer = some s.name) (hremark : c.remark = remark)
    (hmethod : c.name = name) (hparameters : run scope parameters = .ok c.parameters)
    (hproperties : c.request.properties = properties) :
    Writes scope (fixedNodes remark name parameters properties) ("" :: c.method.lines "") := by
  subst hremark hmethod hproperties
  exact writes_answer hanswer (run_singleton rfl) rfl hparameters (by simp [hname]) (.bodyLines _)

end

theorem writes_call (s : Schema) (op : Operation) (last : Bool) :
    Writes (inRound (scope s) "op" (op.view, last)) callNodes
      ("" :: (call s op).method.lines "") := by
  have hname : lookUp (inRound (scope s) "op" (op.view, last)) "name" = .ok (.text s.name) := rfl
  have hop : lookUp (inRound (scope s) "op" (op.view, last)) "op" = .ok op.view :=
    lookUp_inRound (by decide) _
  have hshows := showsOperation_of_view hop
  have hfilters := run_filtersArgument hshows
  unfold Writes callNodes call
  rw [run_byType hop]
  cases htype : op.type with
  | list => exact writes_query hname (run_singleton (run_listRemark hshows rfl)) rfl rfl hfilters
  | get => exact writes_fixed hname rfl rfl rfl rfl rfl
  | create => exact writes_fixed hname rfl rfl rfl (by simp [hname, String.append_assoc]) rfl
  | update => exact writes_fixed hname rfl rfl rfl (by simp [hname, String.append_assoc]) rfl
  | delete =>
    exact Writes.append (a := [""]) (.plain _)
      (.method (.methodRemark (run_singleton rfl)) rfl rfl rfl
        (.of_eq (.append (.append (.bodyLines _) (.bodyLines _)) (.bodyLines _)) rfl))
  | custom =>
    have hlabel := hshows.name htype
    exact writes_query hname (run_singleton (run_customRemark hshows htype))
      (run_methodName hshows htype) (by rw [Node.run, hlabel]; rfl) hfilters

theorem writes_helper (s : Schema) (f : Field) (value : String) (last final : Bool) :
    Writes (inRound (inRound (scope s) "field" (f.enumView, last)) "value" (.text value, final))
      helperNodes ("" :: (helperCall s f value).method.lines "") := by
  have hname : lookUp (inRound (inRound (scope s) "field" (f.enumView, last)) "value"
      (.text value, final)) "name" = .ok (.text s.name) := rfl
  have hf := showsEnum_enumView f
  unfold helperCall
  refine writes_query hname ?_ ?_ rfl ?_
  · simp [hf.name, String.append_assoc]
  · simp
  · simp [hf.name, String.append_assoc]

theorem writes_helpers (s : Schema) (f : Field) (last : Bool) :
    Writes (inRound (scope s) "field" (f.enumView, last))
      [.each "value" (.rest (dot "field" "enum_values")) helperNodes]
      ((helperValues f).flatMap fun value => "" :: (helperCall s f value).method.lines "") := by
  have hvalues : (Expr.rest (dot "field" "enum_values")).eval
      (inRound (scope s) "field" (f.enumView, last)) =
        .ok (.list ((helperValues f).map Document.text)) := by
    simp [(showsEnum_enumView f).values, Document.ofTexts, helperValues]
  exact .each hvalues fun value _ final => writes_helper s f value last final

theorem writes_class (s : Schema) : Writes (scope s) classNodes (classLines s) := by
  have hname : lookUp (scope s) "name" = .ok (.text s.name) := rfl
  have hcalls : Writes (scope s) [.each "op" "operations" callNodes]
      ((operationCalls s).flatMap fun c => "" :: c.method.lines "") := by
    rw [operationCalls, List.flatMap_map]
    exact .each (v := Operation.view) rfl fun op _ last => writes_call s op last
  have hhelpers : Writes (scope s) [.each "field" "enum_fields"
      [.each "value" (.rest (dot "field" "enum_values")) helperNodes]]
      ((helperCalls s).flatMap fun c => "" :: c.method.lines "") := by
    rw [helperCalls, List.flatMap_assoc]
    simp only [List.flatMap_map]
    exact .each (v := Field.enumView) rfl fun f _ last => writes_helpers s f last
  unfold classLines calls
  rw [List.flatMap_append]
  exact .append (.append (.of_eq (.append (.around hname) (.plain _)) rfl)
    (.append hcalls hhelpers)) (.plain _)

theorem writes (s : Schema) : Writes (scope s) nodes (lines s) := by
  have henums : Writes (scope s) [.each "field" "enum_fields" enumNodes]
      ((enumFields s).flatMap (enumLines s)) :=
    .each (v := Field.enumView) rfl fun f _ last => writes_enum s f last
  have hlines : lines s = headerLines s ++ (enumFields s).flatMap (enumLines s) ++
      (titled (s.name ++ " type") (recordInterface s).lines ++
        titled (s.name ++ " create input") (createInterface s).lines ++
        titled (s.name ++ " update input") (updateInterface s).lines ++
        titled (s.name ++ " list filters") (filtersInterface s).lines) ++
      titled (s.name ++ " API Client") (classLines s) := by
    unfold lines
    simp only [List.append_assoc]
  rw [hlines]
  exact .append (.append (.append (writes_header s) henums) (writes_interfaces s))
    (writes_titled (writes_class s) (by simp))

end Client

end Scaffold.Artifact
