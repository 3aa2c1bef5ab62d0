import Scaffold.Artifact.Rendering

/-!
# What an artifact sees of a field

The layers of code see the shape of a field: its names, its type, its values, and whether it is
required. How the table stores it shows in the migration only, and the rules for its values only in
the validation schemas. A part that a text does not see can be taken out of the schema without a
change to the text.
-/
namespace Scaffold

open Artifact

namespace Field

/-- A field without what only its table has to know. -/
def withoutStorage (f : Field) : Field :=
  { f with
    defaultValue := none, unique := false, references := none, onDelete := none, indexed := false,
    indexMethod := none, autoUpdate := false }

def withoutRules (f : Field) : Field := { f with rules := none }

/-- What all layers of code see of a field. -/
def shape (f : Field) : Field := f.withoutStorage.withoutRules

/-! ## Lists of fields through a view -/

/-- Two lists of fields that are the same through a view. -/
def Alike (view : Field → Field) (xs ys : List Field) : Prop := xs.map view = ys.map view

namespace Alike

variable {α : Type} {view : Field → Field} {xs ys : List Field}

theorem map (h : Alike view xs ys) {v : Field → α} (hv : ∀ f, v (view f) = v f) :
    xs.map v = ys.map v := by
  have hviewed (zs : List Field) : zs.map v = (zs.map view).map v := by
    rw [List.map_map]
    exact List.map_congr_left fun f _ => (hv f).symm
  rw [hviewed xs, hviewed ys, h]

theorem flatMap (h : Alike view xs ys) {v : Field → List α} (hv : ∀ f, v (view f) = v f) :
    xs.flatMap v = ys.flatMap v := by
  rw [List.flatMap_def, List.flatMap_def, h.map hv]

theorem any (h : Alike view xs ys) {p : Field → Bool} (hp : ∀ f, p (view f) = p f) :
    xs.any p = ys.any p := by
  have hany (zs : List Field) : zs.any p = (zs.map p).any fun b => b := by
    rw [List.any_map]
    rfl
  rw [hany xs, hany ys, h.map hp]

theorem append {xs' ys' : List Field} (h : Alike view xs ys) (h' : Alike view xs' ys') :
    Alike view (xs ++ xs') (ys ++ ys') := by
  rw [Alike, List.map_append, List.map_append, h, h']

theorem take (h : Alike view xs ys) (count : Nat) : Alike view (xs.take count) (ys.take count) := by
  rw [Alike, List.map_take, List.map_take, h]

theorem filter (h : Alike view xs ys) {p : Field → Bool} (hp : ∀ f, p (view f) = p f) :
    Alike view (xs.filter p) (ys.filter p) := by
  have hblind : p ∘ view = p := funext hp
  have hviewed (zs : List Field) : (zs.filter p).map view = (zs.map view).filter p := by
    rw [List.filter_map, hblind]
  rw [Alike, hviewed xs, hviewed ys, h]

theorem find? (h : Alike view xs ys) {p : Field → Bool} (hp : ∀ f, p (view f) = p f) :
    (xs.find? p).map view = (ys.find? p).map view := by
  have hblind : p ∘ view = p := funext hp
  have hviewed (zs : List Field) : (zs.find? p).map view = (zs.map view).find? p := by
    rw [List.find?_map, hblind]
  rw [hviewed xs, hviewed ys, h]

end Alike
end Field

/-! ## Schemas through a view -/

namespace Schema

open Scaffold.Field

/-- A schema whose declared fields are seen through a view. -/
def through (view : Field → Field) (s : Schema) : Schema := { s with fields := s.fields.map view }

theorem columns_through {view : Field → Field} (s : Schema) (hview : ∀ f, view (view f) = view f) :
    Alike view (s.through view).columns s.columns := by
  have hfields : Alike view (s.through view).fields s.fields := by
    rw [Alike, through, List.map_map]
    exact List.map_congr_left fun f _ => hview f
  have hsame (fields : List Field) : Alike view fields fields := rfl
  exact ((hsame leading).append hfields).append (hsame trailing)

variable (s : Schema)

theorem columns_shape : Alike shape (s.through shape).columns s.columns :=
  s.columns_through fun _ => rfl

theorem writableFields_shape : Alike shape (s.through shape).writableFields s.writableFields :=
  s.columns_shape.filter fun _ => rfl

theorem updatableFields_shape :
    Alike shape (s.through shape).updatableFields s.updatableFields :=
  s.writableFields_shape.filter fun _ => rfl

theorem displayFields_shape (count : Nat) :
    Alike shape ((s.through shape).displayFields count) (s.displayFields count) :=
  (s.writableFields_shape.filter fun _ => rfl).take count

theorem enumFields_shape : Alike shape (s.through shape).enumFields s.enumFields :=
  s.columns_shape.filter fun _ => rfl

theorem hasContent_shape : (s.through shape).hasContent = s.hasContent := by
  have hfound := congrArg Option.isSome
    (s.columns_shape.find? (p := fun f => f.name = contentName) fun _ => rfl)
  rwa [Option.isSome_map, Option.isSome_map] at hfound

theorem filter_eq (name : String) :
    s.filter name = ⟨name, ((s.field? name).map Field.scriptType).getD "string"⟩ := by
  unfold filter
  cases s.field? name <;> rfl

theorem filter_shape (name : String) : (s.through shape).filter name = s.filter name := by
  have hfound := s.columns_shape.find? (p := fun f => f.name = name) fun _ => rfl
  have htype : ((s.through shape).field? name).map Field.scriptType =
      (s.field? name).map Field.scriptType := by
    have hviewed (found : Option Field) :
        found.map Field.scriptType = (found.map shape).map Field.scriptType := by
      cases found <;> rfl
    rw [hviewed, field?, hfound, ← field?, ← hviewed]
  rw [filter_eq, filter_eq, htype]

theorem declaredFilters_shape (names : List String) :
    (s.through shape).declaredFilters names = s.declaredFilters names :=
  List.map_congr_left fun name _ => s.filter_shape name

theorem enumNames_shape : (s.through shape).enumNames = s.enumNames :=
  s.enumFields_shape.map fun _ => rfl

/-- The types of the enumerations, in the order in which they are imported. -/
theorem typeImports_shape : (s.through shape).enumFields.map (fun f => s!"  {f.typeName s.name},") =
    s.enumFields.map fun f => s!"  {f.typeName s.name}," :=
  s.enumFields_shape.map fun _ => rfl

theorem operationsWithout_shape (exclusion : Exclusion) :
    (s.through shape).operationsWithout exclusion = s.operationsWithout exclusion := by
  have hexcluded : (s.through shape).excludedNames exclusion = s.excludedNames exclusion := by
    unfold excludedNames
    rw [enumNames_shape]
  unfold operationsWithout
  rw [hexcluded]
  rfl

end Schema

/-! ## The texts -/

namespace Artifact

open Scaffold.Field (shape withoutStorage withoutRules)

variable (s : Schema)

theorem Repository.text_shape : text (s.through shape) = text s := by
  have hrecord : recordInterface (s.through shape) = recordInterface s :=
    congrArg (Script.Interface.mk _) (s.columns_shape.map fun _ => rfl)
  have hinput : inputInterface (s.through shape) = inputInterface s :=
    congrArg (Script.Interface.mk _) (s.writableFields_shape.map fun _ => rfl)
  have hfilters : filtersInterface (s.through shape) = filtersInterface s := by
    unfold filtersInterface filters
    rw [s.declaredFilters_shape]
    rfl
  have hcolumns : (s.through shape).columns.map columnLine = s.columns.map columnLine :=
    s.columns_shape.map fun _ => rfl
  have hassignments : (s.through shape).writableFields.map assignmentLine =
      s.writableFields.map assignmentLine :=
    s.writableFields_shape.map fun _ => rfl
  unfold text lines columnsLines toRecordLines
  rw [hrecord, hinput, hfilters, hcolumns, hassignments]
  rfl

theorem Endpoint.text_shape : text (s.through shape) = text s := by
  have hnames : (s.through shape).writableFields.map (·.name) = s.writableFields.map (·.name) :=
    s.writableFields_shape.map fun _ => rfl
  unfold text lines requestLines
  rw [hnames]
  rfl

theorem Model.classLines_shape : classLines (s.through shape) = classLines s := by
  have hmembers : (s.through shape).columns.map Field.member = s.columns.map Field.member :=
    s.columns_shape.map fun _ => rfl
  have hconstructor :
      (s.through shape).columns.map (fun f => s!"    this.{f.name} = data.{f.name}") =
        s.columns.map fun f => s!"    this.{f.name} = data.{f.name}" :=
    s.columns_shape.map fun _ => rfl
  have hread : (s.through shape).columns.map (fun f => s!"      {f.name}: record.{f.column},") =
      s.columns.map fun f => s!"      {f.name}: record.{f.column}," :=
    s.columns_shape.map fun _ => rfl
  have hwrite :
      (s.through shape).writableFields.map (fun f => s!"      {f.column}: this.{f.name},") =
        s.writableFields.map fun f => s!"      {f.column}: this.{f.name}," :=
    s.writableFields_shape.map fun _ => rfl
  have hempty :
      (s.through shape).writableFields.map (fun f => s!"      {f.name}: {f.scriptDefault},") =
        s.writableFields.map fun f => s!"      {f.name}: {f.scriptDefault}," :=
    s.writableFields_shape.map fun _ => rfl
  unfold classLines
  rw [hmembers, hconstructor, hread, hwrite, hempty]
  rfl

theorem Model.text_shape : text (s.through shape) = text s := by
  have henums : (s.through shape).enumFields.flatMap (enumLines (s.through shape)) =
      s.enumFields.flatMap (enumLines s) :=
    s.enumFields_shape.flatMap fun _ => rfl
  have hrow : rowInterface (s.through shape) = rowInterface s :=
    congrArg (Script.Interface.mk _) (s.columns_shape.map fun _ => rfl)
  have hdata : dataInterface (s.through shape) = dataInterface s :=
    congrArg (Script.Interface.mk _) (s.columns_shape.map fun _ => rfl)
  have hcreate : createType (s.through shape) = createType s :=
    congrArg (Script.Interface.mk _) (s.writableFields_shape.map fun _ => rfl)
  have hupdate : updateType (s.through shape) = updateType s :=
    congrArg (Script.Interface.mk _) (s.updatableFields_shape.map fun _ => rfl)
  unfold text lines
  rw [henums, hrow, hdata, hcreate, hupdate, classLines_shape]
  rfl

theorem Service.text_shape : text (s.through shape) = text s := by
  have hheader : headerLines (s.through shape) = headerLines s :=
    congrArg (_ ++ · ++ _) s.typeImports_shape
  have hvalues : (s.through shape).enumFields.flatMap (valuesLines (s.through shape)) =
      s.enumFields.flatMap (valuesLines s) :=
    s.enumFields_shape.flatMap fun _ => rfl
  unfold text lines objectLines
  rw [hheader, hvalues]
  rfl

theorem Hook.text_shape : text (s.through shape) = text s := by
  have hheader : headerLines (s.through shape) = headerLines s :=
    congrArg (_ ++ · ++ _) s.typeImports_shape
  have hoperations : operations (s.through shape) = operations s := s.operationsWithout_shape .enums
  have hbindings : bindings (s.through shape) = bindings s := by
    unfold bindings
    rw [hoperations]
    rfl
  have hfilters : filtersInterface (s.through shape) = filtersInterface s := by
    have henums : (s.through shape).enumFields.map (Field.filterMember s.name) =
        s.enumFields.map (Field.filterMember s.name) :=
      s.enumFields_shape.map fun _ => rfl
    unfold filtersInterface filters
    rw [hoperations, s.declaredFilters_shape]
    exact congrArg (fun members => Script.Interface.mk _ (members ++ _ ++ _)) henums
  unfold text lines functionLines
  rw [hheader, hbindings, hfilters]
  rfl

theorem AdminPage.text_shape : text (s.through shape) = text s := by
  have hoptions : (s.through shape).enumFields.flatMap optionsLines =
      s.enumFields.flatMap optionsLines :=
    s.enumFields_shape.flatMap fun _ => rfl
  have hrow : rowInterface (s.through shape) = rowInterface s := by
    have hmembers : (s.through shape).writableFields.map Field.columnMember =
        s.writableFields.map Field.columnMember :=
      s.writableFields_shape.map fun _ => rfl
    exact congrArg (fun members => Script.Interface.mk _ (_ ++ members ++ _)) hmembers
  have hform : formLines (s.through shape) = formLines s := by
    have hvalues :
        (s.through shape).updatableFields.map (fun f => s!"  {f.name}: {f.scriptDefault},") =
          s.updatableFields.map fun f => s!"  {f.name}: {f.scriptDefault}," :=
      s.updatableFields_shape.map fun _ => rfl
    exact congrArg (_ ++ · ++ _) hvalues
  have hchange : changeLines (s.through shape) = changeLines s := by
    have hvalues :
        (s.through shape).updatableFields.map (fun f => s!"      {f.name}: row.{f.column},") =
          s.updatableFields.map fun f => s!"      {f.name}: row.{f.column}," :=
      s.updatableFields_shape.map fun _ => rfl
    exact congrArg (_ ++ · ++ _) hvalues
  have hpage : pageLines (s.through shape) = pageLines s := by
    have hinputs : (s.through shape).updatableFields.flatMap inputLines =
        s.updatableFields.flatMap inputLines :=
      s.updatableFields_shape.flatMap fun _ => rfl
    have hheads : (displayFields (s.through shape)).map
          (fun f => s!"            <th className=\"p-2\">{f.name}</th>") =
        (displayFields s).map fun f => s!"            <th className=\"p-2\">{f.name}</th>" :=
      (s.displayFields_shape 4).map fun _ => rfl
    have hcells : (displayFields (s.through shape)).map cellLine =
        (displayFields s).map cellLine :=
      (s.displayFields_shape 4).map fun _ => rfl
    have htable : tableLines (s.through shape) = tableLines s := by
      unfold tableLines
      rw [hheads, hcells]
    unfold pageLines headingLines
    rw [s.hasContent_shape, hinputs, htable]
    rfl
  unfold text lines
  rw [hoptions, hrow, hform, hchange, hpage]
  rfl

theorem Demo.text_shape : text (s.through shape) = text s := by
  have hheader : headerLines (s.through shape) = headerLines s := by
    have hvalues :
        (displayFields (s.through shape)).map (fun f => s!"  {f.name}: {f.scriptDefault},") =
          (displayFields s).map fun f => s!"  {f.name}: {f.scriptDefault}," :=
      (s.displayFields_shape 3).map fun _ => rfl
    exact congrArg (_ ++ · ++ _) hvalues
  have hform : formLines (s.through shape) = formLines s := by
    have hwidgets : (displayFields (s.through shape)).flatMap widgetLines =
        (displayFields s).flatMap widgetLines :=
      (s.displayFields_shape 3).flatMap fun _ => rfl
    exact congrArg (_ ++ · ++ _) hwidgets
  have hlist : listLines (s.through shape) = listLines s := by
    have hitems : (displayFields (s.through shape)).flatMap itemLines =
        (displayFields s).flatMap itemLines :=
      (s.displayFields_shape 3).flatMap fun _ => rfl
    unfold listLines
    rw [s.hasContent_shape, hitems]
    rfl
  unfold text lines
  rw [hheader, hform, hlist]

/-! ### The command-line client -/

namespace Client

/-- Which enumerations fit is decided by their shapes. -/
theorem firstFit_map_shape (taken : List String) (fields : List Field) :
    firstFit taken (fields.map shape) = (firstFit taken fields).map (Prod.map shape id) := by
  induction fields generalizing taken with
  | nil => rfl
  | cons f rest ih =>
    have hclashes : clashes taken (shape f) = clashes taken f := rfl
    have hhelpers : helpers (shape f) = helpers f := rfl
    rw [List.map_cons, firstFit, firstFit, hclashes, hhelpers, ih, List.map_cons]
    rfl

theorem decisions_shape :
    (decisions (s.through shape)).map (Prod.map shape id) =
      (decisions s).map (Prod.map shape id) := by
  have hmethods : customMethods (s.through shape) = customMethods s := rfl
  unfold decisions
  rw [← firstFit_map_shape, ← firstFit_map_shape, s.enumFields_shape, hmethods]

theorem enumFields_shape : Field.Alike shape (enumFields (s.through shape)) (enumFields s) := by
  have hkept {keep : Decision → Option Field}
      (hkeep : ∀ d, (keep d).map shape = keep (d.map shape id)) (decisions : List Decision) :
      (decisions.filterMap keep).map shape =
        (decisions.map (Prod.map shape id)).filterMap keep := by
    rw [List.filterMap_map, List.map_filterMap]
    exact congrArg (List.filterMap · decisions) (funext hkeep)
  unfold enumFields Field.Alike
  rw [hkept fun _ => apply_ite (Option.map shape) _ _ _,
    hkept fun _ => apply_ite (Option.map shape) _ _ _, decisions_shape]

theorem operations_shape : operations (s.through shape) = operations s := by
  have hnames : (enumFields (s.through shape)).map (·.name) = (enumFields s).map (·.name) :=
    (enumFields_shape s).map fun _ => rfl
  unfold operations
  rw [hnames, s.operationsWithout_shape]

theorem calls_shape : calls (s.through shape) = calls s := by
  have hhelpers : helperCalls (s.through shape) = helperCalls s :=
    (enumFields_shape s).flatMap fun _ => rfl
  have hcalls : operationCalls (s.through shape) = operationCalls s := by
    unfold operationCalls
    rw [operations_shape]
    rfl
  rw [calls, calls, hhelpers, hcalls]

theorem filtersInterface_shape : filtersInterface (s.through shape) = filtersInterface s := by
  have henums : (enumFields (s.through shape)).map (Field.filterMember s.name) =
      (enumFields s).map (Field.filterMember s.name) :=
    (enumFields_shape s).map fun _ => rfl
  unfold filtersInterface filters
  rw [operations_shape, s.declaredFilters_shape]
  exact congrArg (fun members => Script.Interface.mk _ (members ++ _ ++ _)) henums

theorem text_shape : text (s.through shape) = text s := by
  have henums : (enumFields (s.through shape)).flatMap (enumLines (s.through shape)) =
      (enumFields s).flatMap (enumLines s) :=
    (enumFields_shape s).flatMap fun _ => rfl
  have hrecord : recordInterface (s.through shape) = recordInterface s := by
    have hmembers : (s.through shape).writableFields.map Field.member =
        s.writableFields.map Field.member :=
      s.writableFields_shape.map fun _ => rfl
    exact congrArg (fun members => Script.Interface.mk _ (members ++ _)) hmembers
  have hcreate : createInterface (s.through shape) = createInterface s :=
    congrArg (Script.Interface.mk _) (s.updatableFields_shape.map fun _ => rfl)
  have hupdate : updateInterface (s.through shape) = updateInterface s :=
    congrArg (Script.Interface.mk _) (s.updatableFields_shape.map fun _ => rfl)
  unfold text lines classLines
  rw [henums, hrecord, hcreate, hupdate, filtersInterface_shape, calls_shape]
  rfl

end Client

/-! ### Storage and rules -/

/-- The migration does not see the rules for values. -/
theorem Migration.text_withoutRules : text (s.through withoutRules) = text s := by
  have hcolumns : Field.Alike withoutRules (s.through withoutRules).columns s.columns :=
    s.columns_through fun _ => rfl
  have hindexed : Field.Alike withoutRules (s.through withoutRules).indexedFields s.indexedFields :=
    hcolumns.filter fun _ => rfl
  have htable : tableLines (s.through withoutRules) = tableLines s := by
    have hdefinitions : (s.through withoutRules).columns.map definition =
        s.columns.map definition :=
      hcolumns.map fun _ => rfl
    unfold tableLines
    rw [hdefinitions]
    rfl
  have hindex : indexLines (s.through withoutRules) = indexLines s := by
    have hlines : (s.through withoutRules).indexedFields.map (indexLine (s.through withoutRules)) =
        s.indexedFields.map (indexLine s) :=
      hindexed.map fun _ => rfl
    have hnone : (s.through withoutRules).indexedFields.isEmpty = s.indexedFields.isEmpty := by
      rw [← List.isEmpty_map (f := withoutRules), hindexed, List.isEmpty_map]
    unfold indexLines
    rw [hlines, hnone]
  have htrigger : triggerLines (s.through withoutRules) = triggerLines s := by
    have hupdated : hasUpdatedAt (s.through withoutRules) = hasUpdatedAt s :=
      hcolumns.any fun _ => rfl
    unfold triggerLines
    rw [hupdated]
    rfl
  unfold text lines followingLines
  rw [htable, hindex, htrigger]
  rfl

/-- The validation schemas do not see how the table stores a field. -/
theorem Validation.text_withoutStorage : text (s.through withoutStorage) = text s := by
  have hcolumns : Field.Alike withoutStorage (s.through withoutStorage).columns s.columns :=
    s.columns_through fun _ => rfl
  have hwritable : Field.Alike withoutStorage (s.through withoutStorage).writableFields
      s.writableFields :=
    hcolumns.filter fun _ => rfl
  have hupdatable : Field.Alike withoutStorage (s.through withoutStorage).updatableFields
      s.updatableFields :=
    hwritable.filter fun _ => rfl
  have hentries : createEntries (s.through withoutStorage) = createEntries s :=
    hwritable.map fun _ => rfl
  have hchanges : updateEntries (s.through withoutStorage) = updateEntries s :=
    hupdatable.map fun _ => rfl
  have henumFields :
      Field.Alike withoutStorage (s.through withoutStorage).enumFields s.enumFields :=
    hcolumns.filter fun _ => rfl
  have henums : (s.through withoutStorage).enumFields.flatMap
        (enumLines (s.through withoutStorage)) =
      s.enumFields.flatMap (enumLines s) :=
    henumFields.flatMap fun _ => rfl
  unfold text lines
  rw [hentries, hchanges, henums]
  rfl

end Artifact
end Scaffold
