import Mathlib.Data.List.Basic
import Scaffold.Artifact.Fragments
import Scaffold.Artifact.Migration

/-!
# What templates write

A template is run piece by piece. Most pieces write whole lines: literal ones, one with values in
it, those of a loop, or those of one side of a condition.
-/
namespace Scaffold.Template

open Script Text

variable {scope : Variables}

/-! ## Running -/

theorem ok_bind {ε α β : Type} (a : α) (f : α → Except ε β) :
    (Except.ok a >>= f) = f a := rfl

theorem pure_eq_ok {ε α : Type} (a : α) : (pure a : Except ε α) = .ok a := rfl

theorem bind_ok {ε α : Type} (x : Except ε α) : (x >>= fun a => Except.ok a) = x := by
  cases x <;> rfl

/-- A text in an interpolation is itself. -/
theorem toString_text (s : String) : toString s = s := rfl

@[simp] theorem truthy_null : truthy .null = false := rfl

@[simp] theorem truthy_bool (b : Bool) : truthy (.bool b) = b := rfl

@[simp] theorem truthy_int (i : Int) : truthy (.int i) = (i != 0) := rfl

@[simp] theorem truthy_text (s : String) : truthy (.text s) = (s != "") := rfl

@[simp] theorem truthy_list (items : List Document) : truthy (.list items) = !items.isEmpty := rfl

@[simp] theorem shown_text (s : String) : shown (.text s) = s := rfl

@[simp] theorem textOf_text (operation s : String) : textOf operation (.text s) = .ok s := rfl

@[simp] theorem itemsOf_list (operation : String) (items : List Document) :
    itemsOf operation (.list items) = .ok items := rfl

@[simp] theorem format_int (before after : String) (i : Int) :
    format before after (.int i) = .ok (.text (before ++ toString i ++ after)) := rfl

@[simp] theorem attributeOf_record (name key : String) (value : Document)
    (entries : List (String × Document)) :
    attributeOf name (.record ((key, value) :: entries)) =
      if key = name then .ok value else attributeOf name (.record entries) := by
  simp only [attributeOf, Document.record, List.map_cons, Document.find?]
  by_cases hkey : key = name
  · rw [if_pos hkey, if_pos hkey]
  · rw [if_neg hkey, if_neg hkey]

attribute [local simp] ok_bind pure_eq_ok bind_ok toString_text Node.run run Expr.eval dot pick
  between

theorem run_append {m n : List Node} {a b : String} (hfirst : run scope m = .ok a)
    (hsecond : run scope n = .ok b) : run scope (m ++ n) = .ok (a ++ b) := by
  induction m generalizing a with
  | nil =>
    cases hfirst
    rw [List.nil_append, hsecond, String.empty_append]
  | cons node rest ih =>
    rw [List.cons_append, run]
    rw [run] at hfirst
    rcases hnode : node.run scope with fault | start
    · rw [hnode] at hfirst
      cases hfirst
    rcases hrest : run scope rest with fault | between
    · rw [hnode, hrest] at hfirst
      cases hfirst
    rw [hnode, hrest] at hfirst
    cases hfirst
    rw [ih hrest]
    simp [String.append_assoc]

theorem run_single (node : Node) : run scope [node] = node.run scope := by
  simp [String.append_empty]

theorem run_singleton {node : Node} {text : String} (h : node.run scope = .ok text) :
    run scope [node] = .ok text :=
  (run_single node).trans h

/-! ## Variables -/

@[simp] theorem lookUp_inRound {name : String} (h : name ≠ "loop") (round : Document × Bool) :
    lookUp (inRound scope name round) name = .ok round.1 := by
  unfold lookUp inRound
  rw [List.lookup_cons, beq_false_of_ne h, List.lookup_cons_self]

@[simp] theorem lookUp_inRound_of_ne {name other : String} (hloop : other ≠ "loop")
    (hname : other ≠ name) (round : Document × Bool) :
    lookUp (inRound scope name round) other = lookUp scope other := by
  unfold lookUp inRound
  rw [List.lookup_cons, beq_false_of_ne hloop, List.lookup_cons, beq_false_of_ne hname]

@[simp] theorem lookUp_loop (name : String) (round : Document × Bool) :
    lookUp (inRound scope name round) "loop" = .ok (.record [("last", .bool round.2)]) := rfl

/-! ## Loops -/

theorem rounds_map {α β : Type} (f : α → β) (items : List α) :
    rounds (items.map f) = (rounds items).map (Prod.map f id) := by
  induction items using rounds.induct with
  | case1 => rfl
  | case2 item => rfl
  | case3 item next rest ih =>
    rw [List.map_cons, List.map_cons, rounds, ← List.map_cons, ih]
    rfl

theorem fst_mem_of_mem_rounds {α : Type} {items : List α} {round : α × Bool}
    (h : round ∈ rounds items) : round.1 ∈ items := by
  induction items using rounds.induct with
  | case1 => cases h
  | case2 item =>
    rw [rounds, List.mem_singleton] at h
    rw [h]
    exact List.mem_singleton_self item
  | case3 item next rest ih =>
    rw [rounds] at h
    rcases List.mem_cons.1 h with rfl | hrest
    · exact List.mem_cons_self
    · exact List.mem_cons_of_mem item (ih hrest)

theorem mapM_eq_ok {ε α β : Type} {f : α → Except ε β} {g : α → β} {items : List α}
    (h : ∀ item ∈ items, f item = .ok (g item)) : items.mapM f = .ok (items.map g) := by
  induction items with
  | nil => rfl
  | cons item rest ih =>
    rw [List.forall_mem_cons] at h
    rw [List.mapM_cons, h.1, ih h.2]
    rfl

/-- A loop writes one piece after the other, where each piece may depend on whether it is the
last. -/
theorem run_each {α : Type} {name : String} {items : Expr} {body : List Node} {xs : List α}
    {v : α → Document} {piece : α → Bool → String}
    (hitems : items.eval scope = .ok (.list (xs.map v)))
    (hbody : ∀ x ∈ xs, ∀ last, run (inRound scope name (v x, last)) body = .ok (piece x last)) :
    run scope [.each name items body] =
      .ok (String.join ((rounds xs).map fun round => piece round.1 round.2)) := by
  have hrounds : (rounds (xs.map v)).mapM (fun round => run (inRound scope name round) body) =
      .ok ((rounds xs).map fun round => piece round.1 round.2) := by
    rw [rounds_map, List.mapM_map]
    exact mapM_eq_ok fun round hround => hbody round.1 (fst_mem_of_mem_rounds hround) round.2
  refine run_singleton ?_
  simp [hitems, hrounds]

theorem join_rounds_lines {α : Type} (block : α → List String) (items : List α) :
    String.join ((rounds items).map fun round => unlines (block round.1)) =
      unlines (items.flatMap block) := by
  induction items using rounds.induct with
  | case1 => rfl
  | case2 item => simp [rounds]
  | case3 item next rest ih =>
    rw [rounds, List.map_cons, String.join_cons, ih, ← unlines_append]
    rfl

theorem join_rounds_between {α : Type} (piece : α → String) (separator : String) (items : List α) :
    String.join ((rounds items).map fun round => piece round.1 ++ onlyIf (!round.2) separator) =
      separator.intercalate (items.map piece) := by
  induction items using rounds.induct with
  | case1 => rfl
  | case2 item => simp [rounds, onlyIf]
  | case3 item next rest ih =>
    rw [rounds, List.map_cons, String.join_cons, ih, List.map_cons (a := item), List.map_cons,
      String.intercalate_cons_cons]
    rfl

theorem join_rounds_separated {α : Type} (piece : α → String) (items : List α) :
    String.join ((rounds items).map fun round => piece round.1 ++ onlyIf (!round.2) "," ++ "\n") =
      unlines (Artifact.Migration.separated (items.map piece)) := by
  induction items using rounds.induct with
  | case1 => rfl
  | case2 item => simp [rounds, onlyIf, Artifact.Migration.separated]
  | case3 item next rest ih =>
    rw [rounds, List.map_cons, String.join_cons, ih, List.map_cons (a := item), List.map_cons,
      Artifact.Migration.separated, unlines_cons]
    rfl

@[simp] theorem eval_between (separator : String) (name : String) (round : Document × Bool) :
    (between separator).run (inRound scope name round) = .ok (onlyIf (!round.2) separator) := by
  cases hlast : round.2 <;> simp [onlyIf, hlast]

/-! ## Lines -/

/-- A template writes these lines. -/
def Writes (scope : Variables) (nodes : List Node) (lines : List String) : Prop :=
  run scope nodes = .ok (unlines lines)

namespace Writes

theorem of_eq {nodes : List Node} {lines others : List String} (h : Writes scope nodes lines)
    (heq : lines = others) : Writes scope nodes others :=
  heq ▸ h

theorem nil : Writes scope [] [] := rfl

theorem append {m n : List Node} {a b : List String} (hfirst : Writes scope m a)
    (hsecond : Writes scope n b) : Writes scope (m ++ n) (a ++ b) := by
  unfold Writes
  rw [run_append hfirst hsecond, unlines_append]

theorem plain (lines : List String) : Writes scope (plain lines) lines :=
  run_singleton rfl

theorem line {parts : List Node} {text : String} (h : run scope parts = .ok text) :
    Writes scope (line parts) [text] := by
  unfold Writes Template.line
  rw [run_append h (run_singleton rfl), unlines_cons, unlines_nil, String.append_empty]

/-- A line with the text of a variable between two pieces of text. -/
theorem around {name value before after : String} (h : lookUp scope name = .ok (.text value)) :
    Writes scope (Template.line [before, .print name, after]) [before ++ value ++ after] :=
  .line (by simp [h, String.append_assoc])

theorem each {α : Type} {name : String} {items : Expr} {body : List Node} {xs : List α}
    {v : α → Document} {block : α → List String}
    (hitems : items.eval scope = .ok (.list (xs.map v)))
    (hbody : ∀ x ∈ xs, ∀ last, Writes (inRound scope name (v x, last)) body (block x)) :
    Writes scope [.each name items body] (xs.flatMap block) := by
  unfold Writes
  rw [run_each hitems hbody, join_rounds_lines]

/-- A loop with one line in each round. -/
theorem eachLine {α : Type} {name : String} {items : Expr} {parts : List Node} {xs : List α}
    {v : α → Document} {text : α → String}
    (hitems : items.eval scope = .ok (.list (xs.map v)))
    (hbody : ∀ x ∈ xs, ∀ last, run (inRound scope name (v x, last)) parts = .ok (text x)) :
    Writes scope [.each name items (Template.line parts)] (xs.map text) := by
  rw [List.map_eq_flatMap]
  exact .each hitems fun x hx last => .line (hbody x hx last)

theorem cond {test : Expr} {yes no : List Node} {value : Document} {first second : List String}
    (htest : test.eval scope = .ok value) (hyes : truthy value = true → Writes scope yes first)
    (hno : truthy value = false → Writes scope no second) :
    Writes scope [.cond test yes no] (if truthy value then first else second) := by
  refine run_singleton ?_
  cases htruthy : truthy value with
  | true =>
    simp only [Node.run, htest, ok_bind, htruthy, if_true]
    exact hyes htruthy
  | false =>
    simp only [Node.run, htest, ok_bind, htruthy, Bool.false_eq_true, if_false]
    exact hno htruthy

end Writes

/-! ## What is said only if there is something to say -/

/-- A node under the condition that an optional text is there and not empty. -/
theorem run_said {test : Expr} {yes : List Node} {value : Option String} {piece : String → String}
    (htest : test.eval scope = .ok (.ofOption .text value))
    (hyes : ∀ text, value = some text → run scope yes = .ok (piece text)) :
    run scope [.cond test yes []] = .ok ((value.filter (· ≠ "")).elim "" piece) := by
  cases value with
  | none => simp [htest, Document.ofOption]
  | some text =>
    by_cases hempty : text = ""
    · simp [htest, Document.ofOption, hempty, Option.filter_some]
    · simp [htest, Document.ofOption, hempty, Option.filter_some, hyes text rfl]

theorem Writes.said {test : Expr} {yes : List Node} {value : Option String}
    {block : String → List String} (htest : test.eval scope = .ok (.ofOption .text value))
    (hyes : ∀ text, value = some text → Writes scope yes (block text)) :
    Writes scope [.cond test yes []] ((value.filter (· ≠ "")).elim [] block) := by
  unfold Writes
  rw [run_said htest hyes]
  cases value.filter (· ≠ "") <;> rfl

/-! ## Comments -/

/-- The parts of a line of comment, and the line; only a blank one has no parts. -/
inductive RemarkGives (scope : Variables) : List Node → String → Prop
  | blank : RemarkGives scope [] ""
  | words {part : Node} {parts : List Node} {text : String}
      (hrun : run scope (part :: parts) = .ok text) (hwords : text ≠ "") :
      RemarkGives scope (part :: parts) text

theorem RemarkGives.fixed {text : String} (hwords : text ≠ "") :
    RemarkGives scope [.text text] text :=
  .words (run_singleton rfl) hwords

theorem Writes.remarkNodes {parts : List Node} {text : String} (h : RemarkGives scope parts text) :
    Writes scope (remarkNodes parts) [" *" ++ onlyIf (text ≠ "") (" " ++ text)] := by
  cases h with
  | blank => exact .plain [" *"]
  | words hrun hwords =>
    have hline := Writes.line (run_append (m := [.text " * "]) rfl hrun)
    rw [onlyIf, if_pos (decide_eq_true hwords), ← String.append_assoc]
    exact hline

theorem Writes.commentNodes {remarks : List (List Node)} {texts : List String}
    (h : List.Forall₂ (RemarkGives scope) remarks texts) :
    Writes scope (commentNodes remarks) (comment "" texts) := by
  have hlines : Writes scope (remarks.flatMap Template.remarkNodes)
      (texts.map fun line => "" ++ " *" ++ onlyIf (line ≠ "") (" " ++ line)) := by
    induction h with
    | nil => exact .nil
    | cons hfirst _ ih => exact .append (.remarkNodes hfirst) ih
  exact .append (.append (.plain _) hlines) (.plain _)

theorem Writes.methodRemark {parts : List Node} {text : String} (h : run scope parts = .ok text) :
    Writes scope (methodRemark parts) (remarkLines text) :=
  .append (.append (.plain _) (.line (run_append (run_singleton rfl) h))) (.plain _)

/-! ## Interfaces -/

/-- What a view of a field has for its member. -/
structure ShowsField (view : Field → Document) : Prop where
  name : ∀ f, attributeOf "name" (view f) = .ok (.text f.name)
  column : ∀ f, attributeOf "db_name" (view f) = .ok (.text f.column)
  type : ∀ f, attributeOf "typescript_type" (view f) = .ok (.text f.scriptType)
  required : ∀ f, attributeOf "required" (view f) = .ok (.bool f.required)

theorem showsField_codeView : ShowsField Field.codeView :=
  ⟨fun _ => rfl, fun _ => rfl, fun _ => rfl, fun _ => rfl⟩

theorem showsField_formView : ShowsField Field.formView :=
  ⟨fun _ => rfl, fun _ => rfl, fun _ => rfl, fun _ => rfl⟩

theorem run_pick {test : Expr} {b : Bool} (h : test.eval scope = .ok (.bool b)) (yes no : String) :
    run scope [pick test yes no] = .ok (if b then yes else no) := by
  cases b <;> simp [h]

/-- The members for a list of fields, each as a function of the field. -/
theorem Writes.members {items key : String} {mark : Node} {fields : List Field}
    {view : Field → Document} {member : Field → Member} (hview : ShowsField view)
    (hitems : lookUp scope items = .ok (.list (fields.map view)))
    (hkey : ∀ f, attributeOf key (view f) = .ok (.text (member f).name))
    (hmark : ∀ f ∈ fields, ∀ last, mark.run (inRound scope "field" (view f, last)) =
      .ok (onlyIf (member f).optional "?"))
    (htype : ∀ f, (member f).type = f.scriptType)
    (hnullable : ∀ f, (member f).nullable = !f.required) :
    Writes scope [members items key mark] ((fields.map member).map Member.line) := by
  rw [List.map_map]
  refine .eachLine hitems fun f hf last => ?_
  cases hrequired : f.required <;>
    simp [hmark f hf last, hkey, hview.type, hview.required, hrequired, Member.line, htype,
      hnullable, onlyIf, String.append_assoc]

theorem Writes.interfaceNodes {opening members : List Node} {i : Interface}
    (hopening : run scope opening = .ok i.opening) (hmembers : Writes scope members i.body) :
    Writes scope (interfaceNodes opening members) i.lines :=
  .append (.append (.line (run_append hopening (run_singleton rfl))) hmembers) (.plain _)

/-- What a view of a field has for an enumeration. -/
structure ShowsEnum (view : Document) (f : Field) : Prop where
  name : attributeOf "name" view = .ok (.text f.name)
  values : attributeOf "enum_values" view = .ok (.ofTexts f.values)

theorem showsEnum_enumView (f : Field) : ShowsEnum f.enumView f := ⟨rfl, rfl⟩

theorem mapM_filterBy {filter : String} {f : String → String} (h : filters.lookup filter = some f)
    (values : List String) :
    (values.map Document.text).mapM (filterBy filter) = .ok ((values.map f).map .text) := by
  rw [List.mapM_map, List.map_map]
  refine mapM_eq_ok fun value _ => ?_
  simp [filterBy, h, Except.map]

theorem mapM_textOf (operation : String) (values : List String) :
    (values.map Document.text).mapM (textOf operation) = .ok values := by
  have htexts : (values.map Document.text).mapM (textOf operation) = .ok (values.map id) := by
    rw [List.mapM_map]
    exact mapM_eq_ok fun _ _ => rfl
  rw [htexts, List.map_id]

theorem eval_joined {items : Expr} {values : List String}
    (hitems : items.eval scope = .ok (.ofTexts values)) (separator : String) :
    (Expr.joined items separator).eval scope = .ok (.text (separator.intercalate values)) := by
  rw [Expr.eval, hitems]
  simp only [Document.ofTexts, ok_bind, itemsOf_list, mapM_textOf, pure_eq_ok]

/-- The values of a list through a filter, with a separator. -/
theorem run_joined {items : Expr} {values : List String} (filter : String) {f : String → String}
    (hitems : items.eval scope = .ok (.ofTexts values)) (hfilter : filters.lookup filter = some f)
    (separator : String) :
    Node.run scope (.print (.joined (.mapped items filter) separator)) =
      .ok (separator.intercalate (values.map f)) := by
  have hmapped : (Expr.mapped items filter).eval scope = .ok (.ofTexts (values.map f)) := by
    simp only [Expr.eval, hitems, Document.ofTexts, ok_bind, itemsOf_list, mapM_filterBy hfilter,
      pure_eq_ok]
  rw [Node.run, eval_joined hmapped]
  rfl

theorem run_enumValues {view : Document} {f : Field} (h : ShowsEnum view f)
    (hfield : lookUp scope "field" = .ok view) (separator : String) :
    (enumValues separator).run scope = .ok (separator.intercalate (f.values.map Literal.script)) :=
  run_joined "ts_string" (by simp [hfield, h.values]) rfl separator

theorem run_enumName {view : Document} {f : Field} (h : ShowsEnum view f)
    (hfield : lookUp scope "field" = .ok view) :
    enumName.run scope = .ok (pascalCase f.name) := by
  simp [enumName, hfield, h.name, filterBy, filters, List.lookup_cons, Except.map]

theorem Writes.enumMembers {fields : List Field} {entity : String}
    (hname : lookUp scope "name" = .ok (.text entity))
    (hfields : lookUp scope "enum_fields" = .ok (Variables.enumFields fields)) :
    Writes scope [enumMembers] ((fields.map (Field.filterMember entity)).map Member.line) := by
  rw [List.map_map]
  refine .eachLine hfields fun f _ last => ?_
  have hshows := showsEnum_enumView f
  simp [hname, hshows.name, run_enumName hshows, Field.filterMember, Member.line, Field.typeName,
    onlyIf, String.append_assoc]

theorem Writes.filterMembers {filters : List Filter}
    (hfilters : lookUp scope "declared_filters" = .ok (Variables.filters filters)) :
    Writes scope [filterMembers] ((filters.map Filter.member).map Member.line) := by
  rw [List.map_map]
  refine .eachLine hfilters fun f _ last => ?_
  simp [Filter.view, Filter.member, Member.line, onlyIf, String.append_assoc]

/-! ## Methods -/

theorem Writes.bodyLine {parts : List Node} {text : String} (h : run scope parts = .ok text) :
    Writes scope (bodyLine parts) ([text].map ("    " ++ ·)) :=
  .line (run_append (run_singleton rfl) h)

theorem Writes.bodyLines (lines : List String) :
    Writes scope (bodyLines lines) (lines.map ("    " ++ ·)) :=
  .plain _

theorem Writes.method {remarks : Option (List Node)} {name : Node}
    {parameters result body : List Node} {mark : String} {m : Method}
    (hremark : Writes scope (remarks.elim [] Template.methodRemark) (m.remark.elim [] remarkLines))
    (hname : name.run scope = .ok m.name) (hparameters : run scope parameters = .ok m.parameters)
    (hresult : run scope result = .ok m.result)
    (hbody : Writes scope body (m.body.map ("    " ++ ·))) :
    Writes scope (methodNodes remarks name parameters result body mark) (m.lines mark) := by
  have hstart : run scope [.text "  async ", name, .text "("] =
      .ok ("  async " ++ m.name ++ "(") := by
    simp [hname, String.append_assoc]
  have hheading := run_append (run_append (run_append (run_append hstart hparameters)
    (n := [.text "): "]) rfl) hresult) (n := [.text " \x7b"]) rfl
  refine .append (.append (.append hremark (.of_eq (.line hheading) ?_)) hbody) (.plain _)
  simp [String.append_assoc]

/-! ## Names -/

theorem run_quotedNames {α : Type} {name : String} {items shown : Expr} {xs : List α}
    {v : α → Document} (text : α → String) (hitems : items.eval scope = .ok (.list (xs.map v)))
    (hshown : ∀ x ∈ xs, ∀ last, shown.eval (inRound scope name (v x, last)) = .ok (.text (text x)))
    (separator : String) :
    (quotedNames name items shown separator).run scope =
      .ok (separator.intercalate ((xs.map text).map quoted)) := by
  have hround (x : α) (hx : x ∈ xs) (last : Bool) :
      run (inRound scope name (v x, last)) ["'", .print shown, "'", between separator] =
        .ok (quoted (text x) ++ onlyIf (!last) separator) := by
    have hbetween : (between separator).run (inRound scope name (v x, last)) = _ :=
      eval_between separator name (v x, last)
    simp only [run, Node.run, hshown x hx last, hbetween, ok_bind, pure_eq_ok, shown_text]
    simp [quoted, String.append_assoc]
  have heach := run_each hitems hround
  rw [run_single, join_rounds_between fun x => quoted (text x)] at heach
  rw [List.map_map]
  exact heach

theorem run_quotedTexts {name : String} {items : Expr} {names : List String}
    (hitems : items.eval scope = .ok (.ofTexts names)) (hloop : name ≠ "loop")
    (separator : String) :
    (quotedNames name items (.var name) separator).run scope =
      .ok (separator.intercalate (names.map quoted)) := by
  have hshown (text : String) (last : Bool) :
      (Expr.var name).eval (inRound scope name (.text text, last)) = .ok (.text (id text)) :=
    lookUp_inRound hloop (.text text, last)
  have hnames := run_quotedNames id hitems (fun text _ last => hshown text last) separator
  rwa [List.map_id] at hnames

/-- The union of some keys, of which none is the type that has no values. -/
theorem run_keyUnion {items : Expr} {names : Node} {values : List Document} {keys : List String}
    (hitems : items.eval scope = .ok (.list values)) (hlength : values.length = keys.length)
    (hnames : names.run scope = .ok (" | ".intercalate (keys.map quoted))) :
    run scope [pick (.negated items) "never" "", names] = .ok (keyUnion keys) := by
  unfold keyUnion
  cases keys with
  | nil =>
    rw [List.eq_nil_of_length_eq_zero hlength] at hitems
    simp [hitems, hnames]
  | cons key rest =>
    obtain ⟨value, others, rfl⟩ := List.exists_cons_of_length_eq_add_one hlength
    simp [hitems, hnames]

/-! ## Operations -/

theorem run_byType {op : Operation} (hop : lookUp scope "op" = .ok op.view)
    (list get create update delete custom : List Node) :
    run scope (byType list get create update delete custom) =
      run scope (match op.type with
        | .list => list
        | .get => get
        | .create => create
        | .update => update
        | .delete => delete
        | .custom => custom) := by
  cases htype : op.type <;>
    simp [byType, ofType, hop, Operation.view, htype, OperationType.name]

/-- What the view of an operation has. -/
structure ShowsOperation (scope : Variables) (op : Operation) : Prop where
  name : op.type = .custom → (dot "op" "name").eval scope = .ok (.text op.label)
  description : (dot "op" "description").eval scope = .ok (.ofOption .text op.description)
  filters : (dot "op" "filters").eval scope = .ok (.ofTexts op.filters)
  limit : (dot "op" "limit").eval scope = .ok (.ofOption .ofNat op.limit)

theorem showsOperation_of_view {op : Operation} (hop : lookUp scope "op" = .ok op.view) :
    ShowsOperation scope op where
  name hcustom := by simp [hop, Operation.view, hcustom]
  description := by simp [hop, Operation.view]
  filters := by simp [hop, Operation.view]
  limit := by simp [hop, Operation.view]

theorem showsOperation_of_customView {op : Operation}
    (hop : lookUp scope "op" = .ok op.customView) : ShowsOperation scope op where
  name _ := by simp [hop, Operation.customView]
  description := by simp [hop, Operation.customView]
  filters := by simp [hop, Operation.customView]
  limit := by simp [hop, Operation.customView]

section

variable {op : Operation} (h : ShowsOperation scope op)

include h

theorem run_methodName (hcustom : op.type = .custom) :
    methodName.run scope = .ok (camelCase op.label) := by
  rw [methodName, Node.run, Expr.eval, h.name hcustom]
  rfl

theorem run_filterNames (separator : String) :
    (filterNames separator).run scope = .ok (separator.intercalate (op.filters.map quoted)) :=
  run_quotedTexts h.filters (by decide) separator

/-- A text that depends on the limit of an operation. -/
theorem run_limited (before otherwise : String) :
    (limited before otherwise).run scope =
      .ok (((op.limited?).map (before ++ ·)).getD otherwise) := by
  have hlimit := h.limit
  unfold limited Operation.limited?
  generalize dot "op" "limit" = limit at hlimit
  cases hop : op.limit with
  | none => simp [hlimit, hop, Document.ofOption]
  | some n =>
    by_cases hzero : n = 0
    · simp [hlimit, hop, Document.ofOption, Document.ofNat, hzero, Option.filter_some]
    · have hrepr : Int.repr n = Nat.repr n := rfl
      simp [hlimit, hop, Document.ofOption, Document.ofNat, hzero, Option.filter_some, hrepr,
        String.append_assoc]

/-- The argument `filters` of a request. -/
theorem run_filtersArgument : run scope ["filters", limited ": " ""] = .ok op.filtersArgument := by
  have hfilters := run_append (m := [.text "filters"]) rfl (run_singleton (run_limited h ": " ""))
  refine hfilters.trans (congrArg Except.ok ?_)
  unfold Operation.filtersArgument
  cases op.limited? <;> simp [← String.toList_inj]

theorem run_description {otherwise : Expr} {text : String}
    (hotherwise : otherwise.eval scope = .ok (.text text)) :
    Node.run scope (.print (.either (dot "op" "description") otherwise)) =
      .ok (op.remark?.getD text) := by
  have hdescription := h.description
  unfold Operation.remark?
  generalize dot "op" "description" = description at hdescription
  cases hop : op.description with
  | none => simp [hdescription, hop, hotherwise, Document.ofOption]
  | some words =>
    by_cases hempty : words = ""
    · simp [hdescription, hop, hotherwise, Document.ofOption, hempty, Option.filter_some]
    · simp [hdescription, hop, Document.ofOption, hempty, Option.filter_some]

theorem run_customRemark (hcustom : op.type = .custom) :
    customRemark.run scope = .ok op.customRemark :=
  run_description h (h.name hcustom)

theorem run_listRemark {table : String} (htable : lookUp scope "table_name" = .ok (.text table)) :
    listRemark.run scope = .ok (op.listRemark table) :=
  run_description h (by simp [htable])

end

end Scaffold.Template
