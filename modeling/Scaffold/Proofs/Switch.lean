import Scaffold.Proofs.Printing

/-!
# What the lines of the endpoint declare

Two kinds of lines of the endpoint depend on the operations: the one that declares the type of the
actions, and those that open a case of the switch. They are read back here from the whole text: the
other lines are of neither kind, which their first characters tell.
-/
namespace Scaffold.Artifact.Endpoint

open Script Text

/-! ## The cases of the switch -/

/-- What stands before the action in the line that opens a case. -/
def caseOpening : List Char := [' ', ' ', ' ', ' ', ' ', ' ', 'c', 'a', 's', 'e', ' ', '\'']

/-- What stands after it, where the case has a block and where it has none. -/
def caseClosing (cs : List Char) : List Char :=
  if ['\'', ':', ' ', '\x7b'] <:+ cs then ['\'', ':', ' ', '\x7b'] else ['\'', ':']

/-- The action in a line that opens a case, with a block or without one. -/
def caseLabel? (line : String) : Option String :=
  if caseOpening <+: line.toList then
    let rest := line.toList.drop caseOpening.length
    some (String.ofList (rest.take (rest.length - (caseClosing rest).length)))
  else none

theorem caseClosing_plain (cs : List Char) : caseClosing (cs ++ ['\'', ':']) = ['\'', ':'] := by
  refine if_neg ?_
  rintro ⟨before, h⟩
  have hlast := congrArg List.getLast? h
  simp at hlast

theorem caseLabel?_plain (action : String) :
    caseLabel? ("      case " ++ quoted action ++ ":") = some action := by
  have hline : ("      case " ++ quoted action ++ ":").toList =
      caseOpening ++ (action.toList ++ ['\'', ':']) := by
    simp [quoted, caseOpening]
  unfold caseLabel?
  rw [hline, if_pos (List.prefix_append _ _), List.drop_left]
  simp [caseClosing_plain]

theorem caseLabel?_block (action : String) :
    caseLabel? ("      case " ++ quoted action ++ ":" ++ " \x7b") = some action := by
  have hline : ("      case " ++ quoted action ++ ":" ++ " \x7b").toList =
      caseOpening ++ (action.toList ++ ['\'', ':', ' ', '\x7b']) := by
    simp [quoted, caseOpening]
  have hclosing : caseClosing (action.toList ++ ['\'', ':', ' ', '\x7b']) =
      ['\'', ':', ' ', '\x7b'] := if_pos (List.suffix_append _ _)
  unfold caseLabel?
  rw [hline, if_pos (List.prefix_append _ _), List.drop_left]
  simp [hclosing]

/-! ## The type of the actions -/

/-- What stands before the actions in the line that declares their type. -/
def unionOpening : List Char :=
  ['t', 'y', 'p', 'e', ' ', 'A', 'c', 't', 'i', 'o', 'n', ' ', '=', ' ']

/-- The actions in a line that declares their type. -/
def union? (line : String) : Option String :=
  if unionOpening <+: line.toList then some (String.ofList (line.toList.drop unionOpening.length))
  else none

theorem union?_line (actions : String) : union? ("type Action = " ++ actions) = some actions := by
  have hline : ("type Action = " ++ actions).toList = unionOpening ++ actions.toList := by
    simp [unionOpening]
  unfold union?
  rw [hline, if_pos (List.prefix_append _ _), List.drop_left, String.ofList_toList]

/-! ## The other lines -/

theorem caseLabel?_eq_none {cs : List Char} (h : differ caseOpening cs = true) (rest : String) :
    caseLabel? (String.ofList cs ++ rest) = none :=
  if_neg (not_prefix_ofList_append h rest)

theorem union?_eq_none {cs : List Char} (h : differ unionOpening cs = true) (rest : String) :
    union? (String.ofList cs ++ rest) = none :=
  if_neg (not_prefix_ofList_append h rest)

/-- A line that neither opens a case nor declares the actions. -/
structure Silent (line : String) : Prop where
  label : caseLabel? line = none
  union : union? line = none

namespace Silent

-- A literal is the text of its characters by definition, so the rules below apply to literals, and
-- what they ask of the characters holds by evaluation.

/-- A line that is known as a whole. -/
theorem fixed (cs : List Char)
    (h : (caseOpening.isPrefixOf cs || unionOpening.isPrefixOf cs) = false) :
    Silent (String.ofList cs) := by
  obtain ⟨hcase, hunion⟩ := Bool.or_eq_false_iff.1 h
  exact ⟨if_neg (not_prefix_ofList hcase), if_neg (not_prefix_ofList hunion)⟩

/-- A line of which the beginning is known. -/
theorem begun (cs : List Char) (h : (differ caseOpening cs && differ unionOpening cs) = true)
    (rest : String) : Silent (String.ofList cs ++ rest) := by
  obtain ⟨hcase, hunion⟩ := Bool.and_eq_true_iff.1 h
  exact ⟨caseLabel?_eq_none hcase rest, union?_eq_none hunion rest⟩

theorem filterMap_caseLabel? {lines : List String} (h : ∀ line ∈ lines, Silent line) :
    lines.filterMap caseLabel? = [] :=
  List.filterMap_eq_nil_iff.2 fun line hline => (h line hline).label

theorem filterMap_union? {lines : List String} (h : ∀ line ∈ lines, Silent line) :
    lines.filterMap union? = [] :=
  List.filterMap_eq_nil_iff.2 fun line hline => (h line hline).union

theorem of_mem_comment {text : List String} : ∀ line ∈ comment "" text, Silent line := by
  unfold comment
  simp only [String.empty_append, List.forall_mem_append, List.forall_mem_singleton,
    List.forall_mem_map]
  exact ⟨⟨.fixed _ rfl, fun _ _ => .begun _ rfl _⟩, .fixed _ rfl⟩

theorem of_mem_headerLines {s : Schema} : ∀ line ∈ headerLines s, Silent line := by
  unfold headerLines
  refine List.forall_mem_append.2 ⟨of_mem_comment, ?_⟩
  simp only [toString, String.append_assoc]
  iterate 3 refine List.forall_mem_cons.2 ⟨.fixed _ rfl, ?_⟩
  iterate 2 refine List.forall_mem_cons.2 ⟨.begun _ rfl _, ?_⟩
  exact List.forall_mem_nil _

/-- The lines after the one that declares the actions. -/
theorem of_mem_requestLines {s : Schema} : ∀ line ∈ (requestLines s).drop 2, Silent line := by
  unfold requestLines
  iterate 8 refine List.forall_mem_cons.2 ⟨.fixed _ rfl, ?_⟩
  exact List.forall_mem_singleton.2 (.begun _ rfl _)

theorem of_mem_functionLines : ∀ line ∈ functionLines, Silent line := by
  unfold functionLines
  iterate 8 refine List.forall_mem_cons.2 ⟨.fixed _ rfl, ?_⟩
  refine List.forall_mem_cons.2 ⟨.begun _ rfl _, ?_⟩
  iterate 8 refine List.forall_mem_cons.2 ⟨.fixed _ rfl, ?_⟩
  exact List.forall_mem_nil _

theorem of_mem_guardLines : ∀ line ∈ guardLines, Silent line := by
  unfold guardLines
  iterate 11 refine List.forall_mem_cons.2 ⟨.fixed _ rfl, ?_⟩
  refine List.forall_mem_cons.2 ⟨.begun _ rfl _, ?_⟩
  iterate 7 refine List.forall_mem_cons.2 ⟨.fixed _ rfl, ?_⟩
  exact List.forall_mem_nil _

theorem of_mem_setupLines {s : Schema} : ∀ line ∈ setupLines s, Silent line := by
  unfold setupLines
  simp only [toString, String.append_assoc]
  refine List.forall_mem_cons.2 ⟨.begun _ rfl _, ?_⟩
  iterate 3 refine List.forall_mem_cons.2 ⟨.fixed _ rfl, ?_⟩
  exact List.forall_mem_nil _

theorem of_mem_refusalLines : ∀ line ∈ refusalLines, Silent line := by
  unfold refusalLines
  refine List.forall_mem_cons.2 ⟨.begun _ rfl _, ?_⟩
  iterate 6 refine List.forall_mem_cons.2 ⟨.fixed _ rfl, ?_⟩
  exact List.forall_mem_nil _

end Silent

/-! ## The whole text -/

theorem Silent.of_mem_answerLines {b : Branch} : ∀ line ∈ b.answerLines, Silent line := by
  unfold Branch.answerLines
  cases b.answer with
  | rows | newRow =>
    simp only [toString, String.append_assoc]
    exact List.forall_mem_singleton.2 (.begun _ rfl _)
  | success =>
    simp only [toString]
    refine List.forall_mem_cons.2 ⟨.begun _ rfl _, ?_⟩
    exact List.forall_mem_singleton.2 (.fixed _ rfl)

theorem Silent.input (input : String) : Silent (s!"        const input = {input}") :=
  .begun _ rfl _

/-- A branch has one line that opens a case. -/
theorem filterMap_caseLabel?_lines (b : Branch) : b.lines.filterMap caseLabel? = [b.action] := by
  have hanswer := Silent.filterMap_caseLabel? (Silent.of_mem_answerLines (b := b))
  have hclose : Silent "      \x7d" := .fixed _ rfl
  unfold Branch.lines
  cases b.input with
  | none => simp [caseLabel?_plain, hanswer]
  | some input => simp [caseLabel?_block, hanswer, (Silent.input input).label, hclose.label]

/-- The lines of a branch do not declare the actions. -/
theorem filterMap_union?_branch (b : Branch) : b.lines.filterMap union? = [] := by
  have hanswer := Silent.filterMap_union? (Silent.of_mem_answerLines (b := b))
  have hclose : Silent "      \x7d" := .fixed _ rfl
  have hcase (rest : String) : union? ("      case " ++ rest) = none := union?_eq_none rfl rest
  unfold Branch.lines
  cases b.input with
  | none => simp [String.append_assoc, hcase, hanswer]
  | some input =>
    simp [String.append_assoc, hcase, hanswer, (Silent.input input).union, hclose.union]

/-- The line that declares the actions and the lines of the branches stand among others. -/
theorem exists_lines_eq (s : Schema) :
    ∃ before between after, lines s = before ++ actionLine s :: between ++
        (branches s).flatMap Branch.lines ++ after ∧
      (∀ line ∈ before, Silent line) ∧ (∀ line ∈ between, Silent line) ∧
      ∀ line ∈ after, Silent line := by
  refine ⟨headerLines s ++ [""],
    (requestLines s).drop 2 ++ functionLines ++ guardLines ++ setupLines s ++
      ["    switch (body.action) \x7b"], "      default:" :: refusalLines, ?_, ?_, ?_, ?_⟩
  · have hrequest : requestLines s = ["", actionLine s] ++ (requestLines s).drop 2 := rfl
    rw [lines, serverLines, hrequest]
    simp only [List.append_assoc, List.cons_append, List.nil_append, List.drop_succ_cons,
      List.drop_zero]
  · exact List.forall_mem_append.2 ⟨.of_mem_headerLines, List.forall_mem_singleton.2 (.fixed _ rfl)⟩
  · simp only [List.forall_mem_append, List.forall_mem_singleton]
    exact ⟨⟨⟨⟨.of_mem_requestLines, .of_mem_functionLines⟩, .of_mem_guardLines⟩,
      .of_mem_setupLines⟩, .fixed _ rfl⟩
  · exact List.forall_mem_cons.2 ⟨.fixed _ rfl, .of_mem_refusalLines⟩

/-- The whole text opens the cases of the branches, in order, and no other. -/
theorem filterMap_caseLabel?_lines_text (s : Schema) :
    (lines s).filterMap caseLabel? = (branches s).map (·.action) := by
  obtain ⟨before, between, after, hlines, hbefore, hbetween, hafter⟩ := exists_lines_eq s
  have haction : caseLabel? (actionLine s) = none := caseLabel?_eq_none rfl _
  have hbranches : ((branches s).flatMap Branch.lines).filterMap caseLabel? =
      (branches s).map (·.action) := by
    rw [List.filterMap_flatMap, List.map_eq_flatMap]
    simp only [filterMap_caseLabel?_lines]
  simp only [hlines, List.filterMap_append, List.filterMap_cons, haction, hbranches,
    Silent.filterMap_caseLabel? hbefore, Silent.filterMap_caseLabel? hbetween,
    Silent.filterMap_caseLabel? hafter, List.nil_append, List.append_nil]

/-- The whole text declares the type of actions once. -/
theorem filterMap_union?_lines (s : Schema) :
    (lines s).filterMap union? = [keyUnion (actions s)] := by
  obtain ⟨before, between, after, hlines, hbefore, hbetween, hafter⟩ := exists_lines_eq s
  have haction : union? (actionLine s) = some (keyUnion (actions s)) := union?_line _
  have hbranches : ((branches s).flatMap Branch.lines).filterMap union? = [] := by
    simp [List.filterMap_flatMap, filterMap_union?_branch]
  simp only [hlines, List.filterMap_append, List.filterMap_cons, haction, hbranches,
    Silent.filterMap_union? hbefore, Silent.filterMap_union? hbetween,
    Silent.filterMap_union? hafter, List.nil_append, List.append_nil]

end Scaffold.Artifact.Endpoint
