import Scaffold.Artifact.Client
import Scaffold.Artifact.Endpoint
import Scaffold.Artifact.Hook
import Scaffold.Artifact.Repository
import Scaffold.Artifact.Service

/-!
# What the layers print

The parts of a layer are values before they are text. Here is what shows of them in the text: a
block of lines for each part, in order, with the names in it that other layers depend on. The lines
that open and close the whole belong to the statement, so that nothing else stands between them.
-/
namespace Scaffold

open Script Text

namespace Script

/-- A line has a piece of text in it. -/
def Mentions (lines : List String) (piece : String) : Prop :=
  ∃ line ∈ lines, ∃ before after, line = before ++ piece ++ after

/-- A text is made of lines. Between some that open a part of it and some that close it, there is a
block for each item, in order, and nothing else; and each block mentions the pieces that belong to
its item. -/
structure Prints {α : Type} (text : String) (lines opening : List String) (items : List α)
    (block : α → List String) (closing : List String) (pieces : α → List String) : Prop where
  written : text = unlines lines
  enclosed : opening ++ items.flatMap block ++ closing <:+: lines
  mentioned : ∀ item ∈ items, ∀ piece ∈ pieces item, Mentions (block item) piece

namespace Prints

variable {α : Type} {text : String} {lines opening closing : List String}
  {block pieces : α → List String}

/-- Each item has its block of lines in the text. -/
theorem exists_block {items : List α} (h : Prints text lines opening items block closing pieces)
    {item : α} (hitem : item ∈ items) : ∃ lines, text = unlines lines ∧ block item <:+: lines := by
  have hitems : items.flatMap block <:+: lines :=
    (List.infix_append opening _ closing).trans h.enclosed
  exact ⟨lines, h.written, (List.infix_of_mem_flatten (List.mem_map_of_mem hitem)).trans hitems⟩

/-- The last items alone: those before them belong to what opens the part. -/
theorem last {items others : List α}
    (h : Prints text lines opening (items ++ others) block closing pieces) :
    Prints text lines (opening ++ items.flatMap block) others block closing pieces where
  written := h.written
  enclosed := by
    have henclosed := h.enclosed
    rwa [List.flatMap_append, ← List.append_assoc] at henclosed
  mentioned item hitem := h.mentioned item (List.mem_append_right items hitem)

end Prints

/-- Two texts differ in a place that both of them have. -/
def differ : List Char → List Char → Bool
  | c :: cs, d :: ds => c != d || differ cs ds
  | _, _ => false

/-- A text that differs from a word does not begin with it, however it goes on. -/
theorem not_prefix_of_differ {word start : List Char} (h : differ word start = true)
    (rest : List Char) : ¬ word <+: start ++ rest := by
  induction word, start using differ.induct with
  | case1 c cs d ds ih =>
    rw [List.cons_append, List.cons_prefix_cons]
    rintro ⟨rfl, hrest⟩
    rw [differ, bne_self_eq_false, Bool.false_or] at h
    exact ih h hrest
  | case2 word start hne =>
    rw [differ] at h
    · exact absurd h (by decide)
    · exact hne

/-- A text that is known as a whole. -/
theorem not_prefix_ofList {word cs : List Char} (h : word.isPrefixOf cs = false) :
    ¬ word <+: (String.ofList cs).toList := by
  rw [String.toList_ofList, ← List.isPrefixOf_iff_prefix, h]
  exact Bool.false_ne_true

/-- A text of which the beginning is known. -/
theorem not_prefix_ofList_append {word cs : List Char} (h : differ word cs = true)
    (rest : String) : ¬ word <+: (String.ofList cs ++ rest).toList := by
  rw [String.toList_append, String.toList_ofList]
  exact not_prefix_of_differ h _

theorem Mentions.of_eq {lines : List String} {piece : String} (line before after : String)
    (hline : line ∈ lines) (h : line = before ++ piece ++ after) : Mentions lines piece :=
  ⟨line, hline, before, after, h⟩

theorem Mentions.of_mem {lines : List String} {line : String} (h : line ∈ lines) :
    Mentions lines line :=
  .of_eq line "" "" h (by rw [String.empty_append, String.append_empty])

theorem Mentions.mono {lines more : List String} {piece : String} (h : Mentions lines piece)
    (hsub : lines ⊆ more) : Mentions more piece := by
  obtain ⟨line, hline, hpiece⟩ := h
  exact ⟨line, hsub hline, hpiece⟩

/-- The words that begin a method. -/
def Method.heading (m : Method) : String := "async " ++ m.name ++ "(" ++ m.parameters ++ ")"

theorem Method.mentions_heading (mark : String) (m : Method) :
    Mentions (m.lines mark) m.heading := by
  refine .of_eq ("  async " ++ m.name ++ "(" ++ m.parameters ++ "): " ++ m.result ++ " \x7b")
    "  " (": " ++ m.result ++ " \x7b") ?_ ?_
  · simp [Method.lines]
  · rw [← String.toList_inj]
    simp [heading]

/-- What the body mentions, the method does. -/
theorem Method.mentions_of_body (mark : String) {m : Method} {piece : String}
    (h : Mentions m.body piece) : Mentions (m.lines mark) piece := by
  obtain ⟨line, hline, before, after, rfl⟩ := h
  refine .of_eq ("    " ++ (before ++ piece ++ after)) ("    " ++ before) after ?_ ?_
  · simp [Method.lines, hline]
  · simp only [String.append_assoc]

theorem Request.exists_text_eq (r : Request) :
    ∃ after, r.text = "\x7b " ++ ("action: " ++ quoted r.action) ++ after := by
  unfold Request.text Request.properties
  cases r.arguments with
  | nil => exact ⟨" \x7d", by simp⟩
  | cons a rest =>
    refine ⟨", " ++ ", ".intercalate (a :: rest) ++ " \x7d", ?_⟩
    rw [String.intercalate_cons_cons]
    simp only [String.append_assoc]

end Script

namespace Artifact

/-! ## The text of the layers -/

/-- What shows of a branch: the action, and the call of the repository. -/
def Endpoint.Branch.pieces (b : Branch) : List String :=
  ["case " ++ quoted b.action ++ ":", "await repo." ++ b.method ++ "(" ++ b.arguments.text ++ ")"]

def Service.Call.pieces (c : Call) : List String :=
  [c.method.heading, "action: " ++ quoted c.request.action]

def Client.Call.pieces (c : Call) : List String :=
  [c.method.heading, "action: " ++ quoted c.request.action]

/-- What shows of a binding: the call of the service of an entity. -/
def Hook.Binding.pieces (entity : String) (b : Binding) : List String :=
  [entity ++ "Service." ++ b.serviceMethod ++ "("]

theorem Endpoint.mentions_call (b : Branch) :
    Mentions b.lines ("await repo." ++ b.method ++ "(" ++ b.arguments.text ++ ")") := by
  have hanswer : Mentions b.answerLines b.call := by
    unfold Branch.answerLines
    cases b.answer with
    | rows => exact .of_eq _ "        return json(\x7b data: " " \x7d)" List.mem_cons_self rfl
    | newRow =>
      exact .of_eq _ "        return json(\x7b data: " " \x7d, 201)" List.mem_cons_self rfl
    | success =>
      refine .of_eq _ "        " "" List.mem_cons_self ?_
      rw [String.append_empty]
      rfl
  refine hanswer.mono ?_
  unfold Branch.lines
  cases b.input with
  | none => exact List.subset_cons_self _ _
  | some input =>
    intro line hline
    simp [hline]

theorem Endpoint.mentions_case (b : Branch) :
    Mentions b.lines ("case " ++ quoted b.action ++ ":") := by
  have hindent : "      case " = "      " ++ "case " := rfl
  unfold Branch.lines
  cases b.input with
  | none =>
    refine .of_eq _ "      " "" List.mem_cons_self ?_
    rw [hindent, String.append_empty]
    simp only [String.append_assoc]
  | some input =>
    refine .of_eq _ "      " " \x7b" List.mem_cons_self ?_
    rw [hindent]
    simp only [String.append_assoc]

/-- The switch, from its opening line to the line for all other actions. -/
theorem Endpoint.prints (s : Schema) :
    Prints (text s) (lines s) ["    switch (body.action) \x7b"] (branches s) Branch.lines
      ["      default:"] Branch.pieces where
  written := rfl
  enclosed := by
    have hserver : ["    switch (body.action) \x7b"] ++ (branches s).flatMap Branch.lines ++
        ["      default:"] <:+: serverLines s := by
      refine ⟨guardLines ++ setupLines s, refusalLines, ?_⟩
      simp only [serverLines, List.append_assoc]
    exact List.infix_append_of_infix_right hserver
  mentioned b _ := by
    rw [Branch.pieces, List.forall_mem_cons, List.forall_mem_singleton]
    exact ⟨mentions_case b, mentions_call b⟩

theorem Service.mentions_request {s : Schema} {c : Call} (h : c ∈ calls s) :
    Mentions c.method.body c.request.text := by
  obtain ⟨op, _, rfl⟩ := List.mem_map.1 h
  unfold call
  cases op.type with
  | list | custom =>
    exact .of_eq _ ("return toModels(await invoke<" ++ s.name ++ "DatabaseRecord[]>(") "))"
      List.mem_cons_self rfl
  | get =>
    exact .of_eq _ ("const record = await invoke<" ++ s.name ++ "DatabaseRecord | null>(") ")"
      List.mem_cons_self rfl
  | create | update =>
    exact .of_eq _ ("return " ++ s.name ++ ".fromDatabase(await invoke<" ++ s.name ++
      "DatabaseRecord>(") "))" List.mem_cons_self rfl
  | delete =>
    exact .of_eq _ "await invoke<\x7b success: boolean \x7d>(" ")" List.mem_cons_self rfl

/-- The lines of the object before its methods: the values of the enumerations. -/
def Service.opening (s : Schema) : List String :=
  ["", "export const " ++ s.name ++ "Service = \x7b"] ++ s.enumFields.flatMap (valuesLines s)

/-- The object of the service, from its opening line to its brace. -/
theorem Service.prints (s : Schema) :
    Prints (text s) (lines s) (opening s) (calls s) (fun c => c.method.lines "," ++ [""]) ["\x7d"]
      Call.pieces where
  written := rfl
  enclosed := (List.suffix_append _ _).isInfix
  mentioned c hc := by
    rw [Call.pieces, List.forall_mem_cons, List.forall_mem_singleton]
    constructor
    · exact (c.method.mentions_heading ",").mono (List.subset_append_left _ _)
    · obtain ⟨line, hline, before, after, hpiece⟩ := mentions_request hc
      obtain ⟨rest, hrequest⟩ := c.request.exists_text_eq
      refine (Method.mentions_of_body "," ?_).mono (List.subset_append_left _ _)
      refine .of_eq line (before ++ "\x7b ") (rest ++ after) hline ?_
      rw [hpiece, hrequest]
      simp only [String.append_assoc]

theorem Client.mentions_pieces (c : Call) :
    ∀ piece ∈ c.pieces, Mentions ("" :: c.method.lines "") piece := by
  rw [Call.pieces, List.forall_mem_cons, List.forall_mem_singleton]
  constructor
  · exact (c.method.mentions_heading "").mono (List.subset_cons_self _ _)
  · refine (Method.mentions_of_body "" ?_).mono (List.subset_cons_self _ _)
    refine .of_eq ("  " ++ ("action: " ++ quoted c.request.action) ++ ",") "  " "," ?_ rfl
    simp [Call.method, Request.properties]

/-- The lines of the class before its methods. -/
def Client.opening (s : Schema) : List String :=
  ["export class " ++ s.name ++ "sClient \x7b",
    "  constructor(private client: ApiClient) \x7b\x7d"]

/-- The class of the client, from its opening line to its brace. -/
theorem Client.prints_calls (s : Schema) :
    Prints (text s) (lines s) (opening s) (calls s) (fun c => "" :: c.method.lines "") ["\x7d"]
      Call.pieces where
  written := rfl
  enclosed := by
    have htitled : classLines s <:+: titled (s.name ++ " API Client") (classLines s) :=
      List.infix_append_right
    exact List.infix_append_of_infix_right htitled
  mentioned c _ := mentions_pieces c

theorem Hook.mentions_query (s : Schema) (constant key serviceMethod : String) :
    Mentions (query s constant key serviceMethod)
      (s.name ++ "Service." ++ serviceMethod ++ "(") := by
  have harguments : "(filters)," = "(" ++ "filters)," := rfl
  refine .of_eq s!"    queryFn: () => {s.name}Service.{serviceMethod}(filters),"
    "    queryFn: () => " "filters)," ?_ ?_
  · simp [query]
  · simp only [toString, harguments, String.append_assoc]

theorem Hook.mentions_mutation (s : Schema) (constant parameters serviceMethod arguments : String) :
    Mentions (mutation s constant parameters serviceMethod arguments)
      (s.name ++ "Service." ++ serviceMethod ++ "(") := by
  refine .of_eq s!"    mutationFn: ({parameters}) => {s.name}Service.{serviceMethod}({arguments}),"
    ("    mutationFn: (" ++ parameters ++ ") => ") (arguments ++ "),") ?_ ?_
  · simp [mutation]
  · simp only [toString, String.append_assoc]

theorem Hook.mentions_serviceMethod {s : Schema} {b : Binding} (h : b ∈ bindings s) :
    Mentions b.lines (s.name ++ "Service." ++ b.serviceMethod ++ "(") := by
  obtain ⟨op, _, rfl⟩ := List.mem_map.1 h
  unfold binding
  cases op.type with
  | list | custom => exact mentions_query s _ _ _
  | get =>
    have hcall : "Service.getById(id)," = "Service." ++ "getById" ++ "(" ++ "id)," := rfl
    refine .of_eq s!"      queryFn: () => {s.name}Service.getById(id),"
      "      queryFn: () => " "id)," ?_ ?_
    · simp
    · simp only [toString, hcall, String.append_assoc]
  | create | update | delete => exact mentions_mutation s _ _ _ _

/-- The lines of the function before what is set up for the operations. -/
def Hook.opening (s : Schema) : List String := [
  "",
  "export function use" ++ s.name ++ "s(filters: Use" ++ s.name ++ "sFilters = \x7b\x7d) \x7b",
  "  const queryClient = useQueryClient()",
  "  const invalidate = () => queryClient.invalidateQueries(\x7b queryKey: [QUERY_KEY] \x7d)"]

/-- The function of the hook, from its opening line to what it returns. -/
theorem Hook.prints (s : Schema) :
    Prints (text s) (lines s) (opening s) (bindings s) (fun b => "" :: b.lines)
      ["", "  return \x7b"]
      (Binding.pieces s.name) where
  written := rfl
  enclosed := by
    have hfunction : opening s ++ (bindings s).flatMap (fun b => "" :: b.lines) ++
        ["", "  return \x7b"] <:+: functionLines s :=
      List.infix_append_of_infix_left (List.prefix_append _ _).isInfix
    exact List.infix_append_of_infix_right hfunction
  mentioned b hb := by
    rw [Binding.pieces, List.forall_mem_singleton]
    exact (mentions_serviceMethod hb).mono (List.subset_cons_self _ _)

/-- The lines of the class before its public methods: the table and the private method. -/
def Repository.opening (s : Schema) : List String :=
  ["", "export class " ++ s.name ++ "Repository extends BaseRepository \x7b",
    "  private readonly table = '" ++ s.table ++ "'"] ++ applyFiltersLines s

/-- The class of the repository, from its opening line to its brace. -/
theorem Repository.prints (s : Schema) :
    Prints (text s) (lines s) (opening s) (methods s) (fun m => "" :: m.lines "") ["\x7d"]
      fun m => [m.heading] where
  written := rfl
  enclosed := (List.suffix_append _ _).isInfix
  mentioned m _ := by
    rw [List.forall_mem_singleton]
    exact (m.mentions_heading "").mono (List.subset_cons_self _ _)

/-- Before its public methods a repository has a private one. -/
theorem Repository.mentions_private (s : Schema) :
    Mentions (opening s) ("private " ++ applyFiltersName ++ "(") := by
  refine .of_eq
    s!"  private {applyFiltersName}(query: any, filters: {s.name}Filters, keys: string[]): any \x7b"
    "  " ("query: any, filters: " ++ s.name ++ "Filters, keys: string[]): any \x7b") ?_ ?_
  · simp [opening, applyFiltersLines]
  · rw [← String.toList_inj]
    simp [toString]

theorem Repository.mentions_keys (s : Schema) (q : Query) :
    Mentions ((q.method s).lines "")
      ("applyFilters(query, " ++ q.filters ++ ", " ++ keyList q.keys ++ ")") := by
  refine Method.mentions_of_body "" (.of_eq _ "query = this." ""
    (List.mem_cons_of_mem _ List.mem_cons_self) ?_)
  have hthis : "query = this.applyFilters(query, " =
      "query = this." ++ "applyFilters(query, " := rfl
  rw [hthis, String.append_empty]
  simp only [String.append_assoc]

end Artifact
end Scaffold
