import Scaffold.Proofs.Ambiguity
import Scaffold.Proofs.Quotation

/-!
# Text in comments

Descriptions and values stand in comments as they are: the description of the table among the lines
that open its migration, those of operations above the methods, and values above the helpers of the
client. A comment of the first kind ends with its line and one of the second kind at the first
closing sign, so it is the text that decides whether it stays within: each of its lines but the
first has to begin a comment of its own, and a closing sign must not occur in it.
-/
namespace Scaffold

open Artifact Script Text

/-! ## Comments that end with their line -/

namespace Artifact.Migration

/-- Whether a character ends a line: a line feed does, and a return for those who count it. -/
def endsLine (returns : Bool) (c : Char) : Bool := c = '\n' || returns && c = '\r'

def linesOf (returns : Bool) (text : String) : List (List Char) :=
  text.toList.splitOnP (endsLine returns)

/-- A line with nothing to execute in it. -/
def Silent (line : List Char) : Prop := line = [] ∨ ['-', '-'] <+: line

instance : DecidablePred Silent := fun line =>
  inferInstanceAs (Decidable (line = [] ∨ ['-', '-'] <+: line))

def AllSilent (returns : Bool) (text : String) : Prop := ∀ line ∈ linesOf returns text, Silent line

/-- A text that stays in a comment which its first line stands in. -/
def StaysSilent (returns : Bool) (text : String) : Prop :=
  ∀ line ∈ (linesOf returns text).tail, Silent line

instance (returns : Bool) : DecidablePred (AllSilent returns) := fun text =>
  inferInstanceAs (Decidable (∀ line ∈ linesOf returns text, Silent line))

instance (returns : Bool) : DecidablePred (StaysSilent returns) := fun text =>
  inferInstanceAs (Decidable (∀ line ∈ (linesOf returns text).tail, Silent line))

section

variable {returns : Bool}

theorem allSilent_empty : AllSilent returns "" := by
  intro line hline
  rw [linesOf, String.toList_empty, List.splitOnP_nil, List.mem_singleton] at hline
  exact .inl hline

theorem linesOf_append_lineFeed (s t : String) :
    linesOf returns (s ++ "\n" ++ t) = linesOf returns s ++ linesOf returns t := by
  have hchars : (s ++ "\n" ++ t).toList = s.toList ++ '\n' :: t.toList := by
    rw [String.append_assoc, String.toList_append, String.toList_append]
    rfl
  rw [linesOf, hchars]
  exact List.splitOnP_append_cons _ _ (by simp [endsLine])

theorem allSilent_unlines_iff (lines : List String) :
    AllSilent returns (unlines lines) ↔ ∀ line ∈ lines, AllSilent returns line := by
  induction lines with
  | nil => simpa using allSilent_empty
  | cons line lines ih =>
    rw [List.forall_mem_cons, ← ih, unlines_cons, AllSilent, linesOf_append_lineFeed,
      List.forall_mem_append]
    rfl

/-- A line that is a comment stays one just if what stands in it does. -/
theorem allSilent_dashes_iff (text : String) :
    AllSilent returns ("-- " ++ text) ↔ StaysSilent returns text := by
  have hdash : endsLine returns '-' = false := by simp [endsLine]
  have hblank : endsLine returns ' ' = false := by simp [endsLine]
  have hchars : ("-- " ++ text).toList = '-' :: '-' :: ' ' :: text.toList := by
    rw [String.toList_append]
    rfl
  obtain ⟨first, rest, htext⟩ := List.exists_cons_of_ne_nil
    (List.splitOnP_ne_nil (endsLine returns) text.toList)
  have hlines : linesOf returns ("-- " ++ text) = ('-' :: '-' :: ' ' :: first) :: rest := by
    rw [linesOf, hchars]
    simp [List.splitOnP_cons_eq_if_modifyHead, hdash, hblank, htext]
  rw [AllSilent, StaysSilent, hlines, linesOf, htext, List.forall_mem_cons, List.tail_cons]
  exact and_iff_right (.inr ⟨' ' :: first, rfl⟩)

/-- What is one line stays in its comment. -/
theorem staysSilent_of_oneLine {text : String} (h : StringLiteral.OneLine text) :
    StaysSilent returns text := by
  have hends (c : Char) (hc : c ∈ text.toList) : endsLine returns c = false := by
    have hfeed : c ≠ '\n' := fun heq => h.1 (heq ▸ hc)
    have hreturn : c ≠ '\r' := fun heq => h.2 (heq ▸ hc)
    simp [endsLine, hfeed, hreturn]
  intro line hline
  rw [linesOf, List.splitOnP_eq_singleton hends] at hline
  exact absurd hline List.not_mem_nil

end

/-- What stands before the table. -/
def preamble (s : Schema) : String := unlines (headerLines s ++ [""])

theorem exists_text_eq (s : Schema) :
    ∃ rest, text s = preamble s ++ ("CREATE TABLE IF NOT EXISTS public." ++ rest) := by
  refine ⟨s.table ++ " (" ++ "\n" ++ unlines (separated (s.columns.map definition) ++ [");"]
    ++ followingLines s), ?_⟩
  simp [text, lines, preamble, tableLines, toString, String.append_assoc]

/-- The preamble is all comment just if the name and the description stay in theirs. -/
theorem allSilent_preamble_iff (s : Schema) (returns : Bool) :
    AllSilent returns (preamble s) ↔ StaysSilent returns (s.name ++ " Migration") ∧
      ∀ text, remark? s = some text → StaysSilent returns text := by
  have hrule : AllSilent returns rule :=
    (allSilent_dashes_iff _).2 (staysSilent_of_oneLine (by decide))
  have hgenerated : AllSilent returns ("-- " ++ generated) :=
    (allSilent_dashes_iff _).2 (staysSilent_of_oneLine (by decide))
  have hname : AllSilent returns ("-- " ++ s.name ++ " Migration") ↔
      StaysSilent returns (s.name ++ " Migration") := by
    rw [String.append_assoc, allSilent_dashes_iff]
  have hremark : (∀ line ∈ ((remark? s).map ("-- " ++ ·)).toList, AllSilent returns line) ↔
      ∀ text, remark? s = some text → StaysSilent returns text := by
    simp [allSilent_dashes_iff]
  have hheader : headerLines s = [rule, "-- " ++ s.name ++ " Migration", rule]
      ++ ((remark? s).map ("-- " ++ ·)).toList
      ++ ["-- " ++ generated, rule] := rfl
  rw [preamble, allSilent_unlines_iff, hheader]
  simp only [List.forall_mem_append, List.forall_mem_cons, hname, hremark, hrule, hgenerated,
    allSilent_empty]
  simp

end Artifact.Migration

/-! ## Comments that end at a sign -/

namespace Script

/-- What ends a block. -/
def closing : List Char := ['*', '/']

/-- What stands before the first closing sign, and what behind it. -/
def close? : List Char → Option (List Char × List Char)
  | [] => none
  | c :: rest =>
    if closing <+: c :: rest then some ([], rest.tail)
    else (close? rest).map fun p => (c :: p.1, p.2)

/-- A character that the sign does not end with closes no block. -/
theorem closing_prefix_iff {c : Char} (h : c ≠ '/') (x : Char) (xs ys : List Char) :
    closing <+: x :: (xs ++ c :: ys) ↔ closing <+: x :: xs := by
  cases xs with
  | nil => simp [closing, h.symm]
  | cons y xs => simp [closing]

theorem closing_infix_append_cons_iff {c : Char} (h : c ∉ closing) (xs ys : List Char) :
    closing <:+: xs ++ c :: ys ↔ closing <:+: xs ∨ closing <:+: ys := by
  have hstar : '*' ≠ c := fun heq => h (heq ▸ List.mem_cons_self)
  have hslash : c ≠ '/' := fun heq => h (heq ▸ List.mem_cons_of_mem _ List.mem_cons_self)
  induction xs with
  | nil =>
    have hfirst : ¬ closing <+: c :: ys := by simp [closing, hstar]
    have hnone : ¬ closing <:+: [] := by decide
    rw [List.nil_append, List.infix_cons_iff, or_iff_right hfirst, or_iff_right hnone]
  | cons x xs ih =>
    rw [List.cons_append, List.infix_cons_iff, closing_prefix_iff hslash, or_congr_right ih,
      List.infix_cons_iff, or_assoc]

/-- By induction on the text: a block ends where it is closed if nothing in it closes it before. -/
theorem close?_append_iff (inside after : List Char) :
    close? (inside ++ closing ++ after) = some (inside, after) ↔ ¬ closing <:+: inside := by
  induction inside with
  | nil => exact iff_of_true rfl (by decide)
  | cons c inside ih =>
    have hbegins : closing <+: c :: (inside ++ closing ++ after) ↔ closing <+: c :: inside := by
      rw [List.append_assoc]
      exact closing_prefix_iff (by decide) c inside ('/' :: after)
    rw [List.infix_cons_iff, not_or, ← ih, List.cons_append, List.cons_append, close?]
    by_cases hclosed : closing <+: c :: inside
    · rw [if_pos (hbegins.2 hclosed)]
      exact iff_of_false (by simp) fun h => h.1 hclosed
    · rw [if_neg (mt hbegins.1 hclosed), and_iff_right hclosed]
      cases close? (inside ++ closing ++ after) with
      | none => simp
      | some p => simp [Prod.ext_iff]

example : close? "* all of work/*/queue\n */ const n = 0".toList =
    some ("* all of work/".toList, "queue\n */ const n = 0".toList) := by decide +kernel

/-- A block of comment, with the text that stands before it and behind it. -/
structure Block where
  before : String
  inside : String
  after : String

namespace Block

def text (b : Block) : String := b.before ++ "/*" ++ b.inside ++ "*/" ++ b.after

/-- Behind its opening sign the block is read up to its own closing sign. -/
def Closed (b : Block) : Prop :=
  close? (b.inside ++ "*/" ++ b.after).toList = some (b.inside.toList, b.after.toList)

theorem closed_iff (b : Block) : b.Closed ↔ ¬ closing <:+: b.inside.toList := by
  rw [Closed, String.toList_append, String.toList_append]
  exact close?_append_iff _ _

end Block

/-- What stands between the signs of a block above a method. -/
def remarkInside (remark : String) : String := "*\n   * " ++ remark ++ "\n   "

/-- The block ends within the remark, or where it should. -/
theorem closing_infix_remarkInside_iff (remark : String) :
    closing <:+: (remarkInside remark).toList ↔ closing <:+: remark.toList := by
  have hchars : (remarkInside remark).toList =
      ['*', '\n', ' ', ' ', ' ', '*'] ++ ' ' :: (remark.toList ++ '\n' :: [' ', ' ', ' ']) := by
    simp [remarkInside]
  have hbefore : ¬ closing <:+: ['*', '\n', ' ', ' ', ' ', '*'] := by decide
  have hafter : ¬ closing <:+: [' ', ' ', ' '] := by decide
  rw [hchars, closing_infix_append_cons_iff (by decide), or_iff_right hbefore,
    closing_infix_append_cons_iff (by decide), or_iff_left hafter]

/-- A text has a block with a remark in it, and a method below. -/
structure Shows (text remark : String) (b : Block) : Prop where
  whole : text = b.text
  inside : b.inside = remarkInside remark
  method : ∃ rest, b.after = "\n  async " ++ rest

theorem Shows.closed_iff {text remark : String} {b : Block} (h : Shows text remark b) :
    b.Closed ↔ ¬ closing <:+: remark.toList := by
  rw [b.closed_iff, h.inside, closing_infix_remarkInside_iff]

theorem Method.exists_lines_eq {m : Method} {remark : String} (h : m.remark = some remark)
    (mark : String) : ∃ rest, unlines (m.lines mark) =
      "  /*" ++ remarkInside remark ++ "*/" ++ ("\n  async " ++ rest) := by
  refine ⟨m.name ++ "(" ++ m.parameters ++ "): " ++ m.result ++ " \x7b" ++ "\n"
    ++ unlines (m.body.map ("    " ++ ·) ++ ["  \x7d" ++ mark]), ?_⟩
  rw [← String.toList_inj]
  simp [Method.lines, h, remarkLines, remarkInside]

theorem Method.exists_shows {m : Method} {text remark mark : String} {block : List String}
    (hblock : ∃ lines, text = unlines lines ∧ block <:+: lines) (hlines : m.lines mark <:+: block)
    (hremark : m.remark = some remark) : ∃ b, Shows text remark b := by
  obtain ⟨_, rfl, hblock⟩ := hblock
  obtain ⟨before, after, rfl⟩ := hlines.trans hblock
  obtain ⟨rest, hmethod⟩ := exists_lines_eq hremark mark
  refine ⟨⟨unlines before ++ "  ", remarkInside remark, "\n  async " ++ rest ++ unlines after⟩,
    ?_, rfl, rest ++ unlines after, String.append_assoc⟩
  rw [unlines_append, unlines_append, hmethod, ← String.toList_inj]
  simp [Block.text]

end Script

/-! ## What stands above the methods -/

namespace Artifact

/-- The methods that a file has for the operations and helpers. -/
def Kind.methods (s : Schema) : Kind → List Method
  | .repository => Repository.methods s
  | .service => (Service.calls s).map Service.Call.method
  | .client => (Client.calls s).map Client.Call.method
  | _ => []

/-- The remarks with free text in them: descriptions of operations that answer with several rows,
and values that a helper filters by. -/
inductive Remarked (s : Schema) : Kind → String → Prop
  | repository {op : Operation} {text : String} (hop : op ∈ s.operations)
      (htype : op.type = .custom) (htext : op.remark? = some text) : Remarked s .repository text
  | service {op : Operation} {text : String} (hop : op ∈ s.operations)
      (htype : op.type = .list ∨ op.type = .custom) (htext : op.remark? = some text) :
      Remarked s .service text
  | client {op : Operation} {text : String} (hop : op ∈ s.operations)
      (htype : op.type = .list ∨ op.type = .custom) (htext : op.remark? = some text) :
      Remarked s .client text
  | helper {f : Field} {v : String} (hf : f ∈ Client.enumFields s)
      (hv : v ∈ Client.helperValues f) :
      Remarked s .client ("List with " ++ f.name ++ " = '" ++ v ++ "'")

section

variable {s : Schema} {k : Kind} {remark : String}

/-- A description that says something is what is said above a method. -/
theorem remarks_eq {op : Operation} {text : String} (table : String) (h : op.remark? = some text) :
    op.listRemark table = text ∧ op.customRemark = text := by
  rw [Operation.listRemark, Operation.customRemark, h]
  exact ⟨rfl, rfl⟩

/-- A method with a remark has it in a block of its file. -/
theorem exists_shows_of_method {m : Method} (hm : m ∈ k.methods s)
    (hremark : m.remark = some remark) : ∃ b, Shows (k.text s) remark b := by
  cases k with
  | repository =>
    exact Method.exists_shows ((Repository.prints s).exists_block hm) (List.suffix_cons _ _).isInfix
      hremark
  | service =>
    obtain ⟨c, hc, rfl⟩ := List.mem_map.1 hm
    exact Method.exists_shows ((Service.prints s).exists_block hc) (List.prefix_append _ _).isInfix
      hremark
  | client =>
    obtain ⟨c, hc, rfl⟩ := List.mem_map.1 hm
    exact Method.exists_shows ((Client.prints_calls s).exists_block hc)
      (List.suffix_cons _ _).isInfix hremark
  | migration | validation | endpoint | model | hook | adminPage | demo =>
    exact absurd hm List.not_mem_nil

/-- Free text stands above a method. -/
theorem Remarked.exists_method (h : Remarked s k remark) :
    ∃ m ∈ k.methods s, m.remark = some remark := by
  cases h with
  | @repository op _ hop htype htext =>
    have hquery : Repository.customQuery op ∈ Repository.queries s :=
      List.mem_map_of_mem (List.mem_filter.2 ⟨hop, by simpa using htype⟩)
    refine ⟨(Repository.customQuery op).method s,
      List.mem_append_right _ (List.mem_map_of_mem hquery), ?_⟩
    exact congrArg some (remarks_eq s.table htext).2
  | @service op _ hop htype htext =>
    refine ⟨(Service.call s op).method, List.mem_map_of_mem (List.mem_map_of_mem hop), ?_⟩
    obtain ⟨hlist, hcustom⟩ := remarks_eq s.table htext
    rcases htype with htype | htype
    · simp [Service.call, htype, Service.query, Service.Call.method, hlist]
    · simp [Service.call, htype, Service.query, Service.Call.method, hcustom]
  | @client op _ hop htype htext =>
    obtain ⟨op', hop', htype', hdescription⟩ : ∃ op' ∈ Client.operations s,
        op'.type = op.type ∧ op'.description = op.description :=
      ⟨_, List.mem_map_of_mem hop, rfl, rfl⟩
    have hcall : Client.call s op' ∈ Client.calls s :=
      List.mem_append_left _ (List.mem_map_of_mem hop')
    refine ⟨(Client.call s op').method, List.mem_map_of_mem hcall, ?_⟩
    have htext' : op'.remark? = some remark := by
      rw [Operation.remark?, hdescription]
      exact htext
    obtain ⟨hlist, hcustom⟩ := remarks_eq s.table htext'
    rcases htype with htype | htype
    · simp [Client.call, htype'.trans htype, Client.query, Client.Call.method, hlist]
    · simp [Client.call, htype'.trans htype, Client.query, Client.Call.method, hcustom]
  | @helper f v hf hv =>
    have hcall : Client.helperCall s f v ∈ Client.calls s :=
      List.mem_append_right _ (List.mem_flatMap.2 ⟨f, hf, List.mem_map_of_mem hv⟩)
    exact ⟨(Client.helperCall s f v).method, List.mem_map_of_mem hcall, rfl⟩

/-- What is said where there is no description: words of the file, and names. -/
def plainRemarks (s : Schema) : List String :=
  [(Repository.listQuery s).remark, "List " ++ s.table, "Get by ID", "Create", "Update", "Delete"]
    ++ s.operations.map Operation.label

/-- An operation is remarked on by its description, or else by what is said otherwise. -/
theorem remark_cases {op : Operation} {otherwise : String} (hplain : otherwise ∈ plainRemarks s)
    (hfree : ∀ text, op.remark? = some text → Remarked s k text) :
    Remarked s k (op.remark?.getD otherwise) ∨ op.remark?.getD otherwise ∈ plainRemarks s := by
  cases htext : op.remark? with
  | none => exact .inr hplain
  | some text => exact .inl (hfree text htext)

theorem list_mem_plainRemarks (s : Schema) : "List " ++ s.table ∈ plainRemarks s := by
  simp [plainRemarks]

theorem label_mem_plainRemarks {op : Operation} (h : op ∈ s.operations) :
    op.label ∈ plainRemarks s :=
  List.mem_append_right _ (List.mem_map_of_mem h)

theorem Repository.remarked_or_plain {m : Method} (hm : m ∈ Kind.repository.methods s)
    (hremark : m.remark = some remark) :
    Remarked s .repository remark ∨ remark ∈ plainRemarks s := by
  rcases List.mem_append.1 hm with hstandard | hquery
  · simp only [List.mem_cons, List.not_mem_nil, or_false] at hstandard
    rcases hstandard with rfl | rfl | rfl | rfl | rfl
    · obtain rfl := Option.some.inj hremark
      exact .inr List.mem_cons_self
    · cases hremark
    · cases hremark
    · cases hremark
    · cases hremark
  · obtain ⟨q, hq, rfl⟩ := List.mem_map.1 hquery
    obtain ⟨op, hop, rfl⟩ := List.mem_map.1 hq
    obtain ⟨hop, htype⟩ := List.mem_filter.1 hop
    obtain rfl := Option.some.inj hremark
    exact remark_cases (label_mem_plainRemarks hop) fun text htext =>
      .repository hop (by simpa using htype) htext

theorem Service.remarked_or_plain {m : Method} (hm : m ∈ Kind.service.methods s)
    (hremark : m.remark = some remark) :
    Remarked s .service remark ∨ remark ∈ plainRemarks s := by
  obtain ⟨c, hc, rfl⟩ := List.mem_map.1 hm
  obtain ⟨op, hop, rfl⟩ := List.mem_map.1 hc
  cases htype : op.type with
  | list =>
    obtain rfl : op.listRemark s.table = remark := by
      simpa [Service.call, htype, Service.query, Service.Call.method] using hremark
    exact remark_cases (list_mem_plainRemarks s) fun text htext => .service hop (.inl htype) htext
  | custom =>
    obtain rfl : op.customRemark = remark := by
      simpa [Service.call, htype, Service.query, Service.Call.method] using hremark
    exact remark_cases (label_mem_plainRemarks hop) fun text htext =>
      .service hop (.inr htype) htext
  | get | create | update | delete => simp [Service.call, htype, Service.Call.method] at hremark

/-- An operation stands in the client under a name of its own there, but keeps its description. -/
theorem Client.remarked_or_plain_of_operation {op : Operation} (hop : op ∈ Client.operations s)
    (hremark : (Client.call s op).method.remark = some remark) :
    Remarked s .client remark ∨ remark ∈ plainRemarks s := by
  obtain ⟨op', hop', hrenamed⟩ := List.mem_map.1 hop
  have htype' : op.type = op'.type := hrenamed ▸ rfl
  cases htype : op'.type with
  | list =>
    obtain rfl : op.listRemark s.table = remark := by
      simpa [Client.call, htype', htype, Client.query, Client.Call.method] using hremark
    have hcases : Remarked s .client (op'.listRemark s.table) ∨
        op'.listRemark s.table ∈ plainRemarks s :=
      remark_cases (list_mem_plainRemarks s) fun text htext => .client hop' (.inl htype) htext
    exact hrenamed ▸ hcases
  | custom =>
    obtain rfl : op.customRemark = remark := by
      simpa [Client.call, htype', htype, Client.query, Client.Call.method] using hremark
    have hcases : Remarked s .client op'.customRemark ∨ op'.customRemark ∈ plainRemarks s :=
      remark_cases (label_mem_plainRemarks hop') fun text htext =>
        .client hop' (.inr htype) htext
    exact hrenamed ▸ hcases
  | get | create | update | delete =>
    obtain rfl : _ = remark := by
      simpa [Client.call, htype', htype, Client.Call.method] using hremark
    exact .inr (by simp [plainRemarks])

theorem Client.remarked_or_plain {m : Method} (hm : m ∈ Kind.client.methods s)
    (hremark : m.remark = some remark) :
    Remarked s .client remark ∨ remark ∈ plainRemarks s := by
  obtain ⟨c, hc, rfl⟩ := List.mem_map.1 hm
  rcases List.mem_append.1 hc with hoperation | hhelper
  · obtain ⟨op, hop, rfl⟩ := List.mem_map.1 hoperation
    exact remarked_or_plain_of_operation hop hremark
  · obtain ⟨f, hf, hvalue⟩ := List.mem_flatMap.1 hhelper
    obtain ⟨v, hv, rfl⟩ := List.mem_map.1 hvalue
    obtain rfl := Option.some.inj hremark
    exact .inl (.helper hf hv)

/-- Above a method there is free text, or a plain remark. -/
theorem remarked_or_plain {m : Method} (hm : m ∈ k.methods s) (hremark : m.remark = some remark) :
    Remarked s k remark ∨ remark ∈ plainRemarks s := by
  cases k with
  | repository => exact Repository.remarked_or_plain hm hremark
  | service => exact Service.remarked_or_plain hm hremark
  | client => exact Client.remarked_or_plain hm hremark
  | migration | validation | endpoint | model | hook | adminPage | demo =>
    exact absurd hm List.not_mem_nil

theorem Remarked.exists_shows (h : Remarked s k remark) : ∃ b, Shows (k.text s) remark b := by
  obtain ⟨m, hm, hremark⟩ := h.exists_method
  exact exists_shows_of_method hm hremark

/-- A remark that goes on behind the end of its block. -/
def Left (s : Schema) (k : Kind) (remark : String) : Prop :=
  Remarked s k remark ∧ ∃ b, Shows (k.text s) remark b ∧ ¬ b.Closed

theorem Left.of_remarked (h : Remarked s k remark) (hclosing : closing <:+: remark.toList) :
    Left s k remark := by
  obtain ⟨b, hshows⟩ := h.exists_shows
  exact ⟨h, b, hshows, fun hclosed => hshows.closed_iff.1 hclosed hclosing⟩

/-- The words around the name of a field and a value close no block. -/
theorem closing_infix_helperRemark_iff (name v : String) :
    closing <:+: ("List with " ++ name ++ " = '" ++ v ++ "'").toList ↔
      closing <:+: name.toList ∨ closing <:+: v.toList := by
  have hchars : ("List with " ++ name ++ " = '" ++ v ++ "'").toList =
      ['L', 'i', 's', 't', ' ', 'w', 'i', 't', 'h'] ++ ' ' :: (name.toList ++ ' ' ::
        (['='] ++ ' ' :: ([] ++ '\'' :: (v.toList ++ '\'' :: [])))) := by
    simp
  have hbefore : ¬ closing <:+: ['L', 'i', 's', 't', ' ', 'w', 'i', 't', 'h'] := by decide
  have hequals : ¬ closing <:+: ['='] := by decide
  have hnone : ¬ closing <:+: [] := by decide
  have hblank : ' ' ∉ closing := by decide
  have hquote : '\'' ∉ closing := by decide
  rw [hchars, closing_infix_append_cons_iff hblank, or_iff_right hbefore,
    closing_infix_append_cons_iff hblank, closing_infix_append_cons_iff hblank,
    or_iff_right hequals, closing_infix_append_cons_iff hquote, or_iff_right hnone,
    closing_infix_append_cons_iff hquote, or_iff_left hnone]

end

/-! ## All comments -/

/-- Free text with which each comment ends where the file ends it. -/
structure Enclosable (s : Schema) : Prop where
  descriptions : ∀ op ∈ s.operations, op.type = .list ∨ op.type = .custom →
    ∀ text, op.remark? = some text → ¬ closing <:+: text.toList
  values : ∀ f ∈ Client.enumFields s, ∀ v ∈ Client.helperValues f,
    ¬ closing <:+: f.name.toList ∧ ¬ closing <:+: v.toList

/-- Which free text stays in the comments that it stands in. -/
structure CommentsKept (s : Schema) : Prop where
  header : ∃ rest, Kind.migration.text s =
    Migration.preamble s ++ ("CREATE TABLE IF NOT EXISTS public." ++ rest)
  header_iff : ∀ returns, Migration.AllSilent returns (Migration.preamble s) ↔
    Migration.StaysSilent returns (s.name ++ " Migration") ∧
      ∀ text, Migration.remark? s = some text → Migration.StaysSilent returns text
  shown : ∀ (k : Kind), ∀ m ∈ k.methods s, ∀ remark, m.remark = some remark →
    ∃ b, Shows (k.text s) remark b
  remarked : ∀ k remark, Remarked s k remark → ∃ m ∈ k.methods s, m.remark = some remark
  others : ∀ (k : Kind), ∀ m ∈ k.methods s, ∀ remark, m.remark = some remark →
    Remarked s k remark ∨ remark ∈ plainRemarks s
  closed_iff : ∀ (k : Kind) remark b, Shows (k.text s) remark b →
    (b.Closed ↔ ¬ closing <:+: remark.toList)
  all_iff : (∀ k remark b, Remarked s k remark → Shows (k.text s) remark b → b.Closed) ↔
    Enclosable s

/-- The lines before the table are comments just if the lines of the name and of the description
are; and a block ends where it should just if its remark has no closing sign. -/
theorem comments_kept (s : Schema) : CommentsKept s where
  header := Migration.exists_text_eq s
  header_iff := Migration.allSilent_preamble_iff s
  shown _ _ hm _ hremark := exists_shows_of_method hm hremark
  remarked _ _ hremarked := hremarked.exists_method
  others _ _ hm _ hremark := remarked_or_plain hm hremark
  closed_iff _ _ _ hshows := hshows.closed_iff
  all_iff := by
    constructor
    · intro hall
      have hopen {k : Kind} {remark : String} (hremarked : Remarked s k remark) :
          ¬ closing <:+: remark.toList := by
        obtain ⟨b, hshows⟩ := hremarked.exists_shows
        exact hshows.closed_iff.1 (hall k remark b hremarked hshows)
      constructor
      · exact fun op hop htype text htext => hopen (.service hop htype htext)
      · intro f hf v hv
        exact not_or.1 (mt (closing_infix_helperRemark_iff _ _).2 (hopen (.helper hf hv)))
    · rintro ⟨hdescriptions, hvalues⟩ k remark b hremarked hshows
      rw [hshows.closed_iff]
      cases hremarked with
      | repository hop htype htext => exact hdescriptions _ hop (.inr htype) _ htext
      | service hop htype htext | client hop htype htext => exact hdescriptions _ hop htype _ htext
      | helper hf hv =>
        rw [closing_infix_helperRemark_iff]
        exact not_or.2 (hvalues _ hf _ hv)

end Artifact

/-! ## A job -/

namespace Schema

/-- A table whose description has two lines, with an operation of which the description has a
closing sign in it, and an enumeration in which one value begins with it. -/
def job : Schema where
  name := "Job"
  table := "jobs"
  fields := [
    { name := "schedule", column := "schedule", type := .enum,
      enumValues := some ["daily", "*/5"] }]
  operations := [
    { type := .custom, name := some "queued", description := some "Jobs in work/*/queue" }]
  policies := []
  documentation := some { description := some "Jobs of a queue.\nOne row for each." }

def jobEntries : Entries := [
  (.text "name", .text "Job"),
  (.text "tableName", .text "jobs"),
  (.text "fields", .list [
    .map [(.text "name", .text "schedule"), (.text "dbName", .text "schedule"),
      (.text "type", .text "enum"), (.text "enumValues", .list [.text "daily", .text "*/5"])]]),
  (.text "operations", .list [
    .map [(.text "type", .text "custom"), (.text "name", .text "queued"),
      (.text "description", .text "Jobs in work/*/queue")]]),
  (.text "rls", .list []),
  (.text "documentation", .map [
    (.text "description", .text "Jobs of a queue.\nOne row for each.")])]

theorem job_accepted : job.Accepted := (accepted_iff job).2 ⟨jobEntries, rfl⟩

end Schema

namespace Artifact

theorem job_enumFields : Client.enumFields .job = Schema.job.fields := by
  have hfirst : (Client.clashes (Client.standardMethods ++ Client.customMethods .job)
      Schema.job.fields[0]).isEmpty = true :=
    (Client.isEmpty_clashes_iff _ _).2 (by decide)
  change Client.kept _ [Schema.job.fields[0]] = _
  rw [Client.kept_cons, if_pos hfirst]
  rfl

/-- The description of the job leaves its comment, and so do that of the operation in each of three
files and the value that begins with a closing sign. -/
theorem job_comments_left : Schema.job.Accepted ∧
    (∀ returns, ¬ Migration.AllSilent returns (Migration.preamble .job)) ∧
    (∀ k ∈ [Kind.repository, .service, .client], Left .job k "Jobs in work/*/queue") ∧
    Left .job .client "List with schedule = '*/5'" := by
  have hqueued {op : Operation} (hop : op ∈ Schema.job.operations) :
      op.type = .custom ∧ op.remark? = some "Jobs in work/*/queue" := by
    obtain rfl := List.mem_singleton.1 hop
    exact ⟨rfl, rfl⟩
  have hdescription : closing <:+: "Jobs in work/*/queue".toList :=
    ⟨"Jobs in work/".toList, "queue".toList, by decide⟩
  have hvalue : closing <:+: "List with schedule = '*/5'".toList :=
    ⟨"List with schedule = '".toList, "5'".toList, by decide⟩
  refine ⟨Schema.job_accepted, fun returns hsilent => ?_, ?_, ?_⟩
  · have hstays : ¬ Migration.StaysSilent returns "Jobs of a queue.\nOne row for each." := by
      cases returns <;> decide +kernel
    exact hstays (((Migration.allSilent_preamble_iff .job returns).1 hsilent).2 _ rfl)
  · obtain ⟨htype, hremark⟩ := hqueued List.mem_cons_self
    simp only [List.forall_mem_cons]
    exact ⟨.of_remarked (.repository List.mem_cons_self htype hremark) hdescription,
      .of_remarked (.service List.mem_cons_self (.inr htype) hremark) hdescription,
      .of_remarked (.client List.mem_cons_self (.inr htype) hremark) hdescription, by simp⟩
  · have hschedule : Schema.job.fields[0] ∈ Client.enumFields .job := by
      rw [job_enumFields]
      exact List.mem_cons_self
    exact .of_remarked (.helper hschedule (by decide : "*/5" ∈ Client.helperValues _)) hvalue

end Artifact
end Scaffold
