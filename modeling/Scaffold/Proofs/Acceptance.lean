import Scaffold.Loading
import Scaffold.Proofs.Reading
import Scaffold.Proofs.Running

/-!
# Loading only observes

Whatever a source is, loading it leaves the world as it was, and fails only with a complaint about a
document. The schemas that some source loads to are the accepted ones; they are those that can be
read from a mapping.
-/
namespace Scaffold

/-- A complaint about the document itself: it cannot be read, or not be understood. -/
def Failure.isDocument : Failure → Prop
  | .unreadable .. | .malformed .. => True
  | _ => False

namespace Loading

open Run

abbrev OnlyReads {α : Type} (act : Run α) : Prop := Observes Failure.isDocument act

theorem observes_isThere {allowed : Failure → Prop} (p : Path) : Observes allowed (isThere p) := by
  refine .bind .get fun w => ?_
  split
  · exact .pure false
  · exact .inquire p _

theorem onlyReads_text (p : Path) : OnlyReads (text p) := by
  refine .bind (observes_isThere p) fun there => ?_
  refine .guarded there (.fail trivial) (.bind .get fun w => ?_)
  split
  · split
    · exact .pure _
    · exact .fail trivial
  · exact .fail trivial

theorem onlyReads_ofYaml (p : Path) (s : String) : OnlyReads (ofYaml p s) := by
  unfold ofYaml
  split
  · exact .bind .get fun _ => .pure _
  · exact .fail trivial
  · exact .breakDown _

theorem onlyReads_jsonOrWhy (s : String) : OnlyReads (jsonOrWhy s) := by
  unfold jsonOrWhy
  split
  · exact .breakDown _
  · exact .breakDown _
  · exact .pure _

theorem onlyReads_parse (p : Path) (suffix s : String) : OnlyReads (parse p suffix s) := by
  unfold parse
  split
  · exact onlyReads_ofYaml p s
  · refine .bind (onlyReads_jsonOrWhy s) fun result => ?_
    cases result
    · exact .fail trivial
    · exact .pure _
  · refine .bind (.note ..) fun _ => .bind (onlyReads_jsonOrWhy s) fun result => ?_
    cases result
    · exact onlyReads_ofYaml p s
    · exact .pure _

theorem onlyReads_document (p : Path) : OnlyReads (document p) := by
  refine .bind (onlyReads_text p) fun s => .bind (onlyReads_parse p _ s) fun d => ?_
  split
  · exact .pure _
  · exact .fail trivial

theorem onlyReads_checked {α : Type} (source : Option String) (read : Reading α)
    (entries : Entries) : OnlyReads (checked source read entries) := by
  unfold checked
  split
  · exact .pure _
  · exact .fail trivial

theorem onlyReads_schema (source : Source) : OnlyReads (schema source) := by
  cases source with
  | entries es => exact onlyReads_checked none Schema.read es
  | file path =>
    refine .bind (onlyReads_document _) fun es => ?_
    exact .bind (onlyReads_checked _ Schema.read es) fun s => .bind (.note ..) fun _ => .pure s

end Loading

/-! ## Accepted schemas -/

namespace Schema

/-- A schema that some source loads to, in some world. -/
def Accepted (s : Schema) : Prop :=
  ∃ source w, ((Loading.schema source).start w).1 = .ok s

end Schema

namespace Loading

theorem start_checked {α : Type} (source : Option String) (read : Reading α) (entries : Entries)
    (w : World) :
    (checked source read entries).start w = match read (.map entries) with
      | .valid a => (.ok a, w)
      | .invalid problems =>
        (.error (.failure (.malformed source (Problem.messages problems))), w) := by
  unfold checked
  cases read (.map entries) <;> rfl

theorem read_of_checked {α : Type} {source : Option String} {read : Reading α} {entries : Entries}
    {w : World} {a : α} (h : ((checked source read entries).start w).1 = .ok a) :
    read (.map entries) = .valid a := by
  rw [start_checked] at h
  split at h
  · next b hb =>
    cases h
    exact hb
  · cases h

end Loading

namespace Schema

theorem accepted_iff (s : Schema) : s.Accepted ↔ ∃ entries, read (.map entries) = .valid s := by
  constructor
  · rintro ⟨source, w, h⟩
    cases source with
    | entries es => exact ⟨es, Loading.read_of_checked h⟩
    | file path =>
      simp only [Loading.schema, Run.start_bind] at h
      rcases hdocument : (Loading.document (Path.ofString path)).start w with ⟨stop | es, mid⟩
      · simp [hdocument] at h
      · simp only [hdocument] at h
        rcases hchecked : (Loading.checked (some (Path.ofString path).text) read es).start mid
          with ⟨stop | t, after⟩
        · simp [hchecked] at h
        · simp only [hchecked, Run.start_note, Run.start_pure, Except.ok.injEq] at h
          subst h
          exact ⟨es, Loading.read_of_checked (congrArg Prod.fst hchecked)⟩
  · rintro ⟨entries, h⟩
    refine ⟨.entries entries, Run.bareWorld, ?_⟩
    simp only [Loading.schema, Loading.start_checked, h]

/-- An accepted schema has sound parts, and its fields do not collide. -/
theorem Accepted.parts {s : Schema} (h : s.Accepted) :
    ∃ entries, SoundParts entries s ∧ Field.firstCollision? [] s.fields = none := by
  obtain ⟨entries, hread⟩ := (accepted_iff s).1 h
  exact ⟨entries, read_eq_valid_iff.1 hread⟩

theorem Accepted.name_of_custom {s : Schema} (h : s.Accepted) {op : Operation}
    (hop : op ∈ s.operations) (hcustom : op.type = .custom) :
    op.name = some op.label ∧ op.label ≠ "" := by
  obtain ⟨entries, hparts, _⟩ := h.parts
  obtain ⟨d, hlist⟩ := Label.exists_of_required hparts.operations
  obtain ⟨d', hread⟩ := Reading.exists_of_mem_list hlist hop
  exact Operation.name_of_read hread hcustom

/-! ## An article -/

/-- A schema with two enumerations. A value of the second one is also the name of a method, so the
command-line client has no helper for it. -/
def article : Schema where
  name := "Article"
  table := "articles"
  fields := [
    { name := "title", column := "title", type := .string, required := true },
    { name := "status", column := "status", type := .enum, enumValues := some ["draft", "live"] },
    { name := "step", column := "last_step", type := .enum,
      enumValues := some ["none", "create"] }]
  operations := [
    { type := .list, filters := ["status", "title", "step"], limit := some 20 },
    { type := .get },
    { type := .custom, name := some "by_author", filters := ["author", "title"] }]
  policies := []

def articleEntries : Entries := [
  (.text "name", .text "Article"),
  (.text "tableName", .text "articles"),
  (.text "fields", .list [
    .map [(.text "name", .text "title"), (.text "dbName", .text "title"),
      (.text "type", .text "string"), (.text "required", .bool true)],
    .map [(.text "name", .text "status"), (.text "dbName", .text "status"),
      (.text "type", .text "enum"), (.text "enumValues", .list [.text "draft", .text "live"])],
    .map [(.text "name", .text "step"), (.text "dbName", .text "last_step"),
      (.text "type", .text "enum"), (.text "enumValues", .list [.text "none", .text "create"])]]),
  (.text "operations", .list [
    .map [(.text "type", .text "list"), (.text "limit", .int 20),
      (.text "filters", .list [.text "status", .text "title", .text "step"])],
    .map [(.text "type", .text "get")],
    .map [(.text "type", .text "custom"), (.text "name", .text "by_author"),
      (.text "filters", .list [.text "author", .text "title"])]]),
  (.text "rls", .list [])]

theorem article_accepted : article.Accepted :=
  (accepted_iff article).2 ⟨articleEntries, rfl⟩

end Schema
end Scaffold
