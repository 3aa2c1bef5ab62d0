import Scaffold.Proofs.Sight
import Scaffold.Proofs.Stages

/-!
# No artifact depends on what is not for it

A schema has parts that are for some artifacts only: the policies are for the migration, the rules
for values are for the validation schemas. Two schemas that differ in such a part alone make the
same of every other artifact, byte for byte.
-/
namespace Scaffold

open Artifact Run

/-- A part of a schema that is not for all artifacts. -/
inductive Part
  | documentation
  | policies
  | operations
  /-- How the table stores the declared fields. -/
  | storage
  /-- The rules for the values of the declared fields. -/
  | rules
deriving DecidableEq, Repr

namespace Part

/-- The artifacts that a part is for. -/
def readers : Part → List Kind
  | .documentation => [.migration, .adminPage]
  | .policies => [.migration]
  | .operations => [.repository, .endpoint, .service, .hook, .client]
  | .storage => [.migration]
  | .rules => [.validation]

/-- A schema without a part. -/
def without : Part → Schema → Schema
  | .documentation, s => { s with documentation := none }
  | .policies, s => { s with policies := [] }
  | .operations, s => { s with operations := [] }
  | .storage, s => s.through Field.withoutStorage
  | .rules, s => s.through Field.withoutRules

end Part

namespace Schema

/-- Two schemas that are equal except for a part. -/
def EqualBut (part : Part) (s s' : Schema) : Prop := part.without s = part.without s'

theorem through_through (view view' : Field → Field) (s : Schema) :
    (s.through view).through view' = s.through (view' ∘ view) := by
  rw [through, through, List.map_map]
  rfl

end Schema

namespace Artifact.Kind

/-- Most texts show only the shapes of fields. -/
theorem text_shape (kind : Kind) (hmigration : kind ≠ .migration) (hvalidation : kind ≠ .validation)
    (s : Schema) : kind.text (s.through Field.shape) = kind.text s := by
  cases kind with
  | migration => contradiction
  | validation => contradiction
  | repository => exact Repository.text_shape s
  | endpoint => exact Endpoint.text_shape s
  | model => exact Model.text_shape s
  | service => exact Service.text_shape s
  | hook => exact Hook.text_shape s
  | adminPage => exact AdminPage.text_shape s
  | demo => exact Demo.text_shape s
  | client => exact Client.text_shape s

/-- A text that shows only shapes does not change with what no shape has. -/
theorem text_through {view : Field → Field} (hview : Field.shape ∘ view = Field.shape) (kind : Kind)
    (hmigration : kind ≠ .migration) (hvalidation : kind ≠ .validation) (s : Schema) :
    kind.text (s.through view) = kind.text s := by
  rw [← kind.text_shape hmigration hvalidation (s.through view), Schema.through_through, hview,
    kind.text_shape hmigration hvalidation]

/-- Without a part, the text of an artifact that it is not for is the same. -/
theorem text_without {part : Part} {kind : Kind} (h : kind ∉ part.readers) (s : Schema) :
    kind.text (part.without s) = kind.text s := by
  cases part with
  | documentation =>
    cases kind
    case migration | adminPage => exact absurd (by decide) h
    all_goals rfl
  | policies =>
    cases kind
    case migration => exact absurd (by decide) h
    all_goals rfl
  | operations =>
    cases kind
    case migration | validation | model | adminPage | demo => rfl
    all_goals exact absurd (by decide) h
  | storage =>
    have hmigration : kind ≠ .migration := fun hkind => h (hkind ▸ by decide)
    by_cases hvalidation : kind = .validation
    · subst hvalidation
      exact Validation.text_withoutStorage s
    · have hview : Field.shape ∘ Field.withoutStorage = Field.shape := rfl
      exact text_through hview kind hmigration hvalidation s
  | rules =>
    have hvalidation : kind ≠ .validation := fun hkind => h (hkind ▸ by decide)
    by_cases hmigration : kind = .migration
    · subst hmigration
      exact Migration.text_withoutRules s
    · have hview : Field.shape ∘ Field.withoutRules = Field.shape := rfl
      exact text_through hview kind hmigration hvalidation s

theorem text_eq_of_equalBut {part : Part} {kind : Kind} {s s' : Schema} (h : s.EqualBut part s')
    (hkind : kind ∉ part.readers) : kind.text s = kind.text s' := by
  rw [← text_without hkind s, h, text_without hkind s']

end Artifact.Kind

/-! ## Artifacts -/

/-- Without a part that an artifact is not for, the same numerals are written out for it. The rules
are an exception: their bounds are in the views of most kinds. -/
theorem Artifact.numerals_without {part : Part} {kind : Kind} (hkind : kind ∉ part.readers)
    (hrules : part ≠ .rules) (s : Schema) :
    numerals .shipped kind (part.without s) = numerals .shipped kind s := by
  cases part with
  | documentation | policies => rfl
  | operations =>
    cases kind
    case migration | validation | model | adminPage | demo => rfl
    all_goals exact absurd (by decide) hkind
  | storage =>
    have hcolumns : Field.Alike Field.withoutStorage (s.through Field.withoutStorage).columns
        s.columns :=
      s.columns_through fun _ => rfl
    have hbounds : (s.through Field.withoutStorage).columns.flatMap Field.lengthBounds =
        s.columns.flatMap Field.lengthBounds :=
      hcolumns.flatMap fun _ => rfl
    have hlimited : kind.limitedOperations (s.through Field.withoutStorage) =
        kind.limitedOperations s := by
      cases kind <;> rfl
    unfold numerals Part.without
    rw [hbounds, hlimited]
  | rules => contradiction

theorem Part.names_without (part : Part) (s : Schema) :
    (part.without s).name = s.name ∧ (part.without s).table = s.table := by
  cases part <;> exact ⟨rfl, rfl⟩

theorem Schema.EqualBut.names {part : Part} {s s' : Schema} (h : s.EqualBut part s') :
    s.name = s'.name ∧ s.table = s'.table := by
  have hname := congrArg Schema.name h
  have htable := congrArg Schema.table h
  rw [(part.names_without s).1, (part.names_without s').1] at hname
  rw [(part.names_without s).2, (part.names_without s').2] at htable
  exact ⟨hname, htable⟩

namespace Generator

/-- What making an artifact comes to, whatever the world is. -/
def artifactResult (g : Generator) (timestamp : String) (s : Schema) (kind : Kind) :
    Except Stop Artifact :=
  if (Artifact.numerals g.templates kind s).any fun n => (Number.numeral? n).isNone then
    .error (.breakdown (.tooManyDigits none))
  else match Artifact.render g.templates kind ⟨kind, s⟩ with
    | .error stop => .error stop
    | .ok content => .ok {
        kind
        path := g.config.layout.path timestamp s.name s.table kind
        content
        description := kind.description }

theorem exists_start_remarks (messages : List String) (w : World) :
    ∃ w', start (forIn messages PUnit.unit fun message _ => do
      Run.note .debug .views message
      pure (ForInStep.yield PUnit.unit)) w = (.ok PUnit.unit, w') := by
  induction messages generalizing w with
  | nil => exact ⟨w, rfl⟩
  | cons message rest ih =>
    rw [List.forIn_cons]
    exact ih { w with journal := w.journal ++ [⟨.debug, .views, message⟩] }

theorem fst_start_artifact (g : Generator) (timestamp : String) (s : Schema) (kind : Kind)
    (w : World) :
    ((g.artifact timestamp s kind).start w).1 = g.artifactResult timestamp s kind := by
  obtain ⟨w', hremarks⟩ := exists_start_remarks (preparation s kind) w
  unfold artifact artifactResult
  rw [start_bind_of_ok hremarks]
  split
  · rfl
  · unfold rendered
    cases Artifact.render g.templates kind ⟨kind, s⟩ <;> rfl

variable {g : Generator} {timestamp : String} {part : Part} {s s' : Schema} {kind : Kind}

theorem artifactResult_eq (hshipped : g.templates = .shipped) (h : s.EqualBut part s')
    (hkind : kind ∉ part.readers) (hrules : part ≠ .rules) :
    g.artifactResult timestamp s kind = g.artifactResult timestamp s' kind := by
  have hnumerals : Artifact.numerals .shipped kind s = Artifact.numerals .shipped kind s' := by
    rw [← Artifact.numerals_without hkind hrules s, h, Artifact.numerals_without hkind hrules s']
  unfold artifactResult
  rw [hshipped, hnumerals, render_shipped, render_shipped, kind.text_eq_of_equalBut h hkind,
    h.names.1, h.names.2]

/-- The artifact of a kind, where shipped templates give one. -/
theorem eq_of_artifactResult (hshipped : g.templates = .shipped) {a : Artifact}
    (h : g.artifactResult timestamp s kind = .ok a) :
    a = ⟨kind, g.config.layout.path timestamp s.name s.table kind, kind.text s, kind.description,
      false⟩ := by
  unfold artifactResult at h
  split at h
  · cases h
  · rw [hshipped, render_shipped] at h
    cases h
    rfl

theorem artifactResults_of_artifacts {artifacts : List Artifact} {w w' : World}
    (h : (g.artifacts none s).start w = (.ok artifacts, w')) :
    List.Forall₂ (fun kind a =>
        g.artifactResult (w.now.format g.config.timestampFormat) s kind = .ok a)
      Kind.all artifacts := by
  rw [start_artifacts] at h
  refine forall₂_of_start_mapM (fun kind a w₁ w₂ hmade => ?_) h
  rw [← fst_start_artifact g _ s kind w₁, hmade]

/-- The artifacts of two schemas, pair by pair: each pair is of one kind, and the two are the same
unless the part is for that kind. -/
theorem forall₂_of_artifactResults (hshipped : g.templates = .shipped) (h : s.EqualBut part s')
    {kinds : List Kind} {artifacts artifacts' : List Artifact}
    (hmade : List.Forall₂ (fun kind a => g.artifactResult timestamp s kind = .ok a) kinds artifacts)
    (hmade' :
      List.Forall₂ (fun kind a => g.artifactResult timestamp s' kind = .ok a) kinds artifacts') :
    List.Forall₂ (fun a a' => a.kind = a'.kind ∧ (a.kind ∉ part.readers → a = a'))
      artifacts artifacts' := by
  induction hmade generalizing artifacts' with
  | nil =>
    cases hmade'
    exact .nil
  | cons hfirst _ ih =>
    obtain _ | ⟨hfirst', hrest'⟩ := hmade'
    obtain rfl := eq_of_artifactResult hshipped hfirst
    obtain rfl := eq_of_artifactResult hshipped hfirst'
    refine .cons ⟨rfl, fun hkind => ?_⟩ (ih hrest')
    rw [Kind.text_eq_of_equalBut h hkind, h.names.1, h.names.2]

end Generator

/-- Two schemas make the same of every artifact that a part is not for: the texts are the same, so
the artifacts of two runs are, if there are any. Only bounds with too many digits in the rules can
keep an artifact from being made at all. -/
structure Schema.Indistinct (part : Part) (s s' : Schema) : Prop where
  texts : ∀ kind ∉ part.readers, kind.text s = kind.text s'
  results : part ≠ .rules → ∀ g : Generator, g.templates = .shipped → ∀ kind ∉ part.readers,
    ∀ timestamp w w', ((g.artifact timestamp s kind).start w).1 =
      ((g.artifact timestamp s' kind).start w').1
  artifacts : ∀ g : Generator, g.templates = .shipped → ∀ w w' v v' artifacts artifacts',
    w.now = w'.now → (g.artifacts none s).start w = (.ok artifacts, v) →
    (g.artifacts none s').start w' = (.ok artifacts', v') →
    List.Forall₂ (fun a a' => a.kind = a'.kind ∧ (a.kind ∉ part.readers → a = a'))
      artifacts artifacts'

/-- Schemas that are equal except for a part are not told apart by the artifacts that the part is
not for. -/
theorem parts_do_not_interfere {part : Part} {s s' : Schema} (h : s.EqualBut part s') :
    s.Indistinct part s' where
  texts _ hkind := Kind.text_eq_of_equalBut h hkind
  results hrules g hshipped kind hkind timestamp w w' := by
    rw [Generator.fst_start_artifact, Generator.fst_start_artifact]
    exact Generator.artifactResult_eq hshipped h hkind hrules
  artifacts g hshipped w w' v v' artifacts artifacts' hnow hmade hmade' := by
    have hresults := Generator.artifactResults_of_artifacts hmade
    rw [hnow] at hresults
    exact Generator.forall₂_of_artifactResults hshipped h hresults
      (Generator.artifactResults_of_artifacts hmade')

/-! ## A memo -/

namespace Schema

/-- A schema with one field, whose values may have to differ from row to row. -/
def memo (unique : Bool) : Schema where
  name := "Memo"
  table := "memos"
  fields := [{ name := "body", column := "body", type := .string, unique }]
  operations := [{ type := .list }]
  policies := []

def memoEntries (unique : Bool) : Entries := [
  (.text "name", .text "Memo"),
  (.text "tableName", .text "memos"),
  (.text "fields", .list [.map [
    (.text "name", .text "body"), (.text "dbName", .text "body"), (.text "type", .text "string"),
    (.text "unique", .bool unique)]]),
  (.text "operations", .list [.map [(.text "type", .text "list")]]),
  (.text "rls", .list [])]

theorem memo_accepted (unique : Bool) : (memo unique).Accepted :=
  (accepted_iff _).2 ⟨memoEntries unique, rfl⟩

end Schema

/-- Only the migration tells the two memos apart, and it does. -/
theorem memos_indistinct :
    (Schema.memo false).Accepted ∧ (Schema.memo true).Accepted ∧
    (Schema.memo false).EqualBut .storage (Schema.memo true) ∧
    (Schema.memo false).Indistinct .storage (Schema.memo true) ∧
    Migration.text (Schema.memo false) ≠ Migration.text (Schema.memo true) :=
  ⟨Schema.memo_accepted false, Schema.memo_accepted true, rfl, parts_do_not_interfere rfl,
    by decide +kernel⟩

end Scaffold
