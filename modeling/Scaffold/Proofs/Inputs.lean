import Scaffold.Proofs.Absence
import Scaffold.Proofs.Records

/-!
# The layers agree on the inputs

A new row and a change have a type in the model and in the client, and a validation schema at the
endpoint. They differ in the owner of a new row alone, which the endpoint fills in; of a declared
field all of them say alike whether it may be left out or null.
-/
namespace Scaffold

open Artifact Script Text

/-! ## Members and keys -/

namespace Artifact

/-- Only the owner is an exception in the model. -/
theorem Model.createMember_eq {f : Field} (h : f.name ≠ Field.owner.name) :
    Model.createMember f = Client.createMember f := by
  rw [Model.createMember, Client.createMember, decide_eq_false h, Bool.or_false]

theorem Model.line_owner : (Model.createMember Field.owner).line = "  userId?: string" := by
  decide

/-- A validation schema has a key once, with one entry. -/
def Validation.HasOnly (entries : List Validation.Entry) (e : Validation.Entry) : Prop :=
  entries.filter (fun other => other.key = e.key) = [e]

/-- A validation schema stands in a text, with a line for each key and what it takes. -/
def Validation.Declares (text constant : String) (entries : List Validation.Entry) : Prop :=
  ∃ lines, text = unlines lines ∧ ["export const " ++ constant ++ " = z.object(\x7b"] ++
    entries.map (fun e => "  " ++ e.key ++ ": " ++ e.expression ++ ",") ++ ["\x7d)"] <:+: lines

theorem Validation.declares_of_infix {constant : String} {entries : List Entry}
    {lines : List String} (h : objectLines constant entries <:+: lines) :
    Declares (unlines lines) constant entries := by
  refine ⟨lines, rfl, ?_⟩
  rw [List.map_congr_left fun e _ => e.line_eq]
  exact (List.suffix_cons "" _).isInfix.trans h

theorem Validation.declares_create (s : Schema) :
    Declares (text s) (createConstant s) (createEntries s) :=
  declares_of_infix
    (List.infix_append_of_infix_left (List.infix_append_of_infix_left List.infix_append_right))

theorem Validation.declares_update (s : Schema) :
    Declares (text s) (updateConstant s) (updateEntries s) :=
  declares_of_infix (List.infix_append_of_infix_left List.infix_append_right)

end Artifact

namespace Schema

variable {s : Schema}

theorem nodup_writableNames (h : Field.CollisionFree s.fields) :
    (s.writableFields.map (·.name)).Nodup :=
  (nodup_columnNames h).sublist (List.filter_sublist.map _)

theorem nodup_updatableNames (h : Field.CollisionFree s.fields) :
    (s.updatableFields.map (·.name)).Nodup :=
  (nodup_writableNames h).sublist (List.filter_sublist.map _)

/-! ## Agreement -/

/-- The layers agree on a field of a new row: its key takes a missing value and null if its member
may be both left out and null. -/
structure CreatesAlike (s : Schema) (f : Field) (e : Validation.Entry) (m : Member) : Prop where
  key : e.key = f.name
  name : m.name = f.name
  validated : Validation.HasOnly (Validation.createEntries s) e
  model : (Model.createType s).DeclaresOnce m
  client : (Client.createInterface s).DeclaresOnce m
  missing : Admits e.expression .missing ↔ m.optional = true ∧ m.nullable = true
  null : Admits e.expression .null ↔ m.optional = true ∧ m.nullable = true

/-- The layers agree on a field of a change: its key takes null if its member may be null. -/
structure UpdatesAlike (s : Schema) (f : Field) (e : Validation.Entry) (m : Member) : Prop where
  key : e.key = f.name
  name : m.name = f.name
  validated : Validation.HasOnly (Validation.updateEntries s) e
  model : (Model.updateType s).DeclaresOnce m
  client : (Client.updateInterface s).DeclaresOnce m
  null : Admits e.expression .null ↔ m.nullable = true

theorem createsAlike {f : Field} (h : Field.CollisionFree s.fields) (hf : f ∈ s.fields) :
    s.CreatesAlike f (Validation.createEntry f) (Client.createMember f) := by
  have hwritable : f ∈ s.writableFields := by
    rw [writableFields_eq h]
    exact List.mem_cons_of_mem _ hf
  have hupdatable : f ∈ s.updatableFields := by
    rwa [updatableFields_eq h]
  have hname : f.name ≠ Field.owner.name :=
    fun howner => (h.unreserved f hf).1 ⟨Field.owner, by decide, .inl howner.symm⟩
  have hmodel : (Model.createType s).DeclaresOnce (Model.createMember f) :=
    filter_made_eq Model.createMember Member.name (fun _ => rfl) (nodup_writableNames h) hwritable
  have hbare : Bare (Validation.createEntry f).validator := f.bare_validator
  obtain ⟨hmissing, hnull⟩ := Validation.Entry.admits_expression_iff hbare
  exact {
    key := rfl
    name := rfl
    validated := filter_made_eq Validation.createEntry Validation.Entry.key (fun _ => rfl)
      (nodup_writableNames h) hwritable
    model := Model.createMember_eq hname ▸ hmodel
    client := filter_made_eq Client.createMember Member.name (fun _ => rfl)
      (nodup_updatableNames h) hupdatable
    missing := hmissing.trans (and_self_iff).symm
    null := hnull.trans (and_self_iff).symm }

theorem updatesAlike {f : Field} (h : Field.CollisionFree s.fields) (hf : f ∈ s.fields) :
    s.UpdatesAlike f (Validation.updateEntry f) f.optionalMember := by
  have hupdatable : f ∈ s.updatableFields := by
    rwa [updatableFields_eq h]
  have hmembers : (s.updatableFields.map Field.optionalMember).filter
      (fun m => m.name = f.optionalMember.name) = [f.optionalMember] :=
    filter_made_eq Field.optionalMember Member.name (fun _ => rfl) (nodup_updatableNames h)
      hupdatable
  have hbare : Bare (Validation.updateEntry f).validator := f.bare_validator
  exact {
    key := rfl
    name := rfl
    validated := filter_made_eq Validation.updateEntry Validation.Entry.key (fun _ => rfl)
      (nodup_updatableNames h) hupdatable
    model := hmembers
    client := hmembers
    null := (Validation.Entry.admits_expression_iff hbare).2 }

/-- The layers agree on the inputs, in the values they are made of and in their texts. -/
structure InputsAgree (s : Schema) : Prop where
  update : (Model.updateType s).body = (Client.updateInterface s).body
  create : (Model.createType s).body = "  userId?: string" :: (Client.createInterface s).body
  createKeys : (Validation.createEntries s).map (·.key) =
    "userId" :: (Validation.updateEntries s).map (·.key)
  updateKeys : (Validation.updateEntries s).map (·.key) = s.fields.map (·.name)
  createFields : ∀ f ∈ s.fields, ∃ e m, s.CreatesAlike f e m
  updateFields : ∀ f ∈ s.fields, ∃ e m, s.UpdatesAlike f e m
  createShown : Validation.Declares (Kind.validation.text s) (s.name ++ "CreateSchema")
    (Validation.createEntries s)
  updateShown : Validation.Declares (Kind.validation.text s) (s.name ++ "UpdateSchema")
    (Validation.updateEntries s)
  modelCreateShown : Declares (Kind.model.text s)
    ⟨"export type " ++ s.name ++ "CreateInput =", (Model.createType s).members⟩
  modelUpdateShown : Declares (Kind.model.text s)
    ⟨"export type " ++ s.name ++ "UpdateInput =", (Model.updateType s).members⟩
  clientCreateShown : Declares (Kind.client.text s)
    ⟨"export interface " ++ s.name ++ "CreateInput", (Client.createInterface s).members⟩
  clientUpdateShown : Declares (Kind.client.text s)
    ⟨"export interface " ++ s.name ++ "UpdateInput", (Client.updateInterface s).members⟩

end Schema

/-- The body of the model's input for a new row is the client's, after a line for the owner. -/
theorem Artifact.Model.body_createType {s : Schema} (h : Field.CollisionFree s.fields) :
    (createType s).body = "  userId?: string" :: (Client.createInterface s).body := by
  have hmodel : (createType s).body = (s.writableFields.map createMember).map Member.line := rfl
  have hclient : (Client.createInterface s).body =
      (s.updatableFields.map Client.createMember).map Member.line := rfl
  have hdeclared : s.fields.map createMember = s.fields.map Client.createMember := by
    refine List.map_congr_left fun f hf => createMember_eq ?_
    exact fun howner => (h.unreserved f hf).1 ⟨Field.owner, by decide, .inl howner.symm⟩
  rw [hmodel, hclient, Schema.writableFields_eq h, Schema.updatableFields_eq h, List.map_cons,
    List.map_cons, line_owner, hdeclared]

theorem inputs_agree {s : Schema} (h : s.Accepted) : s.InputsAgree := by
  have hfree := h.collisionFree
  have hupdates : (Validation.updateEntries s).map (·.key) = s.fields.map (·.name) := by
    have hmap : (Validation.updateEntries s).map (·.key) = s.updatableFields.map (·.name) :=
      List.map_map
    rw [hmap, Schema.updatableFields_eq hfree]
  have hcreates : (Validation.createEntries s).map (·.key) = "userId" :: s.fields.map (·.name) := by
    have hmap : (Validation.createEntries s).map (·.key) = s.writableFields.map (·.name) :=
      List.map_map
    rw [hmap, Schema.writableFields_eq hfree]
    rfl
  exact {
    update := rfl
    create := Model.body_createType hfree
    createKeys := hupdates ▸ hcreates
    updateKeys := hupdates
    createFields := fun f hf => ⟨_, _, Schema.createsAlike hfree hf⟩
    updateFields := fun f hf => ⟨_, _, Schema.updatesAlike hfree hf⟩
    createShown := Validation.declares_create s
    updateShown := Validation.declares_update s
    modelCreateShown := Model.declares s (Model.createType s) (by simp)
    modelUpdateShown := Model.declares s (Model.updateType s) (by simp)
    clientCreateShown := Client.declares s (Client.createInterface s) (by simp)
    clientUpdateShown := Client.declares s (Client.updateInterface s) (by simp) }

theorem article_inputs_agree : Schema.article.InputsAgree ∧
    (Model.createType Schema.article).body = [
      "  userId?: string", "  title: string", "  status?: 'draft' | 'live' | null",
      "  step?: 'none' | 'create' | null"] ∧
    (Validation.updateEntries Schema.article).map Validation.Entry.line = [
      "  title: z.string().optional(),",
      "  status: z.enum(['draft', 'live']).optional().nullable(),",
      "  step: z.enum(['none', 'create']).optional().nullable(),"] :=
  ⟨inputs_agree Schema.article_accepted, by decide +kernel, by decide +kernel⟩

end Scaffold
