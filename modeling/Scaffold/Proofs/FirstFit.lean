import Mathlib.Data.List.Flatten
import Mathlib.Data.List.Perm.Subperm
import Scaffold.Proofs.Ambiguity

/-!
# The client keeps what fits first

The command-line client goes through the enumerations in order and keeps each one whose helpers are
free beside all that was taken before. The loop is followed by its state, the names taken so far: a
list that is cut anywhere is kept up to the cut, and behind it with the helpers of what was kept.
So an enumeration is dropped just for a reason that stands before it. The kept ones fit together,
and none of the dropped ones could be added to them.
-/
namespace Scaffold.Artifact.Client

open Text

/-- Enumerations that can all have their helpers, beside methods whose names are taken. -/
structure Fits (taken : List String) (fields : List Field) : Prop where
  nodup : (fields.flatMap helpers).Nodup
  apart : (fields.flatMap helpers).Disjoint taken

/-- Why an enumeration is dropped: a helper of it is there twice, or taken, or a helper of an
enumeration that was kept already. -/
def Clashing (taken : List String) (already : List Field) (f : Field) : Prop :=
  ¬ (helpers f).Nodup ∨ (∃ h ∈ helpers f, h ∈ taken) ∨ ∃ g ∈ already, ∃ h ∈ helpers f, h ∈ helpers g

instance (taken : List String) (already : List Field) (f : Field) :
    Decidable (Clashing taken already f) :=
  inferInstanceAs (Decidable (_ ∨ _ ∨ _))

namespace Fits

variable {taken : List String} {fields fields' : List Field}

theorem of_perm (hperm : fields.Perm fields') (hfits : Fits taken fields) : Fits taken fields' := by
  have hhelpers : (fields.flatMap helpers).Perm (fields'.flatMap helpers) := hperm.flatMap_right _
  exact ⟨hhelpers.nodup_iff.1 hfits.nodup, fun h hmem => hfits.apart (hhelpers.mem_iff.2 hmem)⟩

theorem of_sublist (hsub : fields'.Sublist fields) (hfits : Fits taken fields) :
    Fits taken fields' := by
  have hhelpers : (fields'.flatMap helpers).Sublist (fields.flatMap helpers) := hsub.flatMap helpers
  exact ⟨hfits.nodup.sublist hhelpers, fun h hmem => hfits.apart (hhelpers.subset hmem)⟩

theorem of_subperm (hsub : fields'.Subperm fields) (hfits : Fits taken fields) :
    Fits taken fields' := by
  obtain ⟨middle, hperm, hmiddle⟩ := hsub
  exact (hfits.of_sublist hmiddle).of_perm hperm

/-- An enumeration that fits to others clashes with none of them. -/
theorem not_clashing {f : Field} (hfits : Fits taken (f :: fields)) :
    ¬ Clashing taken fields f := by
  obtain ⟨hnodup, hapart⟩ := hfits
  rw [List.flatMap_cons] at hnodup hapart
  have hown : ∀ h ∈ helpers f, h ∉ taken := fun h hmem =>
    hapart (List.mem_append_left _ hmem)
  have hothers := (List.nodup_append'.1 hnodup).2.2
  rintro (hrepeated | ⟨h, hmem, htaken⟩ | ⟨g, hg, h, hmem, hother⟩)
  · exact hrepeated (List.nodup_append'.1 hnodup).1
  · exact hown h hmem htaken
  · exact hothers hmem (List.mem_flatMap.2 ⟨g, hg, hother⟩)

end Fits

theorem Clashing.mono {taken : List String} {already already' : List Field} {f : Field}
    (hsub : already ⊆ already') (hclash : Clashing taken already f) :
    Clashing taken already' f := by
  rcases hclash with hrepeated | htaken | ⟨g, hg, hshared⟩
  · exact .inl hrepeated
  · exact .inr (.inl htaken)
  · exact .inr (.inr ⟨g, hsub hg, hshared⟩)

/-! ## The loop -/

theorem isEmpty_clashes_iff_disjoint (taken : List String) (f : Field) :
    (clashes taken f).isEmpty = true ↔ (helpers f).Nodup ∧ (helpers f).Disjoint taken := by
  rw [isEmpty_clashes_iff, List.nodup_iff_count_le_one]
  constructor
  · refine fun hnew => ⟨fun h => ?_, fun h hmem => (hnew h hmem).1⟩
    by_cases hmem : h ∈ helpers f
    · exact (hnew h hmem).2
    · rw [List.count_eq_zero.2 hmem]
      exact Nat.zero_le 1
  · exact fun hnew h hmem => ⟨hnew.2 hmem, hnew.1 h⟩

/-- What the loop finds with the helpers of what it kept among the names taken. -/
theorem isEmpty_clashes_append_iff (taken : List String) (already : List Field) (f : Field) :
    (clashes (taken ++ already.flatMap helpers) f).isEmpty = true ↔ ¬ Clashing taken already f := by
  rw [isEmpty_clashes_iff_disjoint, List.disjoint_append_right, Clashing]
  simp only [List.Disjoint, List.mem_flatMap]
  grind

theorem kept_sublist (taken : List String) (fields : List Field) :
    (kept taken fields).Sublist fields := by
  induction fields generalizing taken with
  | nil => exact .slnil
  | cons f rest ih =>
    rw [kept_cons]
    split
    · exact (ih _).cons_cons f
    · exact (ih _).cons f

/-- By induction on what stands before the cut, for every state of the loop. -/
theorem kept_append (taken : List String) (before after : List Field) :
    kept taken (before ++ after) =
      kept taken before ++ kept (taken ++ (kept taken before).flatMap helpers) after := by
  induction before generalizing taken with
  | nil => simp [kept, firstFit]
  | cons f rest ih =>
    rw [List.cons_append, kept_cons, kept_cons]
    split
    · rw [ih, List.cons_append, List.flatMap_cons, List.append_assoc]
    · exact ih taken

theorem fits_kept (taken : List String) (fields : List Field) : Fits taken (kept taken fields) :=
  ⟨(nodup_helpers_kept taken fields).1, fun h hmem => (nodup_helpers_kept taken fields).2 h hmem⟩

section

variable {taken : List String} {before after : List Field} {f : Field}

/-- Of what stands before an enumeration, the same is kept in the end as when its turn comes. -/
theorem mem_kept_before_iff (hnodup : (before ++ f :: after).Nodup) {g : Field} :
    g ∈ kept taken before ↔ g ∈ before ∧ g ∈ kept taken (before ++ f :: after) := by
  rw [kept_append, List.mem_append]
  constructor
  · exact fun hg => ⟨(kept_sublist _ _).subset hg, .inl hg⟩
  · rintro ⟨hbefore, hg | hg⟩
    · exact hg
    · have hafter : g ∈ f :: after := (kept_sublist _ _).subset hg
      exact absurd hafter fun hmem => (List.nodup_append'.1 hnodup).2.2 hbefore hmem

theorem notMem_kept_iff (hnodup : (before ++ f :: after).Nodup) :
    f ∉ kept taken (before ++ f :: after) ↔ Clashing taken (kept taken before) f := by
  have hbefore : f ∉ kept taken before := fun hmem =>
    (List.nodup_append'.1 hnodup).2.2 ((kept_sublist _ _).subset hmem) List.mem_cons_self
  have hafter (taken' : List String) : f ∉ kept taken' after := fun hmem =>
    (List.nodup_cons.1 (List.nodup_append'.1 hnodup).2.1).1 ((kept_sublist _ _).subset hmem)
  rw [kept_append, List.mem_append, not_or, kept_cons]
  have hturn := isEmpty_clashes_append_iff taken (kept taken before) f
  split
  · next hfits =>
    exact ⟨fun hdropped => absurd List.mem_cons_self hdropped.2,
      fun hclash => absurd hclash (hturn.1 hfits)⟩
  · next hclash =>
    rw [hturn, not_not] at hclash
    exact ⟨fun _ => hclash, fun _ => ⟨hbefore, hafter _⟩⟩

/-- A dropped enumeration clashes with what is kept, so it fits to none of it. -/
theorem not_fits_cons_kept {fields : List Field} (hnodup : fields.Nodup) (hf : f ∈ fields)
    (hdropped : f ∉ kept taken fields) : ¬ Fits taken (f :: kept taken fields) := by
  obtain ⟨before, after, rfl⟩ := List.append_of_mem hf
  have hclash := (notMem_kept_iff hnodup).1 hdropped
  have hsub : kept taken before ⊆ kept taken (before ++ f :: after) := fun g hg =>
    ((mem_kept_before_iff hnodup).1 hg).2
  exact fun hfits => hfits.not_clashing (hclash.mono hsub)

/-- Among the lists that fit, what is kept is a largest one. -/
theorem eq_kept_of_fits {fields larger : List Field} (hnodup : fields.Nodup)
    (hlarger : larger.Sublist fields) (hkept : (kept taken fields).Sublist larger)
    (hfits : Fits taken larger) : larger = kept taken fields := by
  have hsub : larger ⊆ kept taken fields := by
    intro f hf
    by_contra hdropped
    have hadded : (f :: kept taken fields).Subperm larger :=
      List.cons_subperm_of_not_mem_of_mem hdropped hf hkept.subperm
    exact not_fits_cons_kept hnodup (hlarger.subset hf) hdropped (hfits.of_subperm hadded)
  have hlength : larger.length ≤ (kept taken fields).length :=
    ((hnodup.sublist hlarger).subperm hsub).length_le
  exact (hkept.eq_of_length_le hlength).symm

end

/-! ## The enumerations of a schema -/

/-- The names that are taken before any enumeration has its turn. -/
def reserved (s : Schema) : List String :=
  standardMethods ++ (s.operationsOf .custom).map fun op => camelCase op.label

theorem customMethods_eq {s : Schema} (h : s.Accepted) :
    customMethods s = (s.operationsOf .custom).map fun op => camelCase op.label := by
  have hnamed : ∀ op ∈ s.operationsOf .custom, op.name.filter (· ≠ "") = some op.label := by
    intro op hop
    obtain ⟨hmem, hcustom⟩ := List.mem_filter.1 hop
    obtain ⟨hname, hnonempty⟩ := h.name_of_custom hmem (by simpa using hcustom)
    rw [hname, Option.filter_some]
    simp [hnonempty]
  have hlabels : (s.operationsOf .custom).filterMap (fun op => op.name.filter (· ≠ "")) =
      (s.operationsOf .custom).map Operation.label := by
    rw [← List.filterMap_eq_map]
    exact List.filterMap_congr hnamed
  rw [customMethods, hlabels, List.map_map]
  rfl

theorem enumFields_eq_kept {s : Schema} (h : s.Accepted) :
    enumFields s = kept (reserved s) s.enumFields := by
  rw [reserved, ← customMethods_eq h]
  rfl

theorem nodup_schema_enumFields {s : Schema} (h : s.Accepted) : s.enumFields.Nodup :=
  .of_map _ (Schema.nodup_enumNames h.collisionFree)

/-- How the client chooses among the enumerations of a schema. -/
structure ChoosesFirstFit (s : Schema) : Prop where
  shown : (scope s).lookup "enum_fields" = some (Variables.enumFields (enumFields s))
  ordered : (enumFields s).Sublist s.enumFields
  dropped : ∀ before f after, s.enumFields = before ++ f :: after →
    (f ∉ enumFields s ↔ Clashing (reserved s) (before.filter (· ∈ enumFields s)) f)
  fits : Fits (reserved s) (enumFields s)
  full : ∀ f ∈ s.enumFields, f ∉ enumFields s → ∀ fields,
    fields.Perm (f :: enumFields s) → ¬ Fits (reserved s) fields
  largest : ∀ fields, fields.Sublist s.enumFields → (enumFields s).Sublist fields →
    Fits (reserved s) fields → fields = enumFields s

/-- The client keeps the enumerations of a schema by first fit. -/
theorem enumFields_first_fit {s : Schema} (h : s.Accepted) : ChoosesFirstFit s where
  shown := rfl
  ordered := enumFields_sublist s
  dropped before f after hsplit := by
    have hnodup : (before ++ f :: after).Nodup := hsplit ▸ nodup_schema_enumFields h
    have hkept : ∀ g, g ∈ before.filter (· ∈ enumFields s) ↔ g ∈ kept (reserved s) before := by
      intro g
      rw [mem_kept_before_iff hnodup, ← hsplit, ← enumFields_eq_kept h, List.mem_filter,
        decide_eq_true_iff]
    have hclash : f ∉ kept (reserved s) (before ++ f :: after) ↔
        Clashing (reserved s) (kept (reserved s) before) f := notMem_kept_iff hnodup
    rw [← hsplit, ← enumFields_eq_kept h] at hclash
    exact hclash.trans ⟨.mono fun g => (hkept g).2, .mono fun g => (hkept g).1⟩
  fits := by
    rw [enumFields_eq_kept h]
    exact fits_kept _ _
  full f hf hdropped fields hperm hfits := by
    rw [enumFields_eq_kept h] at hdropped hperm
    exact not_fits_cons_kept (nodup_schema_enumFields h) hf hdropped (hfits.of_perm hperm)
  largest fields hsub hlarger hfits := by
    rw [enumFields_eq_kept h] at hlarger ⊢
    exact eq_kept_of_fits (nodup_schema_enumFields h) hsub hlarger hfits

/-- The article keeps the first of its enumerations. The helper of the second one is taken. -/
theorem article_enumFields_first_fit :
    Schema.article.fields[1] ∈ enumFields .article ∧
      Schema.article.fields[2] ∉ enumFields .article ∧
      ¬ Fits (reserved .article) (Schema.article.fields[2] :: enumFields .article) := by
  have hchosen := enumFields_first_fit Schema.article_accepted
  have hkept : Schema.article.fields[1] ∈ enumFields .article := by
    refine Decidable.not_not.1 ((hchosen.dropped [] _ [Schema.article.fields[2]] rfl).not.2 ?_)
    decide
  have hdropped : Schema.article.fields[2] ∉ enumFields .article :=
    (hchosen.dropped [Schema.article.fields[1]] _ [] rfl).2
      (.inr (.inl ⟨"create", by decide, by decide⟩))
  exact ⟨hkept, hdropped, hchosen.full _ (by decide) hdropped _ (.refl _)⟩

end Scaffold.Artifact.Client
