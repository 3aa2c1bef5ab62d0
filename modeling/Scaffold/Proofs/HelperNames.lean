import Scaffold.Proofs.FirstFit
import Scaffold.Proofs.ScriptNames

/-!
# How the client names its helpers

A helper is named by its value in camel case, and an enumeration is kept if its helpers are new
among the methods of the class. Nothing asks whether a value can name a method at all: the name is
what is left of the value without its underscores, so a value that has other characters in it than
those of names has them in its helper as well.
-/
namespace Scaffold

open Script Text

namespace Artifact.Client

/-- The calls for the values come last in the class. -/
theorem prints_helperCalls (s : Schema) : Prints (text s) (lines s)
    (opening s ++ (operationCalls s).flatMap fun c => "" :: c.method.lines "") (helperCalls s)
    (fun c => "" :: c.method.lines "") ["\x7d"] fun c => ["async " ++ c.name ++ "("] := by
  refine ⟨(prints_calls s).written, (prints_calls s).last.enclosed, fun c _ => ?_⟩
  · rw [List.forall_mem_singleton]
    obtain ⟨line, hline, before, after, hheading⟩ := c.method.mentions_heading ""
    refine .of_eq line before (c.parameters ++ ")" ++ after) (List.mem_cons_of_mem _ hline) ?_
    rw [hheading, Method.heading]
    simp only [String.append_assoc]
    rfl

/-- A value whose helper is a word in small letters is that word and underscores behind it. -/
theorem exists_eq_append_of_camelCase_eq {value word : String} (h : camelCase value = word)
    (hword : word.toList.all Char.isLower = true) :
    ∃ n, value.toList = word.toList ++ List.replicate n '_' := by
  rw [List.all_eq_true, ← h, toList_camelCase] at hword
  rw [← h, toList_camelCase]
  exact exists_eq_append_of_isLower hword

/-- What the helpers of a client are called, and which values are called like a member that every
class has. -/
structure NamesHelpers (s : Schema) : Prop where
  printed : Prints (text s) (lines s)
    (opening s ++ (operationCalls s).flatMap fun c => "" :: c.method.lines "") (helperCalls s)
    (fun c => "" :: c.method.lines "") ["\x7d"] fun c => ["async " ++ c.name ++ "("]
  names : (helperCalls s).map (·.name) = (enumFields s).flatMap helpers
  fits : Fits (reserved s) (enumFields s)
  isName_iff : ∀ f ∈ enumFields s, ∀ v ∈ helperValues f, IsName (camelCase v).toList ↔
    (∀ c ∈ v.toList, Name.isPart c.toNat = true) ∧
      ∃ c, opening? v.toList = some c ∧ Name.isStart c.toNat = true
  members : ∀ f ∈ enumFields s, ∀ v ∈ helperValues f, ∀ word ∈ ["constructor", "client"],
    camelCase v = word → ∃ n, v.toList = word.toList ++ List.replicate n '_'

/-- The helpers are called by their values, apart from each other and from the operations. -/
theorem helpers_named {s : Schema} (h : s.Accepted) : NamesHelpers s where
  printed := prints_helperCalls s
  names := map_name_helperCalls s
  fits := by
    rw [enumFields_eq_kept h]
    exact fits_kept _ _
  isName_iff _ _ v _ := isName_camelCase_iff v
  members _ _ v _ word hword hv := by
    have hlower : ∀ word ∈ ["constructor", "client"], word.toList.all Char.isLower = true := by
      decide
    exact exists_eq_append_of_camelCase_eq hv (hlower word hword)

instance (taken : List String) (fields : List Field) : Decidable (Fits taken fields) :=
  decidable_of_iff ((fields.flatMap helpers).Nodup ∧ ∀ h ∈ fields.flatMap helpers, h ∉ taken)
    ⟨fun h => ⟨h.1, fun _ => h.2 _⟩, fun h => ⟨h.nodup, fun _ hmem => h.apart hmem⟩⟩

/-- Enumerations that all fit are all kept. -/
theorem enumFields_eq_of_fits {s : Schema} (h : s.Accepted)
    (hfits : Fits (reserved s) s.enumFields) : enumFields s = s.enumFields := by
  rw [enumFields_eq_kept h]
  exact (eq_kept_of_fits (nodup_schema_enumFields h) (.refl _) (kept_sublist _ _) hfits).symm

end Artifact.Client

namespace Schema

/-- A parcel that is packed or has gone on its way. -/
def parcel (gone : String) : Schema where
  name := "Parcel"
  table := "parcels"
  fields := [
    { name := "state", column := "state", type := .enum, enumValues := some ["packed", gone] }]
  operations := []
  policies := []

def parcelEntries (gone : String) : Entries := [
  (.text "name", .text "Parcel"),
  (.text "tableName", .text "parcels"),
  (.text "fields", .list [
    .map [(.text "name", .text "state"), (.text "dbName", .text "state"),
      (.text "type", .text "enum"),
      (.text "enumValues", .list [.text "packed", .text gone])]]),
  (.text "operations", .list []),
  (.text "rls", .list [])]

end Schema

namespace Artifact.Client

theorem parcel_helpers_named : (Schema.parcel "sent").Accepted ∧
    (helperCalls (.parcel "sent")).map (·.name) = ["sent"] ∧ IsName "sent".toList := by
  have haccepted : (Schema.parcel "sent").Accepted :=
    (Schema.accepted_iff _).2 ⟨Schema.parcelEntries "sent", rfl⟩
  have hnamed := helpers_named haccepted
  have hkept : enumFields (.parcel "sent") = (Schema.parcel "sent").fields :=
    enumFields_eq_of_fits haccepted (by decide)
  have hname := hnamed.isName_iff _ (by rw [hkept]; exact List.mem_cons_self) "sent" (by decide)
  have hcamel : camelCase "sent" = "sent" := by decide
  have hparts : ("sent".toList.all fun c => Name.isPart c.toNat) = true := by decide
  refine ⟨haccepted, ?_, ?_⟩
  · rw [hnamed.names, hkept]
    decide
  · rw [← hcamel, hname]
    exact ⟨List.all_eq_true.1 hparts, 's', by decide, by decide⟩

/-- The helper for a parcel in transit has a hyphen in it, as no name has. -/
theorem parcel_helper_unnamed : (Schema.parcel "in-transit").Accepted ∧
    (helperCalls (.parcel "in-transit")).map (·.name) = ["in-transit"] ∧
    ¬ IsName "in-transit".toList := by
  have haccepted : (Schema.parcel "in-transit").Accepted :=
    (Schema.accepted_iff _).2 ⟨Schema.parcelEntries "in-transit", rfl⟩
  have hkept : enumFields (.parcel "in-transit") = (Schema.parcel "in-transit").fields :=
    enumFields_eq_of_fits haccepted (by decide)
  refine ⟨haccepted, ?_, ?_⟩
  · rw [map_name_helperCalls, hkept]
    decide
  · rw [isName_iff]
    rintro ⟨hparts, -⟩
    exact absurd (hparts '-' (by decide)) (by decide)

end Artifact.Client
end Scaffold
