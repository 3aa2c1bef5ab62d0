import Mathlib.Tactic.SplitIfs
import Scaffold.Proofs.Reading

/-!
# Nothing is refused without a reason

A checked value is valid or has problems, and nothing in the type says that a refused one has any.
Every reading of a scalar gives a reason when it refuses, and putting readings together loses none,
so a schema is read exactly when there is nothing to complain about.
-/
namespace Scaffold

namespace Checked

variable {α β : Type}

/-! ## Refused for a reason -/

/-- Whatever is refused is refused for some problem. -/
def Justified (a : Checked α) : Prop := a ≠ .invalid []

@[simp] theorem justified_valid (x : α) : (valid x).Justified := by simp [Justified]

@[simp] theorem justified_refuse (r : Refusal) : (refuse r : Checked α).Justified := by
  simp [Justified, refuse]

theorem Justified.problems_eq_nil_iff {a : Checked α} (h : a.Justified) :
    a.problems = [] ↔ ∃ x, a = .valid x := by
  cases a with
  | valid x => simp
  | invalid ps => simpa [Justified] using h

namespace Justified

variable {a : Checked α}

theorem map (h : a.Justified) (f : α → β) : (map f a).Justified := by
  cases a with
  | valid x => exact justified_valid (f x)
  | invalid ps => simpa [Justified, Checked.map] using h

theorem ap {f : Checked (α → β)} (hf : f.Justified) (h : a.Justified) : (ap f a).Justified := by
  cases f with
  | valid g => cases a <;> simp_all [Justified, Checked.ap]
  | invalid ps => simp_all [Justified, Checked.ap]

theorem under (h : a.Justified) (step : String) : (a.under step).Justified := by
  cases a with
  | valid x => exact justified_valid x
  | invalid ps => simpa [Justified, Checked.under] using h

theorem also (h : a.Justified) (more : List Problem) : (a.also more).Justified := by
  cases a with
  | valid x => cases more <;> simp [Justified, Checked.also]
  | invalid ps => simp_all [Justified, Checked.also]

theorem thenCheck (h : a.Justified) {check : α → Checked β} (hcheck : ∀ x, (check x).Justified) :
    (a.thenCheck check).Justified := by
  cases a with
  | valid x => exact hcheck x
  | invalid ps => simpa [Justified, Checked.thenCheck] using h

end Justified

theorem justified_listFrom {check : β → Checked α} (h : ∀ b, (check b).Justified) (start : Nat)
    (items : List β) : (listFrom check start items).Justified := by
  induction items generalizing start with
  | nil => exact justified_valid []
  | cons b rest ih => exact .ap (((h b).under _).map _) (ih (start + 1))

end Checked

namespace Reading

open Checked

variable {α : Type} {read : Reading α}

/-- A reading that refuses nothing without a reason. -/
def Justified (read : Reading α) : Prop := ∀ d, (read d).Justified

theorem justified_wholeText : Justified wholeText := by
  intro d
  unfold wholeText
  split
  · simp
  · simp
  · split <;> simp

theorem justified_text : Justified text := by
  intro d
  unfold text
  split
  · simp
  · exact justified_wholeText _

theorem justified_nonEmptyText : Justified nonEmptyText := by
  intro d
  apply (justified_wholeText d).thenCheck
  intro s
  split <;> simp

theorem justified_choice (choices : List (String × α)) : Justified (choice choices) := by
  intro d
  unfold choice
  dsimp only
  split <;> simp

theorem justified_truthOfInt (i : Int) : (truthOfInt i).Justified := by
  unfold truthOfInt
  split_ifs <;> simp

theorem justified_truthOfText (s : String) : (truthOfText s).Justified := by
  unfold truthOfText
  dsimp only
  split_ifs <;> simp

theorem justified_truth : Justified truth := by
  intro d
  unfold truth
  split
  · simp
  · exact justified_truthOfInt _
  · split
    · split_ifs
      · exact justified_truthOfInt _
      · simp
    · simp
  · simp
  · split
    · exact justified_truthOfText _
    · simp
    · simp

theorem justified_wholeOfFloat (x : Number.Binary64) : (wholeOfFloat x).Justified := by
  unfold wholeOfFloat
  split_ifs
  · simp
  · split
    · split_ifs <;> simp
    · simp

theorem justified_wholeOfText (s : String) : (wholeOfText s).Justified := by
  unfold wholeOfText
  dsimp only
  split
  · split_ifs <;> simp
  · simp

theorem justified_int : Justified int := by
  intro d
  unfold int
  split
  · simp
  · simp
  · exact justified_wholeOfFloat _
  · simp
  · split
    · exact justified_wholeOfText _
    · simp
    · simp

theorem justified_atLeast (least : Nat) : Justified (atLeast least) := by
  intro d
  apply (justified_int d).thenCheck
  intro i
  split <;> simp

theorem justified_numberOfText (s : String) : (numberOfText s).Justified := by
  unfold numberOfText
  dsimp only
  split
  · simp
  · split <;> simp

theorem justified_number : Justified number := by
  intro d
  unfold number
  split
  · simp
  · dsimp only
    split_ifs <;> simp
  · simp
  · simp
  · split
    · exact justified_numberOfText _
    · simp
    · simp

namespace Justified

theorem nullable (h : read.Justified) : (Reading.nullable read).Justified := by
  intro d
  unfold Reading.nullable
  split
  · simp
  · exact (h _).map some

theorem list (h : read.Justified) : (Reading.list read).Justified := by
  intro d
  unfold Reading.list
  split
  · exact justified_listFrom h 0 _
  · exact justified_listFrom h 0 _
  · simp

theorem record {kind : String} {labels : List Label} {fields : Entries → Checked α}
    (h : ∀ entries, (fields entries).Justified) :
    (Reading.record kind labels fields).Justified := by
  intro d
  unfold Reading.record
  split
  · exact (h _).also _
  · simp

theorem required (h : read.Justified) (l : Label) (entries : Entries) :
    (l.required read entries).Justified := by
  unfold Label.required
  split
  · exact (h _).under _
  · simp [Checked.Justified]

theorem orElse (h : read.Justified) (l : Label) (default : α) (entries : Entries) :
    (l.orElse default read entries).Justified := by
  unfold Label.orElse
  split
  · exact (h _).under _
  · simp

theorem optional (h : read.Justified) (l : Label) (entries : Entries) :
    (l.optional read entries).Justified :=
  h.nullable.orElse l none entries

end Justified

end Reading

/-! ## Schemas -/

open Reading

theorem Rules.justified_read : Reading.Justified Rules.read := by
  apply Reading.Justified.record
  intro r
  apply_rules [Checked.Justified.ap, Checked.Justified.map, Justified.optional, Justified.orElse,
    justified_atLeast, justified_number, justified_truth, justified_text]

theorem Field.justified_readDefault : Reading.Justified Field.readDefault := by
  intro d
  unfold Field.readDefault
  split
  · simp
  · split <;> simp
  · simp
  · exact justified_text.nullable _

theorem Field.justified_read : Reading.Justified Field.read := by
  have hrecord : Reading.Justified (Reading.record "EntityField" Field.keys Field.readEntries) := by
    apply Reading.Justified.record
    intro r
    apply_rules [Checked.Justified.ap, Checked.Justified.map, Justified.required,
      Justified.optional, Justified.orElse, Justified.list, justified_nonEmptyText,
      justified_choice, justified_truth, justified_text, Field.justified_readDefault,
      Rules.justified_read]
  intro d
  apply (hrecord _).thenCheck
  intro f
  unfold Field.hasItsValues
  split_ifs <;> simp

theorem Operation.justified_read : Reading.Justified Operation.read := by
  have hrecord : Reading.Justified
      (Reading.record "Operation" Operation.keys Operation.readEntries) := by
    apply Reading.Justified.record
    intro r
    apply_rules [Checked.Justified.ap, Checked.Justified.map, Justified.required,
      Justified.optional, Justified.orElse, Justified.list, justified_nonEmptyText,
      justified_choice, justified_text, justified_atLeast]
  intro d
  apply (hrecord d).thenCheck
  intro op
  unfold Operation.hasItsName
  split_ifs <;> simp

theorem Policy.justified_read : Reading.Justified Policy.read := by
  apply Reading.Justified.record
  intro r
  apply_rules [Checked.Justified.ap, Checked.Justified.map, Justified.required, Justified.optional,
    justified_nonEmptyText, justified_text]

theorem Example.justified_read : Reading.Justified Example.read := by
  apply Reading.Justified.record
  intro r
  apply_rules [Checked.Justified.ap, Checked.Justified.map, Justified.required, justified_text]

theorem Documentation.justified_read : Reading.Justified Documentation.read := by
  apply Reading.Justified.record
  intro r
  apply_rules [Checked.Justified.ap, Checked.Justified.map, Justified.optional, Justified.orElse,
    Justified.list, justified_text, Example.justified_read]

namespace Schema

theorem justified_record : Reading.Justified (Reading.record "EntitySchema" keys readEntries) := by
  apply Reading.Justified.record
  intro r
  apply_rules [Checked.Justified.ap, Checked.Justified.map, Justified.required, Justified.optional,
    Justified.list, justified_nonEmptyText, Field.justified_read, Operation.justified_read,
    Policy.justified_read, Documentation.justified_read]

theorem justified_read : Reading.Justified read := by
  intro d
  apply (justified_record d).thenCheck
  intro s
  unfold hasNoCollision
  split <;> simp

end Schema
end Scaffold
