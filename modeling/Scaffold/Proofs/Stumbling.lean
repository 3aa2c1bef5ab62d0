import Scaffold.Proofs.Acceptance
import Scaffold.Proofs.JsonLimits

/-!
# What loading stumbles over

Loading a file gives what it holds or complains about it. Besides, it breaks down where nobody
catches what goes wrong: over a path that the file system does not take, over a text that a reader
gives up on without calling it malformed, and over nothing else. A modest file breaks nothing down
unless it is read as YAML.
-/
namespace Scaffold

namespace Run

variable {α β : Type}

/-- A run from a world breaks down. -/
def BreaksDown (act : Run α) (w : World) (b : Breakdown) : Prop :=
  (start act w).1 = .error (.breakdown b)

instance (act : Run α) (w : World) (b : Breakdown) : Decidable (BreaksDown act w b) :=
  match h : (start act w).1 with
  | .ok _ => isFalse (by simp [BreaksDown, h])
  | .error (.failure _) => isFalse (by simp [BreaksDown, h])
  | .error (.breakdown c) => decidable_of_iff (c = b) (by simp [BreaksDown, h])

/-- A sequence breaks down in its first part, or in the second one after a result of the first. -/
theorem breaksDown_bind_iff {act : Run α} {next : α → Run β} {w : World} {b : Breakdown} :
    BreaksDown (act >>= next) w b ↔
      BreaksDown act w b ∨ ∃ a w', start act w = (.ok a, w') ∧ BreaksDown (next a) w' b := by
  unfold BreaksDown
  rcases hrun : start act w with ⟨stop | a, w'⟩
  · rw [start_bind_of_error hrun]
    simp
  · rw [start_bind_of_ok hrun]
    simp

theorem breaksDown_bind_iff_of_forall_not {act : Run α} {next : α → Run β} {w : World}
    {b : Breakdown} (h : ∀ a w, ¬ BreaksDown (next a) w b) :
    BreaksDown (act >>= next) w b ↔ BreaksDown act w b := by
  simp [breaksDown_bind_iff, h]

theorem breaksDown_note_bind_iff {level : Level} {speaker : Speaker} {message : String}
    {next : Unit → Run β} {w : World} {b : Breakdown} :
    BreaksDown (note level speaker message >>= next) w b ↔
      BreaksDown (next ()) { w with journal := w.journal ++ [⟨level, speaker, message⟩] } b := by
  rw [BreaksDown, start_bind_of_ok (start_note level speaker message w), BreaksDown]

theorem not_breaksDown_pure (a : α) (w : World) (b : Breakdown) : ¬ BreaksDown (pure a) w b :=
  nofun

theorem not_breaksDown_fail (f : Failure) (w : World) (b : Breakdown) :
    ¬ BreaksDown (fail f : Run α) w b :=
  nofun

theorem breaksDown_breakDown_iff {w : World} {b c : Breakdown} :
    BreaksDown (breakDown b : Run α) w c ↔ b = c := by
  simp [BreaksDown]

section

variable {act : Run α} {next : α → Run β} {w w' : World} {b : Breakdown}

theorem BreaksDown.bind (h : BreaksDown act w b) : BreaksDown (act >>= next) w b :=
  breaksDown_bind_iff.2 (.inl h)

theorem BreaksDown.bind_of_ok {a : α} (hact : start act w = (.ok a, w'))
    (h : BreaksDown (next a) w' b) : BreaksDown (act >>= next) w b :=
  breaksDown_bind_iff.2 (.inr ⟨a, w', hact, h⟩)

/-- Nothing is saved from a breakdown. -/
theorem BreaksDown.attempt (h : BreaksDown act w b) : BreaksDown (attempt act) w b := by
  refine .bind_of_ok (start_settle act w) ?_
  rw [show (start act w).1 = .error (.breakdown b) from h]
  rfl

theorem BreaksDown.timed (label : String) (h : BreaksDown act w b) :
    BreaksDown (timed label act) w b := by
  refine .bind_of_ok (start_get w) (.bind_of_ok (start_settle act w) ?_)
  rw [show (start act w).1 = .error (.breakdown b) from h]
  rfl

end

end Run

open Run

namespace Loading

/-! ## The text of a file -/

/-- The file at a path has a text. -/
structure Holds (w : World) (p : Path) (s : String) : Prop where
  named : hasNull p.text = false
  decoded : ∃ content t, w.files.find w.directory p = .ok (.file content) ∧
    Text.Utf8.decode content = .ok t ∧ s = String.ofList (Text.normalizeNewlines t.toList)

/-- A path on which the file system gives up before it gets to its end. -/
structure Overlong (w : World) (p : Path) : Prop where
  named : hasNull p.text = false
  refused : w.files.find w.directory p = .error .nameTooLong

/-- What is said of an overlong path. -/
def overlongFault (p : Path) : FileSystem.Fault := ⟨.nameTooLong, p.text, none⟩

theorem Overlong.has {w : World} {p : Path} (h : Overlong w p) :
    w.files.has w.directory p = .error .nameTooLong := by
  rw [FileSystem.has, h.refused]

theorem start_isThere_of_overlong {w : World} {p : Path} (h : Overlong w p) :
    (isThere p).start w = (.error (.breakdown (.storage (overlongFault p))), w) := by
  unfold isThere
  rw [start_bind_of_ok (start_get w), h.named, h.has]
  rfl

theorem start_isThere_of_not_overlong {w : World} {p : Path} (h : ¬ Overlong w p) :
    (isThere p).start w =
      (.ok (!hasNull p.text && (w.files.find w.directory p).toBool), w) := by
  unfold isThere
  rw [start_bind_of_ok (start_get w)]
  cases hnull : hasNull p.text with
  | true => rfl
  | false =>
    unfold FileSystem.has
    rcases hfind : w.files.find w.directory p with reason | entry
    · cases reason
      case nameTooLong => exact absurd ⟨hnull, hfind⟩ h
      all_goals rfl
    · rfl

theorem start_text_of_overlong {w : World} {p : Path} (h : Overlong w p) :
    (text p).start w = (.error (.breakdown (.storage (overlongFault p))), w) :=
  start_bind_of_error (start_isThere_of_overlong h)

theorem start_text_of_holds {w : World} {p : Path} {s : String} (h : Holds w p s) :
    (text p).start w = (.ok s, w) := by
  obtain ⟨content, t, hfind, hdecode, rfl⟩ := h.decoded
  have hthere : (isThere p).start w = (.ok true, w) := by
    rw [start_isThere_of_not_overlong, h.named, hfind]
    · rfl
    · intro hlong
      cases hfind.symm.trans hlong.refused
  unfold text
  rw [start_bind_of_ok hthere]
  simp only [if_true, start_bind_of_ok (start_get w), hfind, hdecode]
  rfl

/-- The text of a file is read, or complained about, unless the path is overlong. -/
theorem start_text_cases (w : World) (p : Path) :
    (Overlong w p ∧
      (text p).start w = (.error (.breakdown (.storage (overlongFault p))), w)) ∨
    (∃ s, Holds w p s ∧ (text p).start w = (.ok s, w)) ∨
    ∃ f, (text p).start w = (.error (.failure f), w) := by
  by_cases hlong : Overlong w p
  · exact .inl ⟨hlong, start_text_of_overlong hlong⟩
  -- Without a text there are only complaints left: nothing is there, a directory, or no Unicode.
  by_cases hholds : ∃ s, Holds w p s
  · obtain ⟨s, hs⟩ := hholds
    exact .inr (.inl ⟨s, hs, start_text_of_holds hs⟩)
  refine .inr (.inr ?_)
  have hthere := start_isThere_of_not_overlong hlong
  unfold text
  rw [start_bind_of_ok hthere]
  cases hnull : hasNull p.text with
  | true => exact ⟨_, rfl⟩
  | false =>
    rcases hfind : w.files.find w.directory p with reason | entry
    · exact ⟨_, rfl⟩
    have htrue : (!false && (Except.ok entry : Except Refused Entry).toBool) = true := rfl
    simp only [htrue, if_true, start_bind_of_ok (start_get w), hfind]
    cases entry with
    | directory => exact ⟨_, rfl⟩
    | file content =>
      rcases hdecode : Text.Utf8.decode content with fault | t
      · simp only [hdecode]
        exact ⟨_, rfl⟩
      · exact absurd ⟨_, hnull, content, t, hfind, hdecode, rfl⟩ hholds

theorem start_text_eq_ok_iff {w w' : World} {p : Path} {s : String} :
    (text p).start w = (.ok s, w') ↔ Holds w p s ∧ w' = w := by
  constructor
  · intro h
    rcases start_text_cases w p with ⟨_, hlong⟩ | ⟨t, ht, hread⟩ | ⟨f, hfails⟩
    · cases h.symm.trans hlong
    · cases h.symm.trans hread
      exact ⟨ht, rfl⟩
    · cases h.symm.trans hfails
  · rintro ⟨hholds, rfl⟩
    exact start_text_of_holds hholds

theorem breaksDown_text_iff {w : World} {p : Path} {b : Breakdown} :
    BreaksDown (text p) w b ↔ Overlong w p ∧ b = .storage (overlongFault p) := by
  constructor
  · intro h
    unfold BreaksDown at h
    rcases start_text_cases w p with ⟨hlong, hstart⟩ | ⟨t, _, hstart⟩ | ⟨f, hstart⟩
    · rw [hstart] at h
      cases h
      exact ⟨hlong, rfl⟩
    · rw [hstart] at h
      cases h
    · rw [hstart] at h
      cases h
  · rintro ⟨hlong, rfl⟩
    rw [BreaksDown, start_text_of_overlong hlong]

/-! ## What no reader catches -/

/-- A fault of a JSON text that is not taken for a sign that the text is no JSON. -/
def giveUp? : Document.Json.Cause → Option Breakdown
  | .tooManyDigits count => some (.tooManyDigits (some count))
  | .tooDeep collection => some (.tooDeep (Document.Json.decodingText collection))
  | _ => none

theorem start_jsonOrWhy (s : String) (w : World) :
    (jsonOrWhy s).start w = (match Document.Json.parse s with
      | .ok d => .ok (.ok d)
      | .error e => match giveUp? e.cause with
        | some b => .error (.breakdown b)
        | none => .ok (.error e), w) := by
  unfold jsonOrWhy
  rcases Document.Json.parse s with ⟨cause, line, column, position⟩ | d
  · cases cause <;> rfl
  · rfl

theorem breaksDown_ofYaml_iff {p : Path} {s : String} {w : World} {b : Breakdown} :
    BreaksDown (ofYaml p s) w b ↔
      ∃ fault, Yaml.parse s = .error fault ∧ fault ≠ .malformed ∧ b = .value fault := by
  unfold ofYaml
  rcases hparse : Yaml.parse s with fault | d
  · cases fault
    case malformed =>
      refine iff_of_false (not_breaksDown_fail _ w b) ?_
      rintro ⟨_, ⟨⟩, hother, _⟩
      exact hother rfl
    all_goals simp [breaksDown_breakDown_iff, eq_comm]
  · refine iff_of_false (not_breaksDown_pure (d.arranged w.order) w b) ?_
    rintro ⟨_, ⟨⟩, _⟩

/-- A text over which the readers for a format break down: JSON that goes on for too long, or YAML
that does or has a value that is none. A text of unknown format is read as YAML only if it is no
JSON. -/
inductive Baffles (format : Format) (s : String) : Breakdown → Prop
  | json {e : Document.Json.Error} {b : Breakdown} (hformat : format ≠ .yaml)
      (h : Document.Json.parse s = .error e) (hcause : giveUp? e.cause = some b) :
      Baffles format s b
  | yaml {fault : Yaml.Fault} (hformat : format ≠ .json)
      (hnone : format = .unknown → ∃ e, Document.Json.parse s = .error e ∧ giveUp? e.cause = none)
      (h : Yaml.parse s = .error fault) (hfault : fault ≠ .malformed) :
      Baffles format s (.value fault)

theorem baffles_yaml_iff {s : String} {b : Breakdown} :
    Baffles .yaml s b ↔
      ∃ fault, Yaml.parse s = .error fault ∧ fault ≠ .malformed ∧ b = .value fault := by
  constructor
  · rintro (⟨hformat, _, _⟩ | ⟨_, _, h, hfault⟩)
    · exact absurd rfl hformat
    · exact ⟨_, h, hfault, rfl⟩
  · rintro ⟨fault, h, hfault, rfl⟩
    exact .yaml nofun nofun h hfault

theorem baffles_json_iff {s : String} {b : Breakdown} :
    Baffles .json s b ↔ ∃ e, Document.Json.parse s = .error e ∧ giveUp? e.cause = some b := by
  constructor
  · rintro (⟨_, h, hcause⟩ | ⟨hformat, _⟩)
    · exact ⟨_, h, hcause⟩
    · exact absurd rfl hformat
  · rintro ⟨e, h, hcause⟩
    exact .json nofun h hcause

theorem baffles_unknown_iff {s : String} {b : Breakdown} :
    Baffles .unknown s b ↔ ∃ e, Document.Json.parse s = .error e ∧
      (giveUp? e.cause = some b ∨ giveUp? e.cause = none ∧ Baffles .yaml s b) := by
  constructor
  · rintro (⟨_, h, hcause⟩ | ⟨_, hnone, h, hfault⟩)
    · exact ⟨_, h, .inl hcause⟩
    · obtain ⟨e, he, hcause⟩ := hnone rfl
      exact ⟨e, he, .inr ⟨hcause, .yaml nofun nofun h hfault⟩⟩
  · rintro ⟨e, he, hcause | ⟨hcause, hyaml⟩⟩
    · exact .json nofun he hcause
    · obtain ⟨fault, h, hfault, rfl⟩ := baffles_yaml_iff.1 hyaml
      exact .yaml nofun (fun _ => ⟨e, he, hcause⟩) h hfault

/-- A run that begins with JSON and is content with a document. -/
theorem breaksDown_jsonOrWhy_bind_iff {α : Type} {s : String} {w : World} {b : Breakdown}
    {next : Except Document.Json.Error Document → Run α}
    (hok : ∀ d, ¬ BreaksDown (next (.ok d)) w b) :
    BreaksDown (jsonOrWhy s >>= next) w b ↔ ∃ e, Document.Json.parse s = .error e ∧
      (giveUp? e.cause = some b ∨ giveUp? e.cause = none ∧ BreaksDown (next (.error e)) w b) := by
  have hjson := start_jsonOrWhy s w
  rcases hparse : Document.Json.parse s with e | d
  · rcases hcause : giveUp? e.cause with _ | c
    · simp only [hparse, hcause] at hjson
      simp [BreaksDown, start_bind_of_ok hjson, hcause]
    · simp only [hparse, hcause] at hjson
      simp [BreaksDown, start_bind_of_error hjson, hcause]
  · simp only [hparse] at hjson
    have hnot := hok d
    simpa [BreaksDown, start_bind_of_ok hjson] using hnot

theorem breaksDown_parse_iff {p : Path} {suffix s : String} {w : World} {b : Breakdown} :
    BreaksDown (parse p suffix s) w b ↔ Baffles (Format.ofSuffix suffix) s b := by
  unfold parse
  cases Format.ofSuffix suffix with
  | yaml => exact breaksDown_ofYaml_iff.trans baffles_yaml_iff.symm
  | json =>
    rw [baffles_json_iff]
    refine (breaksDown_jsonOrWhy_bind_iff fun d => not_breaksDown_pure d w b).trans ?_
    have hcomplains (e : Document.Json.Error) :
        ¬ BreaksDown (malformed p ("Invalid JSON: " ++ e.message) : Run Document) w b :=
      not_breaksDown_fail _ w b
    simp only [hcomplains, and_false, or_false]
  | unknown =>
    rw [baffles_unknown_iff]
    refine breaksDown_note_bind_iff.trans ?_
    refine (breaksDown_jsonOrWhy_bind_iff fun d => not_breaksDown_pure d _ b).trans ?_
    simp only [breaksDown_ofYaml_iff, baffles_yaml_iff]

/-! ## Loading -/

/-- What loading from a path breaks down over. -/
inductive Stumbles (w : World) (p : Path) : Breakdown → Prop
  | place (h : Overlong w p) : Stumbles w p (.storage (overlongFault p))
  | text {s : String} {b : Breakdown} (hholds : Holds w p s)
      (h : Baffles (Format.ofSuffix (Text.lower p.suffix)) s b) : Stumbles w p b

theorem breaksDown_document_iff {p : Path} {w : World} {b : Breakdown} :
    BreaksDown (document p) w b ↔ Stumbles w p b := by
  have hread : BreaksDown (document p) w b ↔ BreaksDown (text p) w b ∨ ∃ s w',
      start (text p) w = (.ok s, w') ∧ Baffles (Format.ofSuffix (Text.lower p.suffix)) s b := by
    refine breaksDown_bind_iff.trans (or_congr_right ?_)
    refine exists_congr fun s => exists_congr fun w' => and_congr_right fun _ => ?_
    refine (breaksDown_bind_iff_of_forall_not fun d w => ?_).trans breaksDown_parse_iff
    cases d
    case map entries => exact not_breaksDown_pure entries w b
    all_goals exact not_breaksDown_fail _ w b
  rw [hread]
  constructor
  · rintro (hplace | ⟨s, w', hs, hbaffled⟩)
    · obtain ⟨hlong, rfl⟩ := breaksDown_text_iff.1 hplace
      exact .place hlong
    · obtain ⟨hholds, rfl⟩ := start_text_eq_ok_iff.1 hs
      exact .text hholds hbaffled
  · rintro (hlong | ⟨hholds, hbaffled⟩)
    · exact .inl (breaksDown_text_iff.2 ⟨hlong, rfl⟩)
    · exact .inr ⟨_, w, start_text_eq_ok_iff.2 ⟨hholds, rfl⟩, hbaffled⟩

theorem not_breaksDown_checked {α : Type} (source : Option String) (read : Reading α)
    (entries : Entries) (w : World) (b : Breakdown) :
    ¬ BreaksDown (checked source read entries) w b := by
  unfold checked
  cases read (.map entries) with
  | valid a => exact not_breaksDown_pure a w b
  | invalid problems => exact not_breaksDown_fail _ w b

/-- What is said of a document breaks nothing down. -/
theorem breaksDown_read_iff {α : Type} {p : Path} {w : World} {b : Breakdown} {read : Reading α}
    {message : α → String} :
    BreaksDown (document p >>= fun entries =>
        checked (some p.text) read entries >>= fun a =>
          Run.note .info .loader (message a) >>= fun _ => pure a) w b ↔ Stumbles w p b := by
  refine (breaksDown_bind_iff_of_forall_not fun entries w hrest => ?_).trans
    breaksDown_document_iff
  rcases breaksDown_bind_iff.1 hrest with hchecked | ⟨a, w', _, hnote⟩
  · exact not_breaksDown_checked _ read entries w b hchecked
  · exact not_breaksDown_pure a _ b (breaksDown_note_bind_iff.1 hnote)

theorem onlyReads_config (path : Option String) : OnlyReads (config path) := by
  cases path with
  | none => exact .pure _
  | some path =>
    refine .bind (onlyReads_document _) fun entries => ?_
    exact .bind (onlyReads_checked _ Config.read entries) fun c => .bind (.note ..) fun _ => .pure c

/-! ## Modest files -/

theorem nameLimit_lt_of_step {fs : FileSystem} {place : Location} {name : String}
    (h : fs.step place name = .error .nameTooLong) : FileSystem.nameLimit < name.utf8ByteSize := by
  unfold FileSystem.step at h
  split at h
  · cases h
  · cases h
  · split at h
    · cases h
    · split at h
      · next hlong => exact hlong
      · cases h

theorem exists_overlong_name {fs : FileSystem} {names : List String} {place : Location}
    (h : names.foldlM fs.step place = .error .nameTooLong) :
    ∃ name ∈ names, FileSystem.nameLimit < name.utf8ByteSize := by
  induction names generalizing place with
  | nil => cases h
  | cons name rest ih =>
    rw [List.foldlM_cons] at h
    rcases hstep : fs.step place name with reason | next
    · rw [hstep] at h
      cases h
      exact ⟨name, List.mem_cons_self, nameLimit_lt_of_step hstep⟩
    · rw [hstep] at h
      obtain ⟨long, hmem, hlong⟩ := ih h
      exact ⟨long, List.mem_cons_of_mem name hmem, hlong⟩

/-- A path is overlong because of all of its text, or of one of its names. -/
theorem Overlong.exceeds {w : World} {p : Path} (h : Overlong w p) :
    FileSystem.pathLimit ≤ p.text.utf8ByteSize ∨
      ∃ name ∈ p.names, FileSystem.nameLimit < name.utf8ByteSize := by
  have hwalk : w.files.walk w.directory p = .error .nameTooLong := by
    have hfind := h.refused
    unfold FileSystem.find at hfind
    rcases hwalk : w.files.walk w.directory p with reason | place
    · rw [hwalk] at hfind
      cases hfind
      rfl
    · rw [hwalk] at hfind
      dsimp only [bind, Except.bind] at hfind
      split at hfind
      · cases hfind
      · cases hfind
  unfold FileSystem.walk at hwalk
  split at hwalk
  · exact .inr (exists_overlong_name hwalk)
  · next hlong => exact .inl (Nat.le_of_not_lt hlong)

/-- A path that the file system takes, and a text without endless numerals or nesting. -/
structure Modest (w : World) (p : Path) : Prop where
  path : p.text.utf8ByteSize < FileSystem.pathLimit
  names : ∀ name ∈ p.names, name.utf8ByteSize ≤ FileSystem.nameLimit
  digits : ∀ s, Holds w p s → ∀ digits, digits <:+: s.toList →
    digits.all Document.Json.isDigit = true → digits.length ≤ Number.digitLimit
  nesting : ∀ s, Holds w p s →
    s.toList.countP Document.Json.isOpening ≤ Document.Json.nestingLimit

theorem Modest.not_overlong {w : World} {p : Path} (h : Modest w p) : ¬ Overlong w p := by
  intro hlong
  rcases hlong.exceeds with hpath | ⟨name, hname, hlong⟩
  · have hfits := h.path
    omega
  · have hfits := h.names name hname
    omega

theorem Modest.giveUp_eq_none {w : World} {p : Path} {s : String} (h : Modest w p)
    (hholds : Holds w p s) {e : Document.Json.Error} (he : Document.Json.parse s = .error e) :
    giveUp? e.cause = none := by
  have hwarrants := Document.Json.warrants_of_parse he
  rcases hcause : e.cause
  case tooManyDigits count =>
    rw [hcause] at hwarrants
    obtain ⟨hmany, digits, hinfix, hdigits, hlength⟩ := hwarrants
    have hfew := h.digits s hholds digits hinfix hdigits
    omega
  case tooDeep collection =>
    rw [hcause] at hwarrants
    have hfew := h.nesting s hholds
    exact absurd hwarrants (Nat.not_lt.2 hfew)
  all_goals rfl

/-- Over a modest file loading stumbles only if it is read as YAML. -/
theorem Modest.exists_of_stumbles {w : World} {p : Path} {b : Breakdown} (h : Modest w p)
    (hstumbles : Stumbles w p b) :
    Format.ofSuffix (Text.lower p.suffix) ≠ .json ∧ ∃ s fault, Holds w p s ∧
      Yaml.parse s = .error fault ∧ fault ≠ .malformed ∧ b = .value fault := by
  rcases hstumbles with hlong | ⟨hholds, hbaffled⟩
  · exact absurd hlong h.not_overlong
  · rcases hbaffled with ⟨_, hparse, hcause⟩ | ⟨hformat, _, hparse, hfault⟩
    · rw [h.giveUp_eq_none hholds hparse] at hcause
      cases hcause
    · exact ⟨hformat, _, _, hholds, hparse, hfault, rfl⟩

/-! ## How loading ends -/

/-- A run gives a result or complains about a document. -/
def Answers {α : Type} (act : Run α) (w : World) : Prop :=
  (∃ a, (act.start w).1 = .ok a) ∨ ∃ f, f.isDocument ∧ (act.start w).1 = .error (.failure f)

/-- Loading from a path leaves the world as it was, and gives a result or complains about the
document; it breaks down over what is stated, and over nothing else. -/
structure Settles {α : Type} (act : Run α) (w : World) (p : Path) : Prop where
  unchanged : Unchanged w (act.start w).2
  failure : ∀ f, (act.start w).1 = .error (.failure f) → f.isDocument
  breakdown : ∀ b, BreaksDown act w b ↔ Stumbles w p b
  answers : (∀ b, ¬ Stumbles w p b) → Answers act w
  modest : Modest w p → Format.ofSuffix (Text.lower p.suffix) = .json → Answers act w

theorem settles_of_breaksDown_iff {α : Type} {act : Run α} {w : World} {p : Path}
    (hreads : OnlyReads act) (h : ∀ b, BreaksDown act w b ↔ Stumbles w p b) : Settles act w p := by
  have hanswers (hnone : ∀ b, ¬ Stumbles w p b) : Answers act w := by
    rcases hresult : (act.start w).1 with (f | b) | a
    · exact .inr ⟨f, hreads.failure w f hresult, hresult⟩
    · exact absurd ((h b).1 hresult) (hnone b)
    · exact .inl ⟨a, hresult⟩
  refine ⟨hreads.unchanged w, hreads.failure w, h, hanswers, fun hmodest hjson => hanswers ?_⟩
  intro b hstumbles
  exact (hmodest.exists_of_stumbles hstumbles).1 hjson

/-- From whatever path and in whatever world, a schema and a configuration are loaded, or complained
about, or stumbled over. -/
theorem loading_settles (path : String) (w : World) :
    Settles (schema (.file path)) w (Path.ofString path) ∧
      Settles (config (some path)) w (Path.ofString path) := by
  constructor
  · exact settles_of_breaksDown_iff (onlyReads_schema _) fun b => breaksDown_read_iff
  · exact settles_of_breaksDown_iff (onlyReads_config _) fun b => breaksDown_read_iff

/-- A world with a date in the thirteenth month. -/
def misdatedWorld : World :=
  { bareWorld with
    files := FileSystem.empty.put ["a.yaml"] (.file "name: 2020-13-01\n".toUTF8) }

/-- The date is no date, and nobody complains about it. -/
theorem misdated_breaks_down :
    BreaksDown (schema (.file "a.yaml")) misdatedWorld (.value (.time .month)) ∧
    BreaksDown (config (some "a.yaml")) misdatedWorld (.value (.time .month)) ∧
    ¬ Answers (schema (.file "a.yaml")) misdatedWorld := by
  have hbroken : BreaksDown (schema (.file "a.yaml")) misdatedWorld (.value (.time .month)) := by
    decide +kernel
  refine ⟨hbroken, by decide +kernel, ?_⟩
  rintro (⟨s, hs⟩ | ⟨f, _, hf⟩)
  · cases hbroken.symm.trans hs
  · cases hbroken.symm.trans hf

end Loading
end Scaffold
