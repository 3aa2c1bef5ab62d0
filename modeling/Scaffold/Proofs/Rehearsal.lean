import Scaffold.Proofs.Completion
import Scaffold.Proofs.Effects
import Scaffold.Proofs.Reading

/-!
# What can be told without writing

A dry run prepares what the real run prepares and then only says what it would write, so it leaves
all files alone, and what it says is what the real run does if that succeeds. A check does less: it
only loads. With the shipped templates this tells as much, since nothing but the source itself can
fail before the first file is written.
-/
namespace Scaffold

open Run
open Artifact (Kind)
open Loading (hasNull)

/-! ## Going through a list -/

theorem forall₂_of_mapM_ok {α β ε : Type} {f : α → Except ε β} {items : List α} {results : List β}
    (h : items.mapM f = .ok results) :
    List.Forall₂ (fun a b => f a = .ok b) items results := by
  induction items generalizing results with
  | nil =>
    cases h
    exact .nil
  | cons a rest ih =>
    rw [List.mapM_cons] at h
    cases hfirst : f a with
    | error e =>
      rw [hfirst] at h
      cases h
    | ok b =>
      cases hrest : rest.mapM f with
      | error e =>
        rw [hfirst, hrest] at h
        cases h
      | ok others =>
        rw [hfirst, hrest] at h
        cases h
        exact .cons hfirst (ih hrest)

/-- What stops the way through a list is one of its items. -/
theorem exists_of_mapM_error {α β ε : Type} {f : α → Except ε β} {items : List α} {e : ε}
    (h : items.mapM f = .error e) : ∃ a ∈ items, f a = .error e := by
  induction items with
  | nil => cases h
  | cons a rest ih =>
    rw [List.mapM_cons] at h
    cases hfirst : f a with
    | error e' =>
      rw [hfirst] at h
      cases h
      exact ⟨a, List.mem_cons_self, hfirst⟩
    | ok b =>
      cases hrest : rest.mapM f with
      | error e' =>
        rw [hfirst, hrest] at h
        cases h
        obtain ⟨a', ha', hstop⟩ := ih hrest
        exact ⟨a', List.mem_cons_of_mem a ha', hstop⟩
      | ok others =>
        rw [hfirst, hrest] at h
        cases h

/-! ## Plans -/

/-- Two outcomes that tell the same of an artifact, but for the bytes that were written. -/
structure Outcome.Agrees (plan made : Outcome) : Prop where
  kind : plan.artifact.kind = made.artifact.kind
  target : plan.target = made.target
  description : plan.artifact.description = made.artifact.description
  lineCount : plan.artifact.lineCount = made.artifact.lineCount
  digest : plan.digest = made.digest

/-- Two reports that agree, outcome by outcome. -/
structure Report.Agrees (plan made : Report) : Prop where
  outcomes : List.Forall₂ Outcome.Agrees plan.outcomes made.outcomes
  totalLines : plan.totalLines = made.totalLines

/-- A report of a plan: one artifact of each kind, all of them fine, and nothing written. -/
structure Report.IsPlan (report : Report) : Prop where
  success : report.success = true
  kinds : report.outcomes.map (·.artifact.kind) = Kind.all
  outcomes : ∀ o ∈ report.outcomes, o.success = true ∧ o.bytes = 0
  totalBytes : report.totalBytes = 0

namespace Emitter

/-- The outcome of an artifact in a dry run. -/
def planned (e : Emitter) (a : Artifact) : Outcome where
  artifact := a
  target := e.target a
  digest := Digest.sha256 a.content.toUTF8

@[simp] theorem success_planned (e : Emitter) (a : Artifact) : (e.planned a).success = true := rfl

/-- A dry run plans all artifacts, unless half of a character is in one, and leaves the files
alone. -/
theorem effect_outcomes_of_dry {e : Emitter} (hdry : e.dryRun = true) (artifacts : List Artifact)
    (w : World) :
    effect (e.outcomes true artifacts) w =
      (if artifacts.any (·.half) then .error (.breakdown .halfCharacter)
        else .ok (artifacts.map e.planned), w.files) := by
  induction artifacts with
  | nil => rfl
  | cons a rest ih =>
    rw [effect_outcomes_cons, List.any_cons]
    cases hhalf : a.half with
    | true =>
      rw [emitOne_of_half e hhalf]
      rfl
    | false =>
      have hemit : effect (e.emitOne a) w = (.ok (e.planned a), w.files) := by
        rw [emitOne_of_whole e hhalf]
        unfold emitWhole
        dsimp only
        rw [if_pos hdry]
        rfl
      rw [hemit]
      dsimp only
      rw [if_pos (e.success_planned a), ih, Bool.false_or]
      cases rest.any (·.half) with
      | true => rfl
      | false => rfl

/-- The lines of outcomes that all succeeded are those of their artifacts. -/
theorem totalLines_map {outcome : Artifact → Outcome}
    (hartifact : ∀ a, (outcome a).artifact = a ∧ (outcome a).success = true)
    (artifacts : List Artifact) :
    ((artifacts.map outcome).filter (·.success)).foldr
      (fun o total => (o.artifact.lineCount : Int) + total) 0 =
        artifacts.foldr (fun a total => (a.lineCount : Int) + total) 0 := by
  induction artifacts with
  | nil => rfl
  | cons a rest ih =>
    rw [List.map_cons, List.filter_cons_of_pos (hartifact a).2, List.foldr_cons, ih,
      (hartifact a).1, List.foldr_cons]

theorem totalBytes_planned (e : Emitter) (artifacts : List Artifact) :
    (artifacts.map e.planned).foldr (fun o total => (o.bytes : Int) + total) 0 = 0 := by
  induction artifacts with
  | nil => rfl
  | cons a rest ih =>
    rw [List.map_cons, List.foldr_cons, ih]
    rfl

theorem agrees_written {e e' : Emitter} (hroot : e.root = e'.root) (a : Artifact) :
    (e.planned a).Agrees (e'.written a) := by
  refine ⟨rfl, ?_, rfl, rfl, rfl⟩
  change e.root.join a.path = e'.root.join a.path
  rw [hroot]

end Emitter

namespace Generator

/-- A generator that only says what it would write. -/
def dry (g : Generator) : Generator := { g with dryRun := true }

/-- A generator that does write. -/
def wet (g : Generator) : Generator := { g with dryRun := false }

variable {g : Generator} {source : Source} {s : Schema} {artifacts : List Artifact} {w : World}

/-- What a run makes of its source, if all artifacts can be summed up. -/
def foreseen (g : Generator) (source : Source) (w : World) :
    Except Stop (Schema × List Artifact) :=
  (g.prepared source w).bind fun made =>
    if made.2.any (·.half) then .error (.breakdown .halfCharacter) else .ok made

theorem foreseen_eq_ok_iff : g.foreseen source w = .ok (s, artifacts) ↔
    g.prepared source w = .ok (s, artifacts) ∧ ∀ a ∈ artifacts, a.half = false := by
  have hany : artifacts.any (·.half) = false ↔ ∀ a ∈ artifacts, a.half = false := by simp
  unfold foreseen
  rcases g.prepared source w with stop | made
  · exact iff_of_false (fun h => nomatch h) fun h => nomatch h.1
  rw [← hany]
  dsimp only [Except.bind]
  constructor
  · intro h
    split at h
    · cases h
    · next hnone =>
      cases h
      exact ⟨rfl, Bool.eq_false_of_not_eq_true hnone⟩
  · rintro ⟨hmade, hnone⟩
    cases hmade
    rw [hnone]
    rfl

theorem foreseen_of_error {stop : Stop} (h : g.prepared source w = .error stop) :
    g.foreseen source w = .error stop := by
  rw [foreseen, h]
  rfl

theorem prepared_dry (g : Generator) (source : Source) (w : World) :
    g.dry.prepared source w = g.prepared source w := rfl

theorem prepared_wet (g : Generator) (source : Source) (w : World) :
    g.wet.prepared source w = g.prepared source w := rfl

/-! ## Preparing -/

theorem prepares_of_prepared (h : g.prepared source w = .ok (s, artifacts)) :
    g.Prepares source w s artifacts := by
  unfold prepared at h
  split at h
  · cases h
  · split at h
    · cases h
    · next t hloaded =>
      cases hmade : g.artifactResults (w.now.format g.config.timestampFormat) t with
      | error stop =>
        rw [hmade] at h
        cases h
      | ok made =>
        rw [hmade] at h
        cases h
        obtain ⟨w', hstart, _⟩ :=
          start_eq_of_effect ((g.effect_artifacts s w).trans (by rw [hmade]))
        exact Prepares.marked ⟨hloaded, renders_of_artifacts hstart⟩ w

/-- The numerals in a schema that are written out can be written. -/
def Writable (s : Schema) : Prop :=
  ∀ kind ∈ Kind.all, ∀ n ∈ Artifact.numerals .shipped kind s, n < 10 ^ Number.digitLimit

theorem isNone_numeral?_iff (n : Nat) :
    (Number.numeral? n).isNone = true ↔ 10 ^ Number.digitLimit ≤ n := by
  have hlength : Number.digitLimit < (toString (n : Int).natAbs).length ↔
      10 ^ Number.digitLimit ≤ n := by
    rw [Int.natAbs_natCast, ← Nat.not_le, Nat.toString_eq_repr,
      Nat.length_repr_le_iff (by decide), Nat.not_lt]
  unfold Number.numeral?
  split
  · next hlong => simpa using hlength.1 hlong
  · next hshort => simpa using mt hlength.2 hshort

theorem any_numerals_eq_false_iff {numerals : List Nat} :
    (numerals.any fun n => (Number.numeral? n).isNone) = false ↔
      ∀ n ∈ numerals, n < 10 ^ Number.digitLimit := by
  rw [List.any_eq_false]
  refine forall₂_congr fun n _ => ?_
  rw [isNone_numeral?_iff, Nat.not_le]

/-- With the shipped templates, only a numeral can keep an artifact from being made. -/
theorem artifactResult_of_shipped (hshipped : g.templates = .shipped) (timestamp : String)
    (s : Schema) (kind : Kind) :
    g.artifactResult timestamp s kind = .error (.breakdown (.tooManyDigits none)) ∨
      ∃ a, g.artifactResult timestamp s kind = .ok a := by
  unfold artifactResult
  rw [hshipped, Artifact.render_shipped]
  split
  · exact .inl rfl
  · exact .inr ⟨_, rfl⟩

/-- No half of a character gets from a source into a text. -/
def Clear (source : Source) (w : World) (s : Schema) : Prop :=
  Loading.isWhole source w = true ∨ ∀ kind ∈ Kind.all, Letter.standIn ∉ (kind.text s).toList

theorem any_half_marked (source : Source) (artifacts : List Artifact) (w : World) :
    (artifacts.map (marked source w)).any (·.half) =
      (!Loading.isWhole source w && artifacts.any fun a => a.content.toList.contains Letter.standIn)
    := by
  rw [List.any_map]
  unfold marked
  cases Loading.isWhole source w with
  | true => simp
  | false => rfl

theorem clear_iff (hcontents : artifacts.map (·.content) = Kind.all.map (·.text s)) :
    Clear source w s ↔ (artifacts.map (marked source w)).any (·.half) = false := by
  have hany : (artifacts.any fun a => a.content.toList.contains Letter.standIn) =
      Kind.all.any fun kind => (kind.text s).toList.contains Letter.standIn := by
    let isHalf (content : String) : Bool := content.toList.contains Letter.standIn
    have hmap : (artifacts.map (·.content)).any isHalf = (Kind.all.map (·.text s)).any isHalf := by
      rw [hcontents]
    rw [List.any_map, List.any_map] at hmap
    exact hmap
  rw [any_half_marked, hany, Clear, Bool.and_eq_false_iff, Bool.not_eq_false', List.any_eq_false]
  simp only [List.contains_iff_mem]

theorem contents_of_shipped (hshipped : g.templates = .shipped) {timestamp : String}
    (hmade : g.artifactResults timestamp s = .ok artifacts) :
    artifacts.map (·.content) = Kind.all.map (·.text s) := by
  have hall := forall₂_of_mapM_ok hmade
  clear hmade
  generalize Kind.all = kinds at hall
  induction hall with
  | nil => rfl
  | cons hfirst _ ih =>
    rw [List.map_cons, List.map_cons, ih, eq_of_artifactResult hshipped hfirst]

theorem writable_of_shipped (hshipped : g.templates = .shipped) {timestamp : String}
    (hmade : g.artifactResults timestamp s = .ok artifacts) : Writable s := by
  have hall : List.Forall₂ (fun kind a => (∃ a, g.artifactResult timestamp s kind = .ok a) ∧
      g.artifactResult timestamp s kind = .ok a) Kind.all artifacts :=
    (forall₂_of_mapM_ok hmade).imp fun kind a ha => ⟨⟨a, ha⟩, ha⟩
  intro kind hkind
  obtain ⟨a, ha⟩ := ((List.forall₂_and_left _ _).1 hall).1 kind hkind
  unfold artifactResult at ha
  rw [hshipped] at ha
  split at ha
  · cases ha
  · next hshort => exact any_numerals_eq_false_iff.1 (Bool.eq_false_of_not_eq_true hshort)

/-- Whether a schema gives artifacts, if the templates are the shipped ones. -/
theorem foreseen_of_shipped (hshipped : g.templates = .shipped)
    (hroot : hasNull g.root.text = false)
    (hload : ((Loading.schema source).start w).1 = .ok s) :
    (Writable s ∧ Clear source w s ∧ ∃ artifacts, g.foreseen source w = .ok (s, artifacts)) ∨
      (¬ Clear source w s ∧ g.foreseen source w = .error (.breakdown .halfCharacter)) ∨
      (¬ Writable s ∧ g.foreseen source w = .error (.breakdown (.tooManyDigits none))) := by
  have hprepared := prepared_of_loaded hroot hload
  cases hmade : g.artifactResults (w.now.format g.config.timestampFormat) s with
  | ok artifacts =>
    rw [hmade] at hprepared
    have hclear : Clear source w s ↔ _ := clear_iff (contents_of_shipped hshipped hmade)
    rw [foreseen, hprepared]
    dsimp only [Except.map, Except.bind]
    split
    · next hhalf => exact .inr (.inl ⟨fun h => absurd (hclear.1 h) (by simp [hhalf]), rfl⟩)
    · next hnone =>
      have hwritable := writable_of_shipped hshipped hmade
      exact .inl ⟨hwritable, hclear.2 (Bool.eq_false_of_not_eq_true hnone), _, rfl⟩
  | error stop =>
    rw [hmade] at hprepared
    obtain ⟨kind, hkind, hstop⟩ := exists_of_mapM_error hmade
    rcases artifactResult_of_shipped hshipped _ s kind with hlong | ⟨a, ha⟩
    · rw [hlong] at hstop
      cases hstop
      refine .inr (.inr ⟨fun hs => ?_, foreseen_of_error hprepared⟩)
      have hshort := any_numerals_eq_false_iff.2 (hs kind hkind)
      unfold artifactResult at hlong
      rw [hshipped, hshort, if_neg Bool.false_ne_true, Artifact.render_shipped] at hlong
      cases hlong
    · rw [ha] at hstop
      cases hstop

/-! ## Dry runs -/

/-- The report of a dry run. -/
def plan (g : Generator) (source : Source) (w : World) (s : Schema) (artifacts : List Artifact) :
    Report :=
  { g.dry.account source w s artifacts (artifacts.map (g.dry.rooted w.directory).planned) with
    success := true }

theorem effect_generate_dry (g : Generator) (source : Source) (w : World) :
    effect (g.dry.generate source) w = match g.foreseen source w with
      | .error stop => (.error stop, w.files)
      | .ok (s, artifacts) => (.ok (g.plan source w s artifacts), w.files) := by
  rw [effect_generate, prepared_dry, foreseen]
  rcases g.prepared source w with stop | ⟨s, artifacts⟩
  · rfl
  dsimp only [Except.bind]
  rw [Emitter.effect_outcomes_of_dry rfl]
  cases artifacts.any (·.half) with
  | true => rfl
  | false =>
    have hnone : (artifacts.map (g.dry.rooted w.directory).planned).findSome? (·.failure) =
        none := by
      simp [Emitter.planned]
    exact Prod.ext (judged_eq_ok_iff.2 ⟨hnone, rfl⟩) rfl

theorem isPlan_plan (hprepared : g.prepared source w = .ok (s, artifacts)) :
    (g.plan source w s artifacts).IsPlan := by
  have hkinds := (map_of_renders (prepares_of_prepared hprepared).rendered).1
  refine ⟨rfl, ?_, ?_, ?_⟩
  · change (artifacts.map (g.dry.rooted w.directory).planned).map (·.artifact.kind) = Kind.all
    rw [List.map_map, ← hkinds]
    rfl
  · intro o ho
    obtain ⟨a, _, rfl⟩ := List.mem_map.1 ho
    exact ⟨rfl, rfl⟩
  · exact Emitter.totalBytes_planned _ artifacts

/-- A dry run that returns gives the plan of what was prepared. -/
theorem start_dry_eq_ok_iff {report : Report} :
    (∃ w', (g.dry.generate source).start w = (.ok report, w')) ↔
      ∃ s artifacts, g.foreseen source w = .ok (s, artifacts) ∧
        report = g.plan source w s artifacts := by
  have heffect := g.effect_generate_dry source w
  rcases hforeseen : g.foreseen source w with stop | ⟨s, artifacts⟩
  · rw [hforeseen] at heffect
    obtain ⟨w', hstart, _⟩ := start_eq_of_effect heffect
    simp [hstart]
  · rw [hforeseen] at heffect
    obtain ⟨w', hstart, _⟩ := start_eq_of_effect heffect
    simp [hstart, eq_comm]

/-- Where the real run succeeds, the dry run does, and the two reports agree. -/
theorem agrees_of_wet {made : Report} {w' : World}
    (h : (g.wet.generate source).start w = (.ok made, w')) :
    ∃ s artifacts, g.foreseen source w = .ok (s, artifacts) ∧
      (g.plan source w s artifacts).Agrees made := by
  obtain ⟨s, artifacts, outcomes, hprepared, hemit, hnone, rfl⟩ :=
    effect_generate_eq_ok_iff.1 (effect_eq_of_start h)
  have hwhole := Emitter.half_of_effect_outcomes hemit hnone
  obtain ⟨_, hstart, _⟩ := start_eq_of_effect hemit
  obtain ⟨rfl, _⟩ := Emitter.reached_of_outcomes (writes_rooted rfl w.directory) hstart hnone
  refine ⟨s, artifacts, foreseen_eq_ok_iff.2 ⟨hprepared, hwhole⟩, ?_, ?_⟩
  · change List.Forall₂ Outcome.Agrees (artifacts.map (g.dry.rooted w.directory).planned)
      (artifacts.map (g.wet.rooted w.directory).written)
    rw [List.forall₂_map_left_iff, List.forall₂_map_right_iff, List.forall₂_same]
    exact fun a _ => Emitter.agrees_written rfl a
  · have hplanned := Emitter.totalLines_map
      (fun a => ⟨rfl, (g.dry.rooted w.directory).success_planned a⟩) artifacts
    have hwritten := Emitter.totalLines_map
      (fun a => ⟨rfl, (g.wet.rooted w.directory).success_written a⟩) artifacts
    exact hplanned.trans hwritten.symm

/-- What a dry run tells, of any source in any world. It leaves all files alone. With the shipped
templates it returns for a source that loads, unless the root cannot be resolved, a numeral in the
schema is too long or half of a character comes up. What it returns is a plan, and the real run from
the same world makes it true, if it succeeds. -/
structure Foretells (g : Generator) (source : Source) (w : World) : Prop where
  files : ((g.dry.generate source).start w).2.files = w.files
  returns : g.templates = .shipped → ∀ s, ((Loading.schema source).start w).1 = .ok s →
    Clear source w s → ((∃ report w', (g.dry.generate source).start w = (.ok report, w')) ↔
      hasNull g.root.text = false ∧ Writable s)
  plans : ∀ report w', (g.dry.generate source).start w = (.ok report, w') → report.IsPlan
  agrees : ∀ made w', (g.wet.generate source).start w = (.ok made, w') →
    ∃ plan w'', (g.dry.generate source).start w = (.ok plan, w'') ∧ plan.Agrees made

theorem dry_run_foretells (g : Generator) (source : Source) (w : World) :
    g.Foretells source w where
  files := by
    change (effect (g.dry.generate source) w).2 = w.files
    rw [effect_generate_dry]
    rcases g.foreseen source w with stop | ⟨s, artifacts⟩ <;> rfl
  returns hshipped s hload hclear := by
    cases hroot : hasNull g.root.text with
    | true =>
      have hprepared : g.prepared source w = .error (.breakdown .nullCharacter) := if_pos hroot
      simp [start_dry_eq_ok_iff, foreseen_of_error hprepared]
    | false =>
      rcases foreseen_of_shipped hshipped hroot hload with
        ⟨hs, _, _, hforeseen⟩ | ⟨hhalf, _⟩ | ⟨hs, hforeseen⟩
      · simp [start_dry_eq_ok_iff, hforeseen, hs]
      · exact absurd hclear hhalf
      · simp [start_dry_eq_ok_iff, hforeseen, hs]
  plans report w' h := by
    obtain ⟨s, artifacts, hforeseen, rfl⟩ := start_dry_eq_ok_iff.1 ⟨w', h⟩
    exact isPlan_plan (foreseen_eq_ok_iff.1 hforeseen).1
  agrees made w' h := by
    obtain ⟨s, artifacts, hforeseen, hagrees⟩ := agrees_of_wet h
    obtain ⟨w'', hstart⟩ := start_dry_eq_ok_iff.2 ⟨s, artifacts, hforeseen, rfl⟩
    exact ⟨_, w'', hstart, hagrees⟩

/-! ## Checking -/

/-- The verdict on a source that was loaded, or that failed to. -/
def verdictOf (source : Source) (w : World) : Except Stop Verdict :=
  match ((Loading.schema source).start w).1 with
  | .ok s => .ok { source := source.label, valid := true, entity := s.name }
  | .error (.failure f) =>
    .ok { source := source.label, valid := false, message := f.message }
  | .error (.breakdown b) => .error (.breakdown b)

theorem steady_verdict (source : Source) : Steady (verdict source) := by
  refine .bind (.attempt (Loading.steady_schema source)) fun result => ?_
  cases result with
  | error f => exact .bind (.note ..) fun _ => .pure _
  | ok s => exact .pure _

theorem effect_verdict (source : Source) (w : World) :
    effect (verdict source) w = (verdictOf source w, w.files) := by
  have hattempt := (Loading.steady_schema source).effect_attempt w
  rw [effect_schema] at hattempt
  unfold verdict verdictOf
  refine ((Steady.attempt (Loading.steady_schema source)).effect_bind (fun result => ?_) w).trans ?_
  · cases result with
    | error f => exact .bind (.note ..) fun _ => .pure _
    | ok s => exact .pure _
  · rw [hattempt]
    rcases ((Loading.schema source).start w).1 with (f | b) | s <;> rfl

/-- A check gives its verdicts one by one and leaves the files alone. -/
theorem effect_validate (sources : List Source) (w : World) :
    effect (validate sources) w =
      ((sources.mapM (verdictOf · w)).map ValidationReport.mk, w.files) := by
  unfold validate
  rw [(Steady.mapM steady_verdict sources).effect_bind fun _ => .pure _,
    Steady.effect_mapM steady_verdict w (effect_verdict · w)]
  cases sources.mapM (verdictOf · w) <;> rfl

/-- What a verdict tells of the runs for its source. A source is valid if and only if a dry run
returns. If it is not, both runs fail, and with the message of the verdict. If it is, each template
finds all that it names in its view and gives its text, the dry run plans them all, and the real run
can only fail to write one. -/
structure Predicts (g : Generator) (w : World) (source : Source) (v : Verdict) : Prop where
  label : v.source = source.label
  valid : v.valid = true ↔ ∃ report w', (g.dry.generate source).start w = (.ok report, w')
  message : v.valid = false → ∃ f w₁ w₂, v.message = f.message ∧
    (g.dry.generate source).start w = (.error (.failure f), w₁) ∧
    (g.wet.generate source).start w = (.error (.failure f), w₂)
  rendered : v.valid = true → ∃ s, ((Loading.schema source).start w).1 = .ok s ∧
    ∀ kind, Template.run (kind.scope s) kind.nodes = .ok (kind.text s) ∧
      Artifact.render g.templates kind ⟨kind, s⟩ = .ok (kind.text s)
  plan : v.valid = true → ∀ report w',
    (g.dry.generate source).start w = (.ok report, w') → report.IsPlan
  unwritten : v.valid = true → ∀ f w',
    (g.wet.generate source).start w = (.error (.failure f), w') → f.isWriting

theorem foreseen_ne_breakdown (h : orderly ((g.dry.generate source).start w).1 = true)
    (b : Breakdown) : g.foreseen source w ≠ .error (.breakdown b) := by
  intro hforeseen
  have hdry := g.effect_generate_dry source w
  rw [hforeseen] at hdry
  have hbroken : ((g.dry.generate source).start w).1 = .error (.breakdown b) :=
    congrArg Prod.fst hdry
  rw [hbroken] at h
  cases h

/-- A source that fails to load fails both runs. -/
theorem predicts_of_failure {f : Failure} (hroot : hasNull g.root.text = false)
    (hload : ((Loading.schema source).start w).1 = .error (.failure f)) :
    g.Predicts w source { source := source.label, valid := false, message := f.message } := by
  have hprepared := prepared_of_error hroot hload
  have hdry := g.effect_generate_dry source w
  have hwet := g.wet.effect_generate source w
  rw [prepared_wet, hprepared] at hwet
  rw [foreseen_of_error hprepared] at hdry
  obtain ⟨w₁, hdry, _⟩ := start_eq_of_effect hdry
  obtain ⟨w₂, hwet, _⟩ := start_eq_of_effect hwet
  refine ⟨rfl, ?_, fun _ => ⟨f, w₁, w₂, rfl, hdry, hwet⟩, nofun, nofun, nofun⟩
  simp [hdry]

/-- A source that gives artifacts has a plan. -/
theorem predicts_of_foreseen (hshipped : g.templates = .shipped)
    (hforeseen : g.foreseen source w = .ok (s, artifacts)) :
    g.Predicts w source { source := source.label, valid := true, entity := s.name } := by
  obtain ⟨w₁, hdry⟩ := start_dry_eq_ok_iff.2 ⟨s, artifacts, hforeseen, rfl⟩
  have hprepared := (foreseen_eq_ok_iff.1 hforeseen).1
  refine ⟨rfl, ?_, nofun, fun _ => ⟨s, ?_, fun kind => ?_⟩, fun _ report w' h => ?_,
    fun _ f w' h => ?_⟩
  · exact iff_of_true rfl ⟨_, w₁, hdry⟩
  · exact (prepares_of_prepared hprepared).loaded
  · rw [hshipped]
    exact ⟨kind.run_nodes s, Artifact.render_shipped kind s⟩
  · rw [hdry] at h
    cases h
    exact isPlan_plan hprepared
  · exact isWriting_of_prepared (g := g.wet) hprepared h

theorem predicts_of_orderly (hshipped : g.templates = .shipped)
    (h : orderly ((g.dry.generate source).start w).1 = true) :
    ∃ v, verdictOf source w = .ok v ∧ g.Predicts w source v := by
  have hstays := foreseen_ne_breakdown h
  have hroot : hasNull g.root.text = false := by
    rw [Bool.eq_false_iff]
    intro hnull
    have hprepared : g.prepared source w = .error (.breakdown .nullCharacter) := if_pos hnull
    exact hstays .nullCharacter (foreseen_of_error hprepared)
  unfold verdictOf
  rcases hload : ((Loading.schema source).start w).1 with (f | b) | s
  · exact ⟨_, rfl, predicts_of_failure hroot hload⟩
  · exact absurd (foreseen_of_error (prepared_of_error hroot hload)) (hstays b)
  · rcases foreseen_of_shipped hshipped hroot hload with
      ⟨_, _, artifacts, hforeseen⟩ | ⟨_, hhalf⟩ | ⟨_, hlong⟩
    · exact ⟨_, rfl, predicts_of_foreseen hshipped hforeseen⟩
    · exact absurd hhalf (hstays _)
    · exact absurd hlong (hstays _)

/-- A check predicts what becomes of its sources, as long as none of them breaks down. -/
theorem validation_predicts (hshipped : g.templates = .shipped) {sources : List Source}
    (h : ∀ source ∈ sources, orderly ((g.dry.generate source).start w).1 = true) :
    ∃ report w', (validate sources).start w = (.ok report, w') ∧ w'.files = w.files ∧
      List.Forall₂ (g.Predicts w) sources report.entries := by
  have heffect := effect_validate sources w
  cases hverdicts : sources.mapM (verdictOf · w) with
  | error stop =>
    obtain ⟨source, hsource, hstop⟩ := exists_of_mapM_error hverdicts
    obtain ⟨v, hv, _⟩ := predicts_of_orderly hshipped (h source hsource)
    rw [hv] at hstop
    cases hstop
  | ok verdicts =>
    rw [hverdicts] at heffect
    obtain ⟨w', hstart, hfiles⟩ := start_eq_of_effect heffect
    refine ⟨_, w', hstart, hfiles, ?_⟩
    have hall := (List.forall₂_and_left _ _).2 ⟨h, forall₂_of_mapM_ok hverdicts⟩
    refine hall.imp ?_
    rintro source v ⟨horderly, hv⟩
    obtain ⟨v', hv', hpredicts⟩ := predicts_of_orderly hshipped horderly
    rw [hv] at hv'
    cases hv'
    exact hpredicts

/-- A note, a mapping that is no schema, and a file that is not there. -/
theorem notes_predicted : standard.templates = .shipped ∧
    (∀ source ∈ [.entries noteEntries, .entries [], .file "gone.yaml"],
      orderly ((standard.dry.generate source).start bareWorld).1 = true) ∧
    ∃ report w', (validate [.entries noteEntries, .entries [], .file "gone.yaml"]).start bareWorld =
        (.ok report, w') ∧ w'.files = bareWorld.files ∧
      report.entries.map (·.valid) = [true, false, false] ∧
      List.Forall₂ (standard.Predicts bareWorld)
        [.entries noteEntries, .entries [], .file "gone.yaml"] report.entries := by
  have horderly : ∀ source ∈ [.entries noteEntries, .entries [], .file "gone.yaml"],
      orderly ((standard.dry.generate source).start bareWorld).1 = true := by
    decide +kernel
  have hvalid : (((validate [.entries noteEntries, .entries [], .file "gone.yaml"]).start
      bareWorld).1.map fun report => report.entries.map (·.valid)).toOption =
        some [true, false, false] := by
    decide +kernel
  obtain ⟨report, w', hstart, hfiles, hpredicts⟩ :=
    validation_predicts (g := standard) rfl horderly
  rw [hstart] at hvalid
  exact ⟨rfl, horderly, report, w', hstart, hfiles, Option.some.inj hvalid, hpredicts⟩

/-! ## A feed -/

/-- The note, with a list of so many entries at a time. -/
def feed (limit : Nat) : Schema :=
  { note with operations := [{ type := .list, limit := some limit }] }

def limitEntries (limit : Nat) : Entries := [
  (.text "type", .text "list"),
  (.text "limit", .int limit)]

def feedEntries (limit : Nat) : Entries := [
  (.text "name", .text "N"),
  (.text "tableName", .text "t"),
  (.text "fields", .list []),
  (.text "operations", .list [.map (limitEntries limit)]),
  (.text "rls", .list [])]

theorem read_limitEntries {limit : Nat} (h : 1 ≤ limit) :
    Operation.read (.map (limitEntries limit)) = .valid { type := .list, limit := some limit } := by
  have hleast : Reading.atLeast 1 (.int limit) = .valid limit := if_pos (Int.ofNat_le.2 h)
  have hlimit : Operation.limitKey.optional (Reading.atLeast 1) (limitEntries limit) =
      .valid (some limit) := by
    change ((Reading.atLeast 1 (.int limit)).map some).under "limit" = _
    rw [hleast]
    rfl
  have hparts : Operation.readEntries (limitEntries limit) =
      .valid { type := .list, limit := some limit } := by
    unfold Operation.readEntries
    rw [hlimit]
    rfl
  unfold Operation.read Reading.record
  dsimp only
  rw [hparts]
  rfl

theorem read_feedEntries {limit : Nat} (h : 1 ≤ limit) :
    Schema.read (.map (feedEntries limit)) = .valid (feed limit) := by
  refine Schema.read_eq_valid_iff.2 ⟨⟨rfl, rfl, rfl, ?_, rfl, rfl, rfl⟩, rfl⟩
  change (Checked.listFrom Operation.read 0 [.map (limitEntries limit)]).under "operations" = _
  rw [Checked.listFrom, read_limitEntries h]
  rfl

theorem load_feedEntries {limit : Nat} (h : 1 ≤ limit) (w : World) :
    ((Loading.schema (.entries (feedEntries limit))).start w).1 = .ok (feed limit) := by
  unfold Loading.schema Loading.checked
  dsimp only
  rw [read_feedEntries h]
  rfl

theorem not_writable_feed {limit : Nat} (h : 10 ^ Number.digitLimit ≤ limit) :
    ¬ Writable (feed limit) := by
  intro hwritable
  have hlimit : limit ∈ Artifact.numerals .shipped .service (feed limit) :=
    List.mem_append_right _ (List.mem_singleton_self limit)
  exact absurd (hwritable .service (by decide) limit hlimit) (Nat.not_lt.2 h)

theorem breaks_down_of_limit {limit : Nat} (h : 10 ^ Number.digitLimit ≤ limit) :
    ((standard.dry.generate (.entries (feedEntries limit))).start bareWorld).1 =
      .error (.breakdown (.tooManyDigits none)) := by
  have hload := load_feedEntries ((Nat.one_le_pow _ 10 (by decide)).trans h) bareWorld
  have heffect := standard.effect_generate_dry (.entries (feedEntries limit)) bareWorld
  obtain ⟨hwritable, _⟩ | ⟨hhalf, _⟩ | ⟨_, hforeseen⟩ :=
    foreseen_of_shipped (g := standard) rfl rfl hload
  · exact absurd hwritable (not_writable_feed h)
  · exact absurd (.inl rfl) hhalf
  rw [hforeseen] at heffect
  exact congrArg Prod.fst heffect

/-- The schema of a feed is accepted however large its limit is, but a numeral of more digits than
can be written out ends the dry run: there is no plan. -/
theorem feed_breaks_down :
    Schema.read (.map (feedEntries (10 ^ Number.digitLimit))) =
        .valid (feed (10 ^ Number.digitLimit)) ∧
      ((standard.dry.generate (.entries (feedEntries (10 ^ Number.digitLimit)))).start
        bareWorld).1 = .error (.breakdown (.tooManyDigits none)) ∧
      ¬ ∃ report w', (standard.dry.generate (.entries (feedEntries (10 ^ Number.digitLimit)))).start
        bareWorld = (.ok report, w') := by
  have hbroken := breaks_down_of_limit (Nat.le_refl (10 ^ Number.digitLimit))
  refine ⟨read_feedEntries (Nat.one_le_pow _ 10 (by decide)), hbroken, ?_⟩
  rintro ⟨report, w', hreturned⟩
  rw [hreturned] at hbroken
  cases hbroken

end Generator
end Scaffold
