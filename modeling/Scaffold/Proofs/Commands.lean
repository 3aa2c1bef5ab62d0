import Scaffold.Command.Execution
import Scaffold.Proofs.Overwriting

/-!
# One command for many, and many commands

A batch does what the commands for its schemas do one after the other: it leaves the same files, and
it ends well if and only if they all do. The commands load their configuration again each time, so
this takes a configuration that none of them writes over. What stays to be said is how the exit
codes tell where a command failed.
-/
namespace Scaffold

open Run

/-! ## Breaking down -/

namespace Run

variable {α : Type} {act : Run α} {w : World} {b : Breakdown}

theorem BreaksDown.not_orderly (h : BreaksDown act w b) :
    Generator.orderly (start act w).1 = false := by
  rw [show (start act w).1 = .error (.breakdown b) from h]
  rfl

theorem exists_breaksDown (h : Generator.orderly (start act w).1 = false) :
    ∃ b, BreaksDown act w b := by
  unfold BreaksDown
  rcases hresult : (start act w).1 with (f | b) | a
  · rw [hresult] at h
    cases h
  · exact ⟨b, rfl⟩
  · rw [hresult] at h
    cases h

end Run

/-- A batch in which a source breaks down does not come to its end. -/
theorem Generator.breaksDown_batch {g : Generator} {sources : List Source} {w : World}
    (h : g.provided sources w = false) : ∃ b, BreaksDown (g.batch sources) w b := by
  suffices ∃ b, BreaksDown (sources.mapM g.batchEntry) w b by
    obtain ⟨b, hb⟩ := this
    exact ⟨b, (hb.timed "generate_batch").bind⟩
  induction sources generalizing w with
  | nil => cases h
  | cons source rest ih =>
    rw [List.mapM_cons]
    rw [provided, Bool.and_eq_false_iff] at h
    cases hfirst : orderly ((g.generate source).start w).1 with
    | false =>
      obtain ⟨b, hb⟩ := exists_breaksDown hfirst
      exact ⟨b, hb.attempt.bind.bind⟩
    | true =>
      obtain ⟨entry, w₁, hentry, _⟩ := exists_turn hfirst
      rw [hfirst, hentry] at h
      obtain ⟨b, hb⟩ := ih (h.resolve_left (by decide))
      exact ⟨b, .bind_of_ok hentry hb.bind⟩

/-! ## One command -/

namespace Command

open Generator (orderly)

/-- The generator of some settings, with their configuration. -/
def made (given : Given) (config : Config) : Generator :=
  { root := Path.ofString given.root, config, dryRun := given.dryRun }

theorem steady_made (given : Given) (config : Config) : Steady (do
    if given.dryRun then
      Run.note .info .command "Dry-run mode: files will not be written to disk."
    (made given config).announce
    return made given config) := by
  have hannounce : Steady (do
      (made given config).announce
      return made given config) :=
    .bind (.bind (.note ..) fun _ => .note ..) fun _ => .pure _
  split
  · exact .bind (.note ..) fun _ => hannounce
  · exact hannounce

theorem steady_generator (given : Given) : Steady (generator given) :=
  .bind (Loading.steady_config given.config) (steady_made given)

/-- The settings give a generator if their configuration can be loaded. -/
theorem effect_generator (given : Given) (w : World) : effect (generator given) w =
    (((Loading.config given.config).start w).1.map (made given), w.files) := by
  refine ((Loading.steady_config given.config).effect_bind (steady_made given) w).trans ?_
  rw [(Loading.onlyReads_config given.config).effect_eq]
  rcases ((Loading.config given.config).start w).1 with stop | c
  · rfl
  · dsimp only
    cases hdry : given.dryRun <;> rfl

theorem effect_attempt_generator (given : Given) (w : World) :
    effect (attempt (generator given)) w = match ((Loading.config given.config).start w).1 with
      | .ok c => (.ok (.ok (made given c)), w.files)
      | .error (.failure f) => (.ok (.error f), w.files)
      | .error (.breakdown b) => (.error (.breakdown b), w.files) := by
  rw [(steady_generator given).effect_attempt, effect_generator]
  rcases ((Loading.config given.config).start w).1 with (f | b) | c <;> rfl

theorem steady_failed (f : Failure) (exit : Nat) : Steady (failed f exit) :=
  .bind (.note ..) fun _ => .pure _

theorem steady_generateOne (given : Given) (schema : String) :
    Steady (generateOne given schema) := by
  have hwork : Steady (generator given >>= fun g => g.generate (source schema)) :=
    .bind (steady_generator given) fun g => g.steady_generate _
  refine .bind hwork.attempt fun result => ?_
  cases result with
  | error f => exact steady_failed f _
  | ok report => exact .pure _

theorem effect_generateOne (given : Given) (schema : String) (w : World) :
    effect (generateOne given schema) w = match ((Loading.config given.config).start w).1 with
      | .error (.failure f) => (.ok { exit := exitCode f }, w.files)
      | .error (.breakdown b) => (.error (.breakdown b), w.files)
      | .ok c => match effect ((made given c).generate (source schema)) w with
        | (.ok report, files) => (.ok (printed 0 report.summary), files)
        | (.error (.failure f), files) => (.ok { exit := exitCode f }, files)
        | (.error (.breakdown b), files) => (.error (.breakdown b), files) := by
  have hnext (g : Generator) : Steady (g.generate (source schema)) := g.steady_generate _
  have hwork := (steady_generator given).effect_bind hnext w
  rw [effect_generator] at hwork
  have hattempt := ((steady_generator given).bind hnext).effect_attempt w
  rw [hwork] at hattempt
  refine (((steady_generator given).bind hnext).attempt.effect_bind (fun result => ?_) w).trans ?_
  · cases result with
    | error f => exact steady_failed f _
    | ok report => exact .pure _
  · rw [hattempt]
    rcases ((Loading.config given.config).start w).1 with (f | b) | c
    · rfl
    · rfl
    · dsimp only [Except.map]
      rcases effect ((made given c).generate (source schema)) w with ⟨(f | b) | report, files⟩ <;>
        rfl

/-- In the end a command only says how it went. -/
theorem exists_start_perform {i : Invocation} {result : Result} {w w₁ : World}
    (h : (carryOut i).start w = (.ok result, w₁)) :
    ∃ w₂, (perform i).start w = (.ok result, w₂) ∧ Unchanged w₁ w₂ := by
  unfold perform
  rw [start_bind_of_ok h]
  split
  · exact ⟨_, start_bind_of_ok (start_note ..), _, rfl⟩
  · exact ⟨_, start_bind_of_ok (start_note ..), _, rfl⟩

/-! ## Exit codes -/

/-- How the exit code of a command for one schema tells what became of it. -/
structure Exits (given : Given) (schema : String) (w : World) (exit : Nat) : Prop where
  unloaded : exit = 4 ↔
    (∃ f, ((Loading.config given.config).start w).1 = .error (.failure f)) ∨
      ∃ f, ((Loading.schema (source schema)).start w).1 = .error (.failure f)
  unmade : exit = 2 ↔ ∃ c s f, ((Loading.config given.config).start w).1 = .ok c ∧
    ((Loading.schema (source schema)).start w).1 = .ok s ∧
    (((made given c).generate (source schema)).start w).1 = .error (.failure f) ∧
    (f.isRendering ∨ f.isWriting)
  success : exit = 0 ↔ ∃ c report, ((Loading.config given.config).start w).1 = .ok c ∧
    (((made given c).generate (source schema)).start w).1 = .ok report

theorem exitCode_of_isDocument {f : Failure} (h : f.isDocument) : exitCode f = 4 := by
  cases f <;> first | rfl | cases h

theorem exitCode_of_isWriting {f : Failure} (h : f.isRendering ∨ f.isWriting) :
    exitCode f = 2 := by
  cases f <;> first | rfl | simp [Failure.isRendering, Failure.isWriting] at h

theorem exitCode_ne_zero (f : Failure) : exitCode f ≠ 0 := by
  cases f <;> simp [exitCode]

theorem exits_of_config {given : Given} {schema : String} {w : World} {f : Failure}
    (h : ((Loading.config given.config).start w).1 = .error (.failure f)) :
    Exits given schema w (exitCode f) := by
  rw [exitCode_of_isDocument ((Loading.onlyReads_config given.config).failure w f h)]
  refine ⟨?_, ?_, ?_⟩
  · simp [h]
  · simp [h]
  · simp [h]

theorem exits_of_report {given : Given} {schema : String} {w : World} {c : Config}
    {report : Report} (hconfig : ((Loading.config given.config).start w).1 = .ok c)
    (h : (((made given c).generate (source schema)).start w).1 = .ok report) :
    Exits given schema w 0 := by
  obtain ⟨s, artifacts, outcomes, hprepared, _⟩ :=
    Generator.effect_generate_eq_ok_iff.1 (effect_eq_of_start (Prod.ext h rfl))
  have hloaded := (Generator.prepares_of_prepared hprepared).loaded
  refine ⟨?_, ?_, ?_⟩
  · simp [hconfig, hloaded]
  · simp [hconfig, h]
  · simp [hconfig, h]

theorem exits_of_failure {given : Given} {schema : String} {w : World} {c : Config}
    {f : Failure} (hconfig : ((Loading.config given.config).start w).1 = .ok c)
    (h : (((made given c).generate (source schema)).start w).1 = .error (.failure f)) :
    Exits given schema w (exitCode f) := by
  rcases Generator.cases_of_failure (Prod.ext h rfl) with hload | ⟨s, hload, hlate⟩
  · rw [exitCode_of_isDocument ((Loading.onlyReads_schema (source schema)).failure w f hload)]
    refine ⟨?_, ?_, ?_⟩
    · simp [hload]
    · simp [hload]
    · simp [hconfig, h]
  · rw [exitCode_of_isWriting hlate]
    refine ⟨?_, ?_, ?_⟩
    · simp [hconfig, hload]
    · simp [hconfig, hload, h, hlate]
    · simp [hconfig, h]

/-! ## Commands one after the other -/

/-- The commands for some schemas, each in the world that those before it left, and each with an
exit code that tells what became of it. -/
inductive Session (given : Given) : List String → World → List Result → World → Prop
  | nil (w : World) : Session given [] w [] w
  | cons {schema : String} {rest : List String} {w w₁ w₂ : World} {result : Result}
      {results : List Result}
      (hfirst : (perform ⟨given, .generate, [schema]⟩).start w = (.ok result, w₁))
      (hexits : Exits given schema w result.exit) (hrest : Session given rest w₁ results w₂) :
      Session given (schema :: rest) w (result :: results) w₂

variable {given : Given} {schemas : List String} {w : World}

/-- A command comes to the result of its run. -/
theorem perform_of_effect {schema : String} {result : Result} {files : FileSystem}
    (h : effect (generateOne given schema) w = (.ok result, files)) :
    ∃ w₁, (perform ⟨given, .generate, [schema]⟩).start w = (.ok result, w₁) ∧
      w₁.files = files ∧ SameSetting w w₁ := by
  obtain ⟨w₁, hstart, rfl, hsetting⟩ := (steady_generateOne given schema).exists_start h
  obtain ⟨w₂, hperform, hsaid⟩ :=
    exists_start_perform (i := ⟨given, .generate, [schema]⟩) hstart
  exact ⟨w₂, hperform, hsaid.files, hsetting.trans hsaid.sameSetting⟩

theorem config_of_unchanged {v : World} (hsame : Unchanged w v) :
    ((Loading.config given.config).start v).1 = ((Loading.config given.config).start w).1 :=
  ((Loading.steady_config given.config).deaf w v hsame).1

/-- Without a configuration every command fails, and changes nothing. -/
theorem session_of_config (schemas : List String) {f : Failure} {v : World} (hsame : Unchanged w v)
    (h : ((Loading.config given.config).start w).1 = .error (.failure f)) :
    ∃ results v', Session given schemas v results v' ∧ Unchanged w v' ∧
      ∀ result ∈ results, result.exit = 4 := by
  induction schemas generalizing v with
  | nil => exact ⟨[], v, .nil v, hsame, List.forall_mem_nil _⟩
  | cons schema rest ih =>
    have hconfig := (config_of_unchanged hsame).trans h
    have heffect := effect_generateOne given schema v
    rw [hconfig] at heffect
    obtain ⟨v₁, hfirst, hfiles, hsetting⟩ := perform_of_effect heffect
    obtain ⟨results, v', hsession, hunchanged, hexit⟩ :=
      ih (hsame.trans (hsetting.unchanged hfiles))
    refine ⟨_, v', .cons hfirst (exits_of_config hconfig) hsession, hunchanged, ?_⟩
    refine List.forall_mem_cons.2 ⟨?_, hexit⟩
    exact exitCode_of_isDocument ((Loading.onlyReads_config given.config).failure w f h)

/-- A command does what the turn of its schema in a batch does. -/
theorem perform_of_turn {schema : String} {c : Config} {entry : BatchEntry} {w₁ v : World}
    (hsame : Unchanged w v) (hconfig : ((Loading.config given.config).start w).1 = .ok c)
    (hturn : (made given c).Turn (source schema) w entry w₁) :
    ∃ result v₁, (perform ⟨given, .generate, [schema]⟩).start v = (.ok result, v₁) ∧
      Exits given schema v result.exit ∧ v₁.files = w₁.files ∧ SameSetting v v₁ ∧
      (result.exit = 0 ↔ entry.success = true) := by
  have hconfig' := (config_of_unchanged hsame).trans hconfig
  have hrun := ((made given c).steady_generate (source schema)).effect_of_unchanged hsame
  have heffect := effect_generateOne given schema v
  rw [hconfig'] at heffect
  dsimp only at heffect
  rw [hrun] at heffect
  cases hturn with
  | done h hsaid =>
    rw [effect_eq_of_start h] at heffect hrun
    obtain ⟨v₁, hstart, hfiles, hsetting⟩ := perform_of_effect heffect
    obtain ⟨_, hagain, _⟩ := start_eq_of_effect hrun
    have hexits : Exits given schema v 0 := exits_of_report hconfig' (congrArg Prod.fst hagain)
    exact ⟨_, v₁, hstart, hexits, hfiles.trans hsaid.files.symm, hsetting, iff_of_true rfl rfl⟩
  | @failed f _ _ h hsaid =>
    rw [effect_eq_of_start h] at heffect hrun
    obtain ⟨v₁, hstart, hfiles, hsetting⟩ := perform_of_effect heffect
    obtain ⟨_, hagain, _⟩ := start_eq_of_effect hrun
    have hexits : Exits given schema v (exitCode f) :=
      exits_of_failure hconfig' (congrArg Prod.fst hagain)
    exact ⟨_, v₁, hstart, hexits, hfiles.trans hsaid.files.symm, hsetting,
      iff_of_false (exitCode_ne_zero f) Bool.false_ne_true⟩

/-- The commands go along with the turns of a batch, in worlds that differ in their journals. -/
theorem session_of_provided {c : Config} {v : World} (hsame : Unchanged w v)
    (hconfig : ((Loading.config given.config).start w).1 = .ok c)
    (hprovided : (made given c).provided (schemas.map source) w = true)
    (hspared : ∀ path, given.config = some path → (made given c).spares
      ((Path.ofString path).placeFrom w.directory) (schemas.map source) w = true) :
    ∃ entries results v',
      ((schemas.map source).mapM (made given c).batchEntry).start w =
        (.ok entries, (made given c).worldAfter (schemas.map source) w) ∧
      Session given schemas v results v' ∧
      Unchanged ((made given c).worldAfter (schemas.map source) w) v' ∧
      ((∀ result ∈ results, result.exit = 0) ↔ ∀ entry ∈ entries, entry.success = true) := by
  induction schemas generalizing w v with
  | nil => exact ⟨[], [], v, rfl, .nil v, hsame, by simp⟩
  | cons schema rest ih =>
    rw [List.map_cons, Generator.provided, Bool.and_eq_true_iff] at hprovided
    obtain ⟨entry, w₁, hentry, hturn⟩ := Generator.exists_turn hprovided.1
    have hsetting := ((made given c).steady_batchEntry (source schema)).setting w
    have hevolves := Generator.evolves_generate hprovided.1
    rw [← hturn.files_eq] at hevolves
    rw [hentry] at hsetting hprovided
    -- The configuration stays the same for the commands to come.
    have hhere : ∀ path, given.config = some path → (Path.ofString path).placeFrom w.directory ∉
        {place | place ∈ (made given c).writes (source schema) w} := by
      intro path hpath
      have hfirst := (Bool.and_eq_true_iff.1 (hspared path hpath)).1
      simpa using hfirst
    have hthere : ∀ path, given.config = some path → (made given c).spares
        ((Path.ofString path).placeFrom w₁.directory) (rest.map source) w₁ = true := by
      intro path hpath
      have hlater := (Bool.and_eq_true_iff.1 (hspared path hpath)).2
      rw [hentry] at hlater
      rwa [hsetting.directory]
    have hconfig₁ := Loading.fst_start_config hconfig hsetting hevolves hhere
    obtain ⟨result, v₁, hfirst, hexits, hfiles, hsetting', hgood⟩ :=
      perform_of_turn hsame hconfig hturn
    have hsame₁ : Unchanged w₁ v₁ :=
      (hsetting.symm.trans (hsame.sameSetting.trans hsetting')).unchanged hfiles
    obtain ⟨entries, results, v', hentries, hsession, hunchanged, hall⟩ :=
      ih hsame₁ hconfig₁ hprovided.2 hthere
    have hworld : (made given c).worldAfter ((schema :: rest).map source) w =
        (made given c).worldAfter (rest.map source) w₁ := by
      rw [List.map_cons, Generator.worldAfter, List.foldl_cons, hentry]
      rfl
    rw [hworld]
    refine ⟨entry :: entries, result :: results, v', start_mapM_cons hentry hentries,
      .cons hfirst hexits hsession, hunchanged, ?_⟩
    rw [List.forall_mem_cons, List.forall_mem_cons, hgood, hall]

/-! ## A batch -/

/-- Without a configuration a batch fails, and changes nothing. -/
theorem start_batch_of_config (schemas : List String) {f : Failure}
    (h : ((Loading.config given.config).start w).1 = .error (.failure f)) :
    ∃ w₁, (perform ⟨given, .batch, schemas⟩).start w = (.ok { exit := 4 }, w₁) ∧
      Unchanged w w₁ := by
  have heffect := effect_attempt_generator given w
  rw [h] at heffect
  obtain ⟨v, hattempt, hsame⟩ := (steady_generator given).attempt.exists_start_unchanged heffect
  obtain ⟨w₁, hperform, hsaid⟩ := exists_start_perform (i := ⟨given, .batch, schemas⟩)
    ((start_bind_of_ok hattempt).trans (start_bind_of_ok (start_note ..)))
  refine ⟨w₁, hperform, hsame.trans (.trans ?_ hsaid)⟩
  exact ⟨_, rfl⟩

/-- With a configuration, a batch starts with the generator that the commands have. -/
theorem exists_start_generator {c : Config}
    (h : ((Loading.config given.config).start w).1 = .ok c) :
    ∃ v, (attempt (generator given)).start w = (.ok (.ok (made given c)), v) ∧
      Unchanged w v := by
  have heffect := effect_attempt_generator given w
  rw [h] at heffect
  exact (steady_generator given).attempt.exists_start_unchanged heffect

theorem provided_of_orderly {c : Config}
    (hconfig : ((Loading.config given.config).start w).1 = .ok c)
    (h : orderly ((perform ⟨given, .batch, schemas⟩).start w).1 = true) :
    (made given c).provided (schemas.map source) w = true := by
  obtain ⟨v, hgenerator, hsame⟩ := exists_start_generator hconfig
  by_contra hbroken
  rw [← Generator.provided_of_unchanged hsame, Bool.not_eq_true] at hbroken
  obtain ⟨b, hb⟩ := Generator.breaksDown_batch hbroken
  have hperform : BreaksDown (perform ⟨given, .batch, schemas⟩) w b :=
    .bind (.bind_of_ok hgenerator hb.bind)
  rw [hperform.not_orderly] at h
  cases h

/-- A batch command that compares to some commands for its schemas, by their exit codes. -/
structure Agrees (given : Given) (schemas : List String) (w : World) (result : Result)
    (results : List Result) : Prop where
  success : schemas ≠ [] → (result.exit = 0 ↔ ∀ each ∈ results, each.exit = 0)
  unloaded : result.exit = 4 ↔ ∃ f, ((Loading.config given.config).start w).1 = .error (.failure f)
  otherwise : result.exit = 0 ∨ result.exit = 4 ∨ result.exit = 1

theorem agrees_of_config {f : Failure} {results : List Result} {w' : World}
    (hconfig : ((Loading.config given.config).start w).1 = .error (.failure f))
    (hsession : Session given schemas w results w') (hexits : ∀ each ∈ results, each.exit = 4) :
    Agrees given schemas w { exit := 4 } results := by
  refine ⟨fun hsome => ?_, iff_of_true rfl ⟨f, hconfig⟩, .inr (.inl rfl)⟩
  refine iff_of_false (by decide) fun hgood => ?_
  cases hsession with
  | nil => exact hsome rfl
  | cons hfirst _ _ =>
    have hfour := hexits _ List.mem_cons_self
    rw [hgood _ List.mem_cons_self] at hfour
    cases hfour

theorem agrees_of_report {c : Config} {report : BatchReport} {results : List Result}
    (hconfig : ((Loading.config given.config).start w).1 = .ok c)
    (hall : (∀ each ∈ results, each.exit = 0) ↔ report.success = true) :
    Agrees given schemas w (printed (if report.success then 0 else 1) report.summary)
      results := by
  cases hgood : report.success with
  | true => exact ⟨fun _ => iff_of_true rfl (hall.2 hgood), by simp [hconfig, printed], .inl rfl⟩
  | false =>
    have hbad : ¬ ∀ each ∈ results, each.exit = 0 := by
      rw [hall, hgood]
      decide
    exact ⟨fun _ => iff_of_false (by simp [printed]) hbad, by simp [hconfig, printed],
      .inr (.inr rfl)⟩

theorem start_batch_of_provided {c : Config}
    (hconfig : ((Loading.config given.config).start w).1 = .ok c)
    (hprovided : (made given c).provided (schemas.map source) w = true) :
    ∃ (report : BatchReport) (w₁ : World), (perform ⟨given, .batch, schemas⟩).start w =
        (.ok (printed (if report.success then 0 else 1) report.summary), w₁) ∧
      effect ((schemas.map source).mapM (made given c).batchEntry) w =
        (.ok report.entries, w₁.files) := by
  obtain ⟨v, hgenerator, hsame⟩ := exists_start_generator hconfig
  rw [← Generator.provided_of_unchanged hsame] at hprovided
  obtain ⟨report, v', hreports, hentries, hafter⟩ := Generator.exists_reports hprovided
  have hcarried : (carryOut ⟨given, .batch, schemas⟩).start w =
      (.ok (printed (if report.success then 0 else 1) report.summary), v') :=
    (start_bind_of_ok hgenerator).trans (start_bind_of_ok hreports.returned)
  obtain ⟨w₁, hperform, hsaid⟩ := exists_start_perform hcarried
  refine ⟨report, w₁, hperform, ?_⟩
  rw [← (Steady.mapM (made given c).steady_batchEntry _).effect_of_unchanged hsame,
    effect_eq_of_start hentries, hsaid.files, hafter.files]

/-- The runs of a batch do not write over its configuration. -/
def SparesConfig (given : Given) (schemas : List String) (w : World) : Prop :=
  ∀ path c, given.config = some path → ((Loading.config given.config).start w).1 = .ok c →
    (made given c).spares ((Path.ofString path).placeFrom w.directory) (schemas.map source) w = true

/-- A batch that does not break down, and whose configuration is not written over, does what the
commands for its schemas do one after the other, and tells by its exit code whether they all end
well. -/
theorem batch_like_commands
    (hends : orderly ((perform ⟨given, .batch, schemas⟩).start w).1 = true)
    (hspared : SparesConfig given schemas w) :
    ∃ result w₁ results w₂,
      (perform ⟨given, .batch, schemas⟩).start w = (.ok result, w₁) ∧
      Session given schemas w results w₂ ∧ w₁.files = w₂.files ∧
      Agrees given schemas w result results := by
  rcases hconfig : ((Loading.config given.config).start w).1 with (f | b) | c
  · obtain ⟨w₁, hperform, hsame⟩ := start_batch_of_config schemas hconfig
    obtain ⟨results, w₂, hsession, hsame', hexits⟩ :=
      session_of_config schemas (.refl w) hconfig
    exact ⟨_, w₁, results, w₂, hperform, hsession, hsame.files.trans hsame'.files.symm,
      agrees_of_config hconfig hsession hexits⟩
  · have hbroken : BreaksDown (perform ⟨given, .batch, schemas⟩) w b :=
      .bind (.bind (.attempt (.bind hconfig)))
    rw [hbroken.not_orderly] at hends
    cases hends
  · have hprovided := provided_of_orderly hconfig hends
    obtain ⟨entries, results, w₂, hentries, hsession, hsame, hall⟩ :=
      session_of_provided (.refl w) hconfig hprovided fun path hpath => hspared path c hpath hconfig
    obtain ⟨report, w₁, hperform, hreport⟩ := start_batch_of_provided hconfig hprovided
    rw [effect_eq_of_start hentries] at hreport
    obtain ⟨hsame', hfiles⟩ := Prod.mk.inj hreport
    obtain rfl := Except.ok.inj hsame'
    refine ⟨_, w₁, results, w₂, hperform, hsession, hfiles.symm.trans hsame.files.symm,
      agrees_of_report hconfig (hall.trans List.all_eq_true.symm)⟩

/-- A configuration that sets nothing, and a note. -/
def deskWorld : World :=
  { bareWorld with
    files := (FileSystem.empty.put ["c.json"] (.file "\x7b\x7d".toUTF8)).put ["n.json"] (.file
      ("\x7b\"name\":\"N\",\"tableName\":\"t\",\"fields\":[],\"operations\":[],"
        ++ "\"rls\":[]\x7d").toUTF8) }

def desk : Given := { config := some "c.json" }

/-- A schema that is not there and the note, in one batch and with two commands. -/
theorem desk_batch_like_commands :
    orderly ((perform ⟨desk, .batch, ["gone.json", "n.json"]⟩).start deskWorld).1 = true ∧
    SparesConfig desk ["gone.json", "n.json"] deskWorld ∧
    ∃ result w₁ results w₂,
      (perform ⟨desk, .batch, ["gone.json", "n.json"]⟩).start deskWorld = (.ok result, w₁) ∧
      Session desk ["gone.json", "n.json"] deskWorld results w₂ ∧ w₁.files = w₂.files ∧
      Agrees desk ["gone.json", "n.json"] deskWorld result results ∧ result.exit = 1 := by
  have hexit : (((perform ⟨desk, .batch, ["gone.json", "n.json"]⟩).start deskWorld).1.map
      Result.exit).toOption = some 1 := by
    decide +kernel
  have hspares : (((Loading.config desk.config).start deskWorld).1.map fun c =>
      (made desk c).spares ((Path.ofString "c.json").placeFrom deskWorld.directory)
        (["gone.json", "n.json"].map source) deskWorld).toOption = some true := by
    decide +kernel
  have hspared : SparesConfig desk ["gone.json", "n.json"] deskWorld := by
    rintro path c ⟨⟩ hconfig
    rw [hconfig] at hspares
    exact Option.some.inj hspares
  rcases hrun : (perform ⟨desk, .batch, ["gone.json", "n.json"]⟩).start deskWorld with
    ⟨stop | result, w₁⟩
  · rw [hrun] at hexit
    cases hexit
  · have hends : orderly ((perform ⟨desk, .batch, ["gone.json", "n.json"]⟩).start
        deskWorld).1 = true := by
      rw [hrun]
      rfl
    obtain ⟨result', w₁', results, w₂, hperform, hsession, hfiles, hagrees⟩ :=
      batch_like_commands hends hspared
    obtain ⟨hresult, rfl⟩ := Prod.mk.inj (hrun.symm.trans hperform)
    obtain rfl := Except.ok.inj hresult
    rw [hrun] at hexit
    exact ⟨rfl, hspared, result, w₁, results, w₂, rfl, hsession, hfiles, hagrees,
      Option.some.inj hexit⟩

end Command
end Scaffold
