import Scaffold.Proofs.Effects

/-!
# Making the files again

A file that was written can be written again: the directories above it are there, so all that
changes is its content. A second run after one that succeeded writes the same texts to the same
places in the same order, and in each place the text that is written last is there already. So the
second run leaves all files as they are, and its report is the same.
-/
namespace Scaffold

open Run

namespace FileSystem

/-! ## Putting twice -/

/-- Putting what is there changes nothing. -/
theorem put_of_get? {fs : FileSystem} {place : Location} {entry : Entry} (hplace : place ≠ [])
    (h : fs.get? place = some entry) : fs.put place entry = fs := by
  have hentries (es : List (Location × Entry)) (hes : es.lookup place = some entry) :
      putEntry place entry es = es := by
    induction es with
    | nil => cases hes
    | cons e rest ih =>
      obtain ⟨p, e⟩ := e
      by_cases hp : p = place
      · subst hp
        rw [List.lookup_cons, beq_self_eq_true] at hes
        rw [putEntry, if_pos rfl, Option.some.inj hes]
      · rw [List.lookup_cons, beq_false_of_ne (Ne.symm hp)] at hes
        rw [putEntry, if_neg hp, ih hes]
  rw [get?, if_neg hplace] at h
  rw [put, hentries fs.entries h]

/-- In one place, what is put last is left. -/
theorem put_put (fs : FileSystem) (place : Location) (entry entry' : Entry) :
    (fs.put place entry).put place entry' = fs.put place entry' := by
  have hentries (es : List (Location × Entry)) :
      putEntry place entry' (putEntry place entry es) = putEntry place entry' es := by
    induction es with
    | nil => simp [putEntry]
    | cons e rest ih =>
      obtain ⟨p, e⟩ := e
      by_cases hp : p = place
      · simp [putEntry, hp]
      · simp [putEntry, hp, ih]
  rw [put, put, put, hentries fs.entries]

/-- In two places where something is, the order does not matter. -/
theorem put_comm {fs : FileSystem} {place place' : Location} (hne : place ≠ place')
    (hplace : place ≠ []) (hplace' : place' ≠ []) (h : (fs.get? place).isSome)
    (h' : (fs.get? place').isSome) (entry entry' : Entry) :
    (fs.put place entry).put place' entry' = (fs.put place' entry').put place entry := by
  have hentries (es : List (Location × Entry)) (hes : (es.lookup place).isSome)
      (hes' : (es.lookup place').isSome) :
      putEntry place' entry' (putEntry place entry es) =
        putEntry place entry (putEntry place' entry' es) := by
    induction es with
    | nil => cases hes
    | cons e rest ih =>
      obtain ⟨p, e⟩ := e
      by_cases hp : p = place
      · subst hp
        simp [putEntry, hne]
      · by_cases hp' : p = place'
        · subst hp'
          simp [putEntry, hp]
        · rw [List.lookup_cons, beq_false_of_ne (Ne.symm hp)] at hes
          rw [List.lookup_cons, beq_false_of_ne (Ne.symm hp')] at hes'
          simp [putEntry, hp, hp', ih hes hes']
  rw [get?, if_neg hplace] at h
  rw [get?, if_neg hplace'] at h'
  simp only [put, hentries fs.entries h h']

/-! ## Paths of files that can be replaced -/

/-- A path to a file that can be replaced. Neither its directory nor its name has a null character,
the directory is there with room for a scratch file, and the file is there. -/
structure Replaceable (fs : FileSystem) (cwd : Location) (p : Path) : Prop where
  whole : Loading.hasNull p.parent.text = false ∧ Loading.hasNull p.name = false
  directory : fs.find cwd p.parent = .ok .directory
  room : ∃ place, fs.walk cwd (numbered (absolute cwd p.parent) p.name 0) = .ok place
  named : p.names ≠ [] ∧ p.name ≠ ".."
  file : ∃ content, fs.find cwd p = .ok (.file content)

namespace Replaceable

variable {fs fs' : FileSystem} {cwd : Location} {p : Path}

theorem exists_file (h : fs.Replaceable cwd p) (hp : p.anchor ≠ .relative) :
    ∃ content, fs.get? p.location = some (.file content) := by
  obtain ⟨content, hfind⟩ := h.file
  obtain ⟨place, hwalk, hentry⟩ := find_eq_ok_iff.1 hfind
  exact ⟨content, location_of_walk hp hwalk ▸ hentry⟩

theorem location_ne (h : fs.Replaceable cwd p) (hp : p.anchor ≠ .relative) : p.location ≠ [] := by
  obtain ⟨content, hentry⟩ := h.exists_file hp
  intro hroot
  rw [hroot] at hentry
  cases hentry

/-- A path stays so if files are written over files. -/
theorem evolves {written made : Set Location} (h : fs.Replaceable cwd p)
    (hp : p.anchor ≠ .relative) (hevolves : Evolves written made fs fs')
    (hwritten : ∀ place ∈ written, ∃ content, fs'.get? place = some (.file content)) :
    fs'.Replaceable cwd p := by
  obtain ⟨content, hfind⟩ := h.file
  obtain ⟨place, hwalk, hentry⟩ := find_eq_ok_iff.1 hfind
  obtain ⟨above, hparent, hdirectory⟩ := find_eq_ok_iff.1 h.directory
  obtain ⟨scratch, hroom⟩ := h.room
  have hscratch := hevolves.walk hroom
  refine ⟨h.whole, find_eq_ok_iff.2 ⟨above, ?_, ?_⟩, ⟨scratch, hscratch⟩, h.named, ?_⟩
  · exact hevolves.walk hparent
  · exact hevolves.directories _ hdirectory
  · by_cases hplace : place ∈ written
    · obtain ⟨content', hnew⟩ := hwritten place hplace
      exact ⟨content', find_eq_ok_iff.2 ⟨place, hevolves.walk hwalk, hnew⟩⟩
    · refine ⟨content, hevolves.find hp ?_ hfind⟩
      rwa [← location_of_walk hp hwalk]

/-- A file in the place of a file leaves every path so. -/
theorem put {q : Path} (h : fs.Replaceable cwd p) (hp : p.anchor ≠ .relative)
    (hq : fs.Replaceable cwd q) (hanchor : q.anchor ≠ .relative) (content : ByteArray) :
    (fs.put q.location (.file content)).Replaceable cwd p := by
  obtain ⟨old, hold⟩ := hq.exists_file hanchor
  have hplace := hq.location_ne hanchor
  have hfile : fs.get? q.location ≠ some .directory := by
    rw [hold]
    exact fun hsome => nomatch hsome
  have hevolves := evolves_put_file hplace hfile content
  refine h.evolves hp hevolves fun place hmem => ⟨content, ?_⟩
  rw [Set.mem_singleton_iff.1 hmem, get?_put hplace, if_pos rfl]

end Replaceable

/-! ## Directories that are there -/

theorem withDirectory_of_find {fs : FileSystem} {cwd : Location} {p : Path} {entry : Entry}
    (h : fs.find cwd p = .ok entry) : fs.withDirectory cwd p = .error .alreadyThere := by
  obtain ⟨place, hwalk, hentry⟩ := find_eq_ok_iff.1 h
  unfold withDirectory newPlace
  by_cases hname : p.names = [] ∨ p.name = ".."
  · simp [hwalk, bind, Except.bind, hname, throw, throwThe, MonadExceptOf.throw]
  · simp [hwalk, bind, Except.bind, hname, pure, Except.pure, hentry, throw, throwThe,
      MonadExceptOf.throw]

theorem missingLevels_of_find {fs : FileSystem} {cwd : Location} {p : Path} {entry : Entry}
    (h : fs.find cwd p = .ok entry) : fs.missingLevels cwd p = 0 := by
  rw [missingLevels, withDirectory_of_find h]

theorem run_makeDirectory_of_find {fs : FileSystem} {cwd : Location} {p : Path}
    (h : fs.find cwd p = .ok .directory) : (makeDirectory cwd p).run.run fs = (.ok (), fs) := by
  rw [run_makeDirectory, withDirectory_of_find h, if_neg (by simp), run_makeOne,
    withDirectory_of_find h, h]

theorem find_of_makeOne {fs fs' : FileSystem} {cwd : Location} {p : Path}
    (h : (makeOne cwd p).run.run fs = (.ok (), fs')) :
    fs'.find cwd p = .ok .directory := by
  rw [run_makeOne] at h
  rcases hchanged : fs.withDirectory cwd p with reason | changed
  · rw [hchanged] at h
    rcases hfind : fs.find cwd p with fault | (_ | content)
    all_goals
      rw [hfind] at h
      cases h
    exact hfind
  · obtain ⟨place, hwalk, hnone, rfl⟩ := withDirectory_eq_ok hchanged
    rw [hchanged] at h
    cases h
    have hplace : place ≠ [] := by
      rintro rfl
      cases hnone
    rw [find_eq_ok_iff]
    refine ⟨place, (evolves_put hnone (Set.mem_singleton place)).walk hwalk, ?_⟩
    rw [get?_put hplace, if_pos rfl]

/-- A directory that was made is there. -/
theorem find_of_makeDirectory {fs fs' : FileSystem} {cwd : Location} {p : Path}
    (h : (makeDirectory cwd p).run.run fs = (.ok (), fs')) :
    fs'.find cwd p = .ok .directory := by
  rw [run_makeDirectory] at h
  split at h
  · rw [if_pos rfl] at h
    by_cases hnames : p.names = []
    · rw [if_pos hnames] at h
      cases h
    · rw [if_neg hnames, run_bind] at h
      rcases hparent : (makeDirectory cwd p.parent).run.run fs with ⟨fault | _, mid⟩
      · rw [hparent] at h
        cases h
      · rw [hparent] at h
        exact find_of_makeOne h
  · rw [if_neg Bool.false_ne_true] at h
    exact find_of_makeOne h

/-! ## Writing a file again -/

/-- A file that was written can be replaced. -/
theorem replaceable_of_writeWhole {fs fs' : FileSystem} {cwd : Location} {p : Path}
    {content : ByteArray} (hp : p.anchor ≠ .relative)
    (hwhole : Loading.hasNull p.parent.text = false ∧ Loading.hasNull p.name = false)
    (hparent : fs.find cwd p.parent = .ok .directory)
    (h : (writeWhole cwd p content).run.run fs = (.ok (), fs')) : fs'.Replaceable cwd p := by
  have hevolves := evolves_writeWhole cwd hp content fs
  rw [h] at hevolves
  obtain ⟨hevolves, hfind⟩ := hevolves
  obtain ⟨scratch, hscratch, hne, hfree⟩ := exists_scratch fs cwd p
  rw [run_writeWhole, hscratch] at h
  dsimp only at h
  rcases hroom : fs.walk cwd (numbered (absolute cwd p.parent) p.name 0) with reason | room
  · rw [hroom] at h
    cases h
  rw [hroom] at h
  rcases hplace : (fs.put scratch.names (.file content)).filePlace cwd p .busy with reason | place
  · rw [hplace] at h
    cases h
  obtain ⟨_, hnamed, _⟩ := filePlace_eq_ok_iff.1 hplace
  obtain ⟨above, habove, hdirectory⟩ := find_eq_ok_iff.1 hparent
  refine ⟨hwhole, find_eq_ok_iff.2 ⟨above, ?_, ?_⟩, ⟨room, ?_⟩, hnamed, content, hfind⟩
  · exact hevolves.walk habove
  · exact hevolves.directories above hdirectory
  · exact hevolves.walk hroom

/-- Replacing a file changes nothing else. -/
theorem run_writeWhole_of_replaceable {fs : FileSystem} {cwd : Location} {p : Path}
    (hp : p.anchor ≠ .relative) (h : fs.Replaceable cwd p) (content : ByteArray) :
    (writeWhole cwd p content).run.run fs = (.ok (), fs.put p.location (.file content)) := by
  obtain ⟨scratch, hscratch, hne, hfree⟩ := exists_scratch fs cwd p
  obtain ⟨room, hroom⟩ := h.room
  obtain ⟨old, hfind⟩ := h.file
  obtain ⟨place, hwalk, hentry⟩ := find_eq_ok_iff.1 hfind
  obtain rfl := location_of_walk hp hwalk
  have hfile : fs.get? p.location ≠ some .directory := by
    rw [hentry]
    exact fun hsome => nomatch hsome
  have hplace : (fs.put scratch.names (.file content)).filePlace cwd p .busy = .ok p.location :=
    (filePlace_scratch hne hfree content .busy).2
      (filePlace_eq_ok_iff.2 ⟨hwalk, h.named, hfile⟩)
  rw [run_writeWhole, hscratch]
  dsimp only
  rw [hroom, hplace]

end FileSystem

open FileSystem

/-! ## Writing a text again -/

/-- A text is written in steps, each of which can be the last. -/
theorem effect_writeText (p : Path) (s : String) (w : World) :
    effect (writeText true p s) w =
      if Loading.hasNull p.parent.text then (.error (.breakdown .nullCharacter), w.files)
      else if depthLimit < w.files.missingLevels w.directory p.parent then
        (.error (.breakdown (.tooDeep makingText)), w.files)
      else match (makeDirectory w.directory p.parent).run.run w.files with
        | (.error fault, made) => (.ok (.error fault), made)
        | (.ok _, made) =>
          if Loading.hasNull p.name then (.error (.breakdown .nullCharacter), made)
          else match (writeWhole w.directory p s.toUTF8).run.run made with
            | (.error fault, after) => (.ok (.error fault), after)
            | (.ok _, after) => (.ok (.ok s.toUTF8.size), after) := by
  unfold writeText
  rw [effect_get_bind]
  dsimp only
  by_cases hparent : Loading.hasNull p.parent.text = true
  · rw [if_pos hparent, if_pos hparent]
    rfl
  rw [if_neg hparent, if_neg hparent]
  by_cases hdeep : depthLimit < w.files.missingLevels w.directory p.parent
  · rw [if_pos hdeep, if_pos hdeep]
    rfl
  rw [if_neg hdeep, if_neg hdeep, effect, start_bind_of_ok (start_change ..)]
  rcases (makeDirectory w.directory p.parent).run.run w.files with ⟨fault | _, made⟩
  · rfl
  dsimp only
  rw [start_bind_of_ok (start_note ..)]
  by_cases hname : Loading.hasNull p.name = true
  · rw [if_pos hname, if_pos hname]
    rfl
  rw [if_neg hname, if_neg hname, start_bind_of_ok (start_change ..), if_pos rfl]
  dsimp only
  rcases (writeWhole w.directory p s.toUTF8).run.run made with ⟨fault | _, after⟩ <;> rfl

theorem replaceable_of_writeText {p : Path} {s : String} {w : World} {bytes : Nat}
    {files : FileSystem} (hp : p.anchor ≠ .relative)
    (h : effect (writeText true p s) w = (.ok (.ok bytes), files)) :
    files.Replaceable w.directory p := by
  rw [effect_writeText] at h
  by_cases hparent : Loading.hasNull p.parent.text = true
  · rw [if_pos hparent] at h
    cases h
  rw [if_neg hparent] at h
  by_cases hdeep : depthLimit < w.files.missingLevels w.directory p.parent
  · rw [if_pos hdeep] at h
    cases h
  rw [if_neg hdeep] at h
  rcases hmade : (makeDirectory w.directory p.parent).run.run w.files with ⟨fault | _, made⟩
  · rw [hmade] at h
    cases h
  rw [hmade] at h
  dsimp only at h
  by_cases hname : Loading.hasNull p.name = true
  · rw [if_pos hname] at h
    cases h
  rw [if_neg hname] at h
  rcases hwritten : (writeWhole w.directory p s.toUTF8).run.run made with ⟨fault | _, after⟩
  · rw [hwritten] at h
    cases h
  rw [hwritten] at h
  cases h
  have hwhole := And.intro (Bool.eq_false_of_not_eq_true hparent)
    (Bool.eq_false_of_not_eq_true hname)
  exact replaceable_of_writeWhole hp hwhole (find_of_makeDirectory hmade) hwritten

theorem effect_writeText_of_replaceable {p : Path} {w : World} (hp : p.anchor ≠ .relative)
    (h : w.files.Replaceable w.directory p) (s : String) :
    effect (writeText true p s) w =
      (.ok (.ok s.toUTF8.size), w.files.put p.location (.file s.toUTF8)) := by
  rw [effect_writeText, h.whole.1, h.whole.2, missingLevels_of_find h.directory,
    run_makeDirectory_of_find h.directory]
  dsimp only
  rw [run_writeWhole_of_replaceable hp h]
  rfl

/-! ## Emitting again -/

namespace Emitter

theorem effect_emitOne {e : Emitter} (h : e.Writes) (hoverwrite : e.overwrite = true)
    {a : Artifact} (hwhole : a.half = false) (w : World) :
    effect (e.emitOne a) w = match effect (writeText true (e.target a) a.content) w with
      | (.ok (.ok bytes), files) => (.ok { e.written a with bytes }, files)
      | (.ok (.error fault), files) => (.ok (e.refusal s!"{fault.kind}: {fault.message}" a), files)
      | (.error stop, files) => (.error stop, files) := by
  rw [emitOne_of_whole e hwhole]
  unfold emitWhole
  dsimp only
  rw [h.wet, if_neg Bool.false_ne_true, if_pos hoverwrite, write, h.atomic]
  rcases htext : effect (writeText true (e.target a) a.content) w with
    ⟨stop | (fault | bytes), files⟩
  · exact Steady.effect_bind_of_error htext
  · exact (steady_writeText true _ _).effect_bind_of_ok (steady_refused a _ _) htext
  · exact (steady_writeText true _ _).effect_bind_of_ok (.bind (.note ..) fun _ => .pure _) htext

/-- All targets are those of files that can be replaced. -/
def Ready (e : Emitter) (cwd : Location) (fs : FileSystem) (artifacts : List Artifact) : Prop :=
  ∀ a ∈ artifacts, fs.Replaceable cwd (e.target a)

/-- The text of each artifact is at its target, unless one after it has the same place. -/
def Shows (e : Emitter) (fs : FileSystem) : List Artifact → Prop
  | [] => True
  | a :: rest => ((e.target a).location ∈ e.places rest ∨
      fs.get? (e.target a).location = some (.file a.content.toUTF8)) ∧ Shows e fs rest

/-- The files with the texts of artifacts put at their targets. -/
def refill (e : Emitter) (fs : FileSystem) (artifacts : List Artifact) : FileSystem :=
  artifacts.foldl (fun fs a => fs.put (e.target a).location (.file a.content.toUTF8)) fs

variable {e : Emitter} {artifacts : List Artifact} {cwd : Location} {fs : FileSystem}

theorem Ready.put (h : e.Writes) (hready : e.Ready cwd fs artifacts) {a : Artifact}
    (ha : fs.Replaceable cwd (e.target a)) (content : ByteArray) :
    e.Ready cwd (fs.put (e.target a).location (.file content)) artifacts :=
  fun b hb => (hready b hb).put (h.target b) ha (h.target a) content

/-- Where all can be replaced, all is, one after the other. -/
theorem effect_outcomes_of_ready (h : e.Writes) (hoverwrite : e.overwrite = true) {w : World}
    (hwhole : ∀ a ∈ artifacts, a.half = false) (hready : e.Ready w.directory w.files artifacts) :
    effect (e.outcomes true artifacts) w =
      (.ok (artifacts.map e.written), e.refill w.files artifacts) := by
  induction artifacts generalizing w with
  | nil => rfl
  | cons a rest ih =>
    obtain ⟨hfirst, hrest⟩ := List.forall_mem_cons.1 hready
    obtain ⟨hfirstWhole, hrestWhole⟩ := List.forall_mem_cons.1 hwhole
    have hemit : effect (e.emitOne a) w = (.ok (e.written a),
        w.files.put (e.target a).location (.file a.content.toUTF8)) := by
      rw [effect_emitOne h hoverwrite hfirstWhole,
        effect_writeText_of_replaceable (h.target a) hfirst]
      rfl
    rw [effect_outcomes_cons, hemit]
    dsimp only
    rw [if_pos (e.success_written a), ih hrestWhole (Ready.put h hrest hfirst a.content.toUTF8)]
    rfl

/-- A place that is filled later need not be filled before. -/
theorem refill_put (h : e.Writes) (hready : e.Ready cwd fs artifacts) {a : Artifact}
    (ha : fs.Replaceable cwd (e.target a)) (hlater : (e.target a).location ∈ e.places artifacts)
    (content : ByteArray) :
    e.refill (fs.put (e.target a).location (.file content)) artifacts = e.refill fs artifacts := by
  induction artifacts generalizing fs with
  | nil =>
    obtain ⟨b, hb, _⟩ := hlater
    cases hb
  | cons b rest ih =>
    obtain ⟨hfirst, hrest⟩ := List.forall_mem_cons.1 hready
    rw [refill, List.foldl_cons, refill, List.foldl_cons]
    by_cases hplace : (e.target a).location = (e.target b).location
    · rw [hplace, put_put]
    · have hrestLater : (e.target a).location ∈ e.places rest := by
        obtain ⟨c, hc, hsame⟩ := hlater
        rcases List.mem_cons.1 hc with rfl | hc
        · exact absurd hsame hplace
        · exact ⟨c, hc, hsame⟩
      obtain ⟨old, hold⟩ := ha.exists_file (h.target a)
      obtain ⟨old', hold'⟩ := hfirst.exists_file (h.target b)
      rw [put_comm hplace (ha.location_ne (h.target a)) (hfirst.location_ne (h.target b))
        (Option.isSome_of_eq_some hold) (Option.isSome_of_eq_some hold')]
      exact ih (Ready.put h hrest hfirst _) (ha.put (h.target a) hfirst (h.target b) _) hrestLater

/-- Files that show all texts are not changed by putting them again. -/
theorem refill_of_shows (h : e.Writes) (hready : e.Ready cwd fs artifacts)
    (hshows : e.Shows fs artifacts) : e.refill fs artifacts = fs := by
  induction artifacts with
  | nil => rfl
  | cons a rest ih =>
    obtain ⟨hfirst, hrest⟩ := List.forall_mem_cons.1 hready
    obtain ⟨hlater | hthere, hshown⟩ := hshows
    · rw [refill, List.foldl_cons]
      exact (refill_put h hrest hfirst hlater _).trans (ih hrest hshown)
    · rw [refill, List.foldl_cons, put_of_get? (hfirst.location_ne (h.target a)) hthere]
      exact ih hrest hshown

/-! ## What emission leaves -/

/-- An artifact that was written can be replaced. -/
theorem step_of_emitOne (h : e.Writes) (hoverwrite : e.overwrite = true) {a : Artifact} {w : World}
    {outcome : Outcome} {files : FileSystem}
    (hemit : effect (e.emitOne a) w = (.ok outcome, files)) (hsuccess : outcome.success = true) :
    e.Holds w.directory files a ∧ files.Replaceable w.directory (e.target a) := by
  obtain ⟨w', hstart, rfl⟩ := start_eq_of_effect hemit
  have hstep := ends_emitOne h a w
  rw [Ends, hstart] at hstep
  obtain ⟨_, ⟨_, _, hholds⟩ | ⟨reason, rfl, _⟩⟩ := hstep
  · refine ⟨hholds, ?_⟩
    rw [effect_emitOne h hoverwrite (half_of_effect_emitOne hemit)] at hemit
    rcases htext : effect (writeText true (e.target a) a.content) w with
      ⟨stop | (fault | bytes), files⟩
    · rw [htext] at hemit
      cases hemit
    · rw [htext] at hemit
      obtain rfl := Except.ok.inj (congrArg Prod.fst hemit)
      cases hsuccess
    · rw [htext] at hemit
      obtain rfl : files = w'.files := congrArg Prod.snd hemit
      exact replaceable_of_writeText (h.target a) htext
  · cases hsuccess

/-- Once all artifacts are written, all can be replaced, and all texts are there. -/
theorem shows_of_outcomes (h : e.Writes) (hoverwrite : e.overwrite = true) {w : World}
    {outcomes : List Outcome} {files : FileSystem}
    (hemit : effect (e.outcomes true artifacts) w = (.ok outcomes, files))
    (hnone : outcomes.findSome? (·.failure) = none) :
    e.Ready w.directory files artifacts ∧ e.Shows files artifacts := by
  induction artifacts generalizing w outcomes with
  | nil => exact ⟨List.forall_mem_nil _, trivial⟩
  | cons a rest ih =>
    obtain ⟨outcome, mid, others, hfirst, hsuccess, hrest, hnone⟩ :=
      exists_of_effect_outcomes_cons hemit hnone
    obtain ⟨hheld, hfirstReady⟩ := step_of_emitOne h hoverwrite hfirst hsuccess
    obtain ⟨hready, hshows⟩ := ih hrest hnone
    obtain ⟨w', hstart, rfl⟩ := start_eq_of_effect hrest
    obtain ⟨_, hreached⟩ := reached_of_outcomes h hstart hnone
    have hfilled : ∀ place ∈ e.places rest,
        ∃ content, w'.files.get? place = some (.file content) := by
      rintro place ⟨b, hb, rfl⟩
      exact (hready b hb).exists_file (h.target b)
    refine ⟨List.forall_mem_cons.2 ⟨?_, hready⟩, ?_, hshows⟩
    · exact hfirstReady.evolves (h.target a) hreached.files hfilled
    · by_cases hlater : (e.target a).location ∈ e.places rest
      · exact .inl hlater
      · have hkept := hreached.files.find (h.target a) hlater hheld
        obtain ⟨place, hwalk, hentry⟩ := find_eq_ok_iff.1 hkept
        exact .inr (location_of_walk (h.target a) hwalk ▸ hentry)

end Emitter

/-! ## Generating again -/

namespace Generator

/-- Only the source and the time decide what is prepared. -/
theorem prepared_of_sameSetting (g : Generator) (es : Entries) {w w' : World}
    (h : SameSetting w w') : g.prepared (.entries es) w' = g.prepared (.entries es) w := by
  have hschema := (Loading.blind_checked none Schema.read es).result w w' h.order
  change ((Loading.schema (.entries es)).start w').1 = _ at hschema
  rw [prepared, prepared, hschema, h.now]
  rfl

/-- Making the files again from the same mapping gives the same report and leaves all files as they
are. -/
theorem generate_again {g : Generator} (hwet : g.dryRun = false)
    (hoverwrite : g.config.overwrite = true) {es : Entries} {w w₁ : World} {report : Report}
    (h : (g.generate (.entries es)).start w = (.ok report, w₁)) :
    ∃ w₂, (g.generate (.entries es)).start w₁ = (.ok report, w₂) ∧ w₂.files = w₁.files := by
  have hsetting := (g.steady_generate (.entries es)).setting w
  rw [h] at hsetting
  obtain ⟨s, artifacts, outcomes, hprepared, hemit, hnone, hreport⟩ :=
    effect_generate_eq_ok_iff.1 (effect_eq_of_start h)
  have hwrites := writes_rooted hwet w.directory
  obtain ⟨hready, hshows⟩ := Emitter.shows_of_outcomes hwrites hoverwrite hemit hnone
  obtain ⟨w', hstart, _⟩ := start_eq_of_effect hemit
  obtain ⟨rfl, _⟩ := Emitter.reached_of_outcomes hwrites hstart hnone
  have hagain : effect ((g.rooted w₁.directory).outcomes true artifacts) w₁ =
      (.ok (artifacts.map (g.rooted w.directory).written), w₁.files) := by
    rw [hsetting.directory]
    rw [Emitter.effect_outcomes_of_ready hwrites hoverwrite
        (Emitter.half_of_effect_outcomes hemit hnone) (hsetting.directory ▸ hready),
      Emitter.refill_of_shows hwrites hready hshows]
  have hsame : g.account (.entries es) w₁ s artifacts
        (artifacts.map (g.rooted w.directory).written) =
      g.account (.entries es) w s artifacts (artifacts.map (g.rooted w.directory).written) := by
    rw [account, account, hsetting.directory, World.lapse, hsetting.reading]
    rfl
  refine start_eq_of_effect (effect_generate_eq_ok_iff.2
    ⟨s, artifacts, _, (g.prepared_of_sameSetting es hsetting).trans hprepared, hagain, hnone, ?_⟩)
  rw [hreport, hsame]

theorem note_generated_again : plain.dryRun = false ∧ plain.config.overwrite = true ∧
    ∃ report w₁ w₂, (plain.generate (.entries noteEntries)).start bareWorld = (.ok report, w₁) ∧
      (plain.generate (.entries noteEntries)).start w₁ = (.ok report, w₂) ∧
      w₂.files = w₁.files := by
  have hok : ((plain.generate (.entries noteEntries)).start bareWorld).1.isOk = true := by
    decide +kernel
  rcases hrun : (plain.generate (.entries noteEntries)).start bareWorld with ⟨stop | report, w₁⟩
  · rw [hrun] at hok
    cases hok
  · obtain ⟨w₂, hagain, hfiles⟩ := generate_again rfl rfl hrun
    exact ⟨rfl, rfl, report, w₁, w₂, rfl, hagain, hfiles⟩

end Generator
end Scaffold
