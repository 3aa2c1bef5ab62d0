import Scaffold.Proofs.Emitting
import Scaffold.Proofs.Stumbling
import Scaffold.Proofs.Targets

/-!
# What an attempt to write can destroy

However an attempt to write ends, directories stay, files stay files, and none but the one at the
target is another file afterwards. Where nothing may be written over, the target is looked at first,
so a file is lost only if its target could not be followed at that time, although it can be once the
directories above it are made. This takes a step back over a place where nothing was.
-/
namespace Scaffold

open Run

namespace FileSystem

/-! ## Files in the tree -/

/-- A file that is reached from the root: all places above it are directories. -/
structure Stored (fs : FileSystem) (place : Location) (content : ByteArray) : Prop where
  file : fs.get? place = some (.file content)
  above : ∀ q, q <+: place → q ≠ place → fs.get? q = some .directory

/-- Directories stay, and files stay files. -/
structure Grows (fs fs' : FileSystem) : Prop where
  directories : ∀ q, fs.get? q = some .directory → fs'.get? q = some .directory
  files : ∀ q content, fs.get? q = some (.file content) →
    ∃ content', fs'.get? q = some (.file content')

variable {fs fs₁ fs₂ fs₃ : FileSystem} {cwd place : Location} {p : Path}

theorem Grows.refl (fs : FileSystem) : Grows fs fs :=
  ⟨fun _ h => h, fun _ content h => ⟨content, h⟩⟩

theorem Grows.trans (h : Grows fs₁ fs₂) (h' : Grows fs₂ fs₃) : Grows fs₁ fs₃ := by
  refine ⟨fun q hq => h'.directories q (h.directories q hq), fun q content hq => ?_⟩
  obtain ⟨content', hq'⟩ := h.files q content hq
  exact h'.files q content' hq'

theorem Evolves.stored {written made : Set Location} (h : Evolves written made fs₁ fs₂)
    {content : ByteArray} (hstored : fs₁.Stored place content) (hplace : place ∉ written) :
    fs₂.Stored place content := by
  refine ⟨?_, fun q hq hne => h.directories q (hstored.above q hq hne)⟩
  rcases h.others place hplace with hsame | ⟨_, hnone, _⟩
  · rw [hsame, hstored.file]
  · rw [hstored.file] at hnone
    cases hnone

theorem Evolves.grows {made : Set Location} (h : Evolves ∅ made fs₁ fs₂) : Grows fs₁ fs₂ := by
  refine ⟨h.directories, fun q content hq => ⟨content, ?_⟩⟩
  rcases h.others q (Set.notMem_empty q) with hsame | ⟨_, hnone, _⟩
  · rw [hsame, hq]
  · rw [hq] at hnone
    cases hnone

/-! ## What keeps a path from being followed -/

/-- Only what is missing can come into being: any other obstacle stays. -/
theorem Grows.step_of_error (h : Grows fs₁ fs₂) {name : String} {reason : Refused}
    (hstep : fs₁.step place name = .error reason) (hreason : reason ≠ .missing) :
    fs₂.step place name = .error reason := by
  unfold step at hstep ⊢
  rcases hentry : fs₁.get? place with _ | (_ | content)
  · rw [hentry] at hstep
    cases hstep
    exact absurd rfl hreason
  · rw [hentry] at hstep
    rw [h.directories place hentry]
    exact hstep
  · obtain ⟨content', hentry'⟩ := h.files place content hentry
    rw [hentry] at hstep
    rw [hentry']
    exact hstep

theorem Grows.foldlM_step_of_error (h : Grows fs₁ fs₂) {names : List String} {reason : Refused}
    (hfold : names.foldlM fs₁.step place = .error reason) (hreason : reason ≠ .missing) :
    names.foldlM fs₂.step place = .error reason := by
  induction names generalizing place with
  | nil => cases hfold
  | cons name rest ih =>
    rw [List.foldlM_cons] at hfold ⊢
    rcases hstep : fs₁.step place name with reason' | next
    · rw [hstep] at hfold
      cases hfold
      rw [h.step_of_error hstep hreason]
      rfl
    · obtain ⟨hplace, hname, hnext⟩ := step_eq_ok_iff.1 hstep
      rw [hstep] at hfold
      rw [step_eq_ok_iff.2 ⟨h.directories place hplace, hname, hnext⟩]
      exact ih hfold

theorem Grows.walk_of_error (h : Grows fs₁ fs₂) {reason : Refused}
    (hwalk : fs₁.walk cwd p = .error reason) (hreason : reason ≠ .missing) :
    fs₂.walk cwd p = .error reason := by
  unfold walk at hwalk ⊢
  split at hwalk
  · next hshort =>
    rw [if_pos hshort]
    exact h.foldlM_step_of_error hwalk hreason
  · next hlong =>
    rw [if_neg hlong]
    exact hwalk

theorem Grows.walk_of_ok (h : Grows fs₁ fs₂) (hwalk : fs₁.walk cwd p = .ok place) :
    fs₂.walk cwd p = .ok place := by
  have hevolves : Evolves .univ ∅ fs₁ fs₂ :=
    ⟨h.directories, fun q hq => absurd (Set.mem_univ q) hq⟩
  exact hevolves.walk hwalk

/-- What is missing on a path now was missing before. -/
theorem Grows.walk_missing (h : Grows fs₁ fs₂) (hwalk : fs₂.walk cwd p = .error .missing) :
    fs₁.walk cwd p = .error .missing := by
  rcases hbefore : fs₁.walk cwd p with reason | place
  · by_cases hreason : reason = .missing
    · rw [hreason]
    · rw [h.walk_of_error hbefore hreason] at hwalk
      exact hwalk
  · rw [h.walk_of_ok hbefore] at hwalk
    cases hwalk

theorem foldlM_step_ne_missing {names : List String} (hback : ".." ∉ names)
    (habove : ∀ q, q <+: place ++ names → q ≠ place ++ names → fs.get? q = some .directory) :
    names.foldlM fs.step place ≠ .error .missing := by
  induction names generalizing place with
  | nil => exact fun h => nomatch h
  | cons name rest ih =>
    rw [List.mem_cons, not_or] at hback
    have hplace : fs.get? place = some .directory :=
      habove place (List.prefix_append place _) (by simp)
    rw [List.foldlM_cons, step, hplace]
    dsimp only
    rw [if_neg (Ne.symm hback.1)]
    split
    · exact fun h => nomatch h
    · refine ih hback.2 ?_
      rw [List.append_assoc, List.singleton_append]
      exact habove

/-- A path that does not step back leads to a stored file, or is too long. -/
theorem Stored.dotdot_mem_of_missing {content : ByteArray} (h : fs.Stored p.location content)
    (hp : p.anchor ≠ .relative) (hwalk : fs.walk cwd p = .error .missing) : ".." ∈ p.names := by
  by_contra hback
  have hplace : p.location = p.names := located_of_notMem hback
  have habove := h.above
  rw [hplace] at habove
  unfold walk at hwalk
  split at hwalk
  · rw [start, if_neg hp] at hwalk
    exact foldlM_step_ne_missing hback (by simpa using habove) hwalk
  · cases hwalk

/-! ## Writing into a file -/

theorem run_writeInto (cwd : Location) (p : Path) (content : ByteArray) (fs : FileSystem) :
    (writeInto cwd p content).run.run fs = match fs.filePlace cwd p .isDirectory with
      | .ok place => (.ok (), fs.put place (.file content))
      | .error reason => (.error ⟨reason, p.text, none⟩, fs) := by
  rw [writeInto, run_bind]
  change (match fs.filePlace cwd p .isDirectory with
    | .ok place => _
    | .error reason => _ : Change Unit).run.run fs = _
  rcases fs.filePlace cwd p .isDirectory with reason | place <;> rfl

theorem evolves_writeInto (cwd : Location) {p : Path} (hp : p.anchor ≠ .relative)
    (content : ByteArray) (fs : FileSystem) :
    match (writeInto cwd p content).run.run fs with
    | (.ok _, fs') => Evolves {p.location} ∅ fs fs' ∧ fs'.find cwd p = .ok (.file content)
    | (.error _, fs') => Evolves ∅ ∅ fs fs' := by
  rw [run_writeInto]
  rcases hplace : fs.filePlace cwd p .isDirectory with reason | place
  · exact .refl ..
  obtain ⟨rfl, -⟩ := location_of_filePlace hp hplace
  exact evolves_put_filePlace hplace content

/-! ## Attempts -/

/-- What an attempt to write at a path makes of the files: at most there are new directories, or the
file at the path is written as well. -/
def Attempted (cwd : Location) (p : Path) (fs fs' : FileSystem) : Prop :=
  Evolves ∅ .univ fs fs' ∨
    (Evolves {p.location} .univ fs fs' ∧ ∃ content, fs'.find cwd p = .ok (.file content))

theorem Attempted.evolves (h : Attempted cwd p fs₁ fs₂) : Evolves {p.location} .univ fs₁ fs₂ := by
  rcases h with hsame | ⟨hwritten, _⟩
  · exact hsame.mono (Set.empty_subset _) (Set.Subset.refl _)
  · exact hwritten

/-- Directories can be made before. -/
theorem Attempted.after (h : Attempted cwd p fs₂ fs₃) (hmade : Evolves ∅ .univ fs₁ fs₂) :
    Attempted cwd p fs₁ fs₃ := by
  rcases h with hsame | ⟨hwritten, hfind⟩
  · exact .inl (hmade.trans hsame)
  · have hbefore : Evolves {p.location} .univ fs₁ fs₂ :=
      hmade.mono (Set.empty_subset _) (Set.Subset.refl _)
    exact .inr ⟨hbefore.trans hwritten, hfind⟩

/-- A file is written as a whole or into itself. -/
theorem attempted_change (cwd : Location) (atomic : Bool) {p : Path}
    (hp : p.anchor ≠ .relative) (content : ByteArray) (fs : FileSystem) :
    Attempted cwd p fs
      (((if atomic then writeWhole else writeInto) cwd p content).run.run fs).2 := by
  have hgrown {written : Set Location} {fs' : FileSystem} (h : Evolves written ∅ fs fs') :
      Evolves written .univ fs fs' := h.mono (Set.Subset.refl _) (Set.empty_subset _)
  cases atomic with
  | false =>
    have hwritten := evolves_writeInto cwd hp content fs
    rw [if_neg Bool.false_ne_true]
    rcases hrun : (writeInto cwd p content).run.run fs with ⟨fault | _, fs'⟩
    · rw [hrun] at hwritten
      exact .inl (hgrown hwritten)
    · rw [hrun] at hwritten
      exact .inr ⟨hgrown hwritten.1, content, hwritten.2⟩
  | true =>
    have hwritten := evolves_writeWhole cwd hp content fs
    rw [if_pos rfl]
    rcases hrun : (writeWhole cwd p content).run.run fs with ⟨fault | _, fs'⟩
    · rw [hrun] at hwritten
      exact .inl (hgrown hwritten)
    · rw [hrun] at hwritten
      exact .inr ⟨hgrown hwritten.1, content, hwritten.2⟩

theorem Attempted.grows (h : Attempted cwd p fs₁ fs₂) (hp : p.anchor ≠ .relative) :
    Grows fs₁ fs₂ := by
  rcases h with hsame | ⟨hwritten, content, hfind⟩
  · exact hsame.grows
  · refine ⟨hwritten.directories, fun q old hq => ?_⟩
    by_cases hplace : q = p.location
    · obtain ⟨place, hwalk, hentry⟩ := find_eq_ok_iff.1 hfind
      rw [hplace, ← location_of_walk hp hwalk]
      exact ⟨content, hentry⟩
    · refine ⟨old, ?_⟩
      rcases hwritten.others q hplace with hsame | ⟨_, hnone, _⟩
      · rw [hsame, hq]
      · rw [hq] at hnone
        cases hnone

/-- If nothing is found at a path, an attempt to write there destroys a file only if something was
missing on the path, which steps back. -/
theorem Attempted.stored (h : Attempted cwd p fs₁ fs₂) (hp : p.anchor ≠ .relative)
    (hnothing : ∀ entry, fs₁.find cwd p ≠ .ok entry) {content : ByteArray}
    (hstored : fs₁.Stored place content) :
    fs₂.Stored place content ∨
      (p.location = place ∧ ".." ∈ p.names ∧ fs₁.walk cwd p = .error .missing) := by
  by_cases hplace : p.location = place
  · subst hplace
    rcases h with hsame | ⟨hwritten, written, hfind⟩
    · exact .inl (hsame.stored hstored (Set.notMem_empty _))
    · refine .inr ⟨rfl, ?_⟩
      rcases hwalk : fs₁.walk cwd p with reason | q
      · -- The path can be followed afterwards, so nothing but a missing entry stood in its way.
        have hmissing : reason = .missing := by
          by_contra hreason
          have hgrows : Grows fs₁ fs₂ := Attempted.grows (.inr ⟨hwritten, written, hfind⟩) hp
          obtain ⟨q, hwalk', _⟩ := find_eq_ok_iff.1 hfind
          rw [hgrows.walk_of_error hwalk hreason] at hwalk'
          cases hwalk'
        subst hmissing
        exact ⟨hstored.dotdot_mem_of_missing hp hwalk, rfl⟩
      · obtain rfl := location_of_walk hp hwalk
        exact absurd (find_eq_ok_iff.2 ⟨_, hwalk, hstored.file⟩) (hnothing _)
  · exact .inl (h.evolves.stored hstored (Ne.symm hplace))

theorem dotdot_notMem_located (names : List String) : ".." ∉ located names := by
  induction names using List.reverseRecOn with
  | nil => exact List.not_mem_nil
  | append_singleton names name ih =>
    rw [located_concat, onward]
    split
    · exact fun hmem => ih (List.dropLast_subset _ hmem)
    · next hname =>
      rw [List.mem_append, List.mem_singleton, not_or]
      exact ⟨ih, Ne.symm hname⟩

end FileSystem

open FileSystem

/-! ## Emission, however it ends -/

namespace Path

/-- Only names can have a null character. -/
theorem clean_of_hasNull_text {p : Path} (h : Loading.hasNull p.text = false) : p.Clean := by
  have hnames (names : List String) (hnull : Loading.hasNull ("/".intercalate names) = false) :
      ∀ name ∈ names, Loading.hasNull name = false := by
    induction names with
    | nil => exact fun name hname => nomatch hname
    | cons first rest ih =>
      cases rest with
      | nil => simpa using hnull
      | cons second rest =>
        simp only [String.intercalate_cons_cons, Loading.hasNull_append, Bool.or_eq_false_iff]
          at hnull
        rw [List.forall_mem_cons]
        exact ⟨hnull.1.1, ih hnull.2⟩
  refine hnames p.names ?_
  unfold text at h
  dsimp only at h
  split at h
  · next hempty =>
    have hbody : Loading.hasNull (p.anchor.text ++ "/".intercalate p.names) = false := by
      rw [hempty]
      rfl
    exact (Bool.or_eq_false_iff.1 ((Loading.hasNull_append ..).symm.trans hbody)).2
  · exact (Bool.or_eq_false_iff.1 ((Loading.hasNull_append ..).symm.trans h)).2

theorem hasNull_of_text {p : Path} (h : Loading.hasNull p.text = true) :
    Loading.hasNull p.parent.text = true ∨ Loading.hasNull p.name = true := by
  by_contra hneither
  rw [not_or, Bool.not_eq_true, Bool.not_eq_true] at hneither
  have hclean : p.Clean := by
    have habove : ∀ name ∈ p.names.dropLast, Loading.hasNull name = false :=
      clean_of_hasNull_text hneither.1
    have hlast := hneither.2
    unfold name at hlast
    rcases List.eq_nil_or_concat p.names with hnames | ⟨before, last, hnames⟩
    · rw [Clean, hnames]
      exact fun name hname => nomatch hname
    · rw [List.concat_eq_append] at hnames
      rw [hnames, List.dropLast_concat] at habove
      rw [hnames, List.getLastD_concat] at hlast
      rw [Clean, hnames, List.forall_mem_append]
      exact ⟨habove, by simpa using hlast⟩
  rw [hclean.hasNull_text] at h
  cases h

end Path

/-- A text is written by an attempt, which does not get to the file if its path has a null
character. -/
theorem attempted_writeText (atomic : Bool) {p : Path} (hp : p.anchor ≠ .relative) (s : String)
    (w : World) :
    Ends (writeText atomic p s) w fun _ w' => w'.directory = w.directory ∧
      Attempted w.directory p w.files w'.files ∧
      (Loading.hasNull p.text = true → Evolves ∅ .univ w.files w'.files) := by
  refine .bind_of_ok (start_get w) ?_
  dsimp only
  split
  · exact .bind_of_error (start_breakDown ..) ⟨rfl, .inl (.refl ..), fun _ => .refl ..⟩
  next hparent =>
  split
  · exact .bind_of_error (start_breakDown ..) ⟨rfl, .inl (.refl ..), fun _ => .refl ..⟩
  refine .bind_of_ok (start_change ..) ?_
  have hmade := evolves_makeDirectory w.directory (show p.parent.anchor ≠ .relative from hp) w.files
  replace hmade := hmade.mono (Set.Subset.refl _) (Set.subset_univ _)
  rcases hrun : (makeDirectory w.directory p.parent).run.run w.files with ⟨fault | _, made⟩
  · rw [hrun] at hmade
    exact ⟨rfl, .inl hmade, fun _ => hmade⟩
  rw [hrun] at hmade
  refine .bind_of_ok (start_note ..) ?_
  split
  · exact .bind_of_error (start_breakDown ..) ⟨rfl, .inl hmade, fun _ => hmade⟩
  next hname =>
  have hwhole {changed : Prop} (hnull : Loading.hasNull p.text = true) : changed := by
    rcases Path.hasNull_of_text hnull with hnull | hnull
    · exact absurd hnull hparent
    · exact absurd hnull hname
  refine .bind_of_ok (start_change ..) ?_
  have hwritten := attempted_change w.directory atomic hp s.toUTF8 made
  rcases hrun' : ((if atomic then writeWhole else writeInto) w.directory p
    s.toUTF8).run.run made with ⟨fault | _, after⟩
  · rw [hrun'] at hwritten
    exact ⟨rfl, hwritten.after hmade, hwhole⟩
  · rw [hrun'] at hwritten
    exact .bind_of_ok (start_note ..) ⟨rfl, hwritten.after hmade, hwhole⟩

/-- What is found at a path is seen there, if the path has no null character. -/
theorem Loading.start_isThere_of_find {w : World} {p : Path} {entry : Entry}
    (hname : hasNull p.text = false) (h : w.files.find w.directory p = .ok entry) :
    (isThere p).start w = (.ok true, w) := by
  have hlong : ¬ Overlong w p := fun hlong => nomatch h.symm.trans hlong.refused
  rw [start_isThere_of_not_overlong hlong, hname, h]
  rfl

namespace Emitter

/-- What one step may do to the files: an attempt to write at the target, which does not get there
if something is found that must not be written over. -/
structure Tries (e : Emitter) (a : Artifact) (w w' : World) : Prop where
  directory : w'.directory = w.directory
  attempted : Attempted w.directory (e.target a) w.files w'.files
  spared : e.overwrite = false → Evolves ∅ .univ w.files w'.files ∨
    ∀ entry, w.files.find w.directory (e.target a) ≠ .ok entry

theorem tries_of_unchanged (e : Emitter) (a : Artifact) {w w' : World} (h : Unchanged w w') :
    e.Tries a w w' := by
  obtain ⟨journal, rfl⟩ := h
  exact ⟨rfl, .inl (.refl ..), fun _ => .inl (.refl ..)⟩

theorem attempted_write (e : Emitter) (hroot : e.root.anchor ≠ .relative) (a : Artifact)
    (w : World) :
    Ends (e.write a (e.target a)) w fun _ w' => w'.directory = w.directory ∧
      Attempted w.directory (e.target a) w.files w'.files ∧
      (Loading.hasNull (e.target a).text = true → Evolves ∅ .univ w.files w'.files) := by
  have hanchor : (e.target a).anchor ≠ .relative := Path.anchor_join hroot a.path
  refine (attempted_writeText e.atomic hanchor a.content w).bind ?_ fun _ _ hstop => hstop
  rintro (fault | bytes) w' htried
  · exact .bind_of_ok (start_note ..) htried
  · exact .bind_of_ok (start_note ..) htried

/-- An artifact whose target is there is refused, and nothing is changed. -/
theorem ends_emitOne_of_find {e : Emitter} (hdry : e.dryRun = false) (hkeep : e.overwrite = false)
    {a : Artifact} {w : World} {entry : Entry} (hwhole : a.half = false)
    (hname : Loading.hasNull (e.target a).text = false)
    (h : w.files.find w.directory (e.target a) = .ok entry) :
    Ends (e.emitOne a) w fun result w' =>
      result = .ok (e.refusal "already exists and overwrite is disabled" a) ∧ Unchanged w w' := by
  rw [emitOne_of_whole e hwhole]
  unfold emitWhole
  dsimp only
  rw [hdry, hkeep, if_neg Bool.false_ne_true, if_neg Bool.false_ne_true]
  refine .bind_of_ok (Loading.start_isThere_of_find hname h) ?_
  rw [if_pos rfl]
  exact .bind_of_ok (start_note ..) ⟨rfl, _, rfl⟩

theorem tries_emitWhole (e : Emitter) (hroot : e.root.anchor ≠ .relative) (a : Artifact)
    (w : World) : Ends (e.emitWhole a) w fun _ w' => e.Tries a w w' := by
  have hwrite := attempted_write e hroot a w
  unfold emitWhole
  dsimp only
  split
  · exact .bind_of_ok (start_note ..) (tries_of_unchanged e a ⟨_, rfl⟩)
  cases hkeep : e.overwrite with
  | true =>
    rw [if_pos rfl]
    exact ⟨hwrite.1, hwrite.2.1, fun hspare => nomatch hkeep.symm.trans hspare⟩
  | false =>
    rw [if_neg Bool.false_ne_true]
    by_cases hlong : Loading.Overlong w (e.target a)
    · exact .bind_of_error (Loading.start_isThere_of_overlong hlong)
        (tries_of_unchanged e a (.refl w))
    refine .bind_of_ok (Loading.start_isThere_of_not_overlong hlong) ?_
    change Ends (if (!Loading.hasNull (e.target a).text &&
      (w.files.find w.directory (e.target a)).toBool) = true then _ else _) w _
    cases hnull : Loading.hasNull (e.target a).text with
    | true => exact ⟨hwrite.1, hwrite.2.1, fun _ => .inl (hwrite.2.2 hnull)⟩
    | false =>
      rcases hfind : w.files.find w.directory (e.target a) with reason | entry
      · refine ⟨hwrite.1, hwrite.2.1, fun _ => .inr fun entry hentry => ?_⟩
        cases hfind.symm.trans hentry
      · exact .bind_of_ok (start_note ..) (tries_of_unchanged e a ⟨_, rfl⟩)

theorem tries_emitOne (e : Emitter) (hroot : e.root.anchor ≠ .relative) (a : Artifact)
    (w : World) : Ends (e.emitOne a) w fun _ w' => e.Tries a w w' := by
  cases hhalf : a.half with
  | true =>
    rw [emitOne_of_half e hhalf]
    exact tries_of_unchanged e a (.refl w)
  | false =>
    rw [emitOne_of_whole e hhalf]
    exact tries_emitWhole e hroot a w

/-- A target that cannot be followed because something is missing on it, and that steps back. Once
the directories above it are made, it can lead to what is there already. -/
structure Detours (e : Emitter) (cwd : Location) (fs : FileSystem) (a : Artifact) : Prop where
  missing : fs.walk cwd (e.target a) = .error .missing
  back : ".." ∈ (e.target a).names

/-- What emission keeps of the files, however it ends: it changes those at the targets at most, and
if nothing may be written over, only those to which a detour leads. -/
structure Keeps (e : Emitter) (artifacts : List Artifact) (w w' : World) : Prop where
  directory : w'.directory = w.directory
  grows : Grows w.files w'.files
  evolves : Evolves (e.places artifacts) .univ w.files w'.files
  stored : e.overwrite = false → ∀ place content, w.files.Stored place content →
    w'.files.Stored place content ∨
      ∃ a ∈ artifacts, (e.target a).location = place ∧ e.Detours w.directory w.files a

theorem Keeps.refl (e : Emitter) (artifacts : List Artifact) (w : World) :
    e.Keeps artifacts w w :=
  ⟨rfl, .refl _, .refl .., fun _ _ _ hstored => .inl hstored⟩

theorem Keeps.unchanged {e : Emitter} {artifacts : List Artifact} {w w₁ w₂ w' : World}
    (h : e.Keeps artifacts w₁ w₂) (hbefore : Unchanged w w₁) (hafter : Unchanged w₂ w') :
    e.Keeps artifacts w w' := by
  obtain ⟨_, rfl⟩ := hbefore
  obtain ⟨_, rfl⟩ := hafter
  exact ⟨h.directory, h.grows, h.evolves, h.stored⟩

/-- One more artifact before the others. Whatever is a detour later on is one now, since what is
missing then is missing now. -/
theorem Keeps.cons {e : Emitter} (hroot : e.root.anchor ≠ .relative) {a : Artifact}
    {rest : List Artifact} {w w₁ w' : World} (h : e.Tries a w w₁) (hrest : e.Keeps rest w₁ w') :
    e.Keeps (a :: rest) w w' := by
  have hanchor : (e.target a).anchor ≠ .relative := Path.anchor_join hroot a.path
  have hgrows : Grows w.files w₁.files := h.attempted.grows hanchor
  refine ⟨hrest.directory.trans h.directory, hgrows.trans hrest.grows, ?_, ?_⟩
  · have hfirst : Evolves (e.places (a :: rest)) .univ w.files w₁.files := by
      refine h.attempted.evolves.mono (fun q hq => ?_) (Set.Subset.refl _)
      exact ⟨a, List.mem_cons_self, hq⟩
    refine hfirst.trans (hrest.evolves.mono (fun q hq => ?_) (Set.Subset.refl _))
    obtain ⟨b, hb, hplace⟩ := hq
    exact ⟨b, List.mem_cons_of_mem a hb, hplace⟩
  · intro hkeep place content hstored
    have hstep : w₁.files.Stored place content ∨
        ((e.target a).location = place ∧ e.Detours w.directory w.files a) := by
      rcases h.spared hkeep with hsame | hnothing
      · exact .inl (hsame.stored hstored (Set.notMem_empty _))
      · refine (h.attempted.stored hanchor hnothing hstored).imp_right ?_
        rintro ⟨hplace, hback, hmissing⟩
        exact ⟨hplace, hmissing, hback⟩
    rcases hstep with hstored' | ⟨hplace, hdetour⟩
    · refine (hrest.stored hkeep place content hstored').imp_right ?_
      rintro ⟨b, hb, hplace, hdetour⟩
      have hmissing := hdetour.missing
      rw [h.directory] at hmissing
      exact ⟨b, List.mem_cons_of_mem a hb, hplace, hgrows.walk_missing hmissing, hdetour.back⟩
    · exact .inr ⟨a, List.mem_cons_self, hplace, hdetour⟩

theorem keeps_outcomes {e : Emitter} (hroot : e.root.anchor ≠ .relative) (failFast : Bool)
    (artifacts : List Artifact) (w : World) :
    Ends (e.outcomes failFast artifacts) w fun _ w' => e.Keeps artifacts w w' := by
  induction artifacts generalizing w with
  | nil => exact .refl e [] w
  | cons a rest ih =>
    rw [outcomes]
    refine (tries_emitOne e hroot a w).bind ?_ fun _ w' htries => .cons hroot htries (.refl ..)
    intro outcome w₁ htries
    split
    · refine .bind_of_ok (start_note ..) (Keeps.unchanged ?_ (.refl w) ⟨_, rfl⟩)
      exact .cons hroot htries (.refl ..)
    · refine (ih w₁).bind ?_ fun _ w' hkeeps => .cons hroot htries hkeeps
      intro outcomes w' hkeeps
      exact .cons hroot htries hkeeps

theorem keeps_emit {e : Emitter} (hroot : e.root.anchor ≠ .relative) (failFast : Bool)
    (artifacts : List Artifact) (w : World) :
    Ends (e.emit failFast artifacts) w fun _ w' => e.Keeps artifacts w w' := by
  have htimed := (keeps_outcomes hroot failFast artifacts w).timed_of_unchanged "emit"
    fun _ _ _ hkeeps hafter => hkeeps.unchanged (.refl w) hafter
  refine htimed.bind ?_ fun _ _ hkeeps => hkeeps
  rintro ⟨outcomes, elapsed⟩ w' hkeeps
  dsimp only
  split
  · exact .bind_of_ok (start_note ..) (Keeps.unchanged hkeeps (.refl w) ⟨_, rfl⟩)
  · exact .bind_of_ok (start_note ..) (Keeps.unchanged hkeeps (.refl w) ⟨_, rfl⟩)

/-! ## From a root -/

/-- The emitter whose root is seen from the root of the file system. -/
def rooted (e : Emitter) (cwd : Location) : Emitter :=
  { e with root := ⟨.absolute, (absolute cwd e.root).names⟩ }

theorem ends_start (e : Emitter) (w : World) :
    Ends e.start w fun result w' => Unchanged w w' ∧
      ∀ started, result = .ok started → started = e.rooted w.directory := by
  refine (Generator.ends_resolve e.root w).bind ?_ ?_
  · rintro root w' ⟨rfl, rfl⟩
    refine .bind_of_ok (start_note ..) ⟨⟨_, rfl⟩, ?_⟩
    rintro started ⟨⟩
    rfl
  · rintro stop w' ⟨rfl, _⟩
    exact ⟨.refl _, fun _ h => nomatch h⟩

/-- A root that was resolved does not step back, so a target steps back only by its own path. -/
theorem dotdot_mem_of_target {e : Emitter} {cwd : Location} {a : Artifact}
    (h : ".." ∈ ((e.rooted cwd).target a).names) : ".." ∈ a.path.names := by
  have hroot : ".." ∉ (e.rooted cwd).root.names :=
    dotdot_notMem_located (FileSystem.start cwd e.root ++ e.root.names)
  unfold target Path.join at h
  split at h
  · exact (List.mem_append.1 h).resolve_left hroot
  · exact h

/-- Where nothing may be written over, every file stays as it is however emission ends, except where
a path that steps back over a missing directory leads to it. An artifact is refused if something is
at its target when it is tried, and then all files stay. -/
theorem files_kept {e : Emitter} (hdry : e.dryRun = false) (hkeep : e.overwrite = false)
    (failFast : Bool) (artifacts : List Artifact) (w : World) :
    (Ends (do let started ← e.start; started.emit failFast artifacts) w fun _ w' =>
      ∀ place content, w.files.Stored place content → w'.files.Stored place content ∨
        ∃ a ∈ artifacts, ((e.rooted w.directory).target a).location = place ∧
          ".." ∈ a.path.names ∧ (e.rooted w.directory).Detours w.directory w.files a) ∧
    ∀ (a : Artifact) (v : World) (entry : Entry), a.half = false →
      Loading.hasNull ((e.rooted w.directory).target a).text = false →
      v.files.find v.directory ((e.rooted w.directory).target a) = .ok entry →
      Ends ((e.rooted w.directory).emitOne a) v fun result v' => v'.files = v.files ∧
        ∃ outcome, result = .ok outcome ∧ outcome.artifact = a ∧ outcome.success = false ∧
          outcome.bytes = 0 ∧ outcome.failure = some (.unwritten
            ((e.rooted w.directory).target a).text "already exists and overwrite is disabled") := by
  have hroot : (e.rooted w.directory).root.anchor ≠ .relative := Anchor.noConfusion
  constructor
  · refine (ends_start e w).bind ?_ ?_
    · rintro started w₁ ⟨hsame, hstarted⟩
      obtain rfl := hstarted started rfl
      have hkeeps := Keeps.unchanged (keeps_emit hroot failFast artifacts w₁) hsame (.refl _)
      intro place content hstored
      refine (hkeeps.stored hkeep place content hstored).imp_right ?_
      rintro ⟨a, ha, hplace, hdetour⟩
      exact ⟨a, ha, hplace, dotdot_mem_of_target hdetour.back, hdetour⟩
    · rintro stop w' ⟨hsame, _⟩ place content hstored
      rw [hsame.files]
      exact .inl hstored
  · intro a v entry hwhole hname hfind
    obtain ⟨hresult, hsame⟩ :=
      ends_emitOne_of_find (e := e.rooted w.directory) hdry hkeep hwhole hname hfind
    exact ⟨hsame.files, _, hresult, rfl, rfl, rfl, rfl⟩

/-! ## A file behind a missing directory -/

/-- An emitter at the root of the file system that writes over nothing. -/
def careful : Emitter where
  root := ⟨.absolute, []⟩
  overwrite := false

/-- A world with one file of one letter. -/
def letterWorld : World :=
  { bareWorld with files := .put .empty ["x"] (.file "a".toUTF8) }

/-- Two letters, for a path that gets to the file by way of a directory that is not there yet. -/
def bypass : Artifact where
  kind := .model
  path := .ofString "new/../x"
  content := "bb"
  description := ""

/-- Two letters for the file itself. -/
def straight : Artifact := { bypass with path := .ofString "x" }

theorem stored_letter : letterWorld.files.Stored ["x"] "a".toUTF8 := by
  refine ⟨rfl, fun q hq hne => ?_⟩
  rcases List.prefix_cons_iff.1 hq with rfl | ⟨t, rfl, ht⟩
  · rfl
  · rw [List.prefix_nil.1 ht] at hne
    exact absurd rfl hne

/-- The size of the file at a place. -/
def sizeAt (fs : FileSystem) (place : Location) : Option Nat :=
  match fs.get? place with
  | some (.file content) => some content.size
  | _ => none

theorem letter_kept :
    careful.dryRun = false ∧ careful.overwrite = false ∧
    Ends (do let started ← careful.start; started.emit false [straight]) letterWorld (fun _ w' =>
      w'.files.Stored ["x"] "a".toUTF8) ∧
    Loading.hasNull ((careful.rooted []).target straight).text = false ∧
    letterWorld.files.find [] ((careful.rooted []).target straight) = .ok (.file "a".toUTF8) ∧
    Ends ((careful.rooted []).emitOne straight) letterWorld fun result w' =>
      w'.files = letterWorld.files ∧ ∃ outcome, result = .ok outcome ∧
        outcome.success = false ∧ outcome.bytes = 0 := by
  have hname : Loading.hasNull ((careful.rooted []).target straight).text = false := by
    decide +kernel
  have hfind : letterWorld.files.find [] ((careful.rooted []).target straight) =
      .ok (.file "a".toUTF8) := by
    rfl
  obtain ⟨hkept, htried⟩ := files_kept (e := careful) rfl rfl false [straight] letterWorld
  refine ⟨rfl, rfl, ?_, hname, hfind, ?_⟩
  · rcases hkept ["x"] "a".toUTF8 stored_letter with hstored | ⟨a, ha, _, hback, _⟩
    · exact hstored
    · rw [List.mem_singleton] at ha
      subst ha
      exact absurd hback (by decide)
  · obtain ⟨hfiles, outcome, hresult, _, hsuccess, hbytes, _⟩ :=
      htried straight letterWorld _ rfl hname hfind
    exact ⟨hfiles, outcome, hresult, hsuccess, hbytes⟩

/-- The path is not found at first, and leads to the file once the directory is made. -/
theorem bypass_destroys : careful.dryRun = false ∧ careful.overwrite = false ∧
    letterWorld.files.Stored ["x"] "a".toUTF8 ∧
    Ends (do let started ← careful.start; started.emit false [bypass]) letterWorld fun result w' =>
      result.isOk = true ∧ ¬ w'.files.Stored ["x"] "a".toUTF8 := by
  refine ⟨rfl, rfl, stored_letter, by decide +kernel, fun hstored => ?_⟩
  have hsize : sizeAt ((do let started ← careful.start; started.emit false [bypass]).start
      letterWorld).2.files ["x"] = some 2 := by
    decide +kernel
  rw [sizeAt, hstored.file] at hsize
  exact absurd hsize (by decide +kernel)

end Emitter
end Scaffold
