import Mathlib.Data.List.Induction
import Mathlib.Data.List.Nodup
import Mathlib.Data.List.Perm.Subperm
import Mathlib.Data.Set.Insert
import Scaffold.FileSystem

/-!
# What writing does to the files

Steps back are taken by name alone in the place of a path, and following the path, where that works,
leads to this place. Making directories and writing a file are described by the places where there
may be a new directory and those where there may be a new file: everywhere else, all stays.
-/
namespace Scaffold

/-! ## Places of paths -/

namespace FileSystem

/-- Where one name leads. -/
def onward (before : Location) (name : String) : Location :=
  if name = ".." then before.dropLast else before ++ [name]

/-- Where names lead from the root. -/
def located (names : List String) : Location := names.foldl onward []

@[simp] theorem located_nil : located [] = [] := rfl

theorem located_concat (names : List String) (name : String) :
    located (names ++ [name]) = onward (located names) name := by
  rw [located, List.foldl_append]
  rfl

theorem located_append_of_notMem (names more : List String) (h : ".." ∉ more) :
    located (names ++ more) = located names ++ more := by
  induction more using List.reverseRecOn with
  | nil => rw [List.append_nil, List.append_nil]
  | append_singleton more name ih =>
    simp only [List.mem_append, List.mem_singleton, not_or] at h
    rw [← List.append_assoc, located_concat, ih h.1, onward, if_neg (Ne.symm h.2),
      List.append_assoc]

theorem located_of_notMem {names : List String} (h : ".." ∉ names) : located names = names := by
  simpa using located_append_of_notMem [] names h

end FileSystem

open FileSystem (located)

/-- The place of a path that is taken from the root. -/
def Path.location (p : Path) : Location := located p.names

/-- The place that a path leads to, from the working directory if it is relative. -/
def Path.placeFrom (cwd : Location) (p : Path) : Location :=
  p.names.foldl FileSystem.onward (FileSystem.start cwd p)

/-- The places above a path, as it is followed. -/
def Path.stations (p : Path) : Set Location :=
  {q | ∃ names, names <+: p.names.dropLast ∧ q = located names}

/-- The places that a path and the paths above it lead to, from the working directory if it is
relative. -/
def Path.wayFrom (cwd : Location) (p : Path) : Set Location :=
  {q | ∃ above : Path, above.anchor = p.anchor ∧ above.names <+: p.names ∧ q = above.placeFrom cwd}

theorem Path.placeFrom_eq_location (cwd : Location) {p : Path} (h : p.anchor ≠ .relative) :
    p.placeFrom cwd = p.location := by
  rw [placeFrom, FileSystem.start, if_neg h]
  rfl

theorem Path.placeFrom_mem_wayFrom (cwd : Location) (p : Path) : p.placeFrom cwd ∈ p.wayFrom cwd :=
  ⟨p, rfl, List.prefix_rfl, rfl⟩

theorem Path.wayFrom_parent_subset (cwd : Location) (p : Path) :
    p.parent.wayFrom cwd ⊆ p.wayFrom cwd := by
  rintro q ⟨above, hanchor, hprefix, hq⟩
  exact ⟨above, hanchor, hprefix.trans (List.dropLast_prefix _), hq⟩

/-- Without a step back, the places above a path are above its place. -/
theorem Path.prefix_of_mem_stations {p : Path} (h : ".." ∉ p.names) {q : Location}
    (hq : q ∈ p.stations) : q <+: p.location ∧ (q ≠ [] → q ≠ p.location) := by
  obtain ⟨names, hprefix, rfl⟩ := hq
  have hall : names <+: p.names := hprefix.trans (List.dropLast_prefix _)
  have hnames : ".." ∉ names := fun hmem => h (hall.subset hmem)
  rw [Path.location, FileSystem.located_of_notMem h, FileSystem.located_of_notMem hnames]
  refine ⟨hall, fun hne heq => hne (List.length_eq_zero_iff.1 ?_)⟩
  have hlength := hprefix.length_le
  rw [← heq, List.length_dropLast] at hlength
  omega

namespace FileSystem

/-! ## Following -/

theorem step_eq_ok_iff {fs : FileSystem} {place next : Location} {name : String} :
    fs.step place name = .ok next ↔
      fs.get? place = some .directory ∧ (name = ".." ∨ name.utf8ByteSize ≤ nameLimit) ∧
        next = onward place name := by
  unfold step onward
  rcases fs.get? place with _ | (_ | content)
  · simp
  · by_cases hname : name = ".."
    · simp [hname, eq_comm]
    · by_cases hlong : nameLimit < name.utf8ByteSize
      · simp [hname, hlong]
      · simp [hname, hlong, Nat.not_lt.1 hlong, eq_comm]
  · simp

theorem foldlM_step_of_ok {fs : FileSystem} {names : List String} {place last : Location}
    (h : names.foldlM fs.step place = .ok last) : last = names.foldl onward place := by
  induction names generalizing place with
  | nil =>
    cases h
    rfl
  | cons name rest ih =>
    rw [List.foldlM_cons] at h
    rcases hstep : fs.step place name with reason | next
    · rw [hstep] at h
      cases h
    · rw [hstep] at h
      obtain ⟨_, _, rfl⟩ := step_eq_ok_iff.1 hstep
      exact ih h

theorem walk_eq_ok_iff {fs : FileSystem} {cwd place : Location} {p : Path} :
    fs.walk cwd p = .ok place ↔
      p.text.utf8ByteSize < pathLimit ∧ p.names.foldlM fs.step (start cwd p) = .ok place := by
  by_cases hlong : p.text.utf8ByteSize < pathLimit <;> simp [walk, hlong]

theorem placeFrom_of_walk {fs : FileSystem} {cwd place : Location} {p : Path}
    (h : fs.walk cwd p = .ok place) : place = p.placeFrom cwd :=
  foldlM_step_of_ok (walk_eq_ok_iff.1 h).2

theorem location_of_walk {fs : FileSystem} {cwd : Location} {p : Path} (hp : p.anchor ≠ .relative)
    {place : Location} (h : fs.walk cwd p = .ok place) : place = p.location :=
  (placeFrom_of_walk h).trans (Path.placeFrom_eq_location cwd hp)

/-! ## Changing -/

/-- Directories stay. Where nothing is `written`, all stays, except that where nothing was there may
be a new directory, if the place is one of the `made` ones. -/
structure Evolves (written made : Set Location) (fs fs' : FileSystem) : Prop where
  directories : ∀ q, fs.get? q = some .directory → fs'.get? q = some .directory
  others : ∀ q ∉ written, fs'.get? q = fs.get? q ∨
    q ∈ made ∧ fs.get? q = none ∧ fs'.get? q = some .directory

namespace Evolves

variable {written written' made made' : Set Location} {fs fs₁ fs₂ fs₃ : FileSystem}

theorem refl (written made : Set Location) (fs : FileSystem) : Evolves written made fs fs :=
  ⟨fun _ h => h, fun _ _ => .inl rfl⟩

theorem mono (h : Evolves written made fs₁ fs₂) (hwritten : written ⊆ written')
    (hmade : made ⊆ made') : Evolves written' made' fs₁ fs₂ :=
  ⟨h.directories, fun q hq =>
    (h.others q fun hmem => hq (hwritten hmem)).imp_right fun hnew => ⟨hmade hnew.1, hnew.2⟩⟩

theorem trans (h : Evolves written made fs₁ fs₂) (h' : Evolves written made fs₂ fs₃) :
    Evolves written made fs₁ fs₃ := by
  refine ⟨fun q hq => h'.directories q (h.directories q hq), fun q hq => ?_⟩
  rcases h.others q hq with hsame | ⟨hmade, hnone, hnew⟩
  · rw [← hsame]
    exact h'.others q hq
  · exact .inr ⟨hmade, hnone, h'.directories q hnew⟩

theorem foldlM_step (h : Evolves written made fs₁ fs₂) {names : List String}
    {place last : Location} (hfold : names.foldlM fs₁.step place = .ok last) :
    names.foldlM fs₂.step place = .ok last := by
  induction names generalizing place with
  | nil => exact hfold
  | cons name rest ih =>
    rw [List.foldlM_cons] at hfold ⊢
    rcases hstep : fs₁.step place name with reason | next
    · rw [hstep] at hfold
      cases hfold
    · obtain ⟨hplace, hname, hnext⟩ := step_eq_ok_iff.1 hstep
      rw [hstep] at hfold
      rw [step_eq_ok_iff.2 ⟨h.directories _ hplace, hname, hnext⟩]
      exact ih hfold

theorem walk (h : Evolves written made fs₁ fs₂) {cwd place : Location} {p : Path}
    (hwalk : fs₁.walk cwd p = .ok place) : fs₂.walk cwd p = .ok place := by
  rw [walk_eq_ok_iff] at hwalk ⊢
  exact ⟨hwalk.1, h.foldlM_step hwalk.2⟩

end Evolves

theorem find_eq_ok_iff {fs : FileSystem} {cwd : Location} {p : Path} {entry : Entry} :
    fs.find cwd p = .ok entry ↔
      ∃ place, fs.walk cwd p = .ok place ∧ fs.get? place = some entry := by
  unfold find
  rcases fs.walk cwd p with reason | place
  · simp [bind, Except.bind]
  · cases hentry : fs.get? place <;> simp [bind, Except.bind, pure, Except.pure, hentry]

/-- A file stays, unless another is written in its place. -/
theorem Evolves.find_placeFrom {written made : Set Location} {fs fs' : FileSystem}
    (h : Evolves written made fs fs') {cwd : Location} {p : Path}
    (hplace : p.placeFrom cwd ∉ written) {content : ByteArray}
    (hfind : fs.find cwd p = .ok (.file content)) : fs'.find cwd p = .ok (.file content) := by
  obtain ⟨place, hwalk, hentry⟩ := find_eq_ok_iff.1 hfind
  obtain rfl := placeFrom_of_walk hwalk
  refine find_eq_ok_iff.2 ⟨_, h.walk hwalk, ?_⟩
  rcases h.others _ hplace with hsame | ⟨_, hnone, _⟩
  · rw [hsame, hentry]
  · rw [hnone] at hentry
    cases hentry

theorem Evolves.find {written made : Set Location} {fs fs' : FileSystem}
    (h : Evolves written made fs fs') {cwd : Location} {p : Path} (hp : p.anchor ≠ .relative)
    (hplace : p.location ∉ written) {content : ByteArray}
    (hfind : fs.find cwd p = .ok (.file content)) : fs'.find cwd p = .ok (.file content) :=
  h.find_placeFrom (Path.placeFrom_eq_location cwd hp ▸ hplace) hfind

/-- Taking away what was put where nothing was. -/
theorem remove_put {fs : FileSystem} {place : Location} (hplace : place ≠ [])
    (hfree : fs.get? place = none) (entry : Entry) : (fs.put place entry).remove place = fs := by
  have hentries (es : List (Location × Entry)) (hes : es.lookup place = none) :
      (putEntry place entry es).filter (fun e => e.1 ≠ place) = es := by
    induction es with
    | nil => simp [putEntry]
    | cons e rest ih =>
      obtain ⟨p, e⟩ := e
      by_cases hp : p = place
      · simp [hp] at hes
      · rw [List.lookup_cons, beq_false_of_ne (Ne.symm hp)] at hes
        rw [putEntry, if_neg hp, List.filter_cons_of_pos (by simpa using hp), ih hes]
  rw [get?, if_neg hplace] at hfree
  rw [put, remove, hentries fs.entries hfree]

/-! ## Making directories -/

theorem run_makeOne (cwd : Location) (p : Path) (fs : FileSystem) :
    (makeOne cwd p).run.run fs = match fs.withDirectory cwd p with
      | .ok changed => (.ok (), changed)
      | .error reason => match fs.find cwd p with
        | .ok .directory => (.ok (), fs)
        | _ => (.error ⟨reason, p.text, none⟩, fs) := by
  have hrun : (makeOne cwd p).run.run fs = (match fs.withDirectory cwd p with
      | .ok changed => (set changed : Change Unit)
      | .error reason => match fs.find cwd p with
        | .ok .directory => pure ()
        | _ => refuse reason p none).run.run fs := rfl
  rw [hrun]
  rcases fs.withDirectory cwd p with reason | changed
  · rcases fs.find cwd p with _ | (_ | _) <;> rfl
  · rfl

theorem withDirectory_eq_ok {fs fs' : FileSystem} {cwd : Location} {p : Path}
    (h : fs.withDirectory cwd p = .ok fs') :
    ∃ place, fs.walk cwd p = .ok place ∧ fs.get? place = none ∧ fs' = fs.put place .directory := by
  unfold withDirectory newPlace at h
  rcases hwalk : fs.walk cwd p with reason | place
  · simp [hwalk, bind, Except.bind] at h
  · by_cases hname : p.names = [] ∨ p.name = ".."
    · simp [hwalk, bind, Except.bind, hname, throw, throwThe, MonadExceptOf.throw] at h
    · cases hentry : fs.get? place with
      | none =>
        simp only [hwalk, bind, Except.bind, hname, if_false, pure, Except.pure, hentry,
          Except.ok.injEq] at h
        exact ⟨place, rfl, hentry, h.symm⟩
      | some entry =>
        simp [hwalk, bind, Except.bind, hname, hentry, pure, Except.pure, throw, throwThe,
          MonadExceptOf.throw] at h

/-- A new entry where nothing was. -/
theorem evolves_put {fs : FileSystem} {place : Location} {made : Set Location}
    (hnone : fs.get? place = none) (hmade : place ∈ made) :
    Evolves ∅ made fs (fs.put place .directory) := by
  have hplace : place ≠ [] := by
    rintro rfl
    simp [get?] at hnone
  constructor
  · intro q hq
    rw [get?_put hplace]
    split
    · rfl
    · exact hq
  · intro q _
    rw [get?_put hplace]
    split
    · next heq =>
      subst heq
      exact .inr ⟨hmade, hnone, rfl⟩
    · exact .inl rfl

/-- The places at which a path and the paths above it lead. -/
def wayTo (p : Path) : Set Location := {q | ∃ names, names <+: p.names ∧ q = located names}

theorem wayFrom_eq_wayTo (cwd : Location) {p : Path} (hp : p.anchor ≠ .relative) :
    p.wayFrom cwd = wayTo p := by
  ext q
  constructor
  · rintro ⟨above, hanchor, hprefix, rfl⟩
    exact ⟨above.names, hprefix, Path.placeFrom_eq_location cwd (hanchor ▸ hp)⟩
  · rintro ⟨names, hprefix, rfl⟩
    have hplace := Path.placeFrom_eq_location cwd (p := ⟨p.anchor, names⟩) hp
    exact ⟨⟨p.anchor, names⟩, rfl, hprefix, hplace.symm⟩

theorem evolves_makeOne (cwd : Location) (p : Path) (fs : FileSystem) :
    Evolves ∅ (p.wayFrom cwd) fs ((makeOne cwd p).run.run fs).2 := by
  rw [run_makeOne]
  rcases hchanged : fs.withDirectory cwd p with reason | changed
  · dsimp only
    split <;> exact .refl ..
  · obtain ⟨place, hwalk, hnone, rfl⟩ := withDirectory_eq_ok hchanged
    obtain rfl := placeFrom_of_walk hwalk
    exact evolves_put hnone (p.placeFrom_mem_wayFrom cwd)

theorem run_bind {α β : Type} (change : Change α) (next : α → Change β) (fs : FileSystem) :
    (change >>= next).run.run fs = match change.run.run fs with
      | (.ok a, fs') => (next a).run.run fs'
      | (.error fault, fs') => (.error fault, fs') := by
  have hbind : (change >>= next).run.run fs =
      (let r := change.run.run fs; ExceptT.bindCont (m := StateM FileSystem) next r.1 r.2) := rfl
  rw [hbind]
  obtain ⟨result, after⟩ := change.run.run fs
  cases result <;> rfl

theorem run_makeDirectory (cwd : Location) (p : Path) (fs : FileSystem) :
    (makeDirectory cwd p).run.run fs =
      if fs.withDirectory cwd p matches .error .missing then
        if p.names = [] then (.error ⟨.missing, p.text, none⟩, fs)
        else (do makeDirectory cwd p.parent; makeOne cwd p).run.run fs
      else (makeOne cwd p).run.run fs := by
  rw [makeDirectory, run_bind]
  change (match fs.withDirectory cwd p with
    | .error .missing => _
    | _ => makeOne cwd p).run.run fs = _
  rcases fs.withDirectory cwd p with reason | changed
  · cases reason
    case missing =>
      by_cases hnames : p.names = []
      · simp only [hnames, if_true]
        rfl
      · simp only [hnames, if_false, if_true]
    all_goals simp
  · simp

/-- Directories are made on the way only. -/
theorem evolves_makeDirectory_from (cwd : Location) (p : Path) (fs : FileSystem) :
    Evolves ∅ (p.wayFrom cwd) fs ((makeDirectory cwd p).run.run fs).2 := by
  induction hlength : p.names.length generalizing p fs with
  | zero =>
    rw [run_makeDirectory]
    split
    · rw [if_pos (List.length_eq_zero_iff.1 hlength)]
      exact .refl ..
    · exact evolves_makeOne cwd p fs
  | succ n ih =>
    have hparent := ih p.parent fs (by simp [Path.parent, hlength])
    rw [run_makeDirectory]
    split
    · rw [if_neg (List.ne_nil_of_length_eq_add_one hlength), run_bind]
      rcases hrun : (makeDirectory cwd p.parent).run.run fs with ⟨fault | _, mid⟩
      · rw [hrun] at hparent
        exact hparent.mono (Set.Subset.refl _) (p.wayFrom_parent_subset cwd)
      · rw [hrun] at hparent
        have hup := hparent.mono (Set.Subset.refl _) (p.wayFrom_parent_subset cwd)
        exact hup.trans (evolves_makeOne cwd p mid)
    · exact evolves_makeOne cwd p fs

theorem evolves_makeDirectory (cwd : Location) {p : Path} (hp : p.anchor ≠ .relative)
    (fs : FileSystem) : Evolves ∅ (wayTo p) fs ((makeDirectory cwd p).run.run fs).2 := by
  rw [← wayFrom_eq_wayTo cwd hp]
  exact evolves_makeDirectory_from cwd p fs

/-! ## Writing a file -/

theorem ofDigitChars_zeroPadded (width n : Nat) :
    Nat.ofDigitChars 10 (Text.zeroPadded width n).toList 0 = n := by
  have hdigits : (toString n).toList = Nat.toDigits 10 n := by
    simp
  rw [Text.zeroPadded, Text.padLeft, String.toList_ofList, Nat.ofDigitChars_append,
    Nat.ofDigitChars_replicate_zero, Nat.mul_zero, hdigits]
  exact Nat.ofDigitChars_toDigits (by decide) (by decide)

theorem scratchName_injective (name : String) : Function.Injective (scratchName name) := by
  intro m n h
  have hpadded : Text.zeroPadded 8 m = Text.zeroPadded 8 n := by
    simpa [scratchName] using h
  have hvalue := congrArg (fun s => Nat.ofDigitChars 10 s.toList 0) hpadded
  simpa only [ofDigitChars_zeroPadded] using hvalue

/-- More names than entries cannot all be taken. -/
theorem exists_free_scratch (fs : FileSystem) (directory : Location) (name : String) :
    ∃ number ∈ List.range (fs.entries.length + 1),
      fs.get? (directory ++ [scratchName name number]) = none := by
  by_contra htaken
  push Not at htaken
  let places := (List.range (fs.entries.length + 1)).map fun number =>
    directory ++ [scratchName name number]
  have hnodup : places.Nodup := by
    refine List.Nodup.map (fun m n h => scratchName_injective name ?_) List.nodup_range
    simpa using h
  have hsub : places ⊆ fs.entries.map (·.1) := by
    intro place hplace
    obtain ⟨number, hnumber, rfl⟩ := List.mem_map.1 hplace
    have hentry := htaken number hnumber
    rw [get?, if_neg (List.append_ne_nil_of_right_ne_nil _ (List.cons_ne_nil _ _)),
      Option.ne_none_iff_isSome, List.lookup_isSome_iff] at hentry
    obtain ⟨e, he, hkey⟩ := hentry
    rw [eq_of_beq hkey]
    exact List.mem_map_of_mem he
  have hlength := (List.subperm_of_subset hnodup hsub).length_le
  simp only [places, List.length_map, List.length_range] at hlength
  omega

/-- The scratch file is new, below the place of the directory. -/
theorem scratchPath_eq (fs : FileSystem) (directory : Path) (name : String) :
    ∃ number, fs.scratchPath directory name = numbered directory name number ∧
      fs.get? (numbered directory name number).names = none := by
  unfold scratchPath
  dsimp only
  cases hfind : List.find? (fun p : Path => (fs.get? p.names).isNone) _ with
  | none =>
    obtain ⟨number, hnumber, hfree⟩ := exists_free_scratch fs directory.names name
    have htaken := List.find?_eq_none.1 hfind _ (List.mem_map_of_mem hnumber)
    simp [numbered, hfree] at htaken
  | some scratch =>
    obtain ⟨number, _, rfl⟩ := List.mem_map.1 (List.mem_of_find?_eq_some hfind)
    exact ⟨number, rfl, by simpa using List.find?_some hfind⟩

theorem filePlace_eq_ok_iff {fs : FileSystem} {cwd place : Location} {p : Path}
    {otherwise : Refused} :
    fs.filePlace cwd p otherwise = .ok place ↔ fs.walk cwd p = .ok place ∧
      (p.names ≠ [] ∧ p.name ≠ "..") ∧ fs.get? place ≠ some .directory := by
  unfold filePlace newPlace
  rcases fs.walk cwd p with reason | last
  · simp [bind, Except.bind]
  · by_cases hname : p.names = [] ∨ p.name = ".."
    · have hunnamed : ¬ (p.names ≠ [] ∧ p.name ≠ "..") := by
        rwa [← not_or, not_not]
      simp [bind, Except.bind, hname, hunnamed, throw, throwThe, MonadExceptOf.throw]
    · rw [← not_or]
      simp only [bind, Except.bind, hname, if_false, pure, Except.pure, not_false_iff, true_and]
      split
      · next hentry =>
        simp only [throw, throwThe, MonadExceptOf.throw, reduceCtorEq, Except.ok.injEq, false_iff]
        rintro ⟨rfl, hfile⟩
        exact hfile hentry
      · next hentry =>
        simp only [Except.ok.injEq]
        constructor
        · rintro rfl
          exact ⟨rfl, hentry⟩
        · rintro ⟨rfl, _⟩
          rfl

theorem run_replace (cwd : Location) (scratch p : Path) (content : ByteArray) (fs : FileSystem) :
    (replace cwd scratch p content).run.run fs = match fs.filePlace cwd p .busy with
      | .ok place => (.ok (), (fs.remove scratch.names).put place (.file content))
      | .error reason =>
        (.error ⟨reason, scratch.text, some p.text⟩, fs.remove scratch.names) := by
  rw [replace, run_bind]
  change (match fs.filePlace cwd p .busy with
    | .ok place => _
    | .error reason => _ : Change Unit).run.run fs = _
  rcases fs.filePlace cwd p .busy with reason | place <;> rfl

theorem exists_scratch (fs : FileSystem) (cwd : Location) (p : Path) :
    ∃ scratch, fs.scratchPath (absolute cwd p.parent) p.name = scratch ∧ scratch.names ≠ [] ∧
      fs.get? scratch.names = none := by
  obtain ⟨number, hscratch, hfree⟩ := scratchPath_eq fs (absolute cwd p.parent) p.name
  exact ⟨_, hscratch, List.concat_ne_nil _ _, hfree⟩

/-- The scratch file is gone afterwards. It is there while the place of the path is looked for. -/
theorem run_writeWhole (cwd : Location) (p : Path) (content : ByteArray) (fs : FileSystem) :
    (writeWhole cwd p content).run.run fs =
      let scratch := fs.scratchPath (absolute cwd p.parent) p.name
      match fs.walk cwd (numbered (absolute cwd p.parent) p.name 0) with
      | .error reason => (.error ⟨reason, scratch.text, none⟩, fs)
      | .ok _ => match (fs.put scratch.names (.file content)).filePlace cwd p .busy with
        | .ok place => (.ok (), fs.put place (.file content))
        | .error reason => (.error ⟨reason, scratch.text, some p.text⟩, fs) := by
  obtain ⟨scratch, hscratch, hne, hfree⟩ := exists_scratch fs cwd p
  have hreplace := run_replace cwd scratch p content (fs.put scratch.names (.file content))
  rw [remove_put hne hfree] at hreplace
  rw [writeWhole, run_bind, hscratch]
  change (match fs.walk cwd (numbered (absolute cwd p.parent) p.name 0) with
    | .error reason => _
    | .ok _ => _ : Change Unit).run.run fs = _
  rw [hscratch]
  rcases fs.walk cwd (numbered (absolute cwd p.parent) p.name 0) with reason | room
  · rfl
  · exact hreplace

/-- A new file does not hide any way. -/
theorem evolves_scratch {fs : FileSystem} {place : Location} (h : place ≠ [])
    (hfree : fs.get? place = none) (content : ByteArray) :
    Evolves .univ ∅ fs (fs.put place (.file content)) ∧
      Evolves .univ ∅ (fs.put place (.file content)) fs := by
  have hdirectory (q : Location) : (fs.put place (.file content)).get? q = some .directory ↔
      fs.get? q = some .directory := by
    rw [get?_put h]
    by_cases hq : q = place
    · simp [hq, hfree]
    · rw [if_neg hq]
  exact ⟨⟨fun q => (hdirectory q).2, fun q hq => absurd (Set.mem_univ q) hq⟩,
    ⟨fun q => (hdirectory q).1, fun q hq => absurd (Set.mem_univ q) hq⟩⟩

/-- A scratch file makes no difference to where a file is to be written. -/
theorem filePlace_scratch {fs : FileSystem} {scratch : Location} (h : scratch ≠ [])
    (hfree : fs.get? scratch = none) (content : ByteArray) {cwd place : Location} {p : Path}
    (otherwise : Refused) :
    (fs.put scratch (.file content)).filePlace cwd p otherwise = .ok place ↔
      fs.filePlace cwd p otherwise = .ok place := by
  obtain ⟨hout, hback⟩ := evolves_scratch h hfree content
  have hwalk : (fs.put scratch (.file content)).walk cwd p = .ok place ↔
      fs.walk cwd p = .ok place := ⟨hback.walk, hout.walk⟩
  have hfile : (fs.put scratch (.file content)).get? place ≠ some .directory ↔
      fs.get? place ≠ some .directory :=
    not_congr ⟨hback.directories place, hout.directories place⟩
  rw [filePlace_eq_ok_iff, filePlace_eq_ok_iff, hwalk, hfile]

theorem placeFrom_of_filePlace {fs : FileSystem} {cwd place : Location} {p : Path}
    {otherwise : Refused} (h : fs.filePlace cwd p otherwise = .ok place) :
    place = p.placeFrom cwd ∧ p.placeFrom cwd ≠ [] := by
  obtain ⟨hwalk, _, hfile⟩ := filePlace_eq_ok_iff.1 h
  obtain rfl := placeFrom_of_walk hwalk
  refine ⟨rfl, fun hroot => hfile ?_⟩
  rw [hroot]
  rfl

theorem location_of_filePlace {fs : FileSystem} {cwd place : Location} {p : Path}
    (hp : p.anchor ≠ .relative) {otherwise : Refused}
    (h : fs.filePlace cwd p otherwise = .ok place) : place = p.location ∧ p.location ≠ [] := by
  rw [← Path.placeFrom_eq_location cwd hp]
  exact placeFrom_of_filePlace h

/-- A file in a place that is not a directory's. -/
theorem evolves_put_file {fs : FileSystem} {place : Location} (h : place ≠ [])
    (hfile : fs.get? place ≠ some .directory) (content : ByteArray) :
    Evolves {place} ∅ fs (fs.put place (.file content)) := by
  refine ⟨fun q hq => ?_, fun q hq => .inl ?_⟩
  · have hother : q ≠ place := by
      rintro rfl
      exact hfile hq
    rw [get?_put h, if_neg hother, hq]
  · rw [get?_put h, if_neg (mt Set.mem_singleton_iff.2 hq)]

/-- A file that is put where its path leads is found at the path. -/
theorem evolves_put_filePlace {fs : FileSystem} {cwd place : Location} {p : Path}
    {otherwise : Refused} (h : fs.filePlace cwd p otherwise = .ok place) (content : ByteArray) :
    Evolves {place} ∅ fs (fs.put place (.file content)) ∧
      (fs.put place (.file content)).find cwd p = .ok (.file content) := by
  obtain ⟨hwalk, _, hfile⟩ := filePlace_eq_ok_iff.1 h
  obtain ⟨rfl, hroot⟩ := placeFrom_of_filePlace h
  have hwritten := evolves_put_file hroot hfile content
  refine ⟨hwritten, find_eq_ok_iff.2 ⟨_, hwritten.walk hwalk, ?_⟩⟩
  rw [get?_put hroot, if_pos rfl]

/-- A file is written as a whole, or nothing changes. -/
theorem evolves_writeWhole_from (cwd : Location) (p : Path) (content : ByteArray)
    (fs : FileSystem) :
    match (writeWhole cwd p content).run.run fs with
    | (.ok _, fs') => Evolves {p.placeFrom cwd} ∅ fs fs' ∧ fs'.find cwd p = .ok (.file content)
    | (.error _, fs') => Evolves ∅ ∅ fs fs' := by
  obtain ⟨scratch, hscratch, hne, hfree⟩ := exists_scratch fs cwd p
  rw [run_writeWhole, hscratch]
  dsimp only
  rcases fs.walk cwd (numbered (absolute cwd p.parent) p.name 0) with reason | room
  · exact .refl ..
  rcases hplace : (fs.put scratch.names (.file content)).filePlace cwd p .busy with reason | place
  · exact .refl ..
  rw [filePlace_scratch hne hfree content] at hplace
  obtain ⟨rfl, -⟩ := placeFrom_of_filePlace hplace
  exact evolves_put_filePlace hplace content

theorem evolves_writeWhole (cwd : Location) {p : Path} (hp : p.anchor ≠ .relative)
    (content : ByteArray) (fs : FileSystem) :
    match (writeWhole cwd p content).run.run fs with
    | (.ok _, fs') => Evolves {p.location} ∅ fs fs' ∧ fs'.find cwd p = .ok (.file content)
    | (.error _, fs') => Evolves ∅ ∅ fs fs' := by
  rw [← Path.placeFrom_eq_location cwd hp]
  exact evolves_writeWhole_from cwd p content fs

end FileSystem
end Scaffold
