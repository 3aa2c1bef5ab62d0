import Scaffold.Emission
import Scaffold.Proofs.Acceptance
import Scaffold.Proofs.Files

/-!
# How far emission gets

Artifacts are written in order until one is refused. The invariant of the loop is what the files
keep: those that were written stay as they are, since later artifacts have other places, and what is
at the places of the rest is left alone, but for directories on the way.
-/
namespace Scaffold

open Run FileSystem

/-- Neither path leads to the place of the other or above it. -/
def Path.Apart (p q : Path) : Prop := ¬ p.location <+: q.location ∧ ¬ q.location <+: p.location

instance (p q : Path) : Decidable (p.Apart q) := inferInstanceAs (Decidable (_ ∧ _))

theorem Path.Apart.location_ne {p q : Path} (h : p.Apart q) : p.location ≠ q.location := by
  intro heq
  exact h.1 (heq ▸ List.prefix_rfl)

theorem Path.anchor_join {p : Path} (hp : p.anchor ≠ .relative) (q : Path) :
    (p.join q).anchor ≠ .relative := by
  unfold join
  split
  · exact hp
  · next hq => exact hq

/-! ## Writing a text -/

/-- What writing a text breaks down over, whatever the files are: a null character in the path, or
directories that lie too deep. -/
def IsOverPath (stop : Stop) : Prop :=
  stop = .breakdown .nullCharacter ∨ stop = .breakdown (.tooDeep makingText)

theorem IsOverPath.exists_breakdown {stop : Stop} (h : IsOverPath stop) :
    ∃ b, stop = .breakdown b := by
  rcases h with rfl | rfl
  · exact ⟨_, rfl⟩
  · exact ⟨_, rfl⟩

/-- A text is written as a whole; in any other case there are only new directories. -/
theorem ends_writeText_from (p : Path) (s : String) (w : World) :
    Ends (writeText true p s) w fun result w' => w'.directory = w.directory ∧ match result with
      | .ok (.ok bytes) => bytes = s.toUTF8.size ∧
          Evolves {p.placeFrom w.directory} (p.parent.wayFrom w.directory) w.files w'.files ∧
          w'.files.find w.directory p = .ok (.file s.toUTF8)
      | .ok (.error _) => Evolves ∅ (p.parent.wayFrom w.directory) w.files w'.files
      | .error stop =>
          IsOverPath stop ∧ Evolves ∅ (p.parent.wayFrom w.directory) w.files w'.files := by
  refine .bind_of_ok (start_get w) ?_
  dsimp only
  have hmade := evolves_makeDirectory_from w.directory p.parent w.files
  by_cases hparent : Loading.hasNull p.parent.text
  · rw [if_pos hparent]
    exact .bind_of_error (start_breakDown ..) ⟨rfl, .inl rfl, .refl ..⟩
  rw [if_neg hparent]
  by_cases hdeep : depthLimit < w.files.missingLevels w.directory p.parent
  · rw [if_pos hdeep]
    exact .bind_of_error (start_breakDown ..) ⟨rfl, .inr rfl, .refl ..⟩
  rw [if_neg hdeep]
  refine .bind_of_ok (start_change ..) ?_
  rcases hrun : (makeDirectory w.directory p.parent).run.run w.files with ⟨fault | _, made⟩
  · rw [hrun] at hmade
    exact ⟨rfl, hmade⟩
  rw [hrun] at hmade
  refine .bind_of_ok (start_note ..) ?_
  by_cases hname : Loading.hasNull p.name
  · rw [if_pos hname]
    exact .bind_of_error (start_breakDown ..) ⟨rfl, .inl rfl, hmade⟩
  rw [if_neg hname]
  refine .bind_of_ok (start_change ..) ?_
  have hwritten := evolves_writeWhole_from w.directory p s.toUTF8 made
  rw [if_pos rfl]
  rcases hwhole : (writeWhole w.directory p s.toUTF8).run.run made with ⟨fault | _, after⟩
  · rw [hwhole] at hwritten
    exact ⟨rfl, hmade.trans (hwritten.mono (Set.Subset.refl _) (Set.empty_subset _))⟩
  · rw [hwhole] at hwritten
    refine .bind_of_ok (start_note ..) ⟨rfl, rfl, ?_, hwritten.2⟩
    exact (hmade.mono (Set.empty_subset _) (Set.Subset.refl _)).trans
      (hwritten.1.mono (Set.Subset.refl _) (Set.empty_subset _))

/-- The places above a path from the root do not depend on the working directory. -/
theorem Path.wayFrom_parent_eq_stations (cwd : Location) {p : Path} (hp : p.anchor ≠ .relative) :
    p.parent.wayFrom cwd = p.stations :=
  wayFrom_eq_wayTo cwd (show p.parent.anchor ≠ .relative from hp)

theorem ends_writeText {p : Path} (hp : p.anchor ≠ .relative) (s : String) (w : World) :
    Ends (writeText true p s) w fun result w' => w'.directory = w.directory ∧ match result with
      | .ok (.ok bytes) => bytes = s.toUTF8.size ∧
          Evolves {p.location} p.stations w.files w'.files ∧
          w'.files.find w.directory p = .ok (.file s.toUTF8)
      | .ok (.error _) => Evolves ∅ p.stations w.files w'.files
      | .error stop => IsOverPath stop ∧ Evolves ∅ p.stations w.files w'.files := by
  rw [← Path.placeFrom_eq_location w.directory hp, ← Path.wayFrom_parent_eq_stations w.directory hp]
  exact ends_writeText_from p s w

namespace Emitter

/-! ## One artifact -/

def target (e : Emitter) (a : Artifact) : Path := e.root.join a.path

/-- The outcome of an artifact that was written. -/
def written (e : Emitter) (a : Artifact) : Outcome where
  artifact := a
  target := e.target a
  bytes := a.content.toUTF8.size
  digest := Digest.sha256 a.content.toUTF8

/-- The outcome of an artifact that was not. -/
def refusal (e : Emitter) (reason : String) (a : Artifact) : Outcome where
  artifact := a
  target := e.target a
  failure := some (.unwritten (e.target a).text reason)

@[simp] theorem success_written (e : Emitter) (a : Artifact) : (e.written a).success = true := rfl

@[simp] theorem success_refusal (e : Emitter) (reason : String) (a : Artifact) :
    (e.refusal reason a).success = false := rfl

/-- An emitter that does write, each file as a whole, below a place from the root. -/
structure Writes (e : Emitter) : Prop where
  wet : e.dryRun = false
  atomic : e.atomic = true
  anchored : e.root.anchor ≠ .relative

/-- Whether the text of an artifact is at its target. -/
def Holds (e : Emitter) (cwd : Location) (fs : FileSystem) (a : Artifact) : Prop :=
  fs.find cwd (e.target a) = .ok (.file a.content.toUTF8)

theorem Writes.target {e : Emitter} (h : e.Writes) (a : Artifact) :
    (e.target a).anchor ≠ .relative := Path.anchor_join h.anchored a.path

/-- What one step makes of the world. -/
def Step (e : Emitter) (a : Artifact) (w : World) (result : Except Stop Outcome) (w' : World) :
    Prop :=
  w'.directory = w.directory ∧ match result with
    | .ok outcome =>
      (outcome = e.written a ∧
        Evolves {(e.target a).location} (e.target a).stations w.files w'.files ∧
        e.Holds w.directory w'.files a) ∨
      ∃ reason, outcome = e.refusal reason a ∧
        Evolves ∅ (e.target a).stations w.files w'.files
    | .error stop => ∃ b, stop = .breakdown b

theorem ends_write {e : Emitter} (h : e.Writes) (a : Artifact) (w : World) :
    Ends (e.write a (e.target a)) w (e.Step a w) := by
  unfold write
  rw [h.atomic]
  refine (ends_writeText (h.target a) a.content w).bind ?_ ?_
  · rintro (fault | bytes) w' ⟨hdirectory, hfiles⟩
    · exact .bind_of_ok (start_note ..) ⟨hdirectory, .inr ⟨_, rfl, hfiles⟩⟩
    · obtain ⟨rfl, hevolves, hfind⟩ := hfiles
      exact .bind_of_ok (start_note ..) ⟨hdirectory, .inl ⟨rfl, hevolves, hfind⟩⟩
  · rintro stop w' ⟨hdirectory, hstop, _⟩
    exact ⟨hdirectory, hstop.exists_breakdown⟩

theorem ends_emitWhole {e : Emitter} (h : e.Writes) (a : Artifact) (w : World) :
    Ends (e.emitWhole a) w (e.Step a w) := by
  unfold emitWhole
  dsimp only
  rw [h.wet, if_neg Bool.false_ne_true]
  by_cases hoverwrite : e.overwrite = true
  · rw [if_pos hoverwrite]
    exact ends_write h a w
  · rw [if_neg hoverwrite]
    have hthere : Observes (fun _ => False) (Loading.isThere (e.target a)) :=
      Loading.observes_isThere _
    refine (hthere.ends w).bind ?_ ?_
    · rintro there w' ⟨⟨journal, rfl⟩, _⟩
      cases there
      · exact ends_write h a _
      · rw [if_pos rfl]
        exact .bind_of_ok (start_note ..) ⟨rfl, .inr ⟨_, rfl, .refl ..⟩⟩
    · rintro (f | b) w' ⟨hsame, hnone⟩
      · exact (hnone f rfl).elim
      · exact ⟨hsame.directory, b, rfl⟩

theorem ends_emitOne {e : Emitter} (h : e.Writes) (a : Artifact) (w : World) :
    Ends (e.emitOne a) w (e.Step a w) := by
  cases hhalf : a.half with
  | true =>
    rw [emitOne_of_half e hhalf]
    exact ⟨rfl, .halfCharacter, rfl⟩
  | false =>
    rw [emitOne_of_whole e hhalf]
    exact ends_emitWhole h a w

/-! ## Several artifacts -/

def places (e : Emitter) (artifacts : List Artifact) : Set Location :=
  {q | ∃ a ∈ artifacts, q = (e.target a).location}

def ways (e : Emitter) (artifacts : List Artifact) : Set Location :=
  {q | ∃ a ∈ artifacts, q ∈ (e.target a).stations}

/-- The invariant of emission: what the world keeps once some artifacts are `done`, and the one that
comes next, if any, was refused. -/
structure Reached (e : Emitter) (w : World) (done next : List Artifact) (w' : World) : Prop where
  directory : w'.directory = w.directory
  files : Evolves (e.places done) (e.ways (done ++ next)) w.files w'.files
  held : done.Pairwise (fun a b => (e.target a).location ≠ (e.target b).location) →
    ∀ a ∈ done, e.Holds w.directory w'.files a

theorem Reached.nil (e : Emitter) (w : World) : e.Reached w [] [] w :=
  ⟨rfl, .refl .., fun _ _ ha => nomatch ha⟩

theorem Reached.refused {e : Emitter} {a : Artifact} {w w' : World}
    (hdirectory : w'.directory = w.directory)
    (hfiles : Evolves ∅ (e.target a).stations w.files w'.files) : e.Reached w [] [a] w' := by
  refine ⟨hdirectory, hfiles.mono (Set.empty_subset _) ?_, fun _ _ hb => nomatch hb⟩
  intro q hq
  exact ⟨a, List.mem_singleton_self a, hq⟩

/-- One more artifact before the others: what they do keeps it. -/
theorem Reached.cons {e : Emitter} (h : e.Writes) {a : Artifact} {done next : List Artifact}
    {w w₁ w' : World} (hdirectory : w₁.directory = w.directory)
    (hfiles : Evolves {(e.target a).location} (e.target a).stations w.files w₁.files)
    (hheld : e.Holds w.directory w₁.files a) (hrest : e.Reached w₁ done next w') :
    e.Reached w (a :: done) next w' := by
  refine ⟨hrest.directory.trans hdirectory, ?_, fun hdistinct => ?_⟩
  · have hfirst : Evolves (e.places (a :: done)) (e.ways (a :: done ++ next)) w.files w₁.files := by
      refine hfiles.mono (fun q hq => ?_) fun q hq => ?_
      · exact ⟨a, List.mem_cons_self, hq⟩
      · exact ⟨a, List.mem_cons_self, hq⟩
    refine hfirst.trans (hrest.files.mono (fun q hq => ?_) fun q hq => ?_)
    · obtain ⟨b, hb, hplace⟩ := hq
      exact ⟨b, List.mem_cons_of_mem a hb, hplace⟩
    · obtain ⟨b, hb, hplace⟩ := hq
      exact ⟨b, List.mem_cons_of_mem a hb, hplace⟩
  · obtain ⟨hother, hrestDistinct⟩ := List.pairwise_cons.1 hdistinct
    rw [List.forall_mem_cons]
    constructor
    · refine hrest.files.find (h.target a) ?_ hheld
      rintro ⟨b, hb, hplace⟩
      exact hother b hb hplace
    · rw [← hdirectory]
      exact hrest.held hrestDistinct

/-- All artifacts were written, or those before the first one that was refused. -/
def Emitted (e : Emitter) (artifacts : List Artifact) (w : World) (outcomes : List Outcome)
    (w' : World) : Prop :=
  (outcomes = artifacts.map e.written ∧ e.Reached w artifacts [] w') ∨
    ∃ done a after reason, artifacts = done ++ a :: after ∧
      outcomes = done.map e.written ++ [e.refusal reason a] ∧ e.Reached w done [a] w'

/-- What emission comes to, unless it breaks down. -/
def Ended (e : Emitter) (artifacts : List Artifact) (w : World)
    (result : Except Stop (List Outcome)) (w' : World) : Prop :=
  match result with
  | .ok outcomes => e.Emitted artifacts w outcomes w'
  | .error stop => ∃ b, stop = .breakdown b

theorem ends_outcomes {e : Emitter} (h : e.Writes) (artifacts : List Artifact) (w : World) :
    Ends (e.outcomes true artifacts) w (e.Ended artifacts w) := by
  induction artifacts generalizing w with
  | nil => exact .inl ⟨rfl, .nil e w⟩
  | cons a rest ih =>
    rw [outcomes]
    refine (ends_emitOne h a w).bind ?_ fun stop w' hstop => hstop.2
    rintro outcome w₁ ⟨hdirectory, ⟨rfl, hfiles, hheld⟩ | ⟨reason, rfl, hfiles⟩⟩
    · rw [if_neg (by simp)]
      refine (ih w₁).bind ?_ fun stop w' hstop => hstop
      rintro outcomes w' (⟨rfl, hreached⟩ | ⟨done, b, after, reason, rfl, rfl, hreached⟩)
      · exact .inl ⟨rfl, hreached.cons h hdirectory hfiles hheld⟩
      · exact .inr ⟨a :: done, b, after, reason, rfl, rfl,
          hreached.cons h hdirectory hfiles hheld⟩
    · rw [if_pos (by simp)]
      exact .bind_of_ok (start_note ..) (.inr ⟨[], a, rest, reason, rfl, rfl,
        .refused hdirectory hfiles⟩)

/-- What was said before and afterwards does not matter. -/
theorem Emitted.unchanged {e : Emitter} {artifacts : List Artifact} {outcomes : List Outcome}
    {w w₁ w₂ w' : World} (h : e.Emitted artifacts w₁ outcomes w₂) (hbefore : Unchanged w w₁)
    (hafter : Unchanged w₂ w') : e.Emitted artifacts w outcomes w' := by
  obtain ⟨_, rfl⟩ := hbefore
  obtain ⟨_, rfl⟩ := hafter
  rcases h with ⟨houtcomes, hreached⟩ | ⟨done, a, after, reason, hsplit, houtcomes, hreached⟩
  · exact .inl ⟨houtcomes, hreached.directory, hreached.files, hreached.held⟩
  · exact .inr ⟨done, a, after, reason, hsplit, houtcomes, hreached.directory, hreached.files,
      hreached.held⟩

theorem Ended.unchanged {e : Emitter} {artifacts : List Artifact}
    {result : Except Stop (List Outcome)} {w w₁ w₂ w' : World} (h : e.Ended artifacts w₁ result w₂)
    (hbefore : Unchanged w w₁) (hafter : Unchanged w₂ w') : e.Ended artifacts w result w' := by
  cases result with
  | ok outcomes => exact Emitted.unchanged h hbefore hafter
  | error stop => exact h

theorem ends_emit {e : Emitter} (h : e.Writes) (artifacts : List Artifact) (w : World) :
    Ends (e.emit true artifacts) w (e.Ended artifacts w) := by
  have htimed := (ends_outcomes h artifacts w).timed_of_unchanged "emit"
    fun _ _ _ hended hafter => hended.unchanged (.refl w) hafter
  refine htimed.bind ?_ fun _ _ hstop => hstop
  rintro ⟨outcomes, elapsed⟩ w' hemitted
  dsimp only
  split
  · exact .bind_of_ok (start_note ..) (Ended.unchanged hemitted (.refl w) ⟨_, rfl⟩)
  · exact .bind_of_ok (start_note ..) (Ended.unchanged hemitted (.refl w) ⟨_, rfl⟩)

/-- What was at the target of an artifact is there still. Only where nothing was, there may be a
directory now, made for one of the `tried` paths that steps back from it. -/
def Spares (e : Emitter) (tried : List Artifact) (before after : FileSystem) (a : Artifact) :
    Prop :=
  after.get? (e.target a).location = before.get? (e.target a).location ∨
    (before.get? (e.target a).location = none ∧
      after.get? (e.target a).location = some .directory ∧
      ∃ b ∈ tried, ".." ∈ (e.target b).names ∧ (e.target a).location ∈ (e.target b).stations)

/-- The refused artifact and those after it are spared. -/
theorem Reached.spares {e : Emitter} {done after : List Artifact} {a : Artifact} {w w' : World}
    (hreached : e.Reached w done [a] w')
    (hapart : (done ++ a :: after).Pairwise fun b c => (e.target b).Apart (e.target c)) :
    ∀ b ∈ a :: after, e.Spares (done ++ [a]) w.files w'.files b := by
  intro b hb
  obtain ⟨_, hafter, hcross⟩ := List.pairwise_append.1 hapart
  have hunwritten : (e.target b).location ∉ e.places done := by
    rintro ⟨c, hc, hplace⟩
    exact (hcross c hc b hb).location_ne hplace.symm
  refine (hreached.files.others _ hunwritten).imp_right ?_
  rintro ⟨⟨c, hc, hstation⟩, hnone, hnew⟩
  refine ⟨hnone, hnew, c, hc, ?_, hstation⟩
  by_contra hback
  obtain ⟨habove, hother⟩ := Path.prefix_of_mem_stations hback hstation
  have hplace : (e.target b).location ≠ [] := by
    intro hroot
    rw [hroot] at hnone
    cases hnone
  rcases List.mem_append.1 hc with hdone | hnext
  · exact (hcross c hdone b hb).2 habove
  · obtain rfl := List.mem_singleton.1 hnext
    rcases List.mem_cons.1 hb with rfl | hlater
    · exact hother hplace rfl
    · exact (List.rel_of_pairwise_cons hafter hlater).2 habove

end Emitter
end Scaffold
