import Scaffold.Proofs.Stages

/-!
# Where a run can break down

Writing never fails a run by itself: an artifact that is refused is a failure in its outcome. What
is left is a breakdown, and that takes a target to which writing cannot even be tried. So a run that
fails before it writes anything leaves all files alone, and a run whose targets all fit does not
break down.
-/
namespace Scaffold

namespace Run

variable {α β : Type} {allowed : Stop → Prop}

/-- In every world a run gives a result as stated, or stops in an allowed way. -/
structure Gives (allowed : Stop → Prop) (act : Run α) (stated : α → Prop) : Prop where
  ends : ∀ w, Ends act w fun result _ => match result with
    | .ok a => stated a
    | .error stop => allowed stop

namespace Gives

variable {act : Run α} {next : α → Run β} {mid : α → Prop} {stated : β → Prop}

theorem mono {allowed' : Stop → Prop} {mid' : α → Prop} (h : Gives allowed act mid)
    (hallowed : ∀ stop, allowed stop → allowed' stop) (hmid : ∀ a, mid a → mid' a) :
    Gives allowed' act mid' := by
  constructor
  intro w
  have hact := h.ends w
  unfold Ends at hact ⊢
  rcases hrun : (start act w).1 with stop | a
  · rw [hrun] at hact
    exact hallowed stop hact
  · rw [hrun] at hact
    exact hmid a hact

theorem pure {a : α} (h : mid a) : Gives allowed (pure a) mid := ⟨fun _ => h⟩

theorem fail {f : Failure} (h : allowed (.failure f)) : Gives allowed (fail f : Run α) mid :=
  ⟨fun _ => h⟩

theorem breakDown {b : Breakdown} (h : allowed (.breakdown b)) :
    Gives allowed (breakDown b : Run α) mid := ⟨fun _ => h⟩

theorem note (level : Level) (speaker : Speaker) (message : String) :
    Gives allowed (note level speaker message) fun _ => True := ⟨fun _ => trivial⟩

theorem change (c : Change α) : Gives allowed (change c) fun _ => True := ⟨fun _ => trivial⟩

theorem bind (h : Gives allowed act mid) (h' : ∀ a, mid a → Gives allowed (next a) stated) :
    Gives allowed (act >>= next) stated := by
  constructor
  intro w
  refine (h.ends w).bind ?_ ?_
  · intro a w' ha
    exact (h' a ha).ends w'
  · intro stop w' hstop
    exact hstop

theorem look {next : World → Run β} (h : ∀ w, Gives allowed (next w) stated) :
    Gives allowed (get >>= next) stated := by
  constructor
  intro w
  exact .bind_of_ok (start_get w) ((h w).ends w)

theorem timed (label : String) (h : Gives allowed act mid) :
    Gives allowed (timed label act) fun result => mid result.1 := by
  constructor
  intro w
  refine (h.ends w).timed ?_ ?_
  · intro a elapsed w₁ w₂ ha _
    exact ha
  · intro stop w₁ w₂ hstop _
    exact hstop

/-- A run that breaks down if a condition holds. -/
theorem guarded {c : Prop} [Decidable c] {b : Breakdown} (hstop : c → allowed (.breakdown b))
    (hact : ¬ c → Gives allowed act mid) :
    Gives allowed (if c then Run.breakDown b >>= fun _ : Unit => act else act) mid := by
  split
  · next hc =>
    have hbroken : Gives allowed (Run.breakDown b) fun _ : Unit => False := breakDown (hstop hc)
    exact bind hbroken fun _ hnone => hnone.elim
  · next hc => exact hact hc

theorem forIn (items : List α) (init : β) {body : α → β → Run (ForInStep β)}
    (h : ∀ a b, Gives allowed (body a b) fun _ => True) :
    Gives allowed (forIn items init body) fun _ => True := by
  induction items generalizing init with
  | nil => exact pure trivial
  | cons a rest ih =>
    rw [List.forIn_cons]
    refine bind (h a init) fun step _ => ?_
    cases step with
    | done b => exact pure trivial
    | yield b => exact ih b

theorem mapM {f : α → Run β} {items : List α} (h : ∀ a ∈ items, Gives allowed (f a) stated) :
    Gives allowed (items.mapM f) fun results => ∀ b ∈ results, stated b := by
  induction items with
  | nil => exact pure fun _ hb => nomatch hb
  | cons a rest ih =>
    rw [List.mapM_cons]
    rw [List.forall_mem_cons] at h
    refine bind h.1 fun b hb => bind (ih h.2) fun results hresults => pure ?_
    rw [List.forall_mem_cons]
    exact ⟨hb, hresults⟩

end Gives

end Run

open Run

/-! ## Writing -/

/-- A path to which writing can be tried: it has no null character and does not lead too deep. -/
structure Path.Fits (p : Path) : Prop where
  directory : Loading.hasNull p.parent.text = false
  name : Loading.hasNull p.name = false
  depth : p.parent.names.length ≤ FileSystem.depthLimit

theorem FileSystem.missingLevels_le (fs : FileSystem) (cwd : Location) (p : Path) :
    fs.missingLevels cwd p ≤ p.names.length := by
  fun_induction FileSystem.missingLevels fs cwd p with
  | case1 => exact Nat.zero_le _
  | case2 p hmissing hnames ih =>
    have hpositive := List.length_pos_iff.2 hnames
    have hparent : p.parent.names.length = p.names.length - 1 := List.length_dropLast
    omega
  | case3 => exact Nat.zero_le _

/-- Writing a text breaks down over a path that does not fit, and never fails. -/
theorem gives_writeText (atomic : Bool) (p : Path) (s : String) :
    Gives (fun stop => (∃ b, stop = .breakdown b) ∧ ¬ p.Fits) (writeText atomic p s)
      fun _ => True := by
  refine .look fun w => .guarded (fun hdirectory => ⟨⟨_, rfl⟩, fun hfits => ?_⟩) fun _ => ?_
  · rw [hfits.directory] at hdirectory
    cases hdirectory
  refine .guarded (fun hdeep => ⟨⟨_, rfl⟩, fun hfits => ?_⟩) fun _ => ?_
  · have hlevels := w.files.missingLevels_le w.directory p.parent
    have hdepth := hfits.depth
    omega
  refine .bind (.change _) fun made _ => ?_
  cases made with
  | error fault => exact .pure trivial
  | ok _ =>
    refine .bind (.note ..) fun _ _ => ?_
    refine .guarded (fun hname => ⟨⟨_, rfl⟩, fun hfits => ?_⟩) fun _ => ?_
    · rw [hfits.name] at hname
      cases hname
    refine .bind (.change _) fun written _ => ?_
    cases written with
    | error fault => exact .pure trivial
    | ok _ => exact .bind (.note ..) fun _ _ => .pure trivial

/-- A complaint about a file that cannot be written. -/
def Failure.isWriting : Failure → Prop
  | .unwritten .. => True
  | _ => False

theorem Failure.not_isWriting {f : Failure} (h : f.isDocument ∨ f.isRendering) :
    ¬ f.isWriting := by
  cases f <;> simp_all [isDocument, isRendering, isWriting]

/-- If anything is wrong with an artifact, it is that it could not be written. -/
def Outcome.OnlyUnwritten (o : Outcome) : Prop := ∀ f, o.failure = some f → f.isWriting

namespace Emitter

/-- How emission can stop: it breaks down over a target that does not fit, or over half of a
character. An emitter that spares what is there looks at its targets first, which can be too much as
well. -/
def Balks (e : Emitter) (artifacts : List Artifact) (stop : Stop) : Prop :=
  (∃ b, stop = .breakdown b) ∧
    (e.overwrite = false ∨ ∃ a ∈ artifacts, ¬ (e.target a).Fits ∨ a.half = true)

theorem Balks.mono {e : Emitter} {artifacts more : List Artifact} {stop : Stop}
    (h : e.Balks artifacts stop) (hsub : artifacts ⊆ more) : e.Balks more stop := by
  refine ⟨h.1, h.2.imp_right ?_⟩
  rintro ⟨a, ha, hunfit⟩
  exact ⟨a, hsub ha, hunfit⟩

theorem gives_refused (allowed : Stop → Prop) (a : Artifact) (target : Path) (reason : String) :
    Gives allowed (refused a target reason) Outcome.OnlyUnwritten := by
  refine .bind (.note ..) fun _ _ => .pure fun f hf => ?_
  cases hf
  trivial

theorem gives_write (e : Emitter) (a : Artifact) :
    Gives (e.Balks [a]) (e.write a (e.target a)) Outcome.OnlyUnwritten := by
  have htext := gives_writeText e.atomic (e.target a) a.content
  have hallowed : Gives (e.Balks [a]) (writeText e.atomic (e.target a) a.content)
      fun _ => True := by
    refine htext.mono (fun stop hstop => ?_) fun _ h => h
    exact ⟨hstop.1, .inr ⟨a, List.mem_singleton_self a, .inl hstop.2⟩⟩
  refine .bind hallowed fun result _ => ?_
  cases result with
  | error fault => exact gives_refused ..
  | ok bytes => exact .bind (.note ..) fun _ _ => .pure fun f hf => nomatch hf

theorem gives_isThere {e : Emitter} (h : e.overwrite = false) (a : Artifact) (p : Path) :
    Gives (e.Balks [a]) (Loading.isThere p) fun _ => True := by
  refine .look fun w => ?_
  split
  · exact .pure trivial
  · rcases w.files.has w.directory p with reason | there
    · exact .breakDown ⟨⟨_, rfl⟩, .inl h⟩
    · exact .pure trivial

theorem gives_emitWhole (e : Emitter) (a : Artifact) :
    Gives (e.Balks [a]) (e.emitWhole a) Outcome.OnlyUnwritten := by
  unfold emitWhole
  dsimp only
  by_cases hdry : e.dryRun = true
  · rw [if_pos hdry]
    exact .bind (.note ..) fun _ _ => .pure fun f hf => nomatch hf
  rw [if_neg hdry]
  by_cases hoverwrite : e.overwrite = true
  · rw [if_pos hoverwrite]
    exact gives_write e a
  rw [if_neg hoverwrite]
  refine .bind (gives_isThere (by simpa using hoverwrite) a _) fun there _ => ?_
  cases there with
  | true => exact gives_refused ..
  | false => exact gives_write e a

theorem gives_emitOne (e : Emitter) (a : Artifact) :
    Gives (e.Balks [a]) (e.emitOne a) Outcome.OnlyUnwritten := by
  cases hhalf : a.half with
  | true =>
    rw [emitOne_of_half e hhalf]
    exact .breakDown ⟨⟨_, rfl⟩, .inr ⟨a, List.mem_singleton_self a, .inr hhalf⟩⟩
  | false =>
    rw [emitOne_of_whole e hhalf]
    exact gives_emitWhole e a

theorem gives_outcomes (e : Emitter) (failFast : Bool) (artifacts : List Artifact) :
    Gives (e.Balks artifacts) (e.outcomes failFast artifacts)
      fun outcomes => ∀ o ∈ outcomes, o.OnlyUnwritten := by
  induction artifacts with
  | nil => exact .pure fun _ ho => nomatch ho
  | cons a rest ih =>
    rw [outcomes]
    have hfirst : Gives (e.Balks (a :: rest)) (e.emitOne a) Outcome.OnlyUnwritten := by
      refine (gives_emitOne e a).mono (fun stop hstop => hstop.mono ?_) fun _ h => h
      exact List.cons_subset_cons a (List.nil_subset rest)
    have hrest := ih.mono (fun stop hstop => hstop.mono (List.subset_cons_self a rest)) fun _ h => h
    refine .bind hfirst fun outcome houtcome => ?_
    split
    · refine .bind (.note ..) fun _ _ => .pure ?_
      rwa [List.forall_mem_singleton]
    · refine .bind hrest fun outcomes houtcomes => .pure ?_
      rw [List.forall_mem_cons]
      exact ⟨houtcome, houtcomes⟩

theorem gives_emit (e : Emitter) (failFast : Bool) (artifacts : List Artifact) :
    Gives (e.Balks artifacts) (e.emit failFast artifacts)
      fun outcomes => ∀ o ∈ outcomes, o.OnlyUnwritten := by
  refine .bind (.timed "emit" (gives_outcomes e failFast artifacts)) fun result hresult => ?_
  dsimp only
  split
  · exact .bind (.note ..) fun _ _ => .pure hresult
  · exact .bind (.note ..) fun _ _ => .pure hresult

end Emitter

/-! ## Before anything is written -/

namespace Generator

theorem ends_steps_spared (g : Generator) (source : Source) (report : Report) (w : World) :
    Ends (g.steps source report) w fun result w' => match result with
      | .ok report => ∀ o ∈ report.outcomes, o.OnlyUnwritten
      | .error (.failure _) => w'.files = w.files
      | .error (.breakdown _) => True := by
  unfold steps
  refine ((Loading.onlyReads_schema source).ends_timed "load" w).bind ?_ ?_
  · rintro ⟨s, loading⟩ w₁ ⟨hload, _⟩
    refine ((g.observes_artifacts s).ends_timed "render" w₁).bind ?_ ?_
    · rintro ⟨artifacts, rendering⟩ w₂ ⟨hrender, _⟩
      refine .bind_of_ok (start_get w₂) ((g.ends_start w₂).bind ?_ ?_)
      · intro e w₃ _
        refine (((e.gives_emit true _).timed "emit").ends w₃).bind ?_ ?_
        · rintro ⟨outcomes, writing⟩ w' houtcomes
          exact houtcomes
        · rintro stop w' ⟨⟨b, rfl⟩, _⟩
          trivial
      · rintro stop w₃ ⟨_, b, rfl⟩
        trivial
    · rintro (f | b) w₂ ⟨hrender, _⟩
      · exact (hload.trans hrender).files
      · trivial
  · rintro (f | b) w₁ ⟨hload, _⟩
    · exact hload.files
    · trivial

/-- A run that fails for another reason than that a file cannot be written has not written any. -/
theorem files_of_failure {g : Generator} {source : Source} {w w' : World} {f : Failure}
    (h : (g.generate source).start w = (.error (.failure f), w')) (hearly : ¬ f.isWriting) :
    w'.files = w.files := by
  have hends : Ends (g.generate source) w fun result w' =>
      ∀ f, result = .error (.failure f) → ¬ f.isWriting → w'.files = w.files := by
    unfold generate
    refine (ends_resolve g.root w).bind ?_ ?_
    · rintro root w₁ ⟨hsame, _⟩
      subst w₁
      have hsteps := ends_steps_spared g source
        { source := source.label, root := root.text, dryRun := g.dryRun } w
      refine (hsteps.timed_of_unchanged "generate_one" ?_).bind ?_ ?_
      · rintro ((f | b) | report) w₁ w₂ hresult hafter
        · exact hafter.files.trans hresult
        · trivial
        · exact hresult
      · rintro ⟨report, elapsed⟩ w' houtcomes
        dsimp only
        split
        · next failure hfailure =>
          rintro _ ⟨⟩ hnot
          obtain ⟨o, ho, hof⟩ := List.exists_of_findSome?_eq_some hfailure
          exact absurd (houtcomes o ho failure hof) hnot
        · refine .bind_of_ok (start_note ..) ?_
          rintro f ⟨⟩
      · rintro (f | b) w' hstop
        · intro _ _ _
          exact hstop
        · rintro f ⟨⟩
    · rintro stop w₁ ⟨_, b, rfl⟩
      rintro f ⟨⟩
  unfold Ends at hends
  rw [h] at hends
  exact hends f rfl hearly

end Generator
end Scaffold
