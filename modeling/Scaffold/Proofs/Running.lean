import Mathlib.Data.List.Forall2
import Scaffold.Run

/-!
# How runs compose

A run is followed step by step: `start` of a sequence is `start` of its first part and then of what
depends on it. A run that only observes leaves the world as it was, except for what it said.
-/
namespace Scaffold.Run

variable {α β : Type}

@[simp] theorem start_pure (a : α) (w : World) : start (pure a) w = (.ok a, w) := rfl

@[simp] theorem start_get (w : World) : start (get : Run World) w = (.ok w, w) := rfl

@[simp] theorem start_fail (f : Failure) (w : World) :
    start (fail f : Run α) w = (.error (.failure f), w) := rfl

@[simp] theorem start_breakDown (b : Breakdown) (w : World) :
    start (breakDown b : Run α) w = (.error (.breakdown b), w) := rfl

@[simp] theorem start_note (level : Level) (speaker : Speaker) (message : String) (w : World) :
    start (note level speaker message) w =
      (.ok (), { w with journal := w.journal ++ [⟨level, speaker, message⟩] }) := rfl

@[simp] theorem start_settle (act : Run α) (w : World) :
    start (settle act) w = (.ok (start act w).1, (start act w).2) := rfl

@[simp] theorem start_change (c : Change α) (w : World) :
    start (change c) w =
      (.ok (c.run.run w.files).1, { w with files := (c.run.run w.files).2 }) := rfl

theorem start_bind (act : Run α) (next : α → Run β) (w : World) :
    start (act >>= next) w = match start act w with
      | (.ok a, w') => start (next a) w'
      | (.error stop, w') => (.error stop, w') := by
  have hbind : start (act >>= next) w =
      (let p := start act w; (ExceptT.bindCont (m := StateM World) next p.1) p.2) := rfl
  rw [hbind]
  obtain ⟨result, after⟩ := start act w
  cases result <;> rfl

theorem start_bind_of_ok {act : Run α} {next : α → Run β} {w w' : World} {a : α}
    (h : start act w = (.ok a, w')) : start (act >>= next) w = start (next a) w' := by
  rw [start_bind, h]

theorem start_bind_of_error {act : Run α} {next : α → Run β} {w w' : World} {stop : Stop}
    (h : start act w = (.error stop, w')) : start (act >>= next) w = (.error stop, w') := by
  rw [start_bind, h]

/-- A sequence that gives a result went through both of its parts. -/
theorem exists_of_start_bind {act : Run α} {next : α → Run β} {w w' : World} {b : β}
    (h : start (act >>= next) w = (.ok b, w')) :
    ∃ a w₁, start act w = (.ok a, w₁) ∧ start (next a) w₁ = (.ok b, w') := by
  rcases hrun : start act w with ⟨stop | a, w₁⟩
  · rw [start_bind_of_error hrun] at h
    cases h
  · rw [start_bind_of_ok hrun] at h
    exact ⟨a, w₁, rfl, h⟩

theorem forall₂_of_start_mapM {f : α → Run β} {related : α → β → Prop}
    (hf : ∀ a b w w', start (f a) w = (.ok b, w') → related a b) {items : List α} {results : List β}
    {w w' : World} (h : start (items.mapM f) w = (.ok results, w')) :
    List.Forall₂ related items results := by
  induction items generalizing results w with
  | nil =>
    cases h
    exact .nil
  | cons a rest ih =>
    rw [List.mapM_cons] at h
    obtain ⟨b, w₁, hfirst, h⟩ := exists_of_start_bind h
    obtain ⟨others, w₂, hrest, h⟩ := exists_of_start_bind h
    cases h
    exact .cons (hf a b w w₁ hfirst) (ih hrest)

/-! ## Ways to end -/

/-- A run from a world ends in a stated way, with a result or before its time. -/
def Ends (act : Run α) (w : World) (post : Except Stop α → World → Prop) : Prop :=
  post (start act w).1 (start act w).2

namespace Ends

variable {act : Run α} {next : α → Run β} {w w' : World} {mid : Except Stop α → World → Prop}
  {post : Except Stop β → World → Prop}

theorem bind (h : Ends act w mid) (hnext : ∀ a w', mid (.ok a) w' → Ends (next a) w' post)
    (hstop : ∀ stop w', mid (.error stop) w' → post (.error stop) w') :
    Ends (act >>= next) w post := by
  unfold Ends at h
  rcases hrun : start act w with ⟨stop | a, w'⟩
  · rw [hrun] at h
    rw [Ends, start_bind_of_error hrun]
    exact hstop stop w' h
  · rw [hrun] at h
    rw [Ends, start_bind_of_ok hrun]
    exact hnext a w' h

theorem bind_of_ok {a : α} (h : start act w = (.ok a, w')) (hnext : Ends (next a) w' post) :
    Ends (act >>= next) w post := by
  rw [Ends, start_bind_of_ok h]
  exact hnext

theorem bind_of_error {stop : Stop} (h : start act w = (.error stop, w'))
    (hstop : post (.error stop) w') : Ends (act >>= next) w post := by
  rw [Ends, start_bind_of_error h]
  exact hstop

/-- A weaker statement on how a run ends, which may use that it ends so. -/
theorem imp {post' : Except Stop α → World → Prop} {post : Except Stop α → World → Prop}
    (h : Ends act w post)
    (himp : ∀ result w', start act w = (result, w') → post result w' → post' result w') :
    Ends act w post' :=
  himp _ _ rfl h

end Ends

/-- A world without files, long ago. -/
def bareWorld : World := { files := .empty, now := ⟨⟨1, 1, 1⟩, 0, 0, 0, 0, none⟩ }

/-! ## Observing -/

/-- The same world, up to what was said in it. -/
def Unchanged (w w' : World) : Prop := ∃ journal, w' = { w with journal }

theorem Unchanged.refl (w : World) : Unchanged w w := ⟨w.journal, rfl⟩

theorem Unchanged.trans {w₁ w₂ w₃ : World} (h : Unchanged w₁ w₂) (h' : Unchanged w₂ w₃) :
    Unchanged w₁ w₃ := by
  obtain ⟨_, rfl⟩ := h
  obtain ⟨journal, rfl⟩ := h'
  exact ⟨journal, rfl⟩

theorem Unchanged.files {w w' : World} (h : Unchanged w w') : w'.files = w.files := by
  obtain ⟨_, rfl⟩ := h
  rfl

theorem Unchanged.directory {w w' : World} (h : Unchanged w w') : w'.directory = w.directory := by
  obtain ⟨_, rfl⟩ := h
  rfl

theorem Unchanged.now {w w' : World} (h : Unchanged w w') : w'.now = w.now := by
  obtain ⟨_, rfl⟩ := h
  rfl

/-- Taking the time adds to the journal only. -/
theorem Ends.timed {act : Run α} {w : World} {mid : Except Stop α → World → Prop}
    {post : Except Stop (α × Number.Binary64) → World → Prop} {label : String} (h : Ends act w mid)
    (hok : ∀ a elapsed w₁ w₂, mid (.ok a) w₁ → Unchanged w₁ w₂ → post (.ok (a, elapsed)) w₂)
    (hstop : ∀ stop w₁ w₂, mid (.error stop) w₁ → Unchanged w₁ w₂ → post (.error stop) w₂) :
    Ends (timed label act) w post := by
  unfold Ends at h
  refine .bind_of_ok (start_get w) (.bind_of_ok (start_settle act w) ?_)
  rcases hrun : start act w with ⟨stop | a, w'⟩
  · rw [hrun] at h
    exact hstop stop w' _ h ⟨_, rfl⟩
  · rw [hrun] at h
    exact hok a _ w' _ h ⟨_, rfl⟩

/-- What a run comes to, whatever is said after it, it comes to while its time is taken. -/
theorem Ends.timed_of_unchanged {act : Run α} {w : World} {post : Except Stop α → World → Prop}
    (label : String) (h : Ends act w post)
    (hkept : ∀ result w₁ w₂, post result w₁ → Unchanged w₁ w₂ → post result w₂) :
    Ends (Run.timed label act) w fun result w' => post (result.map Prod.fst) w' := by
  refine h.timed ?_ ?_
  · intro a elapsed w₁ w₂ hpost hafter
    exact hkept (.ok a) w₁ w₂ hpost hafter
  · intro stop w₁ w₂ hpost hafter
    exact hkept (.error stop) w₁ w₂ hpost hafter

/-- A run that changes nothing, and fails only in the stated way. -/
structure Observes (allowed : Failure → Prop) (act : Run α) : Prop where
  unchanged : ∀ w, Unchanged w (start act w).2
  failure : ∀ w f, (start act w).1 = .error (.failure f) → allowed f

namespace Observes

variable {allowed : Failure → Prop}

theorem ends {act : Run α} (h : Observes allowed act) (w : World) :
    Ends act w fun result w' =>
      Unchanged w w' ∧ ∀ f, result = .error (.failure f) → allowed f :=
  ⟨h.unchanged w, h.failure w⟩

theorem ends_timed {act : Run α} (h : Observes allowed act) (label : String) (w : World) :
    Ends (timed label act) w fun result w' => Unchanged w w' ∧ match result with
      | .ok (a, _) => (start act w).1 = .ok a
      | .error (.failure f) => allowed f
      | .error (.breakdown _) => True := by
  have hends : Ends act w fun result w' => Unchanged w w' ∧ result = (start act w).1 :=
    ⟨h.unchanged w, rfl⟩
  refine hends.timed ?_ ?_
  · rintro a elapsed w₁ w₂ ⟨hsame, hresult⟩ hafter
    exact ⟨hsame.trans hafter, hresult.symm⟩
  · rintro (f | b) w₁ w₂ ⟨hsame, hresult⟩ hafter
    · exact ⟨hsame.trans hafter, h.failure w f hresult.symm⟩
    · exact ⟨hsame.trans hafter, trivial⟩

theorem pure (a : α) : Observes allowed (pure a) :=
  ⟨fun w => .refl w, fun _ _ h => nomatch h⟩

theorem get : Observes allowed (get : Run World) :=
  ⟨fun w => .refl w, fun _ _ h => nomatch h⟩

theorem note (level : Level) (speaker : Speaker) (message : String) :
    Observes allowed (note level speaker message) :=
  ⟨fun w => ⟨w.journal ++ [⟨level, speaker, message⟩], rfl⟩, fun _ _ h => nomatch h⟩

theorem fail {f : Failure} (h : allowed f) : Observes allowed (fail f : Run α) := by
  refine ⟨fun w => .refl w, fun w g hg => ?_⟩
  simp only [start_fail, Except.error.injEq, Stop.failure.injEq] at hg
  exact hg ▸ h

theorem breakDown (b : Breakdown) : Observes allowed (breakDown b : Run α) :=
  ⟨fun w => .refl w, fun _ _ h => nomatch h⟩

theorem bind {act : Run α} {next : α → Run β} (h : Observes allowed act)
    (h' : ∀ a, Observes allowed (next a)) : Observes allowed (act >>= next) := by
  constructor
  · intro w
    have hact := h.unchanged w
    rcases hrun : start act w with ⟨stop | a, mid⟩
    · rw [start_bind_of_error hrun]
      rwa [hrun] at hact
    · rw [start_bind_of_ok hrun]
      rw [hrun] at hact
      exact hact.trans ((h' a).unchanged mid)
  · intro w f
    have hact := h.failure w f
    rcases hrun : start act w with ⟨stop | a, mid⟩
    · rw [start_bind_of_error hrun]
      rw [hrun] at hact
      rintro ⟨⟩
      exact hact rfl
    · rw [start_bind_of_ok hrun]
      exact (h' a).failure mid f

/-- A run that stops unless a condition holds. -/
theorem guarded {stop : Run Unit} {act : Run α} (c : Bool) (hstop : Observes allowed stop)
    (hact : Observes allowed act) :
    Observes allowed (if c = true then act else stop >>= fun _ => act) := by
  split
  · exact hact
  · exact bind hstop fun _ => hact

theorem forIn (items : List α) (init : β) {body : α → β → Run (ForInStep β)}
    (h : ∀ a b, Observes allowed (body a b)) : Observes allowed (forIn items init body) := by
  induction items generalizing init with
  | nil => exact pure init
  | cons a rest ih =>
    rw [List.forIn_cons]
    refine bind (h a init) fun step => ?_
    cases step with
    | done b => exact pure b
    | yield b => exact ih b

theorem mapM {f : α → Run β} (h : ∀ a, Observes allowed (f a)) (items : List α) :
    Observes allowed (items.mapM f) := by
  induction items with
  | nil => exact pure []
  | cons a rest ih =>
    rw [List.mapM_cons]
    exact bind (h a) fun _ => bind ih fun _ => pure _

theorem inquire (p : Path) (answer : Except Refused α) : Observes allowed (inquire p answer) := by
  cases answer with
  | ok a => exact pure a
  | error reason => exact breakDown _

end Observes
end Scaffold.Run
