import Scaffold.Proofs.Breakdowns

/-!
# A file whole or not at all

Writing a text makes the directories above it, then a scratch file, and puts this in the place of
the target. Any of these steps can be refused. However far it gets, at most directories are left
over, and only where a path above the target leads; the target itself has its whole new content or
is what it was.
-/
namespace Scaffold

open Run FileSystem

namespace FileSystem

theorem foldl_onward_of_notMem {names : List String} (h : ".." ∉ names) (place : Location) :
    names.foldl onward place = place ++ names := by
  induction names generalizing place with
  | nil => simp
  | cons name rest ih =>
    rw [List.mem_cons, not_or] at h
    rw [List.foldl_cons, onward, if_neg (Ne.symm h.1), ih h.2]
    simp

end FileSystem

/-- Without a step back, a path above another leads above its place. -/
theorem Path.prefix_of_mem_wayFrom_parent {cwd : Location} {p : Path} (h : ".." ∉ p.names)
    {q : Location} (hq : q ∈ p.parent.wayFrom cwd) : q <+: p.placeFrom cwd := by
  obtain ⟨above, hanchor, hprefix, rfl⟩ := hq
  have hall : above.names <+: p.names := hprefix.trans (List.dropLast_prefix _)
  have habove : ".." ∉ above.names := fun hmem => h (hall.subset hmem)
  have hstart : FileSystem.start cwd above = FileSystem.start cwd p := by
    simp [FileSystem.start, hanchor, Path.parent]
  rw [placeFrom, placeFrom, hstart, foldl_onward_of_notMem habove, foldl_onward_of_notMem h]
  exact (List.prefix_append_right_inj _).2 hall

namespace FileSystem

/-- How directories come into being for a path: a place where nothing was is that of a path above
it, which lies above the target unless the path steps back. -/
structure IsMade (cwd : Location) (p : Path) (fs' : FileSystem) (q : Location) : Prop where
  mem : q ∈ p.parent.wayFrom cwd
  above : ".." ∉ p.names → q <+: p.placeFrom cwd
  directory : fs'.get? q = some .directory

/-- All that was there is there still, and what is new are directories above the path. -/
structure Untouched (cwd : Location) (p : Path) (fs fs' : FileSystem) : Prop where
  kept : ∀ q entry, fs.get? q = some entry → fs'.get? q = some entry
  new : ∀ q, fs.get? q = none → fs'.get? q ≠ none → IsMade cwd p fs' q

/-- The target has its new content, all else that was there is there still, and what is new are the
target and directories above the path. -/
structure Replaced (cwd : Location) (p : Path) (content : ByteArray) (fs fs' : FileSystem) :
    Prop where
  found : fs'.find cwd p = .ok (.file content)
  held : fs'.get? (p.placeFrom cwd) = some (.file content)
  kept : ∀ q entry, q ≠ p.placeFrom cwd → fs.get? q = some entry → fs'.get? q = some entry
  new : ∀ q, fs.get? q = none → fs'.get? q ≠ none → q = p.placeFrom cwd ∨ IsMade cwd p fs' q

variable {cwd : Location} {p : Path} {fs fs' : FileSystem} {written : Set Location}

theorem Evolves.kept {made : Set Location} (h : Evolves written made fs fs') {q : Location}
    (hq : q ∉ written) {entry : Entry} (hentry : fs.get? q = some entry) :
    fs'.get? q = some entry := by
  rcases h.others q hq with hsame | ⟨-, hnone, -⟩
  · rw [hsame, hentry]
  · rw [hnone] at hentry
    cases hentry

theorem Evolves.isMade (h : Evolves written (p.parent.wayFrom cwd) fs fs') {q : Location}
    (hq : q ∉ written) (hnone : fs.get? q = none) (hnew : fs'.get? q ≠ none) :
    IsMade cwd p fs' q := by
  rcases h.others q hq with hsame | ⟨hway, -, hdirectory⟩
  · rw [hsame] at hnew
    exact absurd hnone hnew
  · exact ⟨hway, fun hback => Path.prefix_of_mem_wayFrom_parent hback hway, hdirectory⟩

theorem Evolves.untouched (h : Evolves ∅ (p.parent.wayFrom cwd) fs fs') :
    Untouched cwd p fs fs' where
  kept q _ hentry := h.kept (Set.notMem_empty q) hentry
  new q hnone hnew := h.isMade (Set.notMem_empty q) hnone hnew

theorem Evolves.replaced (h : Evolves {p.placeFrom cwd} (p.parent.wayFrom cwd) fs fs')
    {content : ByteArray} (hfind : fs'.find cwd p = .ok (.file content)) :
    Replaced cwd p content fs fs' where
  found := hfind
  held := by
    obtain ⟨place, hwalk, hentry⟩ := find_eq_ok_iff.1 hfind
    rwa [placeFrom_of_walk hwalk] at hentry
  kept q _ hother hentry := h.kept (mt Set.mem_singleton_iff.1 hother) hentry
  new q hnone hnew := by
    by_cases hplace : q = p.placeFrom cwd
    · exact .inl hplace
    · exact .inr (h.isMade (mt Set.mem_singleton_iff.1 hplace) hnone hnew)

end FileSystem

/-- Writing a text gives the size of its UTF-8 form and leaves just that at the path, or it is
refused and leaves at most directories that it made. A run that ends before that leaves no more than
these either, and ends so only over a path that does not fit. -/
theorem replaced_or_untouched (p : Path) (s : String) (w : World) :
    Ends (writeText true p s) w fun result w' => match result with
      | .ok (.ok bytes) => bytes = s.toUTF8.size ∧
          Replaced w.directory p s.toUTF8 w.files w'.files
      | .ok (.error _) => Untouched w.directory p w.files w'.files
      | .error stop => IsOverPath stop ∧ ¬ p.Fits ∧
          Untouched w.directory p w.files w'.files := by
  have hfiles := ends_writeText_from p s w
  have hstop := (gives_writeText true p s).ends w
  unfold Ends at hfiles hstop ⊢
  obtain ⟨-, hfiles⟩ := hfiles
  rcases hresult : ((writeText true p s).start w).1 with stop | (fault | bytes)
  · rw [hresult] at hfiles hstop
    exact ⟨hfiles.1, hstop.2, hfiles.2.untouched⟩
  · rw [hresult] at hfiles
    exact hfiles.untouched
  · rw [hresult] at hfiles
    obtain ⟨hbytes, hevolves, hfind⟩ := hfiles
    exact ⟨hbytes, hevolves.replaced hfind⟩

/-- Where nothing was, a file and the directory above it. -/
example : ((writeText true (.ofString "a/b") "é").start bareWorld).1.toOption.bind (·.toOption) =
      some 2 ∧
    ((writeText true (.ofString "a/b") "é").start bareWorld).2.files.entries.map (·.1) =
      [["a"], ["a", "b"]] := by
  decide +kernel

end Scaffold
