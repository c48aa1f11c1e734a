import Mathlib.Data.List.Induction
import Mathlib.Logic.Function.Basic
import ThemedPages.Proofs.Descriptor.Writing

/-!
# Writes that overlap

Any number of calls write descriptors to one path at the same time, on a disk without troubles. Each
takes a temporary name, writes its text to the temporary file and renames that file to the path, and
between two steps of a call others may go on. After a step that fails the temporary file is removed.
A call that goes on undisturbed does what `Descriptor.write` does (`run_undisturbed`).

**Theorem (`overlapping_writes`).** At every moment the path leads to what it did at first, or to
the whole text of one of the calls. When all calls are done, the last step was that of a call that
renamed its file, the path has the text of this call, and there is no temporary file.

The first part holds since every temporary file has the whole text of some call (`Whole`). For the
second part each call that has written has a temporary file with its own text, and there are no
others (`Orderly`). The numbers of temporary names start again after the greatest, so two calls may
come to share a name; but then one of them finds its file gone and fails (`Spoiled`).
-/

namespace ThemedPages

/-! ## Calls on their way -/

/-- A call that writes a descriptor. -/
structure WriteCall where
  process : Nat
  descriptor : Descriptor
  now : Instant

/-- The text that a call writes. -/
def WriteCall.text (c : WriteCall) : String := (c.descriptor.stamped c.now).toYaml

/-- How far a call has come. -/
inductive WritePhase
  | waiting
  /-- It has taken a temporary name. -/
  | named (name : TemporaryName)
  /-- It has written the temporary file. -/
  | written (name : TemporaryName)
  /-- A step has failed, and the temporary file is still to be removed. -/
  | failing (name : TemporaryName) (failure : Failure)
  | failed (failure : Failure)
  | done
  deriving DecidableEq, Repr

namespace WritePhase

/-- The temporary name that a call is at work with. -/
def name? : WritePhase → Option TemporaryName
  | named name | written name | failing name _ => some name
  | waiting | failed _ | done => none

/-- What came of a call that is over. -/
def outcome? : WritePhase → Option (Except Failure Unit)
  | failed failure => some (.error failure)
  | done => some (.ok ())
  | waiting | named _ | written _ | failing _ _ => none

end WritePhase

/-- Calls on their way, and the files that they find. -/
structure Writers (ι : Type) where
  files : FileTree
  /-- The number of the next temporary name of each process. -/
  next : Nat → UInt64
  phase : ι → WritePhase

namespace Writers

variable {ι : Type} {path : String} {calls : ι → WriteCall} {files : FileTree}
  {s s' start : Writers ι} {i j k : ι} {n m : TemporaryName} {begun schedule : List ι}

/-- No call has begun. -/
def waiting (files : FileTree) (next : Nat → UInt64) : Writers ι :=
  { files, next, phase := fun _ => .waiting }

/-- Since some calls have begun, the path leads to what it did at first, or to the whole text of one
of them, and so does every temporary name that leads to a file. -/
structure Whole (files : FileTree) (path : String) (calls : ι → WriteCall) (begun : List ι)
    (s : Writers ι) : Prop where
  target : files.SameAt s.files path ∨
    ∃ i ∈ begun, s.files.find path = .ok (.text (calls i).text)
  temporary : ∀ (n : TemporaryName) e, s.files.find (n.beside path) = .ok e → e ≠ .directory →
    ∃ i ∈ begun, e = .text (calls i).text

/-- A call fails or will: it has failed, or has to share its temporary file, or has lost it. -/
inductive Spoiled (path : String) (s : Writers ι) : Prop
  | failing (i : ι) (n : TemporaryName) (failure : Failure) (h : s.phase i = .failing n failure)
  | failed (i : ι) (failure : Failure) (h : s.phase i = .failed failure)
  | shared (i j : ι) (n : TemporaryName) (hij : i ≠ j) (hi : s.phase i = .written n)
    (hj : s.phase j = .written n)
  | gone (i : ι) (n : TemporaryName) (h : s.phase i = .written n)
    (hgone : s.files.isFile (n.beside path) = false)

/-- Every call that has written has a temporary file with its text, and all temporary files are of
such calls. -/
structure Orderly (path : String) (calls : ι → WriteCall) (s : Writers ι) : Prop where
  owns : ∀ i n, s.phase i = .written n →
    s.files.find (n.beside path) = .ok (.text (calls i).text)
  owned : ∀ n : TemporaryName, s.files.isFile (n.beside path) = true →
    ∃ i, s.phase i = .written n

theorem Spoiled.not_all_done (h : Spoiled path s) : ¬∀ i, s.phase i = .done := by
  intro hdone
  cases h with
  | failing i _ _ hi | failed i _ hi | shared i _ _ _ hi | gone i _ hi =>
    rw [hdone i] at hi
    nomatch hi

/-! ## Steps -/

variable [DecidableEq ι]

/-- A call comes to a phase. -/
def enter (s : Writers ι) (i : ι) (phase : WritePhase) : Writers ι :=
  { s with phase := Function.update s.phase i phase }

/-- The next step of a call, if it has one left. -/
def step (path : String) (calls : ι → WriteCall) (s : Writers ι) (i : ι) : Option (Writers ι) :=
  match s.phase i with
  | .waiting =>
    let process := (calls i).process
    let (name, names) := (⟨process, s.next process⟩ : TemporaryNames).take
    some (enter { s with next := Function.update s.next process names.next } i (.named name))
  | .named name =>
    let temporary := name.beside path
    match s.files.write temporary (calls i).text with
    | (.error fault, files) => some (enter { s with files } i
        (.failing name (.other ("write descriptor '" ++ temporary ++ "'") [fault.text])))
    | (.ok (), files) => some (enter { s with files } i (.written name))
  | .written name =>
    match s.files.rename (name.beside path) path with
    | .error fault => some (s.enter i
        (.failing name (.other ("replace descriptor '" ++ path ++ "'") [fault.text])))
    | .ok files => some (enter { s with files } i .done)
  | .failing name failure =>
    some (enter { s with files := (s.files.remove (name.beside path)).2 } i (.failed failure))
  | .failed _ | .done => none

/-- The next steps of some calls, one after the other. -/
def run (path : String) (calls : ι → WriteCall) (s : Writers ι) (schedule : List ι) :
    Option (Writers ι) :=
  schedule.foldlM (step path calls) s

/-- What one step of a call does. -/
inductive Steps (path : String) (calls : ι → WriteCall) (s : Writers ι) (i : ι) :
    Writers ι → Prop
  | takes (next : Nat → UInt64) (n : TemporaryName) (h : s.phase i = .waiting) :
    Steps path calls s i (enter { s with next } i (.named n))
  | writes (n : TemporaryName) (files : FileTree) (h : s.phase i = .named n)
    (hwrite : s.files.write (n.beside path) (calls i).text = (.ok (), files)) :
    Steps path calls s i (enter { s with files } i (.written n))
  | renames (n : TemporaryName) (files : FileTree) (h : s.phase i = .written n)
    (hrename : s.files.rename (n.beside path) path = .ok files) :
    Steps path calls s i (enter { s with files } i .done)
  | fails (n : TemporaryName) (failure : Failure)
    (h : s.phase i = .named n ∨ s.phase i = .written n) :
    Steps path calls s i (s.enter i (.failing n failure))
  | removes (n : TemporaryName) (failure : Failure) (h : s.phase i = .failing n failure) :
    Steps path calls s i
      (enter { s with files := (s.files.remove (n.beside path)).2 } i (.failed failure))

theorem steps_of_step (h : s.step path calls i = some s') : Steps path calls s i s' := by
  unfold step at h
  split at h
  · rename_i hphase
    cases h
    exact .takes _ _ hphase
  · rename_i n hphase
    dsimp only at h
    split at h
    · rename_i fault files hwrite
      cases h
      cases FileTree.write_eq_error hwrite
      exact .fails n _ (.inl hphase)
    · rename_i files hwrite
      cases h
      exact .writes n files hphase hwrite
  · rename_i n hphase
    split at h
    · cases h
      exact .fails n _ (.inr hphase)
    · rename_i files hrename
      cases h
      exact .renames n files hphase hrename
  · rename_i n failure hphase
    cases h
    exact .removes n failure hphase
  · nomatch h
  · nomatch h

theorem run_concat (before : List ι) (i : ι) :
    start.run path calls (before ++ [i]) = (start.run path calls before).bind
      fun s => s.step path calls i := by
  rw [run, List.foldlM_append]
  show (start.run path calls before).bind (fun s => (s.step path calls i).bind some) = _
  simp

/-- **What every step preserves holds after all runs.** -/
theorem run_induction {P : List ι → Writers ι → Prop} (hstart : P [] start)
    (hstep : ∀ {before s i s'}, P before s → Steps path calls s i s' → P (before ++ [i]) s')
    (h : start.run path calls schedule = some s) : P schedule s := by
  induction schedule using List.reverseRecOn generalizing s with
  | nil =>
    cases h
    exact hstart
  | append_singleton before i ih =>
    rw [run_concat] at h
    obtain ⟨b, hb, hs⟩ := Option.bind_eq_some_iff.1 h
    exact hstep (ih hb) (steps_of_step hs)

/-! ## What a step changes -/

theorem phase_enter_self (s : Writers ι) (i : ι) (phase : WritePhase) :
    (s.enter i phase).phase i = phase := Function.update_self ..

/-- A step is that of one call. -/
theorem Steps.phase_of_ne (h : Steps path calls s i s') (hij : j ≠ i) :
    s'.phase j = s.phase j := by
  cases h <;> exact Function.update_of_ne hij ..

/-- A call touches no temporary file but its own. -/
theorem Steps.sameAt (h : Steps path calls s i s') (hn : (s.phase i).name? ≠ some n) :
    s.files.SameAt s'.files (n.beside path) := by
  have hne : ∀ {m}, (s.phase i).name? = some m → n ≠ m := by
    intro m hm hnm
    exact hn (hnm ▸ hm)
  cases h with
  | takes | fails => exact .refl _ _
  | writes m t hphase hwrite =>
    exact FileTree.sameAt_write hwrite
      (TemporaryName.fileName?_beside_ne_beside (hne (by rw [hphase]; rfl)) path)
  | renames m t hphase hrename =>
    exact FileTree.sameAt_rename hrename
      (TemporaryName.fileName?_beside_ne_beside (hne (by rw [hphase]; rfl)) path)
      (n.fileName?_beside_ne path)
  | removes m failure hphase =>
    exact FileTree.sameAt_remove s.files
      (TemporaryName.fileName?_beside_ne_beside (hne (by rw [hphase]; rfl)) path)

/-- After a step a temporary file is what it was, or gone, or the call has written it. -/
theorem Steps.temporary (h : Steps path calls s i s') (n : TemporaryName) :
    s.files.SameAt s'.files (n.beside path) ∨ s'.files.isFile (n.beside path) = false ∨
      (s'.phase i = .written n ∧ s'.files.find (n.beside path) = .ok (.text (calls i).text)) := by
  by_cases hn : (s.phase i).name? = some n
  · cases h with
    | takes | fails => exact .inl (.refl _ _)
    | writes m t hphase hwrite =>
      rw [hphase] at hn
      cases hn
      exact .inr (.inr ⟨phase_enter_self .., FileTree.find_write hwrite⟩)
    | renames m t hphase hrename =>
      rw [hphase] at hn
      cases hn
      exact .inr (.inl (FileTree.isFile_rename hrename (n.fileName?_beside_ne path)))
    | removes m failure hphase =>
      rw [hphase] at hn
      cases hn
      exact .inr (.inl (FileTree.isFile_remove s.files _))
  · exact .inl (h.sameAt hn)

/-- The path leads to what it did, unless a call has renamed its file. -/
theorem Steps.target (h : Steps path calls s i s') :
    s.files.SameAt s'.files path ∨ ∃ (n : TemporaryName) (e : FileEntry), e ≠ .directory ∧
      s.files.find (n.beside path) = .ok e ∧ s'.files.find path = .ok e := by
  cases h with
  | takes | fails => exact .inl (.refl _ _)
  | writes n t hphase hwrite =>
    exact .inl (FileTree.sameAt_write hwrite (n.fileName?_beside_ne path).symm)
  | renames n t hphase hrename =>
    obtain ⟨e, he, hfind⟩ := FileTree.find_of_rename hrename
    exact .inr ⟨n, e, he, hfind, FileTree.find_rename hrename hfind⟩
  | removes n failure hphase =>
    exact .inl (FileTree.sameAt_remove s.files (n.fileName?_beside_ne path).symm)

/-- A call that has just written finds its text. -/
theorem Steps.find_written (h : Steps path calls s i s') (hi : s'.phase i = .written n) :
    s'.files.find (n.beside path) = .ok (.text (calls i).text) := by
  cases h with
  | writes m t hphase hwrite =>
    rw [phase_enter_self] at hi
    cases hi
    exact FileTree.find_write hwrite
  | takes | renames | fails | removes =>
    rw [phase_enter_self] at hi
    nomatch hi

/-- A call that has written renames its file, which is then gone, or fails. -/
theorem Steps.of_written (h : Steps path calls s i s') (hi : s.phase i = .written n) :
    (s.files.isFile (n.beside path) = true ∧ s'.files.isFile (n.beside path) = false) ∨
      ∃ failure, s'.phase i = .failing n failure := by
  cases h with
  | takes _ _ hphase | writes _ _ hphase | removes _ _ hphase =>
    rw [hi] at hphase
    nomatch hphase
  | renames m t hphase hrename =>
    rw [hi] at hphase
    cases hphase
    obtain ⟨e, he, hfind⟩ := FileTree.find_of_rename hrename
    exact .inl ⟨FileTree.isFile_iff.2 ⟨e, hfind, he⟩,
      FileTree.isFile_rename hrename (n.fileName?_beside_ne path)⟩
  | fails m failure hphase =>
    rw [hi] at hphase
    rcases hphase with hphase | hphase
    · nomatch hphase
    · cases hphase
      exact .inr ⟨failure, phase_enter_self ..⟩

/-- A call that fails removes its file, and has then failed for good. -/
theorem Steps.of_failing {failure : Failure} (h : Steps path calls s i s')
    (hi : s.phase i = .failing n failure) : s'.phase i = .failed failure := by
  cases h with
  | takes _ _ hphase | writes _ _ hphase | renames _ _ hphase =>
    rw [hi] at hphase
    nomatch hphase
  | fails _ _ hphase =>
    rw [hi] at hphase
    rcases hphase with hphase | hphase
    · nomatch hphase
    · nomatch hphase
  | removes m failure' hphase =>
    rw [hi] at hphase
    cases hphase
    exact phase_enter_self ..

theorem Steps.ne_failed {failure : Failure} (h : Steps path calls s i s') :
    s.phase i ≠ .failed failure := by
  intro hi
  cases h with
  | takes _ _ hphase | writes _ _ hphase | renames _ _ hphase | removes _ _ hphase =>
    rw [hi] at hphase
    nomatch hphase
  | fails _ _ hphase =>
    rw [hi] at hphase
    rcases hphase with hphase | hphase
    · nomatch hphase
    · nomatch hphase

/-- Only a call that renames its file is done by a step. -/
theorem Steps.of_done (h : Steps path calls s i s') (hi : s'.phase i = .done) :
    ∃ n, s.phase i = .written n ∧ s.files.rename (n.beside path) path = .ok s'.files := by
  cases h with
  | renames n t hphase hrename => exact ⟨n, hphase, hrename⟩
  | takes | writes | fails | removes =>
    rw [phase_enter_self] at hi
    nomatch hi

/-! ## One call alone -/

/-- The names that the process of a call has left. -/
def namesOf (s : Writers ι) (calls : ι → WriteCall) (i : ι) : TemporaryNames :=
  ⟨(calls i).process, s.next (calls i).process⟩

theorem run_cons (h : s.step path calls i = some s') (rest : List ι) :
    s.run path calls (i :: rest) = s'.run path calls rest := by
  rw [run, List.foldlM_cons, h]
  rfl

theorem step_waiting (h : s.phase i = .waiting) :
    ∃ s', s.step path calls i = some s' ∧ s'.files = s.files ∧
      s'.phase i = .named (s.namesOf calls i).take.1 ∧
      s'.namesOf calls i = (s.namesOf calls i).take.2 := by
  unfold step
  rw [h]
  refine ⟨_, rfl, rfl, phase_enter_self .., ?_⟩
  simp [namesOf, enter, TemporaryNames.take]

/-- The end of a call of which a step has failed. -/
theorem run_failing (path : String) (calls : ι → WriteCall) {failure : Failure}
    (h : s.phase i = .failing n failure) :
    ∃ s', s.run path calls [i] = some s' ∧ (s'.phase i).outcome? = some (.error failure) ∧
      s'.files = (s.files.remove (n.beside path)).2 ∧ s'.namesOf calls i = s.namesOf calls i := by
  have hstep : s.step path calls i =
      some (enter { s with files := (s.files.remove (n.beside path)).2 } i (.failed failure)) := by
    unfold step
    rw [h]
  exact ⟨_, run_cons hstep [], by rw [phase_enter_self]; rfl, rfl, rfl⟩

/-- What a call does once it has its temporary name. -/
theorem run_named (h : s.phase i = .named n) :
    ∃ count outcome s', s.run path calls (List.replicate count i) = some s' ∧
      (s'.phase i).outcome? = some outcome ∧ s'.namesOf calls i = s.namesOf calls i ∧
      Descriptor.replaceFile s.files path (n.beside path) (calls i).text = (outcome, s'.files) := by
  unfold Descriptor.replaceFile
  rcases hwrite : s.files.write (n.beside path) (calls i).text with ⟨fault | ⟨⟩, written⟩
  · have hstep : s.step path calls i = some (enter { s with files := written } i (.failing n (.other
        ("write descriptor '" ++ n.beside path ++ "'") [fault.text]))) := by
      unfold step
      rw [h]
      simp only [hwrite]
    obtain ⟨s', hrun, houtcome, hfiles, hnames⟩ :=
      run_failing path calls (phase_enter_self { s with files := written } i (.failing n _))
    refine ⟨2, _, s', (run_cons hstep _).trans hrun, houtcome, hnames, ?_⟩
    rw [hfiles]
    rfl
  · obtain ⟨b, hb⟩ : ∃ b, b = enter { s with files := written } i (.written n) := ⟨_, rfl⟩
    have hstep : s.step path calls i = some b := by
      unfold step
      rw [h, hb]
      simp only [hwrite]
    have hphase : b.phase i = .written n := hb ▸ phase_enter_self ..
    cases hrename : written.rename (n.beside path) path with
    | error fault =>
      have hstep' : b.step path calls i = some (b.enter i (.failing n (.other
          ("replace descriptor '" ++ path ++ "'") [fault.text]))) := by
        unfold step
        rw [hphase, hb]
        simp only [enter, hrename]
      obtain ⟨s', hrun, houtcome, hfiles, hnames⟩ :=
        run_failing path calls (phase_enter_self b i (.failing n _))
      refine ⟨3, _, s', (run_cons hstep _).trans ((run_cons hstep' _).trans hrun), houtcome,
        hnames.trans (hb ▸ rfl), ?_⟩
      rw [hfiles, hb]
      simp only [hrename]
      rfl
    | ok renamed =>
      have hstep' : b.step path calls i = some (enter { b with files := renamed } i .done) := by
        unfold step
        rw [hphase, hb]
        simp only [enter, hrename]
      refine ⟨2, .ok (), _, (run_cons hstep _).trans (run_cons hstep' _), ?_, hb ▸ rfl, ?_⟩
      · rw [phase_enter_self]
        rfl
      · simp only [hrename]
        rfl

/-- **A call that goes on undisturbed** does what writing a descriptor does. -/
theorem run_undisturbed (s : Writers ι) (path : String) (calls : ι → WriteCall)
    (h : s.phase i = .waiting) :
    ∃ count outcome s', s.run path calls (List.replicate count i) = some s' ∧
      (s'.phase i).outcome? = some outcome ∧
      (calls i).descriptor.write s.files path (s.namesOf calls i) (calls i).now =
        (outcome, s'.files, s'.namesOf calls i) := by
  obtain ⟨b, htake, hfiles, hnamed, hnames⟩ := step_waiting h
  obtain ⟨count, outcome, s', hrun, houtcome, hnames', hreplace⟩ := run_named hnamed
  refine ⟨count + 1, outcome, s', (run_cons htake _).trans hrun, houtcome, ?_⟩
  rw [hfiles] at hreplace
  have hfile : (calls i).descriptor.toFile s.files path (s.namesOf calls i).take.1 (calls i).now =
      (outcome, s'.files) := hreplace
  rw [Descriptor.write, hnames', hnames]
  dsimp only
  rw [hfile]

/-! ## What all steps preserve -/

/-- **Texts stay whole.** -/
theorem Whole.step (h : Whole files path calls begun s) (hstep : Steps path calls s i s') :
    Whole files path calls (begun ++ [i]) s' where
  target := by
    rcases hstep.target with hsame | ⟨n, e, he, hsource, hfind⟩
    · rcases h.target with hfirst | ⟨j, hj, hfind⟩
      · exact .inl (hfirst.trans hsame)
      · exact .inr ⟨j, List.mem_append_left _ hj, (hsame _).2 hfind⟩
    · obtain ⟨j, hj, rfl⟩ := h.temporary n e hsource he
      exact .inr ⟨j, List.mem_append_left _ hj, hfind⟩
  temporary n e hfind he := by
    rcases hstep.temporary n with hsame | hgone | ⟨-, hwritten⟩
    · obtain ⟨j, hj, htext⟩ := h.temporary n e ((hsame e).1 hfind) he
      exact ⟨j, List.mem_append_left _ hj, htext⟩
    · rw [FileTree.isFile_iff.2 ⟨e, hfind, he⟩] at hgone
      nomatch hgone
    · rw [hwritten] at hfind
      exact ⟨i, List.mem_append_right _ (List.mem_singleton_self i), (Except.ok.inj hfind).symm⟩

/-- Two calls with one temporary file do not both rename it. -/
theorem Spoiled.of_shared (h : Steps path calls s i s') (hij : j ≠ i)
    (hi : s.phase i = .written n) (hj : s.phase j = .written n) : Spoiled path s' := by
  rcases h.of_written hi with ⟨-, hgone⟩ | ⟨failure, hfailing⟩
  · exact .gone j n ((h.phase_of_ne hij).trans hj) hgone
  · exact .failing i n failure hfailing

/-- **What is spoiled stays so.** -/
theorem Spoiled.step (h : Spoiled path s) (hstep : Steps path calls s k s') : Spoiled path s' := by
  cases h with
  | failing i n failure hi =>
    by_cases hik : i = k
    · subst hik
      exact .failed i failure (hstep.of_failing hi)
    · exact .failing i n failure ((hstep.phase_of_ne hik).trans hi)
  | failed i failure hi =>
    have hik : i ≠ k := by
      intro hik
      subst hik
      exact hstep.ne_failed hi
    exact .failed i failure ((hstep.phase_of_ne hik).trans hi)
  | shared i j n hij hi hj =>
    by_cases hik : i = k
    · subst hik
      exact .of_shared hstep hij.symm hi hj
    · by_cases hjk : j = k
      · subst hjk
        exact .of_shared hstep hij hj hi
      · exact .shared i j n hij ((hstep.phase_of_ne hik).trans hi)
          ((hstep.phase_of_ne hjk).trans hj)
  | gone i n hi hgone =>
    by_cases hik : i = k
    · subst hik
      rcases hstep.of_written hi with ⟨hthere, -⟩ | ⟨failure, hfailing⟩
      · rw [hgone] at hthere
        nomatch hthere
      · exact .failing i n failure hfailing
    · have hi' := (hstep.phase_of_ne hik).trans hi
      rcases hstep.temporary n with hsame | hgone' | ⟨hk, -⟩
      · exact .gone i n hi' (hsame.isFile_eq.trans hgone)
      · exact .gone i n hi' hgone'
      · -- Another call has written to the file in the meantime.
        exact .shared i k n hik hi' hk

/-- **Order is kept as long as nothing is spoiled.** -/
theorem Orderly.step (h : Orderly path calls s) (hstep : Steps path calls s i s')
    (hgood : ¬Spoiled path s') : Orderly path calls s' where
  owns j n hj := by
    by_cases hji : j = i
    · subst hji
      exact hstep.find_written hj
    · have hj' : s.phase j = .written n := (hstep.phase_of_ne hji).symm.trans hj
      rcases hstep.temporary n with hsame | hgone | ⟨hi, -⟩
      · exact (hsame _).2 (h.owns j n hj')
      · exact absurd (.gone j n hj hgone) hgood
      · exact absurd (.shared j i n hji hj hi) hgood
  owned n hfile := by
    rcases hstep.temporary n with hsame | hgone | ⟨hi, -⟩
    · rw [hsame.isFile_eq] at hfile
      obtain ⟨j, hj⟩ := h.owned n hfile
      by_cases hji : j = i
      · subst hji
        rcases hstep.of_written hj with ⟨-, hgone⟩ | ⟨failure, hfailing⟩
        · rw [hsame.isFile_eq, hfile] at hgone
          nomatch hgone
        · exact absurd (.failing j n failure hfailing) hgood
      · exact ⟨j, (hstep.phase_of_ne hji).trans hj⟩
    · rw [hfile] at hgone
      nomatch hgone
    · exact ⟨i, hi⟩

/-! ## Runs -/

section Fresh

variable {next : Nat → UInt64}

theorem whole_run (fresh : ∀ n : TemporaryName, files.isFile (n.beside path) = false)
    (hrun : (waiting files next).run path calls schedule = some s) :
    Whole files path calls schedule s := by
  refine run_induction ⟨.inl (.refl _ _), ?_⟩ Whole.step hrun
  intro n e hfind he
  exact absurd (FileTree.isFile_iff.2 ⟨e, hfind, he⟩) (Bool.eq_false_iff.1 (fresh n))

theorem orderly_run (fresh : ∀ n : TemporaryName, files.isFile (n.beside path) = false)
    (hrun : (waiting files next).run path calls schedule = some s) (hgood : ¬Spoiled path s) :
    Orderly path calls s := by
  refine run_induction (P := fun _ s => ¬Spoiled path s → Orderly path calls s) ?_ ?_ hrun hgood
  · intro _
    refine ⟨nofun, fun n hfile => ?_⟩
    exact absurd hfile (Bool.eq_false_iff.1 (fresh n))
  · intro before s i s' horderly hstep hgood
    exact (horderly fun hspoiled => hgood (hspoiled.step hstep)).step hstep hgood

/-- **Writes that overlap never mix.** -/
theorem overlapping_writes (fresh : ∀ n : TemporaryName, files.isFile (n.beside path) = false)
    (hrun : (waiting files next).run path calls schedule = some s) :
    (files.SameAt s.files path ∨
      ∃ i ∈ schedule, s.files.find path = .ok (.text (calls i).text)) ∧
    ((∀ i, s.phase i = .done) →
      (∀ n : TemporaryName, s.files.isFile (n.beside path) = false) ∧
      (schedule ≠ [] → ∃ before i b n, schedule = before ++ [i] ∧
        (waiting files next).run path calls before = some b ∧ b.phase i = .written n ∧
        b.files.rename (n.beside path) path = .ok s.files ∧
        s.files.find path = .ok (.text (calls i).text))) := by
  refine ⟨(whole_run fresh hrun).target, fun hdone => ⟨fun n => ?_, fun hne => ?_⟩⟩
  · rw [Bool.eq_false_iff]
    intro hfile
    obtain ⟨i, hi⟩ := (orderly_run fresh hrun fun h => h.not_all_done hdone).owned n hfile
    rw [hdone i] at hi
    nomatch hi
  · obtain ⟨before, i, rfl⟩ := (List.eq_nil_or_concat' schedule).resolve_left hne
    have hrun' := hrun
    rw [run_concat] at hrun'
    obtain ⟨b, hb, hs⟩ := Option.bind_eq_some_iff.1 hrun'
    have hstep := steps_of_step hs
    obtain ⟨n, hphase, hrename⟩ := hstep.of_done (hdone i)
    have horderly := orderly_run fresh hb fun h => (h.step hstep).not_all_done hdone
    exact ⟨before, i, b, n, rfl, hb, hphase, hrename,
      FileTree.find_rename hrename (horderly.owns i n hphase)⟩

/-- Two calls of one process. The second is the first to rename its file. -/
def greetings : Fin 2 → WriteCall := fun i => ⟨1, Descriptor.greeting, ⟨i.val, 0⟩⟩

theorem overlapping_writes_greetings :
    ∃ s, (waiting {} fun _ => 0).run "page.yaml" greetings [0, 1, 0, 1, 1, 0] = some s ∧
      (∀ n : TemporaryName, FileTree.isFile {} (n.beside "page.yaml") = false) ∧
      (∀ i, s.phase i = .done) ∧
      (∀ n : TemporaryName, s.files.isFile (n.beside "page.yaml") = false) ∧
      s.files.find "page.yaml" = .ok (.text (greetings 0).text) := by
  have fresh : ∀ n : TemporaryName, FileTree.isFile {} (n.beside "page.yaml") = false :=
    fun n => FileTree.isFile_empty _
  obtain ⟨s, hrun, hdone⟩ : ∃ s,
      (waiting {} fun _ => 0).run "page.yaml" greetings [0, 1, 0, 1, 1, 0] = some s ∧
        ∀ i, s.phase i = .done := by
    have hphases : ((waiting {} fun _ => 0).run "page.yaml" greetings [0, 1, 0, 1, 1, 0]).any
        (fun s => decide (∀ i, s.phase i = .done)) = true := by decide +kernel
    cases hrun : (waiting {} fun _ => 0).run "page.yaml" greetings [0, 1, 0, 1, 1, 0] with
    | none =>
      rw [hrun] at hphases
      nomatch hphases
    | some s =>
      rw [hrun] at hphases
      exact ⟨s, rfl, of_decide_eq_true hphases⟩
  obtain ⟨-, hall⟩ := overlapping_writes fresh hrun
  obtain ⟨hgone, hlast⟩ := hall hdone
  obtain ⟨before, i, b, n, hschedule, -, -, -, hfind⟩ := hlast nofun
  have hi : i = 0 := by
    have hlasts := congrArg List.getLast? hschedule
    rw [List.getLast?_concat] at hlasts
    exact (Option.some.inj hlasts).symm
  rw [hi] at hfind
  exact ⟨s, hrun, fresh, hdone, hgone, hfind⟩

end Fresh

end Writers

end ThemedPages
