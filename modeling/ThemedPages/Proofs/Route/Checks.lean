import ThemedPages.Proofs.Route.Registry
import ThemedPages.Proofs.Site.Steps

/-!
# The checks of a route

Routes are registered, taken out, shown in other ways, and checked: alone, all together, or when a
page is composed of which the descriptor does not load. A `RouteEvent` is what such calls do to the
validity of a route, and `lastCheck` reads off a sequence of events what the last check of a route
found, if it was checked since it was registered.

**Theorem (`valid_as_last_checked`).** After any calls, each route is valid as its last check says,
and valid if there was none, whatever the record said that it was registered with. Checks change
nothing else, and checking all routes gives those that are not valid, by ascending id.

`Follows` is the invariant. A call puts its events behind those before it, so a step shows that they
make of the last check of each route what the call makes of the route.
-/

namespace ThemedPages

/-! ## Calls -/

/-- A call that may check routes, with what it finds. A page is composed within a site of any kind,
of which the routes are those that are looked at. -/
inductive RouteCheck (σ : Type)
  | one (files : FileTree) (components : ComponentRegistry) (now : Instant) (id : String)
  | all (files : FileTree) (components : ComponentRegistry) (now : Instant)
  | compose (site : Site σ) (files : FileTree) (now : Instant) (page : String)
      (filter : ComponentFilter)

/-- A call of a route registry. -/
inductive RouteCall (σ : Type)
  | register (route : Route)
  | unregister (id : String)
  | update (id : String) (patch : RouteInfoPatch)
  | check (check : RouteCheck σ)

/-- What happens to the validity of a route. -/
inductive RouteEvent
  | registered (id : String)
  | checked (id : String) (valid : Bool) (now : Instant)
  deriving DecidableEq, Repr

/-- What the last check of a route found, and when, after one more event. -/
def RouteEvent.after (id : String) (last : Option (Bool × Instant)) :
    RouteEvent → Option (Bool × Instant)
  | .registered id' => if id' = id then none else last
  | .checked id' valid now => if id' = id then some (valid, now) else last

/-- What the last check of a route found, and when, if it was checked since it was registered. -/
def lastCheck (id : String) (events : List RouteEvent) : Option (Bool × Instant) :=
  events.foldl (RouteEvent.after id) none

/-- A route without what checks found. -/
def Route.unchecked (route : Route) : Route := { route with isValid := true, lastChecked := none }

/-- A route is as its last check says, and valid if there was none. -/
def Route.Stands (route : Route) (last : Option (Bool × Instant)) : Prop :=
  route.isValid = (last.map Prod.fst).getD true ∧ route.lastChecked = last.map Prod.snd

namespace RouteRegistry

variable {σ : Type} [ThemeStore σ]

/-- The routes after a call that may check some. -/
def performCheck (r : RouteRegistry) : RouteCheck σ → RouteRegistry
  | .one files components now id => (r.revalidate files components now id).2
  | .all files components now => (r.revalidateAll files components now).2
  | .compose site files now page filter =>
    (Site.composePage files now page filter { site with routes := r }).2.routes

/-- The checks that a call makes: those that are asked for, which find whether routes are sound
(`isSound_iff`), and that of a page that was valid and of which the descriptor does not load. -/
def checks (r : RouteRegistry) : RouteCheck σ → List RouteEvent
  | .one files components now id =>
    match r.get? id with
    | some route => [.checked id (isSound files components id route.descriptorPath) now]
    | none => []
  | .all files components now => r.routes.entries.map fun row =>
    .checked row.1 (isSound files components row.1 row.2.descriptorPath) now
  | .compose _ files now page _ =>
    match r.get? page with
    | some route =>
      if route.isValid && !(Descriptor.load files route.descriptorPath).isOk then
        [.checked page false now]
      else []
    | none => []

/-- The routes after a call. -/
def perform (r : RouteRegistry) : RouteCall σ → RouteRegistry
  | .register route => (r.register route).toOption.getD r
  | .unregister id => r.unregister id
  | .update id patch => ((r.update id patch).map Prod.snd).toOption.getD r
  | .check check => r.performCheck check

/-- The events of a call. A route is not registered when another has its id. -/
def events (r : RouteRegistry) : RouteCall σ → List RouteEvent
  | .register route => if (r.get? route.id).isSome then [] else [.registered route.id]
  | .unregister _ => []
  | .update _ _ => []
  | .check check => r.checks check

/-- The routes after a sequence of calls. -/
def runCalls (calls : List (RouteCall σ)) (r : RouteRegistry) : RouteRegistry :=
  calls.foldl perform r

/-- The events of a sequence of calls. -/
def history : List (RouteCall σ) → RouteRegistry → List RouteEvent
  | [], _ => []
  | call :: calls, r => r.events call ++ history calls (r.perform call)

/-! ## What calls do to a route -/

variable {r : RouteRegistry} {q : String} {files : FileTree} {components : ComponentRegistry}
  {now : Instant}

theorem get?_perform_register (route : Route) :
    (r.perform (.register route : RouteCall σ)).get? q =
      if (r.get? route.id).isNone ∧ q = route.id then some route.unchecked else r.get? q := by
  unfold perform register
  cases hroute : r.routes.get? route.id with
  | none => simp [Table.contains, get?, hroute, Except.toOption, Route.unchecked, Table.get?_insert]
  | some old => simp [Table.contains, get?, hroute, Except.toOption]

theorem get?_perform_unregister (id : String) :
    (r.perform (.unregister id : RouteCall σ)).get? q = if q = id then none else r.get? q :=
  Table.get?_erase r.routes id q

theorem get?_perform_update (id : String) (patch : RouteInfoPatch) :
    (r.perform (.update id patch : RouteCall σ)).get? q =
      if q = id then (r.get? q).map fun route => { route with info := patch.apply route.info }
      else r.get? q := by
  unfold perform update
  by_cases hq : q = id
  · subst hq
    cases hroute : r.get? q <;> simp [hroute, Except.map, Except.toOption]
  · cases hroute : r.get? id <;> simp [hq, hroute, Except.map, Except.toOption]

/-- **A page that is composed** is checked if it was valid and its descriptor does not load. -/
theorem routes_composePage (s : Site σ) (page : String) (filter : ComponentFilter) :
    (Site.composePage files now page filter s).2.routes =
      match s.routes.get? page with
      | some route =>
        if route.isValid && !(Descriptor.load files route.descriptorPath).isOk then
          s.routes.recordCheck page false now
        else s.routes
      | none => s.routes := by
  cases hroute : s.routes.get? page with
  | none => rw [Site.composePage_unknown files now filter hroute]
  | some route =>
    cases hvalid : route.isValid with
    | false =>
      rw [Site.composePage_invalid files now filter hroute hvalid]
      simp [hvalid]
    | true =>
      cases hload : Descriptor.load files route.descriptorPath with
      | error failure =>
        rw [Site.composePage_unloadable files now filter hroute hvalid hload]
        simp [hvalid, hload, Except.isOk, Except.toBool]
      | ok d =>
        rw [Site.composePage_loaded files now filter hroute hvalid hload]
        simp [hvalid, hload, Except.isOk, Except.toBool]

/-! ## What events make of the last check -/

theorem foldl_after_rows (f : String → Route → Bool) (last : Option (Bool × Instant))
    {rows : List (String × Route)} (sorted : rows.Pairwise fun a b => a.1 < b.1) :
    (rows.map fun row => RouteEvent.checked row.1 (f row.1 row.2) now).foldl
        (RouteEvent.after q) last =
      ((Table.lookupRow q rows).map fun route => (f q route, now)).or last := by
  induction rows generalizing last with
  | nil => rfl
  | cons row rows ih =>
    obtain ⟨id, route⟩ := row
    obtain ⟨hhead, hrest⟩ := List.pairwise_cons.1 sorted
    rw [List.map_cons, List.foldl_cons, ih _ hrest, Table.lookupRow_cons]
    by_cases hq : q = id
    · subst hq
      simp [RouteEvent.after, Table.lookupRow_eq_none_of_lt hhead]
    · simp [RouteEvent.after, hq, Ne.symm hq]

/-- **What a check makes of a route.** -/
theorem get?_performCheck (check : RouteCheck σ) :
    (r.performCheck check).get? q = (r.get? q).map fun route =>
      match (r.checks check).foldl (RouteEvent.after q) none with
      | some (valid, now) => { route with isValid := valid, lastChecked := some now }
      | none => route := by
  cases check with
  | one files components now id =>
    rw [performCheck, get?_revalidate, checks]
    by_cases hq : q = id
    · subst hq
      cases hroute : r.get? q <;> simp [RouteEvent.after, Route.checked]
    · cases hroute : r.get? id <;> simp [RouteEvent.after, hq, Ne.symm hq]
  | all files components now =>
    rw [performCheck, get?_revalidateAll, checks]
    rw [foldl_after_rows (fun id route => isSound files components id route.descriptorPath) none
      r.routes.sorted]
    cases hroute : r.get? q with
    | none => rfl
    | some route =>
      have hrow : Table.lookupRow q r.routes.entries = some route := hroute
      simp [hrow, Route.checked]
  | compose site files now page filter =>
    rw [performCheck, routes_composePage, checks]
    dsimp only
    cases hpage : r.get? page with
    | none => simp
    | some route =>
      dsimp only
      split
      · rw [get?_recordCheck]
        by_cases hq : q = page
        · subst hq
          simp [RouteEvent.after]
        · simp [RouteEvent.after, hq, Ne.symm hq]
      · simp

omit [ThemeStore σ] in
/-- Checks come after all that was there before. -/
theorem foldl_after_checks (check : RouteCheck σ) (last : Option (Bool × Instant)) :
    (r.checks check).foldl (RouteEvent.after q) last = (lastCheck q (r.checks check)).or last := by
  unfold lastCheck
  cases check with
  | one files components now id =>
    rw [checks]
    cases r.get? id with
    | none => rfl
    | some route => by_cases hq : id = q <;> simp [RouteEvent.after, hq]
  | all files components now =>
    rw [checks, foldl_after_rows (fun id route => isSound files components id route.descriptorPath)
      last r.routes.sorted, foldl_after_rows (fun id route =>
        isSound files components id route.descriptorPath) none r.routes.sorted, Option.or_none]
  | compose site files now page filter =>
    rw [checks]
    cases r.get? page with
    | none => rfl
    | some route =>
      dsimp only
      split
      · by_cases hq : page = q <;> simp [RouteEvent.after, hq]
      · rfl

/-! ## Sequences of calls -/

/-- Each route is under its own id, and as its last check says. -/
def Follows (r : RouteRegistry) (events : List RouteEvent) : Prop :=
  ∀ q route, r.get? q = some route → route.id = q ∧ route.Stands (lastCheck q events)

theorem Follows.step {before : List RouteEvent} (h : r.Follows before) (call : RouteCall σ) :
    (r.perform call).Follows (before ++ r.events call) := by
  intro q route hroute
  rw [lastCheck, List.foldl_append, ← lastCheck]
  cases call with
  | register new =>
    rw [get?_perform_register] at hroute
    unfold events
    by_cases hnew : (r.get? new.id).isNone ∧ q = new.id
    · obtain ⟨hnone, rfl⟩ := hnew
      rw [if_pos ⟨hnone, rfl⟩] at hroute
      cases hroute
      simp only [Option.isNone_iff_eq_none] at hnone
      simp [hnone, RouteEvent.after, Route.Stands, Route.unchecked]
    · rw [if_neg hnew] at hroute
      have hold := h q route hroute
      cases hfree : r.get? new.id with
      | some other => simpa [hfree] using hold
      | none =>
        have hne : new.id ≠ q := fun heq => hnew ⟨by simp [hfree], heq.symm⟩
        simpa [hfree, RouteEvent.after, hne] using hold
  | unregister id =>
    rw [get?_perform_unregister] at hroute
    split at hroute
    · nomatch hroute
    · exact h q route hroute
  | update id patch =>
    rw [get?_perform_update] at hroute
    split at hroute
    · obtain ⟨old, hold, rfl⟩ := Option.map_eq_some_iff.1 hroute
      exact h q old hold
    · exact h q route hroute
  | check check =>
    rw [events, foldl_after_checks]
    rw [perform, get?_performCheck] at hroute
    obtain ⟨old, hold, rfl⟩ := Option.map_eq_some_iff.1 hroute
    obtain ⟨hid, hstands⟩ := h q old hold
    rw [← lastCheck]
    cases hlast : lastCheck q (r.checks check) with
    | none => exact ⟨hid, hstands⟩
    | some found => exact ⟨hid, rfl, rfl⟩

theorem Follows.run {before : List RouteEvent} (h : r.Follows before)
    (calls : List (RouteCall σ)) : (runCalls calls r).Follows (before ++ history calls r) := by
  induction calls generalizing r before with
  | nil => simpa [history, runCalls] using h
  | cons call calls ih =>
    rw [history, ← List.append_assoc]
    exact ih (h.step call)

/-! ## What checks leave and give -/

/-- **A check changes no more than what checks found.** -/
theorem map_unchecked_performCheck (check : RouteCheck σ) :
    (r.performCheck check).all.map Route.unchecked = r.all.map Route.unchecked := by
  have htable : (r.performCheck check).routes.map Route.unchecked =
      r.routes.map Route.unchecked := by
    apply Table.ext_get?
    intro q
    rw [Table.get?_map, Table.get?_map]
    change ((r.performCheck check).get? q).map _ = (r.get? q).map _
    rw [get?_performCheck, Option.map_map]
    refine Option.map_congr fun route _ => ?_
    dsimp only [Function.comp]
    split <;> rfl
  have hvalues := congrArg Table.values htable
  simpa [Table.values, Table.map, all, Function.comp_def] using hvalues

/-- The routes that are not sound are given. What was checked before is kept apart from what a
check depends on, so they are the same at any time. -/
theorem fst_revalidateEach (ids : List String) (r : RouteRegistry) :
    (revalidateEach files components now ids r).1 = ids.filter fun id =>
      (r.get? id).any fun route => !isSound files components id route.descriptorPath := by
  induction ids generalizing r with
  | nil => rfl
  | cons id ids ih =>
    have hkept : ∀ q, ((r.revalidate files components now id).2.get? q).any
          (fun route => !isSound files components q route.descriptorPath) =
        (r.get? q).any fun route => !isSound files components q route.descriptorPath := by
      intro q
      rw [get?_revalidate]
      split
      · cases r.get? q <;> rfl
      · rfl
    rw [revalidateEach, List.filter_cons]
    dsimp only
    rw [ih]
    simp only [hkept]
    unfold revalidate
    cases r.get? id with
    | none => rfl
    | some route =>
      cases hsound : isSound files components id route.descriptorPath <;> simp [hsound]

theorem pairwise_fst_revalidateAll :
    (r.revalidateAll files components now).1.Pairwise (· < ·) := by
  rw [revalidateAll, fst_revalidateEach]
  exact (List.pairwise_map.2 r.routes.sorted).filter _

/-- **Checking all routes** gives the ids of those that are not valid then. -/
theorem mem_fst_revalidateAll {id : String} : id ∈ (r.revalidateAll files components now).1 ↔
    ∃ route, (r.revalidateAll files components now).2.get? id = some route ∧
      route.isValid = false := by
  rw [get?_revalidateAll, revalidateAll, fst_revalidateEach, List.mem_filter, Table.mem_keys_iff,
    Table.contains]
  change (r.get? id).isSome = true ∧ _ ↔ _
  cases r.get? id <;> simp [Route.checked]

/-- **Routes are as their last checks say.** -/
theorem valid_as_last_checked (calls : List (RouteCall σ)) :
    ∃ r, runCalls calls {} = r ∧
      (∀ route ∈ r.all, route.Stands (lastCheck route.id (history calls {}))) ∧
      (∀ check : RouteCheck σ,
        (r.performCheck check).all.map Route.unchecked = r.all.map Route.unchecked) ∧
      ∀ files components now, ∃ ids checked,
        r.revalidateAll files components now = (ids, checked) ∧
        ids.Pairwise (· < ·) ∧
        ∀ id, id ∈ ids ↔ ∃ route ∈ checked.all, route.id = id ∧ route.isValid = false := by
  have hnew : Follows {} [] := by
    intro q route hroute
    nomatch hroute
  have hfollows := hnew.run calls
  rw [List.nil_append] at hfollows
  refine ⟨_, rfl, ?_, map_unchecked_performCheck, ?_⟩
  · intro route hroute
    obtain ⟨q, hq⟩ := (Table.mem_values_iff _ route).1 hroute
    obtain ⟨rfl, hstands⟩ := hfollows q route hq
    exact hstands
  · intro files components now
    have hchecked := hfollows.step (.check (.all files components now) : RouteCall σ)
    refine ⟨_, _, (Prod.eta _).symm, pairwise_fst_revalidateAll, fun id => ?_⟩
    rw [mem_fst_revalidateAll]
    constructor
    · rintro ⟨route, hroute, hinvalid⟩
      exact ⟨route, (Table.mem_values_iff _ route).2 ⟨id, hroute⟩, (hchecked id route hroute).1,
        hinvalid⟩
    · rintro ⟨route, hlisted, rfl, hinvalid⟩
      obtain ⟨q, hq⟩ := (Table.mem_values_iff _ route).1 hlisted
      obtain ⟨rfl, -⟩ := hchecked q route hq
      exact ⟨route, hq, hinvalid⟩

end RouteRegistry

end ThemedPages
