/-!
# Periodic refresh

A loop that refreshes at every multiple of an interval until it is stopped. Rounds that fail are
counted, and the loop goes on.
-/

namespace ThemedPages

/-- What happened while a refresh loop ran. -/
structure RefreshCounts where
  rounds : Nat := 0
  failures : Nat := 0
  deriving DecidableEq, Repr

/-- Something that a loop can refresh; whatever else happens meanwhile changes it too. -/
structure RefreshTarget (σ : Type u) (ε : Type v) where
  /-- One round, and whether it succeeded. -/
  round : σ → Bool × σ
  /-- Something else that happens. -/
  edit : ε → σ → σ

/-- Run a refresh loop: `time` is that of the last round, `left` bounds the rounds that are left,
and `edits` are what else happens, each with its time, in order of time. -/
def refreshLoop (target : RefreshTarget σ ε) (interval stop : Nat) :
    (left time : Nat) → (edits : List (Nat × ε)) → RefreshCounts → σ → RefreshCounts × σ
  | left, time, edits, counts, s =>
    let next := time + interval
    let due := edits.takeWhile fun e => e.1 < min next stop
    let s := due.foldl (fun s e => target.edit e.2 s) s
    let edits := edits.drop due.length
    match left with
    | 0 => (counts, s)
    | left + 1 =>
      if next < stop then
        let (succeeded, s) := target.round s
        let counts := ⟨counts.rounds + 1, counts.failures + if succeeded then 0 else 1⟩
        refreshLoop target interval stop left next edits counts s
      else (counts, s)

/-- Run a refresh loop from time zero until `stop`. -/
def runRefresh (target : RefreshTarget σ ε) (interval stop : Nat) (edits : List (Nat × ε)) (s : σ) :
    RefreshCounts × σ :=
  refreshLoop target interval stop (if interval = 0 then 0 else stop / interval) 0 edits {} s

/-- Seconds between two rounds, when nothing else is said. -/
def defaultInterval : Nat := 30

end ThemedPages
