import Ssv.Exporter.Stream

/-
  `NewStreamPublisher` over ANY run, past the one minute `run_sent_eq_firstOfTriple` looks at:
  items expire, the janitor sweeps them, and a triple is forwarded again.

  1. **Specification** — `forwarded last`: forward an entry unless an entry with its triple was
     forwarded at most a minute earlier; `last` holds the time each triple was last forwarded.
     A skipped entry does not restart its triple's minute.

  2. **Refinement** — `Window now last c`: the cache holds each forwarded triple's key until a
     minute after its last forwarding, or has dropped it after that minute, before `now`.  `Get`
     at any later time answers as the specification (`Window.get`), and `SetDefault` and the
     janitor's sweep keep the relation (`Window.setDefault`, `Window.deleteExpired`).

  3. **Result** — on a wall clock that reads after the Unix epoch and never goes back, the
     handler forwards exactly `forwarded` over every run of calls and sweeps
     (`run_sent_eq_forwarded`).  Both are hypotheses on the clock: `go-cache` reads
     `time.Now().UnixNano()`, and an expiration that is not positive never expires.
-/

namespace Ssv.Exporter

/-! ## The specification -/

/-- **What the handler is for**: the entries forwarded, an entry being skipped when an entry
    with its triple was forwarded at most a minute before. -/
def forwarded (last : List UInt8 × UInt64 × Nat → Option Int) :
    List StreamEvent → List ParticipantsRangeEntry
  | [] => []
  | .handle now msg :: evs =>
    if (last msg.triple).any fun s => now ≤ s + minute then forwarded last evs
    else msg :: forwarded (fun τ => if τ = msg.triple then some now else last τ) evs
  | .janitor _ :: evs => forwarded last evs

/-! ## The refinement -/

/-- The cache against the last forwarding times, at time `now`: each triple's key expires a
    minute after its last forwarding, or was dropped by a sweep before `now`, after that. -/
structure Window (now : Int) (last : List UInt8 × UInt64 × Nat → Option Int) (c : Cache) :
    Prop where
  expiration : c.defaultExpiration = minute
  after_epoch : ∀ τ s, last τ = some s → 0 ≤ s
  item : ∀ msg, c.items (cacheKey msg) = (last msg.triple).map (· + minute) ∨
    c.items (cacheKey msg) = none ∧ ∃ s, last msg.triple = some s ∧ s + minute < now

variable {now₀ now : Int} {last : List UInt8 × UInt64 × Nat → Option Int} {c : Cache}

theorem window_new (now : Int) : Window now (fun _ => none) (Cache.new minute) :=
  ⟨rfl, fun _ _ h => (by cases h), fun _ => .inl rfl⟩

/-- At any later time, `Get` finds an entry's key exactly when its triple was forwarded at most
    a minute before. -/
theorem Window.get (h : Window now₀ last c) (hle : now₀ ≤ now) (msg : ParticipantsRangeEntry) :
    c.get now (cacheKey msg) = (last msg.triple).any fun s => now ≤ s + minute := by
  rcases h.item msg with hi | ⟨hi, s, hs, hlt⟩
  · cases hl : last msg.triple with
    | none => simp [Cache.get, hi, hl]
    | some s =>
      have := h.after_epoch _ s hl
      simp only [Cache.get, hi, hl, Option.map_some', Option.any_some]
      rw [decide_eq_true (show s + minute > 0 by unfold minute; omega), Bool.true_and,
        ← decide_not]
      simp only [gt_iff_lt, not_lt]
  · simp only [Cache.get, hi, hs, Option.any_some, Bool.false_eq, decide_eq_false_iff_not, not_le]
    omega

theorem Window.mono (h : Window now₀ last c) (hle : now₀ ≤ now) : Window now last c :=
  ⟨h.expiration, h.after_epoch, fun msg =>
    (h.item msg).imp_right fun ⟨hi, s, hs, hlt⟩ => ⟨hi, s, hs, by omega⟩⟩

/-- A sweep at a later time keeps the relation: it drops only keys whose minute is over. -/
theorem Window.deleteExpired (h : Window now₀ last c) (hle : now₀ ≤ now) :
    Window now last (c.deleteExpired now) := by
  refine ⟨h.expiration, h.after_epoch, fun msg => ?_⟩
  simp only [Cache.deleteExpired]
  rcases h.item msg with hi | ⟨hi, s, hs, hlt⟩
  · cases hl : last msg.triple with
    | none => simp [hi, hl]
    | some s =>
      simp only [hi, hl, Option.map_some']
      by_cases hexp : s + minute > 0 ∧ now > s + minute
      · exact .inr ⟨if_pos hexp, s, rfl, hexp.2⟩
      · exact .inl (if_neg hexp)
  · exact .inr ⟨by rw [hi], s, hs, by omega⟩

/-- Forwarding at a later time `now`, after the epoch, records `now` as its triple's time. -/
theorem Window.setDefault (h : Window now₀ last c) (hle : now₀ ≤ now) (hnow : 0 ≤ now)
    (msg : ParticipantsRangeEntry) :
    Window now (fun τ => if τ = msg.triple then some now else last τ)
      (c.setDefault now (cacheKey msg)) := by
  refine ⟨h.expiration, fun τ s hτ => ?_, fun msg' => ?_⟩
  · split at hτ
    · cases hτ; exact hnow
    · exact h.after_epoch τ s hτ
  · simp only [Cache.setDefault, h.expiration]
    by_cases ht : msg'.triple = msg.triple
    · rw [if_pos (cacheKey_eq_iff.mpr ht), if_pos ht]
      exact .inl (by simp [minute])
    · rw [if_neg (mt cacheKey_eq_iff.mp ht), if_neg ht]
      exact ((h.mono hle).item msg')

theorem run_sent_of_window (useNewAPI : Bool) (evs : List StreamEvent)
    (hmono : evs.Pairwise fun a b => a.time ≤ b.time) :
    ∀ (p : Publisher) (now₀ : Int) last, Window now₀ last p.cache →
      (∀ ev ∈ evs, now₀ ≤ ev.time ∧ 0 ≤ ev.time) →
      (p.run useNewAPI evs).sent = p.sent ++ (forwarded last evs).map (feedMsg useNewAPI) := by
  induction evs with
  | nil => intro p _ _ _ _; simp [Publisher.run, forwarded]
  | cons ev evs ih =>
    intro p now₀ last hw htime
    obtain ⟨hhead, htail⟩ := List.pairwise_cons.mp hmono
    have hev := htime ev (List.mem_cons_self _ _)
    -- every later event comes no earlier than this one
    have hlater : ∀ ev' ∈ evs, ev.time ≤ ev'.time ∧ 0 ≤ ev'.time :=
      fun ev' h' => ⟨hhead ev' h', (htime ev' (List.mem_cons_of_mem _ h')).2⟩
    cases ev with
    | handle now msg =>
      simp only [StreamEvent.time] at hev hlater
      simp only [Publisher.run, Publisher.step, Publisher.handle, forwarded, hw.get hev.1 msg]
      by_cases hfound : ((last msg.triple).any fun s => now ≤ s + minute) = true
      · simp only [hfound, if_true]
        exact ih htail p now last (hw.mono hev.1) hlater
      · simp only [hfound, if_false, Bool.false_eq_true]
        exact (ih htail _ now _ (hw.setDefault hev.1 hev.2 msg) hlater).trans (by simp)
    | janitor now =>
      simp only [StreamEvent.time] at hev hlater
      simp only [Publisher.run, Publisher.step, forwarded]
      exact ih htail _ now last (hw.deleteExpired hev.1) hlater

/-- **Forwarding over any run**: on a clock that reads after the Unix epoch and never goes
    back, the handler forwards, over every run of calls and sweeps, exactly the entries whose
    triple was not forwarded in the minute before — so a triple goes out again once its minute
    is over, and never sooner. -/
theorem run_sent_eq_forwarded (useNewAPI : Bool) (evs : List StreamEvent)
    (hepoch : ∀ ev ∈ evs, 0 ≤ ev.time) (hmono : evs.Pairwise fun a b => a.time ≤ b.time) :
    (newStreamPublisher.run useNewAPI evs).sent =
      (forwarded (fun _ => none) evs).map (feedMsg useNewAPI) := by
  simpa using run_sent_of_window useNewAPI evs hmono newStreamPublisher 0 _ (window_new 0)
    fun ev h => ⟨hepoch ev h, hepoch ev h⟩

theorem run_sent_eq_forwarded_after_minute :
    (∀ ev ∈ [StreamEvent.handle 0 ⟨10, [1, 2, 3], ⟨List.replicate 56 0, rfl⟩⟩,
        .janitor 30000000000, .handle 60000000000 ⟨10, [1, 2, 3], ⟨List.replicate 56 0, rfl⟩⟩,
        .handle 60000000001 ⟨10, [1, 2, 3], ⟨List.replicate 56 0, rfl⟩⟩], 0 ≤ ev.time) ∧
    [StreamEvent.handle 0 ⟨10, [1, 2, 3], ⟨List.replicate 56 0, rfl⟩⟩,
        .janitor 30000000000, .handle 60000000000 ⟨10, [1, 2, 3], ⟨List.replicate 56 0, rfl⟩⟩,
        .handle 60000000001 ⟨10, [1, 2, 3], ⟨List.replicate 56 0, rfl⟩⟩].Pairwise
      (fun a b => a.time ≤ b.time) ∧
    (newStreamPublisher.run true [StreamEvent.handle 0 ⟨10, [1, 2, 3], ⟨List.replicate 56 0, rfl⟩⟩,
        .janitor 30000000000, .handle 60000000000 ⟨10, [1, 2, 3], ⟨List.replicate 56 0, rfl⟩⟩,
        .handle 60000000001 ⟨10, [1, 2, 3], ⟨List.replicate 56 0, rfl⟩⟩]).sent =
      (forwarded (fun _ => none) [StreamEvent.handle 0 ⟨10, [1, 2, 3], ⟨List.replicate 56 0, rfl⟩⟩,
        .janitor 30000000000, .handle 60000000000 ⟨10, [1, 2, 3], ⟨List.replicate 56 0, rfl⟩⟩,
        .handle 60000000001 ⟨10, [1, 2, 3], ⟨List.replicate 56 0, rfl⟩⟩]).map (feedMsg true) :=
  ⟨by decide, by decide, run_sent_eq_forwarded true _ (by decide) (by decide)⟩

end Ssv.Exporter
