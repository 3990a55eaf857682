import Ssv.Exporter.CacheKey

/-
  `NewStreamPublisher` (`exporter/api/decided/stream.go`): the handler that forwards newly
  decided entries to the websocket broadcast feed, with a one-minute `go-cache` in front of it
  "to avoid flooding".

  1. **Program** — the `go-cache` operations the handler and the cache's janitor use (`get`,
     `setDefault`, `deleteExpired`, times in Unix nanoseconds), the handler `Publisher.handle`,
     and runs of handler calls interleaved with janitor sweeps (`StreamEvent`, `Publisher.run`).

  2. **Specification** — `firstOfTriple`: send an entry exactly when no earlier entry had its
     (identifier, slot, number of signers).

  3. **Refinement** — `Tracks deadline seen cache`: the cache holds, unexpired until `deadline`,
     exactly the keys of the triples `seen`.  A call at a time `≤ deadline` finds its key iff its
     triple was seen (`get_cacheKey`, through `cacheKey_eq_iff`), a miss records it
     (`Tracks.setDefault`), and the janitor removes nothing (`deleteExpired_eq`).  So over any
     run inside one minute the handler sends exactly `firstOfTriple`
     (`run_sent_eq_firstOfTriple`).

  4. **Over any run** — an item stays until its expiration whatever happens meanwhile
     (`items_run_of_le`), so once an entry is sent, no entry with its triple is sent within the
     next minute (`handle_unsent_within_minute`).
-/

namespace Ssv.Exporter

/-- `time.Minute`, in nanoseconds. -/
def minute : Int := 60000000000

/-! ## The program -/

/-- A `go-cache` store of `bool`s: the expiration of each key's item in Unix nanoseconds
    (`0`: never expires). -/
structure Cache where
  defaultExpiration : Int
  items : String → Option Int

/-- `cache.New(defaultExpiration, cleanupInterval)`: an empty store, whose janitor runs
    `deleteExpired` every `cleanupInterval`. -/
def Cache.new (defaultExpiration : Int) : Cache := ⟨defaultExpiration, fun _ => none⟩

/-- `(*cache).Get` at time `now`: found unless absent or expired. -/
def Cache.get (c : Cache) (now : Int) (k : String) : Bool :=
  match c.items k with
  | none => false
  | some e => !(decide (e > 0) && decide (now > e))

/-- An item is found at any time up to its expiration. -/
theorem Cache.get_of_le {c : Cache} {now e : Int} {k : String} (h : c.items k = some e)
    (hnow : now ≤ e) : c.get now k = true := by
  simp only [Cache.get, h, Bool.not_eq_true', Bool.and_eq_false_imp, decide_eq_true_eq, gt_iff_lt,
    decide_eq_false_iff_not, not_lt]
  omega

/-- `(*cache).SetDefault` at time `now`: the item expires `defaultExpiration` later, or never if
    that is not positive. -/
def Cache.setDefault (c : Cache) (now : Int) (k : String) : Cache :=
  { c with
    items := fun k' =>
      if k' = k then some (if c.defaultExpiration > 0 then now + c.defaultExpiration else 0)
      else c.items k' }

/-- `(*cache).DeleteExpired` at time `now`, the janitor's sweep. -/
def Cache.deleteExpired (c : Cache) (now : Int) : Cache :=
  { c with
    items := fun k =>
      match c.items k with
      | some e => if e > 0 ∧ now > e then none else some e
      | none => none }

/-- What the handler sends on the broadcast feed. -/
inductive FeedMsg where
  /-- `api.NewParticipantsAPIMsg(msg)`. -/
  | participants (msg : ParticipantsRangeEntry)
  /-- `api.NewDecidedAPIMsg(msg)`. -/
  | decided (msg : ParticipantsRangeEntry)

/-- The message for `msg`, by the `useNewAPI` flag. -/
def feedMsg (useNewAPI : Bool) (msg : ParticipantsRangeEntry) : FeedMsg :=
  if useNewAPI then .participants msg else .decided msg

/-- The cache the handler closes over, and what it has sent on the feed so far. -/
structure Publisher where
  cache : Cache
  sent : List FeedMsg

/-- `NewStreamPublisher`: `cache.New(time.Minute, time.Minute*3/2)`, nothing sent yet. -/
def newStreamPublisher : Publisher := ⟨Cache.new minute, []⟩

/-- The handler `NewStreamPublisher` returns, called with `msg` at time `now`: skip an entry whose
    key is cached, otherwise cache the key and send the entry. -/
def Publisher.handle (useNewAPI : Bool) (p : Publisher) (now : Int)
    (msg : ParticipantsRangeEntry) : Publisher :=
  let key := cacheKey msg
  if p.cache.get now key then p
  else ⟨p.cache.setDefault now key, p.sent ++ [feedMsg useNewAPI msg]⟩

/-- What happens to the publisher: a handler call, or a janitor sweep. -/
inductive StreamEvent where
  | handle (now : Int) (msg : ParticipantsRangeEntry)
  | janitor (now : Int)

def StreamEvent.time : StreamEvent → Int
  | .handle now _ => now
  | .janitor now => now

/-- The entries handed to the handler, in order. -/
def StreamEvent.entries : List StreamEvent → List ParticipantsRangeEntry
  | [] => []
  | .handle _ msg :: evs => msg :: entries evs
  | .janitor _ :: evs => entries evs

def Publisher.step (useNewAPI : Bool) (p : Publisher) : StreamEvent → Publisher
  | .handle now msg => p.handle useNewAPI now msg
  | .janitor now => { p with cache := p.cache.deleteExpired now }

def Publisher.run (useNewAPI : Bool) (p : Publisher) : List StreamEvent → Publisher
  | [] => p
  | ev :: evs => (p.step useNewAPI ev).run useNewAPI evs

/-! ## The specification -/

/-- The entries that are the first with their triple, the triples `seen` counting as earlier. -/
def firstOfTriple (seen : List (List UInt8 × UInt64 × Nat)) :
    List ParticipantsRangeEntry → List ParticipantsRangeEntry
  | [] => []
  | msg :: msgs =>
    if msg.triple ∈ seen then firstOfTriple seen msgs
    else msg :: firstOfTriple (msg.triple :: seen) msgs

/-! ## The refinement -/

/-- The cache holds the key of an entry exactly when its triple was `seen`, and no item expires
    before `deadline`. -/
structure Tracks (deadline : Int) (seen : List (List UInt8 × UInt64 × Nat)) (c : Cache) :
    Prop where
  present : ∀ msg, (c.items (cacheKey msg)).isSome ↔ msg.triple ∈ seen
  unexpired : ∀ k e, c.items k = some e → deadline ≤ e

variable {deadline now : Int} {seen : List (List UInt8 × UInt64 × Nat)} {c : Cache}

theorem tracks_new (deadline : Int) (d : Int) : Tracks deadline [] (Cache.new d) :=
  ⟨fun _ => by simp [Cache.new], fun _ _ h => by cases h⟩

/-- Before the deadline, `Get` finds an entry's key exactly when its triple was seen. -/
theorem get_cacheKey (h : Tracks deadline seen c) (hnow : now ≤ deadline)
    (msg : ParticipantsRangeEntry) : c.get now (cacheKey msg) = decide (msg.triple ∈ seen) := by
  have hp := h.present msg
  cases he : c.items (cacheKey msg) with
  | none => simp_all [Cache.get]
  | some e =>
    rw [Cache.get_of_le he (hnow.trans (h.unexpired _ e he))]
    simp_all

/-- A miss records the entry's triple, its item expiring no earlier than the deadline. -/
theorem Tracks.setDefault (h : Tracks deadline seen c) (hd : c.defaultExpiration = minute)
    (hnow : deadline ≤ now + minute) (msg : ParticipantsRangeEntry) :
    Tracks deadline (msg.triple :: seen) (c.setDefault now (cacheKey msg)) := by
  constructor
  · intro msg'
    simp only [Cache.setDefault, List.mem_cons, cacheKey_eq_iff]
    split
    · simp_all
    · rename_i hne
      rw [h.present msg']
      simp [hne]
  · intro k e he
    simp only [Cache.setDefault] at he
    split at he
    · simp only [hd, minute, Option.some.injEq] at he hnow
      omega
    · exact h.unexpired k e he

/-- Before the deadline, the janitor removes nothing. -/
theorem deleteExpired_eq (h : Tracks deadline seen c) (hnow : now ≤ deadline) :
    c.deleteExpired now = c := by
  cases c with
  | mk d items =>
    simp only [Cache.deleteExpired, Cache.mk.injEq, true_and]
    funext k
    split
    · rename_i e he
      have := h.unexpired k e he
      rw [if_neg (by omega)]
      exact he.symm
    · rename_i he
      exact he.symm

theorem run_sent_of_tracks (useNewAPI : Bool) {start : Int} (evs : List StreamEvent)
    (htime : ∀ ev ∈ evs, start ≤ ev.time ∧ ev.time ≤ start + minute) :
    ∀ (p : Publisher) (seen), Tracks (start + minute) seen p.cache →
      p.cache.defaultExpiration = minute →
      (p.run useNewAPI evs).sent =
        p.sent ++ (firstOfTriple seen (StreamEvent.entries evs)).map (feedMsg useNewAPI) := by
  induction evs with
  | nil => intro p seen _ _; simp [Publisher.run, StreamEvent.entries, firstOfTriple]
  | cons ev evs ih =>
    intro p seen hp hd
    have hev := htime ev (List.mem_cons_self _ _)
    have ih := ih fun ev' h => htime ev' (List.mem_cons_of_mem _ h)
    cases ev with
    | handle now msg =>
      simp only [StreamEvent.time] at hev
      simp only [Publisher.run, Publisher.step, Publisher.handle, StreamEvent.entries,
        firstOfTriple, get_cacheKey hp hev.2 msg]
      by_cases hseen : msg.triple ∈ seen
      · simp only [hseen, decide_True, if_true]
        exact ih p seen hp hd
      · simp only [hseen, decide_False, if_false, Bool.false_eq_true]
        have hts := hp.setDefault hd (show start + minute ≤ now + minute by omega) msg
        exact (ih ⟨_, p.sent ++ [feedMsg useNewAPI msg]⟩ _ hts hd).trans (by simp)
    | janitor now =>
      simp only [StreamEvent.time] at hev
      simp only [Publisher.run, Publisher.step, StreamEvent.entries, deleteExpired_eq hp hev.2]
      exact ih p seen hp hd

/-- **De-duplication**: over any run of handler calls and janitor sweeps that stays within one
    minute of its start, the publisher sends exactly the entries that are the first with their
    (identifier, slot, number of signers) — a repeated triple is never re-sent, and distinct
    triples never suppress each other. -/
theorem run_sent_eq_firstOfTriple (useNewAPI : Bool) (start : Int) (evs : List StreamEvent)
    (htime : ∀ ev ∈ evs, start ≤ ev.time ∧ ev.time ≤ start + minute) :
    (newStreamPublisher.run useNewAPI evs).sent =
      (firstOfTriple [] (StreamEvent.entries evs)).map (feedMsg useNewAPI) := by
  simpa using run_sent_of_tracks useNewAPI evs htime newStreamPublisher []
    (tracks_new _ _) rfl

theorem run_sent_eq_firstOfTriple_repeat_suppressed :
    (∀ ev ∈ [StreamEvent.handle 0 ⟨10, [1, 2, 3], ⟨List.replicate 56 0, rfl⟩⟩,
        .janitor 30000000000, .handle 60000000000 ⟨10, [1, 2, 3], ⟨List.replicate 56 0, rfl⟩⟩],
      0 ≤ ev.time ∧ ev.time ≤ 0 + minute) ∧
    (newStreamPublisher.run true [StreamEvent.handle 0 ⟨10, [1, 2, 3], ⟨List.replicate 56 0, rfl⟩⟩,
        .janitor 30000000000, .handle 60000000000 ⟨10, [1, 2, 3], ⟨List.replicate 56 0, rfl⟩⟩]).sent =
      (firstOfTriple [] (StreamEvent.entries [StreamEvent.handle 0 ⟨10, [1, 2, 3],
        ⟨List.replicate 56 0, rfl⟩⟩, .janitor 30000000000,
        .handle 60000000000 ⟨10, [1, 2, 3], ⟨List.replicate 56 0, rfl⟩⟩])).map (feedMsg true) :=
  ⟨by decide, run_sent_eq_firstOfTriple true 0 _ (by decide)⟩

/-! ## No flooding, over any run -/

/-- An item stays as it is over a run whose events all come no later than its expiration: no
    sweep removes it, and no handler call misses its key and resets it. -/
theorem items_run_of_le (useNewAPI : Bool) {p : Publisher} {k : String} {e : Int}
    (he : p.cache.items k = some e) {evs : List StreamEvent} (htime : ∀ ev ∈ evs, ev.time ≤ e) :
    (p.run useNewAPI evs).cache.items k = some e := by
  induction evs generalizing p with
  | nil => exact he
  | cons ev evs ih =>
    refine ih ?_ fun ev' h => htime ev' (List.mem_cons_of_mem _ h)
    have hev := htime ev (List.mem_cons_self _ _)
    cases ev with
    | janitor now =>
      simp only [StreamEvent.time] at hev
      simp only [Publisher.step, Cache.deleteExpired, he]
      rw [if_neg (by omega)]
    | handle now msg =>
      simp only [StreamEvent.time] at hev
      simp only [Publisher.step, Publisher.handle]
      split
      · exact he
      · -- a miss is on another key, since `k` is found at any time up to `e`
        rename_i hmiss
        have hk : k ≠ cacheKey msg := by rintro rfl; exact hmiss (Cache.get_of_le he hev)
        simp only [Cache.setDefault, if_neg hk, he]

/-- **No flooding**: once the publisher has sent an entry at `t₁`, it sends no entry with the
    same triple up to a minute later, whatever it handles and sweeps in between and however long
    it has run before. -/
theorem handle_unsent_within_minute (useNewAPI : Bool) (p : Publisher)
    (hd : p.cache.defaultExpiration = minute) {t₁ t₂ : Int} {msg msg' : ParticipantsRangeEntry}
    (hsent : (p.handle useNewAPI t₁ msg).sent ≠ p.sent) (evs : List StreamEvent)
    (htime : ∀ ev ∈ evs, ev.time ≤ t₂) (ht : t₂ ≤ t₁ + minute)
    (htriple : msg'.triple = msg.triple) :
    ((p.handle useNewAPI t₁ msg).run useNewAPI evs).handle useNewAPI t₂ msg' =
      (p.handle useNewAPI t₁ msg).run useNewAPI evs := by
  have hmiss : p.cache.get t₁ (cacheKey msg) = false := by
    by_contra h
    simp [Publisher.handle, h] at hsent
  have hitem : (p.handle useNewAPI t₁ msg).cache.items (cacheKey msg) = some (t₁ + minute) := by
    simp [Publisher.handle, hmiss, Cache.setDefault, hd, minute]
  have hq := items_run_of_le useNewAPI hitem fun ev h => (htime ev h).trans ht
  rw [← cacheKey_eq_iff.mpr htriple] at hq
  generalize (p.handle useNewAPI t₁ msg).run useNewAPI evs = q at hq ⊢
  simp only [Publisher.handle, Cache.get_of_le hq ht, if_true]

theorem handle_unsent_within_minute_after_sweep :
    newStreamPublisher.cache.defaultExpiration = minute ∧
      (newStreamPublisher.handle true 0 ⟨10, [1, 2, 3], ⟨List.replicate 56 0, rfl⟩⟩).sent ≠
        newStreamPublisher.sent ∧
      (∀ ev ∈ [StreamEvent.janitor 30000000000], ev.time ≤ 60000000000) ∧
      (60000000000 : Int) ≤ 0 + minute ∧
      ParticipantsRangeEntry.triple ⟨10, [1, 2, 3], ⟨List.replicate 56 0, rfl⟩⟩ =
        ParticipantsRangeEntry.triple ⟨10, [1, 2, 3], ⟨List.replicate 56 0, rfl⟩⟩ ∧
      ((newStreamPublisher.handle true 0 ⟨10, [1, 2, 3], ⟨List.replicate 56 0, rfl⟩⟩).run true
          [.janitor 30000000000]).handle true 60000000000
          ⟨10, [1, 2, 3], ⟨List.replicate 56 0, rfl⟩⟩ =
        (newStreamPublisher.handle true 0 ⟨10, [1, 2, 3], ⟨List.replicate 56 0, rfl⟩⟩).run true
          [.janitor 30000000000] :=
  have hsent : (newStreamPublisher.handle true 0 ⟨10, [1, 2, 3], ⟨List.replicate 56 0, rfl⟩⟩).sent ≠
      newStreamPublisher.sent := by
    simp [Publisher.handle, newStreamPublisher, Cache.new, Cache.get]
  ⟨rfl, hsent, by decide, by decide, rfl,
    handle_unsent_within_minute true newStreamPublisher rfl hsent _ (by decide) (by decide) rfl⟩

end Ssv.Exporter
