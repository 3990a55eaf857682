import Mathlib.Data.List.Basic

/-
  `network/topics/tracer.go`: the pubsub event tracer.  `Trace` reports every event to the
  `metricsPubsubTrace` counter under the event type's name, and logs it too when the tracer was
  built with logging.

  1. **Program** — `PsTracer` with its `state`; `newTracer`, `report`, `log` and `Trace`.  What
     they write lies OUTSIDE the tracer (`TraceSinks`): `metricsPubsubTrace` is a package-level
     counter that every tracer of the process increments and that `newTracer` never resets, and
     the debug records go to the loggers.  An event is reduced to `evt.GetType().String()`, the
     only thing the tracer reads.

  2. **Result** — over ANY sequence of `Trace` calls, made by any tracers built with or without
     logging and starting from whatever the counter already holds, each label's count grows by
     the number of events of that type, and a record is written for exactly the events traced
     with logging, in order (`traceAll_newTracers`): one step lemma (`trace_spec`), one run
     lemma by induction (`traceAll_spec`).
-/

namespace Ssv.Topics

/-- `psTraceStateWithReporting`. -/
def psTraceStateWithReporting : UInt32 := 0

/-- `psTraceStateWithLogging`. -/
def psTraceStateWithLogging : UInt32 := 1

/-- `ps_pb.TraceEvent`, reduced to `GetType().String()`. -/
structure TraceEvent where
  typeName : String
  deriving DecidableEq

/-- `psTracer`: its `state`.  Its `logger` only receives records, which `TraceSinks` keeps. -/
structure PsTracer where
  state : UInt32

/-- What tracing writes, shared by every `psTracer` of the process. -/
structure TraceSinks where
  /-- `metricsPubsubTrace`, by its label. -/
  metricsPubsubTrace : String → Nat
  /-- The type of each event a "pubsub event" record was written for, in order. -/
  logged : List String

/-- `newTracer`. -/
def newTracer (withLogging : Bool) : PsTracer :=
  ⟨if withLogging then psTraceStateWithLogging else psTraceStateWithReporting⟩

/-- `(*psTracer).report`: `metricsPubsubTrace.WithLabelValues(evt.GetType().String()).Inc()`,
    which reads nothing of the tracer. -/
def PsTracer.report (_pst : PsTracer) (s : TraceSinks) (evt : TraceEvent) : TraceSinks :=
  { s with
    metricsPubsubTrace := fun l =>
      if l = evt.typeName then s.metricsPubsubTrace l + 1 else s.metricsPubsubTrace l }

/-- `(*psTracer).log`: a "pubsub event" record with the event's type. -/
def PsTracer.log (_pst : PsTracer) (s : TraceSinks) (evt : TraceEvent) : TraceSinks :=
  { s with logged := s.logged ++ [evt.typeName] }

/-- `(*psTracer).Trace`. -/
def PsTracer.trace (pst : PsTracer) (s : TraceSinks) (evt : TraceEvent) : TraceSinks :=
  let s := pst.report s evt
  if pst.state < psTraceStateWithLogging then s else pst.log s evt

/-- The sinks after a sequence of `Trace` calls, each made by its own tracer. -/
def traceAll (s : TraceSinks) (calls : List (PsTracer × TraceEvent)) : TraceSinks :=
  calls.foldl (fun s c => c.1.trace s c.2) s

/-- **One call**: its label's count goes up by one, and a record is written exactly when the
    tracer's state is the logging one. -/
theorem trace_spec (pst : PsTracer) (s : TraceSinks) (evt : TraceEvent) :
    (∀ l, (pst.trace s evt).metricsPubsubTrace l =
      s.metricsPubsubTrace l + if l = evt.typeName then 1 else 0) ∧
    (pst.trace s evt).logged =
      s.logged ++ if pst.state < psTraceStateWithLogging then [] else [evt.typeName] := by
  refine ⟨fun l => ?_, ?_⟩ <;> unfold PsTracer.trace <;> split <;>
    simp [PsTracer.report, PsTracer.log, *] <;> split <;> rfl

/-- **Any tracers, any calls**: the run lemma.  Each label's count grows by the number of its
    events, whichever tracer traced them, and the records are those of the calls whose tracer
    is not below the logging state, in order. -/
theorem traceAll_spec (s : TraceSinks) (calls : List (PsTracer × TraceEvent)) :
    (∀ l, (traceAll s calls).metricsPubsubTrace l =
      s.metricsPubsubTrace l + (calls.map fun c => c.2.typeName).count l) ∧
    (traceAll s calls).logged = s.logged ++
      (calls.filter fun c => !decide (c.1.state < psTraceStateWithLogging)).map
        fun c => c.2.typeName := by
  induction calls generalizing s with
  | nil => simp [traceAll]
  | cons c calls ih =>
    obtain ⟨hrep, hlog⟩ := trace_spec c.1 s c.2
    obtain ⟨ihrep, ihlog⟩ := ih (c.1.trace s c.2)
    simp only [traceAll, List.foldl_cons] at ihrep ihlog ⊢
    refine ⟨fun l => ?_, ?_⟩
    · rw [ihrep, hrep, List.map_cons, List.count_cons]
      by_cases hl : l = c.2.typeName
      · simp [hl]; omega
      · simp [hl, Ne.symm hl]
    · rw [ihlog, hlog, List.filter_cons]
      split <;> simp_all

/-- **One counter for the process**: whatever `metricsPubsubTrace` already holds, after any
    sequence of `Trace` calls, each by a tracer from `newTracer` with its own `withLogging`, the
    count under each label has grown by the number of events of that type, and a record was
    written for exactly the events traced by a tracer built with logging, in order. -/
theorem traceAll_newTracers (s : TraceSinks) (calls : List (Bool × TraceEvent)) :
    (∀ l, (traceAll s (calls.map fun c => (newTracer c.1, c.2))).metricsPubsubTrace l =
      s.metricsPubsubTrace l + (calls.map fun c => c.2.typeName).count l) ∧
    (traceAll s (calls.map fun c => (newTracer c.1, c.2))).logged =
      s.logged ++ (calls.filter fun c => c.1).map fun c => c.2.typeName := by
  obtain ⟨hrep, hlog⟩ := traceAll_spec s (calls.map fun c => (newTracer c.1, c.2))
  -- a tracer is at the logging state exactly when it was built with logging
  have hstate : ∀ b, (!decide ((newTracer b).state < psTraceStateWithLogging)) = b := by
    decide
  refine ⟨fun l => by simpa [Function.comp_def] using hrep l, hlog.trans ?_⟩
  simp [List.filter_map, Function.comp_def, hstate]

end Ssv.Topics
