import ByFramework.SpanRecorderCore

/-! How often one recorder exports a trace, and how many traces it counts. -/

namespace ByFramework.SpanRecorder

open Collections

/-- A run of the recorder: everything exported, and the recorder left. -/
def recordAll (rounded : ℚ → ℚ) (recorder : SpanRecorder) :
    List TraceSpan → List (Nat × TraceSpan) × SpanRecorder
  | [] => ([], recorder)
  | span :: rest =>
      let (exported, after) := recorder.recordSpan rounded span
      let (more, last) := recordAll rounded after rest
      (exported ++ more, last)

/-- How often the exporter at a place was given a span of the trace. -/
def exportsOf (traceId : String) (place : Nat) (exported : List (Nat × TraceSpan)) : Nat :=
  exported.countP fun entry => entry.1 = place ∧ entry.2.traceId = traceId

def evictionsOf (rounded : ℚ → ℚ) (traceId : String) (recorder : SpanRecorder) :
    List TraceSpan → Nat
  | [] => 0
  | span :: rest =>
      let after := (recorder.recordSpan rounded span).2
      let lost := recorder.spansByTrace.has traceId && !after.spansByTrace.has traceId
      (if lost then 1 else 0) + evictionsOf rounded traceId after rest

def counted (recorder : SpanRecorder) (traceId : String) : Nat :=
  (recorder.spansByTrace.get? traceId).getD 0

def counting (recorder : SpanRecorder) (traceId : String) : SpanRecorder :=
  { recorder with
    spansByTrace := recorder.evicted.set traceId (recorder.counted traceId + 1) }

theorem recordSpan_cases (rounded : ℚ → ℚ) (recorder : SpanRecorder) (span : TraceSpan) :
    recorder.recordSpan rounded span = ([], recorder) ∨
    (recorder.counted span.traceId : ℚ) < recorder.config.maxSpansPerTrace ∧
    recorder.recordSpan rounded span =
      ((List.range recorder.exporters.length).map (·, span),
        recorder.counting span.traceId) := by
  unfold recordSpan shouldRecord
  dsimp only
  split
  · exact .inl rfl
  · split
    · exact .inl rfl
    · split
      · exact .inl rfl
      · by_cases full : recorder.config.maxSpansPerTrace ≤ (recorder.counted span.traceId : ℚ)
        · unfold counted at full
          rw [if_pos full]
          exact .inl rfl
        · have room := not_le.mp full
          unfold counted at full
          rw [if_neg full]
          exact .inr ⟨room, rfl⟩

theorem get?_evicted (recorder : SpanRecorder) (traceId : String) :
    recorder.evicted.get? traceId = none ∨
      recorder.evicted.get? traceId = recorder.spansByTrace.get? traceId := by
  unfold evicted
  split
  · cases found : (recorder.spansByTrace.dropFirst _).get? traceId with
    | none => exact .inl rfl
    | some value =>
        have listed := InsertionMap.mem_dropFirst (InsertionMap.mem_of_get? found)
        exact .inr ((InsertionMap.get?_iff _ _ _).mpr listed).symm
  · exact .inr rfl

theorem exportsOf_recorded (traceId : String) (place count : Nat) (span : TraceSpan) :
    exportsOf traceId place ((List.range count).map (·, span)) ≤
      if span.traceId = traceId then 1 else 0 := by
  unfold exportsOf
  rw [List.countP_map]
  split
  · have distinct : (List.range count).Nodup := List.nodup_range
    have once : (List.range count).count place ≤ 1 :=
      List.nodup_iff_count_le_one.mp distinct place
    refine le_trans (List.countP_mono_left ?_) once
    intro index _ chosen
    have both : index = place ∧ span.traceId = traceId := by simpa using chosen
    simp [both.1]
  · rename_i other
    refine le_of_eq (List.countP_eq_zero.mpr ?_)
    intro index _ chosen
    have both : index = place ∧ span.traceId = traceId := by simpa using chosen
    exact other both.2

theorem exportsOf_append (traceId : String) (place : Nat) (left right : List (Nat × TraceSpan)) :
    exportsOf traceId place (left ++ right) =
      exportsOf traceId place left + exportsOf traceId place right :=
  List.countP_append

theorem exports_step (rounded : ℚ → ℚ) (recorder : SpanRecorder) (span : TraceSpan)
    (traceId : String) (place : Nat)
    (within : recorder.counted traceId ≤ ⌈recorder.config.maxSpansPerTrace⌉₊) :
    let after := (recorder.recordSpan rounded span).2
    let lost := recorder.spansByTrace.has traceId && !after.spansByTrace.has traceId
    after.config = recorder.config ∧
    after.counted traceId ≤ ⌈recorder.config.maxSpansPerTrace⌉₊ ∧
    exportsOf traceId place (recorder.recordSpan rounded span).1 + recorder.counted traceId ≤
      after.counted traceId +
        if lost then ⌈recorder.config.maxSpansPerTrace⌉₊ else 0 := by
  rcases recordSpan_cases rounded recorder span with refused | ⟨room, recorded⟩
  · rw [refused]
    refine ⟨rfl, within, ?_⟩
    simp [exportsOf]
  rw [recorded]
  have once := exportsOf_recorded traceId place recorder.exporters.length span
  refine ⟨rfl, ?_⟩
  by_cases own : span.traceId = traceId
  · subst own
    have next : (recorder.counting span.traceId).counted span.traceId =
        recorder.counted span.traceId + 1 := by
      unfold counting
      rw [counted, InsertionMap.get?_set_self]
      rfl
    have bound : recorder.counted span.traceId + 1 ≤ ⌈recorder.config.maxSpansPerTrace⌉₊ :=
      Nat.succ_le_of_lt (Nat.lt_ceil.mpr room)
    rw [if_pos rfl] at once
    dsimp only
    rw [next]
    exact ⟨bound, by omega⟩
  · rw [if_neg own] at once
    have read : (recorder.counting span.traceId).spansByTrace.get? traceId =
        recorder.evicted.get? traceId :=
      InsertionMap.get?_set_ne _ (fun same => own same.symm) _
    dsimp only
    unfold InsertionMap.has
    rw [counted] at within ⊢
    rw [counted, read]
    rcases get?_evicted recorder traceId with gone | kept
    · rw [gone]
      cases before : recorder.spansByTrace.get? traceId with
      | none => simp [Nat.le_zero.mp once]
      | some value =>
          rw [before] at within
          have bound : value ≤ ⌈recorder.config.maxSpansPerTrace⌉₊ := within
          simp only [Option.getD_none, Option.getD_some, Option.isSome_some, Option.isSome_none,
            Bool.not_false, Bool.and_self, if_true]
          omega
    · rw [kept]
      exact ⟨within, by omega⟩

/-! ### Runs -/

theorem exports_run (rounded : ℚ → ℚ) (traceId : String) (place : Nat) :
    ∀ (spans : List TraceSpan) (recorder : SpanRecorder),
    recorder.counted traceId ≤ ⌈recorder.config.maxSpansPerTrace⌉₊ →
    exportsOf traceId place (recordAll rounded recorder spans).1 + recorder.counted traceId ≤
      ⌈recorder.config.maxSpansPerTrace⌉₊ * (1 + evictionsOf rounded traceId recorder spans) := by
  intro spans
  induction spans with
  | nil =>
      intro recorder within
      simpa [recordAll, evictionsOf, exportsOf] using within
  | cons span rest ih =>
      intro recorder within
      obtain ⟨same, bound, step⟩ := exports_step rounded recorder span traceId place within
      have later := ih (recorder.recordSpan rounded span).2 (by rw [same]; exact bound)
      rw [same] at later
      change exportsOf traceId place ((recorder.recordSpan rounded span).1 ++
        (recordAll rounded (recorder.recordSpan rounded span).2 rest).1) + _ ≤ _
      rw [exportsOf_append]
      unfold evictionsOf
      dsimp only
      by_cases lost : (recorder.spansByTrace.has traceId &&
          !(recorder.recordSpan rounded span).2.spansByTrace.has traceId) = true
      · rw [if_pos lost] at step ⊢
        have spread := Nat.mul_add ⌈recorder.config.maxSpansPerTrace⌉₊ 1
          (1 + evictionsOf rounded traceId (recorder.recordSpan rounded span).2 rest)
        omega
      · rw [if_neg lost] at step ⊢
        rw [Nat.zero_add]
        omega

def trackingBound (recorder : SpanRecorder) : Nat :=
  if recorder.config.maxSpansPerTrace ≤ 0 then 0 else max 2 ⌈recorder.trackingMaxSize⌉₊

structure Bounded (config : ObservabilityConfig) (tracking : ℚ) (recorder : SpanRecorder) :
    Prop where
  config_same : recorder.config = config
  tracking_same : recorder.trackingMaxSize = tracking
  size_le : recorder.spansByTrace.size ≤ recorder.trackingBound

theorem size_counting (recorder : SpanRecorder) (traceId : String)
    (positive : ¬ recorder.config.maxSpansPerTrace ≤ 0)
    (bounded : recorder.spansByTrace.size ≤ recorder.trackingBound) :
    (recorder.counting traceId).spansByTrace.size ≤ recorder.trackingBound := by
  have grown : (recorder.counting traceId).spansByTrace.size ≤ recorder.evicted.size + 1 := by
    unfold counting
    rw [InsertionMap.size_set]
    split <;> omega
  unfold trackingBound at bounded ⊢
  rw [if_neg positive] at bounded ⊢
  by_cases full : recorder.trackingMaxSize ≤ recorder.spansByTrace.size
  · have shrunk : recorder.evicted.size =
        recorder.spansByTrace.size - recorder.spansByTrace.size / 2 := by
      unfold evicted
      rw [if_pos full, InsertionMap.size_dropFirst]
    omega
  · have kept : recorder.evicted = recorder.spansByTrace := by
      unfold evicted
      rw [if_neg full]
    have room : recorder.spansByTrace.size < ⌈recorder.trackingMaxSize⌉₊ :=
      Nat.lt_ceil.mpr (not_le.mp full)
    rw [kept] at grown
    omega

theorem Bounded.recordSpan {config : ObservabilityConfig} {tracking : ℚ}
    {recorder : SpanRecorder} (bounded : Bounded config tracking recorder) (rounded : ℚ → ℚ)
    (span : TraceSpan) : Bounded config tracking (recorder.recordSpan rounded span).2 := by
  rcases recordSpan_cases rounded recorder span with refused | ⟨room, recorded⟩
  · rw [refused]
    exact bounded
  · rw [recorded]
    have positive : ¬ recorder.config.maxSpansPerTrace ≤ 0 := by
      intro none_allowed
      have counts : (0 : ℚ) ≤ recorder.counted span.traceId := Nat.cast_nonneg _
      exact absurd (lt_of_le_of_lt counts room) (not_lt.mpr none_allowed)
    exact ⟨bounded.config_same, bounded.tracking_same,
      size_counting recorder span.traceId positive bounded.size_le⟩

theorem Bounded.recordAll {config : ObservabilityConfig} {tracking : ℚ} (rounded : ℚ → ℚ) :
    ∀ (spans : List TraceSpan) {recorder : SpanRecorder}, Bounded config tracking recorder →
      Bounded config tracking (recordAll rounded recorder spans).2 := by
  intro spans
  induction spans with
  | nil => intro recorder bounded; exact bounded
  | cons span rest ih =>
      intro recorder bounded
      exact ih (bounded.recordSpan rounded span)

theorem construct_bounded (exporters : Option (List SpanExporter)) (config : ObservabilityConfig) :
    Bounded config (min 10000 (config.maxSpansPerTrace * 20)) (construct exporters config) :=
  ⟨rfl, rfl, Nat.zero_le _⟩

theorem trackingBound_whole (config : ObservabilityConfig) (count : Nat)
    (whole : config.maxSpansPerTrace = count) (recorder : SpanRecorder)
    (bounded : Bounded config (min 10000 (config.maxSpansPerTrace * 20)) recorder) :
    (recorder.spansByTrace.size : ℚ) ≤ recorder.trackingMaxSize := by
  have size := bounded.size_le
  have spelled : recorder.trackingMaxSize = ((min 10000 (count * 20) : Nat) : ℚ) := by
    rw [bounded.tracking_same, whole]
    push_cast
    rfl
  unfold trackingBound at size
  rw [bounded.config_same, whole, spelled, Nat.ceil_natCast] at size
  rw [spelled]
  apply Nat.cast_le.mpr
  by_cases none_allowed : (count : ℚ) ≤ 0
  · rw [if_pos none_allowed] at size
    omega
  · rw [if_neg none_allowed] at size
    have some_allowed : 0 < count := Nat.cast_pos.mp (not_le.mp none_allowed)
    omega

/--
A trace is exported at most `maxSpansPerTrace` times, and as often again for each time its count was
evicted. The map of counts stays within its limit, or within two entries below that.
-/
theorem span_budget (rounded : ℚ → ℚ) (exporters : Option (List SpanExporter))
    (config : ObservabilityConfig) (spans : List TraceSpan) (traceId : String) (place : Nat) :
    let start := construct exporters config
    let run := recordAll rounded start spans
    let budget := 1 + evictionsOf rounded traceId start spans
    exportsOf traceId place run.1 ≤ ⌈config.maxSpansPerTrace⌉₊ * budget ∧
    run.2.trackingMaxSize = min 10000 (config.maxSpansPerTrace * 20) ∧
    run.2.spansByTrace.size ≤
      (if config.maxSpansPerTrace ≤ 0 then 0 else max 2 ⌈run.2.trackingMaxSize⌉₊) ∧
    ∀ count : Nat, config.maxSpansPerTrace = count →
      exportsOf traceId place run.1 ≤ count * budget ∧
      (run.2.spansByTrace.size : ℚ) ≤ run.2.trackingMaxSize := by
  intro start run budget
  have exported := exports_run rounded traceId place spans start (Nat.zero_le _)
  have empty : start.counted traceId = 0 := rfl
  rw [empty, Nat.add_zero] at exported
  have bounded := (construct_bounded exporters config).recordAll rounded spans
  refine ⟨exported, bounded.tracking_same, ?_, ?_⟩
  · have size := bounded.size_le
    unfold trackingBound at size
    rw [bounded.config_same] at size
    exact size
  · intro count whole
    constructor
    · have ceiling : ⌈config.maxSpansPerTrace⌉₊ = count := by rw [whole, Nat.ceil_natCast]
      rw [← ceiling]
      exact exported
    · exact trackingBound_whole config count whole _ bounded

/-! ### A trace exported beyond its budget -/

def plainSpan (traceId : String) : TraceSpan where
  traceId := traceId
  spanId := "span"
  parentSpanId := ""
  operation := "worker.execute"
  component := "worker"
  startTs := 1
  endTs := 2
  status := "OK"

def oneSpanEach : ObservabilityConfig := ⟨true, true, 900, 1, 1⟩

def twentyOthers : List TraceSpan :=
  (List.range 20).map fun index => plainSpan (String.ofList (List.replicate (index + 1) 'u'))

theorem budget_exceeded :
    ¬ (exportsOf "first" 0 (recordAll id (construct none oneSpanEach)
        (plainSpan "first" :: twentyOthers ++ [plainSpan "first"])).1 : ℚ) ≤
      oneSpanEach.maxSpansPerTrace := by
  decide +kernel

theorem span_budget_first :
    exportsOf "first" 0 (recordAll id (construct none oneSpanEach)
        (plainSpan "first" :: twentyOthers ++ [plainSpan "first"])).1 ≤
      1 * (1 + evictionsOf id "first" (construct none oneSpanEach)
        (plainSpan "first" :: twentyOthers ++ [plainSpan "first"])) :=
  ((span_budget id none oneSpanEach (plainSpan "first" :: twentyOthers ++ [plainSpan "first"])
    "first" 0).2.2.2 1 rfl).1

end ByFramework.SpanRecorder
