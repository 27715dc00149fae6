import Mathlib.Order.Bounds.Basic
import ByFramework.SpanPayload

/-! The start and the last update of a trace, as its spans are exported one after the other. -/

namespace ByFramework

def normalizedEnd (span : TraceSpan) : Int := max span.startTs span.endTs

theorem payloadNumber_end (span : TraceSpan) (started : 0 < span.startTs) :
    payloadNumber (traceSpanToPayload span) "end_ts" span.startTs = normalizedEnd span := by
  have found : (traceSpanToPayload span).lookup "end_ts" = some (.number (normalizedEnd span)) := by
    apply lookup_filter_kept rfl
    rfl
  have positive : normalizedEnd span ≠ 0 := by
    unfold normalizedEnd
    omega
  unfold payloadNumber
  rw [found]
  exact if_neg positive

def timeCommands (ttlSeconds : Nat) (span : TraceSpan) (start updated : Int) : List TraceCommand :=
  [.hset (.traceMeta span.traceId) "start_ts" (.number start),
    .hset (.traceMeta span.traceId) "updated_at" (.number updated),
    .expire (.traceMeta span.traceId) ttlSeconds,
    .rpush (.traceSpans span.traceId) (.span (traceSpanToPayload span)),
    .expire (.traceSpans span.traceId) ttlSeconds]

theorem exportSpanPipeline_ends (ttlSeconds : Nat) (span : TraceSpan) (existing : Int)
    (started : 0 < span.startTs) :
    ∃ front, exportSpanPipeline ttlSeconds span existing = front ++ timeCommands ttlSeconds span
      (if 0 < existing ∧ 0 < span.startTs then min existing span.startTs
        else if existing = 0 then span.startTs else existing)
      (max existing (normalizedEnd span)) := by
  unfold exportSpanPipeline timeCommands
  dsimp only
  rw [payloadText_traceId, payloadNumber_start, payloadNumber_end span started]
  exact ⟨_, rfl⟩

theorem apply_timeCommands (front : List TraceCommand) (store : TraceStore) (ttlSeconds : Nat)
    (span : TraceSpan) (start updated : Int) :
    let after := (front ++ timeCommands ttlSeconds span start updated).foldl TraceStore.apply store
    after.hashes (.traceMeta span.traceId) "start_ts" = some (.number start) ∧
      after.hashes (.traceMeta span.traceId) "updated_at" = some (.number updated) := by
  intro after
  have split : after = _ := List.foldl_append
  rw [split]
  constructor
  · simp [timeCommands, TraceStore.apply]
  · simp [timeCommands, TraceStore.apply]

theorem hashes_indexField (store : TraceStore) (payload : JsonObject) (field : String)
    (key : String → KeyName) : (store.indexField payload field key).hashes = store.hashes := by
  unfold TraceStore.indexField
  split <;> rfl

theorem exportSpan_times (ttlSeconds : Nat) (store : TraceStore) (span : TraceSpan)
    (started : 0 < span.startTs) :
    let existing := store.existingStartTs (.traceMeta span.traceId)
    let after := exportSpan ttlSeconds store span
    after.hashes (.traceMeta span.traceId) "start_ts" =
        some (.number (if 0 < existing ∧ 0 < span.startTs then min existing span.startTs
          else if existing = 0 then span.startTs else existing)) ∧
      after.hashes (.traceMeta span.traceId) "updated_at" =
        some (.number (max existing (normalizedEnd span))) := by
  intro existing after
  have indexed : after.hashes = ((exportSpanPipeline ttlSeconds span existing).foldl
      TraceStore.apply store).hashes := by
    unfold after exportSpan
    rw [hashes_indexField, hashes_indexField, hashes_indexField, payloadText_traceId]
  obtain ⟨front, ends⟩ := exportSpanPipeline_ends ttlSeconds span existing started
  rw [indexed, ends]
  exact apply_timeCommands front store ttlSeconds span _ _

/-! ### Runs -/

/-- The spans exported one after the other, all while the keys live. -/
def exportAll (ttlSeconds : Nat) (spans : List TraceSpan) : TraceStore :=
  spans.foldl (exportSpan ttlSeconds) .empty

def storedNumber (store : TraceStore) (traceId field : String) : Option Int :=
  match store.hashes (.traceMeta traceId) field with
  | some (.number value) => some value
  | _ => none

def startsOf (spans : List TraceSpan) : Set Int := {time | ∃ span ∈ spans, span.startTs = time}

def endsOf (spans : List TraceSpan) : Set Int := {time | ∃ span ∈ spans, normalizedEnd span = time}

/-- The metadata holds the least start and the greatest normalized end. -/
def Envelope (store : TraceStore) (traceId : String) (spans : List TraceSpan) : Prop :=
  (∃ start, storedNumber store traceId "start_ts" = some start ∧ IsLeast (startsOf spans) start) ∧
  ∃ updated, storedNumber store traceId "updated_at" = some updated ∧
    IsGreatest (endsOf spans) updated

def OnTrace (traceId : String) (spans : List TraceSpan) : Prop :=
  ∀ span ∈ spans, span.traceId = traceId ∧ 0 < span.startTs ∧ 0 < span.endTs

/-- No earlier span ends after the last, or all earlier ones begin and end at one instant. -/
def LastEndsLast (spans : List TraceSpan) : Prop :=
  ∀ earlier last, spans = earlier ++ [last] →
    (∀ span ∈ earlier, normalizedEnd span ≤ normalizedEnd last) ∨
    ∃ instant, ∀ span ∈ earlier, span.startTs = instant ∧ normalizedEnd span = instant

theorem start_le_normalizedEnd (span : TraceSpan) : span.startTs ≤ normalizedEnd span :=
  le_max_left _ _

theorem exportAll_last (ttlSeconds : Nat) (earlier : List TraceSpan) (last : TraceSpan) :
    exportAll ttlSeconds (earlier ++ [last]) =
      exportSpan ttlSeconds (exportAll ttlSeconds earlier) last :=
  List.foldl_concat _ _ _ _

theorem existingStartTs_exportAll (ttlSeconds : Nat) (traceId : String) (spans : List TraceSpan)
    (onTrace : OnTrace traceId spans) :
    (spans = [] ∧ (exportAll ttlSeconds spans).existingStartTs (.traceMeta traceId) = 0) ∨
    IsLeast (startsOf spans)
      ((exportAll ttlSeconds spans).existingStartTs (.traceMeta traceId)) := by
  induction spans using List.reverseRecOn with
  | nil => exact .inl ⟨rfl, rfl⟩
  | append_singleton earlier last ih =>
      obtain ⟨same, started, _⟩ := onTrace last (by simp)
      have before := ih fun span listed => onTrace span (by simp [listed])
      have written := (exportSpan_times ttlSeconds (exportAll ttlSeconds earlier) last started).1
      rw [same] at written
      right
      rw [exportAll_last]
      unfold TraceStore.existingStartTs
      rw [written]
      change IsLeast _ (if _ then _ else _)
      rcases before with ⟨empty, zero⟩ | ⟨⟨first, listed, attained⟩, least⟩
      · rw [zero, empty]
        refine ⟨⟨last, by simp, by simp⟩, ?_⟩
        rintro _ ⟨span, listed, rfl⟩
        have only : span = last := by simpa using listed
        simp [only]
      · have positive : 0 < first.startTs := (onTrace first (by simp [listed])).2.1
        rw [attained] at positive
        rw [if_pos ⟨positive, started⟩]
        constructor
        · rcases min_choice ((exportAll ttlSeconds earlier).existingStartTs (.traceMeta traceId))
            last.startTs with chosen | chosen
          · rw [chosen]
            exact ⟨first, by simp [listed], attained⟩
          · rw [chosen]
            exact ⟨last, by simp, rfl⟩
        · rintro _ ⟨span, placed, rfl⟩
          rcases List.mem_append.mp placed with early | late
          · exact le_trans (min_le_left _ _) (least ⟨span, early, rfl⟩)
          · have only : span = last := by simpa using late
            rw [only]
            exact min_le_right _ _

theorem exportAll_times (ttlSeconds : Nat) (traceId : String) (earlier : List TraceSpan)
    (last : TraceSpan) (onTrace : OnTrace traceId (earlier ++ [last])) :
    let existing := (exportAll ttlSeconds earlier).existingStartTs (.traceMeta traceId)
    (∃ start, storedNumber (exportAll ttlSeconds (earlier ++ [last])) traceId "start_ts" =
        some start ∧ IsLeast (startsOf (earlier ++ [last])) start) ∧
      storedNumber (exportAll ttlSeconds (earlier ++ [last])) traceId "updated_at" =
        some (max existing (normalizedEnd last)) := by
  intro existing
  obtain ⟨same, started, _⟩ := onTrace last (by simp)
  have written := exportSpan_times ttlSeconds (exportAll ttlSeconds earlier) last started
  rw [same] at written
  constructor
  · have known := existingStartTs_exportAll ttlSeconds traceId (earlier ++ [last]) onTrace
    rcases known with ⟨empty, _⟩ | least
    · simp at empty
    · refine ⟨_, ?_, least⟩
      unfold TraceStore.existingStartTs storedNumber
      rw [exportAll_last, written.1]
  · unfold storedNumber
    rw [exportAll_last, written.2]

theorem upperBound_append {earlier : List TraceSpan} {last : TraceSpan} {bound : Int}
    (before : ∀ span ∈ earlier, normalizedEnd span ≤ bound) (final : normalizedEnd last ≤ bound) :
    bound ∈ upperBounds (endsOf (earlier ++ [last])) := by
  rintro _ ⟨span, placed, rfl⟩
  rcases List.mem_append.mp placed with listed | only
  · exact before span listed
  · rw [List.mem_singleton.mp only]
    exact final

section Update

variable {earlier : List TraceSpan} {last : TraceSpan} {existing : Int}

theorem lastEndsLast_of_greatest
    (known : (earlier = [] ∧ existing = 0) ∨ IsLeast (startsOf earlier) existing)
    (greatest : IsGreatest (endsOf (earlier ++ [last])) (max existing (normalizedEnd last))) :
    LastEndsLast (earlier ++ [last]) := by
  intro front final spelled
  obtain ⟨rfl, finals⟩ := List.append_inj' spelled rfl
  cases finals
  have bound (span : TraceSpan) (listed : span ∈ earlier) :=
    greatest.2 ⟨span, List.mem_append_left _ listed, rfl⟩
  by_cases later : existing ≤ normalizedEnd last
  · left
    rw [max_eq_right later] at bound
    exact bound
  · right
    refine ⟨existing, fun span listed => ?_⟩
    rcases known with ⟨empty, _⟩ | least
    · rw [empty] at listed
      cases listed
    · have most := bound span listed
      have begins := least.2 ⟨span, listed, rfl⟩
      have ends := start_le_normalizedEnd span
      rw [max_eq_left (by omega)] at most
      constructor
      · omega
      · omega

theorem greatest_of_lastEndsLast (started : 0 < last.startTs)
    (known : (earlier = [] ∧ existing = 0) ∨ IsLeast (startsOf earlier) existing)
    (endsLast : LastEndsLast (earlier ++ [last])) :
    IsGreatest (endsOf (earlier ++ [last])) (max existing (normalizedEnd last)) := by
  have lastEnd := start_le_normalizedEnd last
  have attainedLast : normalizedEnd last ∈ endsOf (earlier ++ [last]) := ⟨last, by simp, rfl⟩
  rcases known with ⟨empty, zero⟩ | ⟨⟨first, listed, attained⟩, least⟩
  · rw [zero, max_eq_right (by omega)]
    refine ⟨attainedLast, upperBound_append (fun span listed => ?_) le_rfl⟩
    rw [empty] at listed
    cases listed
  · have firstEnd := start_le_normalizedEnd first
    rcases endsLast earlier last rfl with bounded | ⟨instant, together⟩
    · have firstBound := bounded first listed
      rw [max_eq_right (by omega)]
      exact ⟨attainedLast, upperBound_append bounded le_rfl⟩
    · have begins : existing = instant := attained.symm.trans (together first listed).1
      constructor
      · rcases max_choice existing (normalizedEnd last) with chosen | chosen
        · rw [chosen, begins]
          exact ⟨first, List.mem_append_left _ listed, (together first listed).2⟩
        · rw [chosen]
          exact attainedLast
      · refine upperBound_append (fun span before => ?_) (le_max_right _ _)
        rw [(together span before).2, begins]
        exact le_max_left _ _

end Update

/-- The stored times are the envelope of the spans exactly when the last span ends last. -/
theorem envelope_iff (ttlSeconds : Nat) (traceId : String) (spans : List TraceSpan)
    (some_spans : spans ≠ []) (onTrace : OnTrace traceId spans) :
    Envelope (exportAll ttlSeconds spans) traceId spans ↔ LastEndsLast spans := by
  obtain ⟨earlier, last, rfl⟩ : ∃ earlier last, spans = earlier ++ [last] :=
    ⟨_, _, (List.dropLast_append_getLast some_spans).symm⟩
  obtain ⟨started, stored⟩ := exportAll_times ttlSeconds traceId earlier last onTrace
  have early : OnTrace traceId earlier := fun span listed => onTrace span (by simp [listed])
  have known := existingStartTs_exportAll ttlSeconds traceId earlier early
  constructor
  · rintro ⟨_, updated, found, greatest⟩
    rw [stored] at found
    cases found
    exact lastEndsLast_of_greatest known greatest
  · intro endsLast
    have lastStart := (onTrace last (by simp)).2.1
    exact ⟨started, _, stored, greatest_of_lastEndsLast lastStart known endsLast⟩

def timedSpan (startTs endTs : Int) : TraceSpan where
  traceId := "trace"
  spanId := "span"
  parentSpanId := ""
  operation := "worker.execute"
  component := "worker"
  startTs := startTs
  endTs := endTs
  status := "OK"

theorem envelope_iff_ordered :
    OnTrace "trace" [timedSpan 20 50, timedSpan 10 100] ∧
      (Envelope (exportAll 900 [timedSpan 20 50, timedSpan 10 100]) "trace"
        [timedSpan 20 50, timedSpan 10 100] ↔
        LastEndsLast [timedSpan 20 50, timedSpan 10 100]) := by
  have onTrace : OnTrace "trace" [timedSpan 20 50, timedSpan 10 100] := by
    intro span listed
    simp only [List.mem_cons, List.not_mem_nil, or_false] at listed
    rcases listed with rfl | rfl
    · exact ⟨rfl, by decide, by decide⟩
    · exact ⟨rfl, by decide, by decide⟩
  exact ⟨onTrace, envelope_iff 900 "trace" _ (List.cons_ne_nil _ _) onTrace⟩

/-- The parent's end at 100 is forgotten when its child's, at 50, is exported after it. -/
theorem envelope_forgotten :
    ¬ Envelope (exportAll 900 [timedSpan 10 100, timedSpan 20 50]) "trace"
      [timedSpan 10 100, timedSpan 20 50] := by
  rintro ⟨_, updated, found, _, greatest⟩
  have stored : storedNumber (exportAll 900 [timedSpan 10 100, timedSpan 20 50]) "trace"
      "updated_at" = some 50 := by decide +kernel
  have bound := greatest ⟨timedSpan 10 100, List.mem_cons_self, rfl⟩
  rw [stored] at found
  cases found
  exact absurd bound (by decide)

end ByFramework
