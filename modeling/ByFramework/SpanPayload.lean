import ByFramework.SpanRecorderCore

/-! What can be read back from the payload of a span. -/

namespace ByFramework

theorem lookup_filter_compact {rest : JsonObject} {name : String}
    (absent : ∀ field ∈ rest, field.1 ≠ name) :
    (rest.filter fun field => isCompact field.2).lookup name = none := by
  rw [List.lookup_eq_none_iff]
  intro field kept
  have differs := absent field (List.mem_filter.mp kept).1
  simpa using differs.symm

theorem mem_presentField {name : String} {value : Option JsonValue} {field : String × JsonValue}
    (listed : field ∈ presentField name value) : field.1 = name := by
  unfold presentField at listed
  split at listed
  · cases listed
  · cases listed
  · rw [List.mem_singleton] at listed
    rw [listed]

theorem mem_filledField {name : String} {fields : JsonObject} {field : String × JsonValue}
    (listed : field ∈ filledField name fields) : field.1 = name := by
  unfold filledField at listed
  split at listed
  · cases listed
  · rw [List.mem_singleton] at listed
    rw [listed]

theorem payloadText_traceId (span : TraceSpan) :
    payloadText (traceSpanToPayload span) "trace_id" = span.traceId := by
  have begins : payloadFields span =
      ("trace_id", .string span.traceId) :: (payloadFields span).tail := rfl
  unfold traceSpanToPayload
  rw [begins]
  dsimp only [List.cons_append]
  rw [List.filter_cons]
  split
  · simp [payloadText]
  · rename_i dropped
    have blank : span.traceId = "" := by simpa [isCompact] using dropped
    unfold payloadText
    rw [lookup_filter_compact]
    · exact blank.symm
    · intro field listed
      simp only [List.mem_append] at listed
      rcases listed with ((((fixed | input) | output) | tokens) | cost) | metadata
      · intro same
        have named : "trace_id" ∈ (payloadFields span).tail.map Prod.fst :=
          List.mem_map.mpr ⟨field, fixed, same⟩
        simp [payloadFields] at named
      · rw [mem_presentField input]
        decide
      · rw [mem_presentField output]
        decide
      · rw [mem_filledField tokens]
        decide
      · rw [mem_filledField cost]
        decide
      · rw [mem_filledField metadata]
        decide

theorem lookup_filter_kept {name : String} {value : JsonValue} (compact : isCompact value = true) :
    ∀ {fields : JsonObject}, fields.lookup name = some value →
      (fields.filter fun field => isCompact field.2).lookup name = some value := by
  intro fields
  induction fields with
  | nil => intro found; cases found
  | cons field rest ih =>
      obtain ⟨other, held⟩ := field
      intro found
      rw [List.lookup_cons] at found
      rw [List.filter_cons]
      cases same : name == other with
      | true =>
          rw [same] at found
          cases found
          rw [if_pos compact, List.lookup_cons, same]
      | false =>
          rw [same] at found
          split
          · rw [List.lookup_cons, same]
            exact ih found
          · exact ih found

theorem payloadNumber_start (span : TraceSpan) :
    payloadNumber (traceSpanToPayload span) "start_ts" 0 = span.startTs := by
  have found : (traceSpanToPayload span).lookup "start_ts" = some (.number span.startTs) := by
    apply lookup_filter_kept rfl
    rfl
  unfold payloadNumber
  rw [found]
  dsimp only
  split
  · rename_i zero
    exact zero.symm
  · rfl

end ByFramework
