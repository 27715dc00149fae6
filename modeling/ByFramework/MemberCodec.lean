import ByFramework.WaitReply

/-! Which texts are wait-index members, and which of them are spelled the way members are. -/

namespace ByFramework

def trailingEscapes (chars : List Char) : Nat :=
  (chars.reverse.takeWhile fun char => decide (char = '\\')).length

/-- The character at a position is escaped when the run of escape characters before it is odd. -/
def EscapedAt (chars : List Char) (position : Nat) : Prop :=
  trailingEscapes (chars.take position) % 2 = 1

instance (chars : List Char) (position : Nat) : Decidable (EscapedAt chars position) :=
  inferInstanceAs (Decidable (_ = _))

def unescapedSeparators (chars : List Char) : Nat :=
  ((List.range chars.length).filter fun position =>
    decide (chars[position]? = some '|' ∧ ¬ EscapedAt chars position)).length

def DanglingEscape (chars : List Char) : Prop := EscapedAt chars chars.length

/-- Every escape of the text is `\\` or `\|`. -/
def EscapesNeeded (chars : List Char) : Prop :=
  ∀ position char, chars[position]? = some char → EscapedAt chars position →
    char = '\\' ∨ char = '|'

theorem trailingEscapes_snoc (chars : List Char) (char : Char) :
    trailingEscapes (chars ++ [char]) = if char = '\\' then trailingEscapes chars + 1 else 0 := by
  unfold trailingEscapes
  rw [List.reverse_append, List.reverse_singleton, List.singleton_append, List.takeWhile_cons]
  by_cases isEscape : char = '\\' <;> simp [isEscape]

/-! ### The scan -/

def pendingAfter (passed : List Char) : Bool := decide (trailingEscapes passed % 2 = 1)

theorem pendingAfter_snoc (passed : List Char) (char : Char) :
    pendingAfter (passed ++ [char]) = (!pendingAfter passed && decide (char = '\\')) := by
  simp only [pendingAfter, trailingEscapes_snoc]
  by_cases isEscape : char = '\\'
  · simp only [isEscape, ↓reduceIte, decide_true, Bool.and_true]
    by_cases odd : trailingEscapes passed % 2 = 1
    · have even : ¬ (trailingEscapes passed + 1) % 2 = 1 := by omega
      simp [odd, even]
    · have next : (trailingEscapes passed + 1) % 2 = 1 := by omega
      simp [odd, next]
  · simp [isEscape]

/-- The unescaped separators that the scan still meets behind a text it has passed. -/
def separatorsAhead (passed rest : List Char) : Nat :=
  ((List.range rest.length).filter fun offset =>
    decide (rest[offset]? = some '|') && !pendingAfter (passed ++ rest.take offset)).length

theorem separatorsAhead_cons (passed : List Char) (char : Char) (rest : List Char) :
    separatorsAhead passed (char :: rest) =
      (if char = '|' ∧ pendingAfter passed = false then 1 else 0) +
        separatorsAhead (passed ++ [char]) rest := by
  have shifted : (fun offset => decide ((char :: rest)[offset]? = some '|') &&
      !pendingAfter (passed ++ (char :: rest).take offset)) ∘ Nat.succ =
        fun offset => decide (rest[offset]? = some '|') &&
          !pendingAfter ((passed ++ [char]) ++ rest.take offset) := by
    funext offset
    simp
  unfold separatorsAhead
  rw [List.length_cons, List.range_succ_eq_map, List.filter_cons, List.filter_map, shifted]
  by_cases splits : char = '|' ∧ pendingAfter passed = false
  · simp [splits, Nat.add_comm]
  · have kept : (decide ((char :: rest)[0]? = some '|') &&
        !pendingAfter (passed ++ (char :: rest).take 0)) = false := by
      by_contra met
      refine splits ?_
      simpa using met
    rw [if_neg splits, kept]
    simp

theorem unescapedSeparators_eq (chars : List Char) :
    unescapedSeparators chars = separatorsAhead [] chars := by
  unfold unescapedSeparators separatorsAhead
  congr 2
  funext position
  refine Bool.eq_iff_iff.mpr ?_
  simp [EscapedAt, pendingAfter]

theorem splitScan_spec (passed rest : List Char) (fields : List String) (current : List Char) :
    (splitScan rest fields current (pendingAfter passed) = none ↔
        pendingAfter (passed ++ rest) = true) ∧
      ∀ found, splitScan rest fields current (pendingAfter passed) = some found →
        found.length = fields.length + 1 + separatorsAhead passed rest := by
  induction rest generalizing passed fields current with
  | nil =>
      rw [List.append_nil]
      cases pending : pendingAfter passed with
      | true => simp [splitScan]
      | false => simp [splitScan, separatorsAhead]
  | cons char rest ih =>
      have next := pendingAfter_snoc passed char
      have joined : passed ++ char :: rest = (passed ++ [char]) ++ rest := by simp
      rw [joined, separatorsAhead_cons]
      cases pending : pendingAfter passed with
      | true =>
          rw [pending] at next
          have ahead := ih (passed ++ [char]) fields (current ++ [char])
          rw [next] at ahead
          simpa [splitScan] using ahead
      | false =>
          rw [pending] at next
          by_cases slash : char = '\\'
          · have ahead := ih (passed ++ [char]) fields current
            rw [next] at ahead
            simpa [splitScan, slash] using ahead
          · by_cases bar : char = '|'
            · have ahead := ih (passed ++ [char]) (fields ++ [String.ofList current]) []
              rw [next] at ahead
              simp only [Bool.not_false, slash, decide_false, Bool.and_false] at ahead
              rw [splitScan, if_neg (by simp), if_neg slash, if_pos bar]
              refine ⟨ahead.1, fun found scanned => ?_⟩
              have count := ahead.2 found scanned
              rw [List.length_append, List.length_singleton] at count
              rw [if_pos ⟨bar, rfl⟩]
              omega
            · have ahead := ih (passed ++ [char]) fields (current ++ [char])
              rw [next] at ahead
              simpa [splitScan, slash, bar] using ahead

theorem decodeMember_ok_iff (text : String) (member : WaitIndexMember) :
    decodeMember text = .ok member ↔ splitScan text.toList [] [] false =
      some [member.sessionId, member.parentMessageId, member.childMessageId,
        member.taskGroupId] := by
  unfold decodeMember splitEscaped
  cases scanned : splitScan text.toList [] [] false with
  | none =>
      constructor
      · intro decoded
        cases decoded
      · intro split
        cases split
  | some fields =>
      simp only [bind, Except.bind]
      split
      · constructor
        · intro decoded
          cases decoded
          rfl
        · intro split
          cases split
          rfl
      · rename_i other
        constructor
        · intro decoded
          cases decoded
        · intro split
          exact (other _ _ _ _ (Option.some.inj split)).elim

theorem decodeMember_accepts_iff (text : String) :
    (∃ member, decodeMember text = .ok member) ↔
      unescapedSeparators text.toList = 3 ∧ ¬ DanglingEscape text.toList := by
  have spec := splitScan_spec [] text.toList [] []
  have dangling : DanglingEscape text.toList ↔ pendingAfter ([] ++ text.toList) = true := by
    simp only [DanglingEscape, EscapedAt, List.take_length, List.nil_append, pendingAfter,
      decide_eq_true_eq]
  rw [← dangling, show pendingAfter [] = false from rfl] at spec
  rw [unescapedSeparators_eq]
  constructor
  · rintro ⟨member, decoded⟩
    have scanned := (decodeMember_ok_iff text member).mp decoded
    have count := spec.2 _ scanned
    simp only [List.length_cons, List.length_nil] at count
    refine ⟨by omega, fun ends => ?_⟩
    rw [spec.1.mpr ends] at scanned
    cases scanned
  · rintro ⟨three, intact⟩
    cases scanned : splitScan text.toList [] [] false with
    | none => exact (intact (spec.1.mp scanned)).elim
    | some fields =>
        have count := spec.2 fields scanned
        rw [three] at count
        match fields, count with
        | [sessionId, parentMessageId, childMessageId, taskGroupId], _ =>
            exact ⟨⟨sessionId, parentMessageId, childMessageId, taskGroupId⟩,
              (decodeMember_ok_iff text _).mpr scanned⟩

/-! ### Spelling -/

def spellFields : List String → List Char
  | [] => []
  | [field] => escapeField field.toList
  | field :: rest => escapeField field.toList ++ '|' :: spellFields rest

def respell : Bool → List Char → List Char
  | _, [] => []
  | true, char :: rest => escapeField [char] ++ respell false rest
  | false, char :: rest =>
      if char = '\\' then respell true rest else char :: respell false rest

theorem spellFields_snoc (fields : List String) (last : String) :
    spellFields (fields ++ [last]) =
      (fields.flatMap fun field => escapeField field.toList ++ ['|']) ++
        escapeField last.toList := by
  induction fields with
  | nil => rfl
  | cons field rest ih =>
      cases rest with
      | nil => simp [spellFields]
      | cons other others =>
          simp only [List.cons_append, spellFields] at ih ⊢
          rw [ih]
          simp

theorem splitScan_respell (rest : List Char) (fields : List String) (current : List Char)
    (pending : Bool) (found : List String)
    (scanned : splitScan rest fields current pending = some found) :
    spellFields found = spellFields (fields ++ [String.ofList current]) ++
      respell pending rest := by
  induction rest generalizing fields current pending with
  | nil =>
      cases pending with
      | true => simp [splitScan] at scanned
      | false =>
          simp only [splitScan, Bool.false_eq_true, ↓reduceIte, Option.some.injEq] at scanned
          rw [← scanned]
          simp [respell]
  | cons char rest ih =>
      have grows (more : List Char) : spellFields (fields ++ [String.ofList (current ++ more)]) =
          spellFields (fields ++ [String.ofList current]) ++ escapeField more := by
        rw [spellFields_snoc, spellFields_snoc]
        simp only [String.toList_ofList, escapeField_append, List.append_assoc]
      cases pending with
      | true =>
          simp only [splitScan, ↓reduceIte] at scanned
          rw [ih _ _ _ scanned, grows]
          simp [respell]
      | false =>
          by_cases slash : char = '\\'
          · simp only [splitScan, Bool.false_eq_true, slash, ↓reduceIte] at scanned
            rw [ih _ _ _ scanned]
            simp [respell, slash]
          · by_cases bar : char = '|'
            · rw [splitScan, if_neg (by simp), if_neg slash, if_pos bar] at scanned
              rw [ih _ _ _ scanned, spellFields_snoc, spellFields_snoc]
              simp [respell, bar, escapeField_nil]
            · rw [splitScan, if_neg (by simp), if_neg slash, if_neg bar] at scanned
              rw [ih _ _ _ scanned, grows, escapeField_single]
              simp [respell, slash, bar]

theorem respell_eq_iff (passed rest : List Char)
    (intact : pendingAfter (passed ++ rest) = false) :
    (respell (pendingAfter passed) rest =
        if pendingAfter passed = true then '\\' :: rest else rest) ↔
      ∀ offset char, rest[offset]? = some char →
        pendingAfter (passed ++ rest.take offset) = true → char = '\\' ∨ char = '|' := by
  induction rest generalizing passed with
  | nil =>
      rw [List.append_nil] at intact
      simp [respell, intact]
  | cons char rest ih =>
      have joined : passed ++ char :: rest = (passed ++ [char]) ++ rest := by simp
      rw [joined] at intact
      have later := ih (passed ++ [char]) intact
      have next := pendingAfter_snoc passed char
      have parts : (∀ offset other, (char :: rest)[offset]? = some other →
          pendingAfter (passed ++ (char :: rest).take offset) = true →
            other = '\\' ∨ other = '|') ↔
          (pendingAfter passed = true → char = '\\' ∨ char = '|') ∧
          ∀ offset other, rest[offset]? = some other →
            pendingAfter ((passed ++ [char]) ++ rest.take offset) = true →
              other = '\\' ∨ other = '|' := by
        constructor
        · intro all
          refine ⟨fun pending => all 0 char rfl (by simpa using pending), ?_⟩
          intro offset other found pending
          exact all (offset + 1) other (by simpa using found) (by simpa using pending)
        · rintro ⟨first, others⟩ offset other found pending
          cases offset with
          | zero =>
              obtain rfl : char = other := by simpa using found
              exact first (by simpa using pending)
          | succ offset =>
              exact others offset other (by simpa using found) (by simpa using pending)
      rw [parts, ← later]
      cases pending : pendingAfter passed with
      | true =>
          rw [pending] at next
          rw [next]
          by_cases special : char = '\\' ∨ char = '|'
          · simp [respell, escapeField_single, special]
          · obtain ⟨slash, bar⟩ := not_or.mp special
            simp [respell, escapeField_single, slash, bar]
      | false =>
          rw [pending] at next
          rw [next]
          by_cases slash : char = '\\'
          · simp [respell, slash]
          · simp [respell, slash]

theorem encodeMember_spelled (member : WaitIndexMember) :
    (encodeMember member).toList = spellFields [member.sessionId, member.parentMessageId,
      member.childMessageId, member.taskGroupId] := by
  simp [encodeMember, spellFields]

theorem encodeMember_decoded_iff {text : String} {member : WaitIndexMember}
    (decoded : decodeMember text = .ok member) :
    encodeMember member = text ↔ EscapesNeeded text.toList := by
  have scanned := (decodeMember_ok_iff text member).mp decoded
  have respelled := splitScan_respell _ _ _ _ _ scanned
  rw [← encodeMember_spelled] at respelled
  have intact : pendingAfter ([] ++ text.toList) = false := by
    have spec := (splitScan_spec [] text.toList [] []).1
    rw [show pendingAfter [] = false from rfl, scanned] at spec
    exact Bool.eq_false_iff.mpr fun ends => by cases spec.mpr ends
  have whole := respell_eq_iff [] text.toList intact
  have same : encodeMember member = text ↔ respell false text.toList = text.toList := by
    rw [← String.toList_inj, respelled]
    rfl
  rw [same]
  refine Iff.trans whole ?_
  simp only [EscapesNeeded, EscapedAt, pendingAfter, List.nil_append, decide_eq_true_eq]

/-- The codec of wait-index members: what is encoded decodes again, which texts decode, and which
of these are what encoding gives. -/
theorem wait_member_codec :
    (∀ member, decodeMember (encodeMember member) = .ok member) ∧
    Function.Injective encodeMember ∧
    (∀ text, (∃ member, decodeMember text = .ok member) ↔
      unescapedSeparators text.toList = 3 ∧ ¬ DanglingEscape text.toList) ∧
    ∀ text member, decodeMember text = .ok member →
      (encodeMember member = text ↔ EscapesNeeded text.toList) := by
  refine ⟨decodeMember_encodeMember, encodeMember_injective, decodeMember_accepts_iff, ?_⟩
  intro text member decoded
  exact encodeMember_decoded_iff decoded

/-- A member that escapes a letter decodes, and is spelled without that escape. -/
theorem wait_member_codec_needless :
    encodeMember ⟨"ab", "", "c", ""⟩ ≠ "a\\b||c|" := by
  have decoded : decodeMember "a\\b||c|" = .ok ⟨"ab", "", "c", ""⟩ := by decide +kernel
  intro same
  have needed := (wait_member_codec.2.2.2 _ _ decoded).mp same
  have escaped : EscapedAt "a\\b||c|".toList 2 := by decide +kernel
  have letter := needed 2 'b' (by decide +kernel) escaped
  revert letter
  decide

end ByFramework
