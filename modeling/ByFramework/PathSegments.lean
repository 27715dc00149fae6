import ByFramework.SandboxCore

/-! Where a path leads, segment by segment. -/

namespace ByFramework

abbrev Segment := List Char

def dotDot : Segment := "..".toList

def stepTo (allowAboveRoot : Bool) (passed : List Segment) (segment : Segment) : List Segment :=
  if segment = [] ∨ segment = ".".toList then passed
  else if segment = "..".toList then climb allowAboveRoot passed
  else passed ++ [segment]

def walk (allowAboveRoot : Bool) (start segments : List Segment) : List Segment :=
  segments.foldl (stepTo allowAboveRoot) start

theorem walk_append (allowAboveRoot : Bool) (start left right : List Segment) :
    walk allowAboveRoot start (left ++ right) =
      walk allowAboveRoot (walk allowAboveRoot start left) right :=
  List.foldl_append

theorem normalizeSegments_eq (allowAboveRoot : Bool) (segments : List Segment) :
    normalizeSegments allowAboveRoot segments = walk allowAboveRoot [] segments := rfl

def namesOf (text : List Char) : List Segment := (pathSegments text).filter fun name => name ≠ []

structure Named (segment : Segment) : Prop where
  filled : segment ≠ []
  not_dot : segment ≠ ".".toList
  not_dotDot : segment ≠ dotDot

def Blank (segment : Segment) : Prop := segment = [] ∨ segment = ".".toList

theorem segment_cases (segment : Segment) :
    Blank segment ∨ segment = dotDot ∨ Named segment := by
  by_cases blank : Blank segment
  · exact .inl blank
  · by_cases up : segment = dotDot
    · exact .inr (.inl up)
    · exact .inr (.inr ⟨fun empty => blank (.inl empty), fun dot => blank (.inr dot), up⟩)

theorem stepTo_blank (allowAboveRoot : Bool) (passed : List Segment) {segment : Segment}
    (blank : Blank segment) : stepTo allowAboveRoot passed segment = passed :=
  if_pos blank

theorem stepTo_dotDot (allowAboveRoot : Bool) (passed : List Segment) :
    stepTo allowAboveRoot passed dotDot = climb allowAboveRoot passed := rfl

theorem stepTo_named (allowAboveRoot : Bool) (passed : List Segment) {segment : Segment}
    (named : Named segment) : stepTo allowAboveRoot passed segment = passed ++ [segment] := by
  have plain : ¬ segment = "..".toList := named.not_dotDot
  unfold stepTo
  rw [if_neg, if_neg plain]
  rintro (empty | dot)
  · exact named.filled empty
  · exact named.not_dot dot

theorem Named.kept {segment : Segment} (named : Named segment) : ¬ Blank segment := by
  rintro (empty | dot)
  · exact named.filled empty
  · exact named.not_dot dot

theorem walk_named (allowAboveRoot : Bool) : ∀ (names start : List Segment),
    (∀ name ∈ names, Named name) → walk allowAboveRoot start names = start ++ names := by
  intro names
  induction names with
  | nil => intro start _; exact (List.append_nil start).symm
  | cons name rest ih =>
      intro start named
      have step := stepTo_named allowAboveRoot start (named name (by simp))
      have later := ih (start ++ [name]) fun other listed => named other (by simp [listed])
      change walk allowAboveRoot (stepTo allowAboveRoot start name) rest = _
      rw [step, later, List.append_assoc]
      rfl

theorem climb_cases (allowAboveRoot : Bool) (passed : List Segment) :
    climb allowAboveRoot passed = passed ∨ climb allowAboveRoot passed = passed.dropLast ∨
      allowAboveRoot = true ∧ climb allowAboveRoot passed = passed ++ [dotDot] := by
  unfold climb
  split
  · split
    · rename_i allowed
      exact .inr (.inr ⟨allowed, rfl⟩)
    · exact .inl rfl
  · exact .inr (.inl rfl)

theorem walk_induction (holds : List Segment → Prop) (allowAboveRoot : Bool)
    (keeps : ∀ passed segment, holds passed → holds (stepTo allowAboveRoot passed segment)) :
    ∀ (segments start : List Segment), holds start → holds (walk allowAboveRoot start segments) := by
  intro segments
  induction segments with
  | nil => intro start known; exact known
  | cons segment rest ih => intro start known; exact ih _ (keeps start segment known)

theorem named_concat {passed : List Segment} {segment : Segment}
    (known : ∀ name ∈ passed, Named name) (named : Named segment) :
    ∀ name ∈ passed ++ [segment], Named name := by
  intro name listed
  rcases List.mem_append.mp listed with before | last
  · exact known name before
  · rw [List.mem_singleton.mp last]
    exact named

/-- Below the root there are names only. -/
theorem walk_false_named (segments start : List Segment) (named : ∀ name ∈ start, Named name) :
    ∀ name ∈ walk false start segments, Named name := by
  refine walk_induction (fun passed => ∀ name ∈ passed, Named name) false ?_ segments start named
  intro passed segment known
  rcases segment_cases segment with blank | rfl | name
  · rw [stepTo_blank false passed blank]
    exact known
  · rw [stepTo_dotDot]
    rcases climb_cases false passed with same | shorter | ⟨never, _⟩
    · rw [same]
      exact known
    · rw [shorter]
      intro name listed
      exact known name (List.mem_of_mem_dropLast listed)
    · cases never
  · rw [stepTo_named false passed name]
    exact named_concat known name

theorem climb_append_named (allowAboveRoot : Bool) (passed : List Segment) {name : Segment}
    (named : Named name) : climb allowAboveRoot (passed ++ [name]) = passed := by
  unfold climb
  rw [if_neg]
  · exact List.dropLast_concat
  · rintro (empty | last)
    · simp at empty
    · rw [List.getLast?_concat] at last
      exact named.not_dotDot (Option.some.inj last)

theorem mem_stepTo {allowAboveRoot : Bool} {passed : List Segment} {segment other : Segment}
    (listed : other ∈ stepTo allowAboveRoot passed segment) : other ∈ passed ∨ other = segment := by
  have appended : other ∈ passed ++ [segment] → other ∈ passed ∨ other = segment := by
    intro placed
    rcases List.mem_append.mp placed with before | last
    · exact .inl before
    · exact .inr (List.mem_singleton.mp last)
  rcases segment_cases segment with blank | rfl | name
  · rw [stepTo_blank _ _ blank] at listed
    exact .inl listed
  · rw [stepTo_dotDot] at listed
    rcases climb_cases allowAboveRoot passed with same | shorter | ⟨_, longer⟩
    · rw [same] at listed
      exact .inl listed
    · rw [shorter] at listed
      exact .inl (List.mem_of_mem_dropLast listed)
    · rw [longer] at listed
      exact appended listed
  · rw [stepTo_named _ _ name] at listed
    exact appended listed

theorem walk_subset (allowAboveRoot : Bool) : ∀ (segments start : List Segment),
    ∀ segment ∈ walk allowAboveRoot start segments, segment ∈ start ∨ segment ∈ segments := by
  intro segments
  induction segments with
  | nil => intro start segment listed; exact .inl listed
  | cons first rest ih =>
      intro start segment listed
      rcases ih _ segment listed with before | later
      · rcases mem_stepTo before with known | rfl
        · exact .inl known
        · exact .inr List.mem_cons_self
      · exact .inr (List.mem_cons_of_mem _ later)

instance (segment : Segment) : Decidable (Blank segment) := inferInstanceAs (Decidable (_ ∨ _))

def solid (segments : List Segment) : List Segment :=
  segments.filter fun segment => ¬ Blank segment

theorem solid_append (left right : List Segment) :
    solid (left ++ right) = solid left ++ solid right :=
  List.filter_append left right

theorem solid_blank {segment : Segment} (blank : Blank segment) (rest : List Segment) :
    solid (segment :: rest) = solid rest := by
  unfold solid
  rw [List.filter_cons_of_neg (by simpa using blank)]

theorem solid_kept {segment : Segment} (kept : ¬ Blank segment) (rest : List Segment) :
    solid (segment :: rest) = segment :: solid rest := by
  unfold solid
  rw [List.filter_cons_of_pos (by simpa using kept)]

theorem solid_self {segments : List Segment} (kept : ∀ segment ∈ segments, ¬ Blank segment) :
    solid segments = segments := by
  unfold solid
  rw [List.filter_eq_self]
  intro segment listed
  simpa using kept segment listed

theorem walk_solid (allowAboveRoot : Bool) : ∀ (segments start : List Segment),
    walk allowAboveRoot start (solid segments) = walk allowAboveRoot start segments := by
  intro segments
  induction segments with
  | nil => intro start; rfl
  | cons first rest ih =>
      intro start
      by_cases blank : Blank first
      · have stays := stepTo_blank allowAboveRoot start blank
        rw [solid_blank blank, ih start]
        change _ = walk allowAboveRoot (stepTo allowAboveRoot start first) rest
        rw [stays]
      · rw [solid_kept blank]
        exact ih (stepTo allowAboveRoot start first)

/-! ### Normal forms -/

def Normal (segments : List Segment) : Prop :=
  ∃ climbs names, segments = List.replicate climbs dotDot ++ names ∧ ∀ name ∈ names, Named name

theorem climb_climbs (allowAboveRoot : Bool) (climbs : Nat) :
    climb allowAboveRoot (List.replicate climbs dotDot) =
      if allowAboveRoot then List.replicate (climbs + 1) dotDot
      else List.replicate climbs dotDot := by
  unfold climb
  rw [if_pos, List.replicate_succ']
  · rfl
  · cases climbs with
    | zero => exact .inl rfl
    | succ climbs =>
        right
        rw [List.replicate_succ', List.getLast?_concat]
        rfl

theorem Normal.stepTo {passed : List Segment} (normal : Normal passed) (segment : Segment) :
    Normal (stepTo true passed segment) := by
  obtain ⟨climbs, names, rfl, named⟩ := normal
  rcases segment_cases segment with blank | rfl | name
  · rw [stepTo_blank true _ blank]
    exact ⟨climbs, names, rfl, named⟩
  · rw [stepTo_dotDot]
    rcases List.eq_nil_or_concat names with rfl | ⟨front, last, rfl⟩
    · rw [List.append_nil, climb_climbs, if_pos rfl]
      exact ⟨climbs + 1, [], (List.append_nil _).symm, named⟩
    · have lastNamed : Named last := named last (by simp)
      rw [List.concat_eq_append, ← List.append_assoc, climb_append_named true _ lastNamed]
      exact ⟨climbs, front, rfl, fun name listed => named name (by simp [listed])⟩
  · rw [stepTo_named true _ name, List.append_assoc]
    exact ⟨climbs, names ++ [segment], rfl, named_concat named name⟩

theorem normal_walk (segments : List Segment) : Normal (walk true [] segments) :=
  walk_induction Normal true (fun _ segment normal => normal.stepTo segment) segments []
    ⟨0, [], rfl, List.forall_mem_nil _⟩

theorem walk_stepTo (allowAboveRoot : Bool) (start : List Segment) {passed : List Segment}
    (normal : Normal passed) (segment : Segment) :
    walk allowAboveRoot start (stepTo true passed segment) =
      stepTo allowAboveRoot (walk allowAboveRoot start passed) segment := by
  obtain ⟨climbs, names, rfl, named⟩ := normal
  rcases segment_cases segment with blank | rfl | name
  · rw [stepTo_blank true _ blank, stepTo_blank _ _ blank]
  · rw [stepTo_dotDot, stepTo_dotDot]
    rcases List.eq_nil_or_concat names with rfl | ⟨front, last, rfl⟩
    · rw [List.append_nil, climb_climbs, if_pos rfl, List.replicate_succ', walk_append]
      rfl
    · have lastNamed : Named last := named last (by simp)
      have passes := stepTo_named allowAboveRoot
        (walk allowAboveRoot start (List.replicate climbs dotDot ++ front)) lastNamed
      rw [List.concat_eq_append, ← List.append_assoc, climb_append_named true _ lastNamed,
        walk_append _ _ _ [last]]
      change _ = climb allowAboveRoot (ByFramework.stepTo allowAboveRoot _ last)
      rw [passes, climb_append_named allowAboveRoot _ lastNamed]
  · rw [stepTo_named true _ name, walk_append]
    rfl

theorem walk_normalized (allowAboveRoot : Bool) (start segments : List Segment) :
    walk allowAboveRoot start (walk true [] segments) = walk allowAboveRoot start segments := by
  induction segments using List.reverseRecOn with
  | nil => rfl
  | append_singleton front last ih =>
      have steps : walk true [] (front ++ [last]) = stepTo true (walk true [] front) last :=
        walk_append true [] front [last]
      rw [steps, walk_stepTo allowAboveRoot start (normal_walk front), ih,
        walk_append _ _ _ [last]]
      rfl

theorem walk_false_normalized (segments : List Segment) :
    walk false [] (walk false [] segments) = walk false [] segments := by
  have named := walk_false_named segments [] (List.forall_mem_nil _)
  rw [walk_named false _ [] named]
  rfl

def climbsOf (segments : List Segment) : Nat :=
  ((walk true [] segments).takeWhile fun segment => segment = dotDot).length

def descentOf (segments : List Segment) : List Segment :=
  (walk true [] segments).dropWhile fun segment => segment = dotDot

theorem normalForm (segments : List Segment) :
    walk true [] segments = List.replicate (climbsOf segments) dotDot ++ descentOf segments ∧
      ∀ name ∈ descentOf segments, Named name := by
  obtain ⟨climbs, names, spelled, named⟩ := normal_walk segments
  have taken : (walk true [] segments).takeWhile (fun segment => segment = dotDot) =
      List.replicate climbs dotDot := by
    rw [spelled, List.takeWhile_append_of_pos (by simp)]
    cases names with
    | nil => simp
    | cons first rest =>
        have other : first ≠ dotDot := (named first (by simp)).not_dotDot
        simp [other]
  have dropped : descentOf segments = names := by
    unfold descentOf
    rw [spelled, List.dropWhile_append_of_pos (by simp)]
    cases names with
    | nil => rfl
    | cons first rest =>
        have other : first ≠ dotDot := (named first (by simp)).not_dotDot
        simp [other]
  have counted : climbsOf segments = climbs := by
    unfold climbsOf
    rw [taken, List.length_replicate]
  rw [counted, dropped]
  exact ⟨spelled, named⟩

theorem walk_climbs : ∀ (climbs : Nat) (start : List Segment), (∀ name ∈ start, Named name) →
    walk false start (List.replicate climbs dotDot) = start.take (start.length - climbs) := by
  intro climbs
  induction climbs with
  | zero =>
      intro start _
      have whole : start.take (start.length - 0) = start := List.take_of_length_le (by omega)
      rw [whole]
      rfl
  | succ climbs ih =>
      intro start named
      rcases List.eq_nil_or_concat start with rfl | ⟨front, last, rfl⟩
      · have root : walk false [] (List.replicate (climbs + 1) dotDot) =
            walk false [] (List.replicate climbs dotDot) := rfl
        rw [root, ih [] named, List.take_nil, List.take_nil]
      · rw [List.concat_eq_append] at named ⊢
        have lastNamed : Named last := named last (by simp)
        change walk false (climb false (front ++ [last])) _ = _
        rw [climb_append_named false front lastNamed,
          ih front fun name listed => named name (by simp [listed])]
        rw [List.take_append_of_le_length (by simp)]
        simp

theorem walk_eq (start segments : List Segment) (named : ∀ name ∈ start, Named name) :
    walk false start segments =
      start.take (start.length - climbsOf segments) ++ descentOf segments := by
  obtain ⟨spelled, names⟩ := normalForm segments
  rw [← walk_normalized, spelled, walk_append, walk_climbs _ _ named, walk_named _ _ _ names]

theorem mem_walk_nil {allowAboveRoot : Bool} {segments : List Segment} {segment : Segment}
    (listed : segment ∈ walk allowAboveRoot [] segments) :
    segment = dotDot ∨ segment ∈ descentOf segments := by
  cases allowAboveRoot with
  | true =>
      rw [(normalForm segments).1] at listed
      rcases List.mem_append.mp listed with up | name
      · exact .inl (List.eq_of_mem_replicate up)
      · exact .inr name
  | false =>
      rw [walk_eq [] segments (List.forall_mem_nil _)] at listed
      exact .inr (by simpa using listed)

theorem mem_of_mem_descentOf {segments : List Segment} {segment : Segment}
    (listed : segment ∈ descentOf segments) : segment ∈ segments := by
  have passed : segment ∈ walk true [] segments := by
    rw [(normalForm segments).1]
    exact List.mem_append_right _ listed
  rcases walk_subset true segments [] segment passed with known | later
  · cases known
  · exact later

theorem climbs_stay (climbs : Nat) (segments rest : List Segment) :
    ∃ further, walk true (List.replicate climbs dotDot ++ rest) segments =
      List.replicate climbs dotDot ++ further := by
  refine walk_induction
    (fun passed => ∃ further, passed = List.replicate climbs dotDot ++ further) true ?_ segments _
    ⟨rest, rfl⟩
  rintro _ segment ⟨further, rfl⟩
  rcases segment_cases segment with blank | rfl | name
  · exact ⟨further, stepTo_blank true _ blank⟩
  · rw [stepTo_dotDot]
    rcases climb_cases true (List.replicate climbs dotDot ++ further) with
      same | shorter | ⟨_, longer⟩
    · exact ⟨further, same⟩
    · rcases List.eq_nil_or_concat further with rfl | ⟨front, last, rfl⟩
      · rw [List.append_nil, climb_climbs, if_pos rfl, List.replicate_succ']
        exact ⟨[dotDot], rfl⟩
      · rw [shorter, List.concat_eq_append, ← List.append_assoc, List.dropLast_concat]
        exact ⟨front, rfl⟩
    · rw [longer, List.append_assoc]
      exact ⟨further ++ [dotDot], rfl⟩
  · rw [stepTo_named true _ name, List.append_assoc]
    exact ⟨further ++ [segment], rfl⟩

theorem start_isPrefix_iff (start descent : List Segment) (stay : Nat) :
    start <+: start.take stay ++ descent ↔ start.drop stay <+: descent := by
  have parts : start.take stay ++ start.drop stay <+: start.take stay ++ descent ↔
      start.drop stay <+: descent := List.prefix_append_right_inj _
  rw [List.take_append_drop] at parts
  exact parts

theorem pathSegments_slash (left right : List Char) :
    pathSegments (left ++ '/' :: right) = pathSegments left ++ pathSegments right :=
  List.splitOn_append_cons_self left right

theorem namesOf_slash (left right : List Char) :
    namesOf (left ++ '/' :: right) = namesOf left ++ namesOf right := by
  unfold namesOf
  rw [pathSegments_slash, List.filter_append]

theorem namesOf_segment {segment : Segment} (filled : segment ≠ []) (whole : '/' ∉ segment) :
    namesOf segment = [segment] := by
  unfold namesOf pathSegments
  rw [List.splitOn_eq_singleton whole]
  simp [filled]

theorem not_mem_splitOn (separator : Char) (text : List Char) :
    ∀ part ∈ text.splitOn separator, separator ∉ part := by
  induction text with
  | nil =>
      intro part listed
      rw [List.splitOn_nil, List.mem_singleton] at listed
      rw [listed]
      exact List.not_mem_nil
  | cons char rest ih =>
      intro part listed
      rw [List.splitOn_cons_eq_if_modifyHead] at listed
      split at listed
      · rcases List.mem_cons.mp listed with empty | later
        · rw [empty]
          exact List.not_mem_nil
        · exact ih part later
      · rename_i other
        cases parts : rest.splitOn separator with
        | nil => exact absurd parts (List.splitOn_ne_nil _ _)
        | cons first more =>
            rw [parts] at listed ih
            rcases List.mem_cons.mp listed with here | later
            · rw [here]
              intro within
              rcases List.mem_cons.mp within with same | inFirst
              · exact other (by simp [← same])
              · exact ih first (by simp) inFirst
            · exact ih part (by simp [later])

theorem slash_not_mem_pathSegments (text : List Char) :
    ∀ segment ∈ pathSegments text, '/' ∉ segment :=
  not_mem_splitOn '/' text

structure Spelled (segment : Segment) : Prop where
  filled : segment ≠ []
  whole : '/' ∉ segment

def bodyOf (names : List Segment) : List Char := names.flatMap fun name => '/' :: name

theorem slash_joinSegments : ∀ (names : List Segment), names ≠ [] →
    '/' :: joinSegments names = bodyOf names := by
  intro names
  induction names with
  | nil => intro empty; exact absurd rfl empty
  | cons first rest ih =>
      intro _
      unfold joinSegments at ih ⊢
      cases rest with
      | nil => simp [bodyOf]
      | cons second more =>
          have later := ih (List.cons_ne_nil _ _)
          rw [List.intercalate_cons_cons]
          change '/' :: (first ++ ['/'] ++ _) = '/' :: first ++ bodyOf (second :: more)
          rw [← later]
          simp

theorem namesOf_body : ∀ (names : List Segment), (∀ name ∈ names, Spelled name) →
    namesOf (bodyOf names) = names := by
  intro names
  induction names using List.reverseRecOn with
  | nil => intro _; rfl
  | append_singleton front last ih =>
      intro spelled
      have lastSpelled : Spelled last := spelled last (by simp)
      have split : bodyOf (front ++ [last]) = bodyOf front ++ '/' :: last := by
        unfold bodyOf
        rw [List.flatMap_append]
        simp
      rw [split, namesOf_slash, namesOf_segment lastSpelled.filled lastSpelled.whole,
        ih fun name listed => spelled name (by simp [listed])]

theorem namesOf_rooted (names : List Segment) (spelled : ∀ name ∈ names, Spelled name) :
    namesOf ('/' :: joinSegments names) = names := by
  by_cases empty : names = []
  · rw [empty]
    rfl
  · rw [slash_joinSegments names empty, namesOf_body names spelled]

/-! ### Resolved paths -/

def locate (cwd filePath : String) : List Segment := namesOf (resolvePath cwd filePath)

def startOf (cwd filePath : String) : List Segment :=
  if filePath.toList.head? = some '/' then [] else walk false [] (pathSegments cwd.toList)

theorem walk_spelled {start : List Segment} (spelled : ∀ name ∈ start, Spelled name)
    (named : ∀ name ∈ start, Named name) (text : List Char) :
    ∀ name ∈ walk false start (pathSegments text), Spelled name := by
  intro name listed
  have own := walk_false_named (pathSegments text) start named name listed
  rcases walk_subset false (pathSegments text) start name listed with known | passed
  · exact spelled name known
  · exact ⟨own.filled, slash_not_mem_pathSegments text name passed⟩

theorem resolvePath_eq (cwd filePath : String) :
    resolvePath cwd filePath = '/' :: joinSegments
      (walk false (startOf cwd filePath) (pathSegments filePath.toList)) := by
  unfold resolvePath startOf
  dsimp only
  rw [normalizeSegments_eq]
  split
  · rfl
  · rw [pathSegments_slash, walk_append]

theorem startOf_named (cwd filePath : String) : ∀ name ∈ startOf cwd filePath, Named name := by
  unfold startOf
  split
  · exact List.forall_mem_nil _
  · exact walk_false_named _ _ (List.forall_mem_nil _)

theorem startOf_spelled (cwd filePath : String) :
    ∀ name ∈ startOf cwd filePath, Spelled name := by
  unfold startOf
  split
  · exact List.forall_mem_nil _
  · exact walk_spelled (List.forall_mem_nil _) (List.forall_mem_nil _) _

theorem locate_eq (cwd filePath : String) :
    locate cwd filePath = walk false (startOf cwd filePath) (pathSegments filePath.toList) := by
  unfold locate
  rw [resolvePath_eq]
  exact namesOf_rooted _
    (walk_spelled (startOf_spelled cwd filePath) (startOf_named cwd filePath) _)

theorem locate_named (cwd filePath : String) : ∀ name ∈ locate cwd filePath, Named name := by
  rw [locate_eq]
  exact walk_false_named _ _ (startOf_named cwd filePath)

theorem locate_spelled (cwd filePath : String) :
    ∀ name ∈ locate cwd filePath, Spelled name := by
  rw [locate_eq]
  exact walk_spelled (startOf_spelled cwd filePath) (startOf_named cwd filePath) _

theorem resolvePath_locate (cwd filePath : String) :
    resolvePath cwd filePath = '/' :: joinSegments (locate cwd filePath) := by
  rw [locate_eq]
  exact resolvePath_eq cwd filePath

end ByFramework
