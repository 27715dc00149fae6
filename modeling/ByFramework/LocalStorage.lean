import ByFramework.LocalStorageCore
import ByFramework.PathSegments
import Mathlib.Data.List.TakeWhile

/-! Where the paths of the local storage lead, and when that is at or below its base directory. -/

namespace ByFramework

/-! ### Joined paths -/

def isAbsolute (text : List Char) : Bool := text.head? = some '/'

theorem dotDot_kept : ¬ Blank dotDot := by decide

theorem normal_kept {segments : List Segment} (normal : Normal segments) :
    ∀ segment ∈ segments, ¬ Blank segment := by
  obtain ⟨climbs, names, rfl, named⟩ := normal
  intro segment listed
  rcases List.mem_append.mp listed with up | name
  · rw [List.eq_of_mem_replicate up]
    exact dotDot_kept
  · exact (named segment name).kept

theorem walk_kept (allowAboveRoot : Bool) (segments : List Segment) :
    ∀ segment ∈ walk allowAboveRoot [] segments, ¬ Blank segment := by
  cases allowAboveRoot with
  | true => exact normal_kept (normal_walk segments)
  | false =>
      intro segment listed
      exact (walk_false_named segments [] (List.forall_mem_nil _) segment listed).kept

theorem walk_again (cwd text : String) (segments : List Segment) :
    walk false (startOf cwd text) (walk (!isAbsolute text.toList) [] segments) =
      walk false (startOf cwd text) segments := by
  unfold startOf isAbsolute
  by_cases absolute : text.toList.head? = some '/'
  · rw [if_pos absolute, decide_eq_true absolute]
    exact walk_false_normalized segments
  · rw [if_neg absolute, decide_eq_false absolute]
    exact walk_normalized false _ segments

theorem pathSegments_leading (text : List Char) :
    pathSegments ('/' :: text) = [] :: pathSegments text :=
  pathSegments_slash [] text

theorem pathSegments_trailing (text : List Char) :
    pathSegments (text ++ ['/']) = pathSegments text ++ [[]] :=
  pathSegments_slash text []

theorem blank_nil : Blank [] := .inl rfl

theorem solid_leading (text : List Char) :
    solid (pathSegments ('/' :: text)) = solid (pathSegments text) := by
  rw [pathSegments_leading, solid_blank blank_nil]

theorem solid_trailing (text : List Char) :
    solid (pathSegments (text ++ ['/'])) = solid (pathSegments text) := by
  rw [pathSegments_trailing, solid_append, solid_blank blank_nil]
  exact List.append_nil _

theorem solid_joined {names : List Segment} (kept : ∀ name ∈ names, ¬ Blank name)
    (whole : ∀ name ∈ names, '/' ∉ name) : solid (pathSegments (joinSegments names)) = names := by
  by_cases empty : names = []
  · rw [empty]
    rfl
  · unfold joinSegments pathSegments
    rw [List.splitOn_intercalate '/' whole empty, solid_self kept]

theorem joinSegments_eq_nil {names : List Segment} (kept : ∀ name ∈ names, ¬ Blank name)
    (whole : ∀ name ∈ names, '/' ∉ name) : joinSegments names = [] ↔ names = [] := by
  constructor
  · intro empty
    have read := solid_joined kept whole
    rw [empty] at read
    exact read.symm
  · intro empty
    rw [empty]
    rfl

theorem head_joinSegments_eq {names : List Segment} (kept : ∀ name ∈ names, ¬ Blank name) :
    (joinSegments names).head? = names.flatten.head? := by
  cases names with
  | nil => rfl
  | cons first rest =>
      obtain ⟨char, more, rfl⟩ : ∃ char more, first = char :: more := by
        cases first with
        | nil => exact absurd blank_nil (kept [] (by simp))
        | cons char more => exact ⟨char, more, rfl⟩
      cases rest with
      | nil => rfl
      | cons second others =>
          unfold joinSegments
          rw [List.intercalate_cons_cons]
          rfl

theorem head_joinSegments {names : List Segment} (kept : ∀ name ∈ names, ¬ Blank name)
    (whole : ∀ name ∈ names, '/' ∉ name) : (joinSegments names).head? ≠ some '/' := by
  rw [head_joinSegments_eq kept]
  intro begins
  obtain ⟨name, listed, within⟩ := List.mem_flatten.mp (List.mem_of_mem_head? begins)
  exact whole name listed within

def renderPath (absolute : Bool) (trailing : List Char) (names : List Segment) : List Char :=
  if joinSegments names = [] then if absolute then ['/'] else '.' :: trailing
  else if absolute then '/' :: joinSegments names ++ trailing
  else joinSegments names ++ trailing

theorem normalizePath_eq (text : List Char) :
    normalizePath text = renderPath (isAbsolute text)
      (if text.getLast? = some '/' then ['/'] else [])
      (walk (!isAbsolute text) [] (pathSegments text)) := by
  unfold normalizePath renderPath isAbsolute
  by_cases absolute : text.head? = some '/'
  · simp [normalizeSegments_eq, absolute]
  · simp [normalizeSegments_eq, absolute]

theorem joinSegments_concat {front : List Segment} (some : front ≠ []) (last : Segment) :
    joinSegments (front ++ [last]) = joinSegments front ++ '/' :: last := by
  unfold joinSegments
  induction front with
  | nil => exact absurd rfl some
  | cons first rest ih =>
      cases rest with
      | nil => simp
      | cons second others =>
          have later := ih (List.cons_ne_nil _ _)
          rw [List.cons_append, List.cons_append, List.intercalate_cons_cons, ← List.cons_append,
            later, List.intercalate_cons_cons]
          simp

theorem cut_last {name trailing : List Char} (filled : name ≠ []) (whole : '/' ∉ name)
    (slashes : ∀ char ∈ trailing, char = '/') (before : List Char) :
    (((before ++ name ++ trailing).reverse.dropWhile (· = '/')).dropWhile (· ≠ '/')) =
      before.reverse.dropWhile (· ≠ '/') := by
  have plain : ∀ char ∈ name.reverse, char ≠ '/' := by
    rintro char listed rfl
    exact whole (List.mem_reverse.mp listed)
  rw [List.reverse_append, List.reverse_append,
    List.dropWhile_append_of_pos (by simpa using slashes)]
  obtain ⟨char, rest, turned⟩ := List.exists_cons_of_ne_nil (List.reverse_ne_nil_iff.mpr filled)
  have first : char ≠ '/' := plain char (by simp [turned])
  rw [turned] at plain ⊢
  rw [List.cons_append, List.dropWhile_cons_of_neg (by simpa using first), ← List.cons_append,
    List.dropWhile_append_of_pos (by simpa using plain)]

theorem dirname_single (first : Char) {name trailing : List Char} (whole : '/' ∉ name)
    (slashes : ∀ char ∈ trailing, char = '/') :
    dirname (String.ofList (first :: (name ++ trailing))) = if first = '/' then "/" else "." := by
  have nothing : ((name ++ trailing).reverse.dropWhile (· = '/')).dropWhile (· ≠ '/') = [] := by
    by_cases filled : name = []
    · subst filled
      have gone : trailing.reverse.dropWhile (· = '/') = [] :=
        List.dropWhile_eq_nil_iff.mpr fun char listed => by
          simpa using slashes char (List.mem_reverse.mp listed)
      rw [List.nil_append, gone]
      rfl
    · exact cut_last filled whole slashes []
  unfold dirname
  rw [String.toList_ofList]
  dsimp only
  rw [nothing]

theorem dirname_below (first : Char) {front name trailing : List Char} (filled : name ≠ [])
    (whole : '/' ∉ name) (slashes : ∀ char ∈ trailing, char = '/')
    (named : first = '/' → front ≠ []) :
    dirname (String.ofList (first :: (front ++ '/' :: name ++ trailing))) =
      String.ofList (first :: front) := by
  have cut := cut_last filled whole slashes (front ++ ['/'])
  rw [List.append_assoc front, List.singleton_append, List.reverse_concat] at cut
  unfold dirname
  rw [String.toList_ofList]
  dsimp only
  rw [cut]
  change (if first = '/' ∧ front.reverse = [] then "//"
    else String.ofList (first :: front.reverse.reverse)) = _
  rw [if_neg, List.reverse_reverse]
  rintro ⟨root, empty⟩
  exact named root (List.reverse_eq_nil_iff.mp empty)

theorem renderPath_nil (absolute : Bool) (trailing : List Char) :
    renderPath absolute trailing [] = if absolute then ['/'] else '.' :: trailing := if_pos rfl

theorem renderPath_filled {names : List Segment} (text : joinSegments names ≠ [])
    (trailing : List Char) :
    renderPath true trailing names = '/' :: (joinSegments names ++ trailing) ∧
      renderPath false trailing names = joinSegments names ++ trailing :=
  ⟨if_neg text, if_neg text⟩

section Rendered

variable {names : List Segment} (kept : ∀ name ∈ names, ¬ Blank name)
  (whole : ∀ name ∈ names, '/' ∉ name)

include kept whole

theorem isAbsolute_renderPath (absolute : Bool) (trailing : List Char) :
    isAbsolute (renderPath absolute trailing names) = absolute := by
  unfold renderPath
  by_cases empty : joinSegments names = []
  · rw [if_pos empty]
    cases absolute <;> rfl
  · rw [if_neg empty]
    cases absolute with
    | true => rfl
    | false =>
        have first := head_joinSegments kept whole
        cases plain : joinSegments names with
        | nil => exact absurd plain empty
        | cons char rest =>
            rw [plain] at first
            exact decide_eq_false first

theorem solid_renderPath (absolute slash : Bool) :
    solid (pathSegments (renderPath absolute (if slash then ['/'] else []) names)) = names := by
  have plain := solid_joined kept whole
  have ended : ∀ text, solid (pathSegments (text ++ if slash then ['/'] else [])) =
      solid (pathSegments text) := by
    intro text
    cases slash with
    | true => exact solid_trailing text
    | false => exact congrArg (fun part => solid (pathSegments part)) (List.append_nil text)
  unfold renderPath
  by_cases empty : joinSegments names = []
  · rw [if_pos empty]
    have none_left := (joinSegments_eq_nil kept whole).mp empty
    rw [none_left]
    cases absolute with
    | true => rfl
    | false =>
        change solid (pathSegments (['.'] ++ if slash then ['/'] else [])) = []
        rw [ended]
        rfl
  · rw [if_neg empty]
    cases absolute with
    | true =>
        change solid (pathSegments ('/' :: joinSegments names ++ if slash then ['/'] else [])) = _
        rw [ended, solid_leading, plain]
    | false =>
        change solid (pathSegments (joinSegments names ++ if slash then ['/'] else [])) = _
        rw [ended, plain]

theorem dirname_renderPath (absolute slash : Bool) :
    dirname (String.ofList (renderPath absolute (if slash then ['/'] else []) names)) =
      String.ofList (renderPath absolute [] names.dropLast) := by
  have slashes : ∀ char ∈ (if slash then ['/'] else []), char = '/' := by
    cases slash <;> simp
  generalize (if slash then ['/'] else []) = trailing at slashes ⊢
  rcases List.eq_nil_or_concat names with rfl | ⟨front, last, rfl⟩
  · rw [List.dropLast_nil, renderPath_nil, renderPath_nil]
    have noName : '/' ∉ ([] : List Char) := List.not_mem_nil
    cases absolute with
    | true =>
        have root := dirname_single '/' noName (List.forall_mem_nil (· = '/'))
        rw [if_pos rfl] at root
        exact root
    | false =>
        have dot := dirname_single '.' noName slashes
        rw [if_neg (by decide)] at dot
        exact dot
  rw [List.concat_eq_append] at kept whole ⊢
  have filled : last ≠ [] := fun empty => kept last (by simp) (.inl empty)
  have lastWhole := whole last (by simp)
  have frontKept : ∀ name ∈ front, ¬ Blank name := fun name listed => kept name (by simp [listed])
  have frontWhole : ∀ name ∈ front, '/' ∉ name := fun name listed => whole name (by simp [listed])
  have text : joinSegments (front ++ [last]) ≠ [] := by
    rw [Ne, joinSegments_eq_nil kept whole]
    simp
  obtain ⟨rooted, plain⟩ := renderPath_filled text trailing
  rw [List.dropLast_concat]
  by_cases single : front = []
  · subst single
    have alone : joinSegments ([] ++ [last]) = last := by simp [joinSegments]
    rw [alone] at rooted plain
    rw [renderPath_nil]
    cases absolute with
    | true =>
        rw [rooted]
        exact dirname_single '/' lastWhole slashes
    | false =>
        obtain ⟨char, rest, rfl⟩ := List.exists_cons_of_ne_nil filled
        have other : char ≠ '/' := fun same => lastWhole (by simp [same])
        have below : '/' ∉ rest := fun listed => lastWhole (by simp [listed])
        have single := dirname_single char below slashes
        rw [if_neg other] at single
        rw [plain]
        exact single
  · have frontText : joinSegments front ≠ [] :=
      fun empty => single ((joinSegments_eq_nil frontKept frontWhole).mp empty)
    obtain ⟨rootedFront, plainFront⟩ := renderPath_filled frontText []
    rw [List.append_nil] at rootedFront plainFront
    rw [joinSegments_concat single] at rooted plain
    cases absolute with
    | true =>
        rw [rooted, rootedFront]
        exact dirname_below '/' filled lastWhole slashes fun _ => frontText
    | false =>
        have relative := head_joinSegments frontKept frontWhole
        rw [plain, plainFront]
        obtain ⟨char, rest, spelled⟩ := List.exists_cons_of_ne_nil frontText
        rw [spelled] at relative ⊢
        exact dirname_below char filled lastWhole slashes fun root =>
          absurd (congrArg some root) relative

end Rendered

namespace LocalFileStorage

theorem cleanedPath_relative (relativePath : String) :
    isAbsolute (cleanedPath relativePath) = false := by
  unfold cleanedPath isAbsolute
  generalize replaceFirst '\\' '/' (replaceFirst '/' '/' relativePath.toList) = text
  induction text with
  | nil => rfl
  | cons char rest ih =>
      rw [List.dropWhile_cons]
      split
      · exact ih
      · rename_i stays
        have other : char ≠ '/' := fun same => stays (by simp [same])
        simp [other]

def askedSegments (relativePath : String) : List Segment :=
  pathSegments (cleanedPath relativePath)

theorem joined_reads (baseDir : String) (cleaned : List Char)
    (relative : isAbsolute cleaned = false) :
    let joined := joinSegments
      (([baseDir, String.ofList cleaned].map String.toList).filter fun part => !part.isEmpty)
    isAbsolute joined = isAbsolute baseDir.toList ∧
      solid (pathSegments joined) = solid (pathSegments baseDir.toList ++ pathSegments cleaned) := by
  intro joined
  have blank : solid (pathSegments []) = [] := rfl
  rw [solid_append]
  by_cases noBase : baseDir.toList = []
  · by_cases noPath : cleaned = []
    · have text : joined = [] := by simp [joined, noBase, noPath, joinSegments]
      rw [text, noBase, noPath]
      exact ⟨rfl, rfl⟩
    · have text : joined = cleaned := by simp [joined, noBase, noPath, joinSegments]
      rw [text, noBase, relative, blank]
      exact ⟨rfl, rfl⟩
  · by_cases noPath : cleaned = []
    · have text : joined = baseDir.toList := by simp [joined, noBase, noPath, joinSegments]
      rw [text, noPath, blank, List.append_nil]
      exact ⟨rfl, rfl⟩
    · have text : joined = baseDir.toList ++ '/' :: cleaned := by
        simp [joined, noBase, noPath, joinSegments]
      rw [text, pathSegments_slash, solid_append]
      refine ⟨?_, rfl⟩
      cases base : baseDir.toList with
      | nil => exact absurd base noBase
      | cons char rest => rfl

def fullSegments (baseDir relativePath : String) : List Segment :=
  walk (!isAbsolute baseDir.toList) []
    (pathSegments baseDir.toList ++ askedSegments relativePath)

theorem getFullPath_eq (baseDir relativePath : String) :
    ∃ slash : Bool, (getFullPath baseDir relativePath).toList =
      renderPath (isAbsolute baseDir.toList) (if slash then ['/'] else [])
        (fullSegments baseDir relativePath) := by
  obtain ⟨start, read⟩ := joined_reads baseDir (cleanedPath relativePath)
    (cleanedPath_relative relativePath)
  unfold getFullPath joinPath
  rw [String.toList_ofList]
  generalize joinSegments (([baseDir, String.ofList (cleanedPath relativePath)].map
    String.toList).filter fun part => !part.isEmpty) = joined at start read ⊢
  refine ⟨decide (joined.getLast? = some '/'), ?_⟩
  rw [normalizePath_eq, start, ← walk_solid, read, walk_solid]
  simp only [decide_eq_true_eq]
  rfl

theorem fullSegments_kept (baseDir relativePath : String) :
    ∀ name ∈ fullSegments baseDir relativePath, ¬ Blank name :=
  walk_kept _ _

theorem fullSegments_whole (baseDir relativePath : String) :
    ∀ name ∈ fullSegments baseDir relativePath, '/' ∉ name := by
  intro name listed
  rcases walk_subset _ _ [] name listed with known | passed
  · cases known
  · rcases List.mem_append.mp passed with base | asked
    · exact slash_not_mem_pathSegments _ name base
    · exact slash_not_mem_pathSegments _ name asked

theorem getFullPath_reads (baseDir relativePath : String) :
    isAbsolute (getFullPath baseDir relativePath).toList = isAbsolute baseDir.toList ∧
      solid (pathSegments (getFullPath baseDir relativePath).toList) =
        fullSegments baseDir relativePath := by
  obtain ⟨slash, text⟩ := getFullPath_eq baseDir relativePath
  have kept := fullSegments_kept baseDir relativePath
  have whole := fullSegments_whole baseDir relativePath
  rw [text]
  exact ⟨isAbsolute_renderPath kept whole _ _, solid_renderPath kept whole _ slash⟩

theorem startOf_eq {cwd left right : String}
    (same : isAbsolute left.toList = isAbsolute right.toList) :
    startOf cwd left = startOf cwd right := by
  unfold isAbsolute at same
  unfold startOf
  by_cases absolute : left.toList.head? = some '/'
  · rw [decide_eq_true absolute] at same
    rw [if_pos absolute, if_pos (of_decide_eq_true same.symm)]
  · rw [decide_eq_false absolute] at same
    rw [if_neg absolute, if_neg (of_decide_eq_false same.symm)]

theorem locate_fullSegments (cwd baseDir relativePath : String) :
    locate cwd (getFullPath baseDir relativePath) =
      walk false (startOf cwd baseDir) (fullSegments baseDir relativePath) := by
  obtain ⟨start, read⟩ := getFullPath_reads baseDir relativePath
  rw [locate_eq, startOf_eq start, ← walk_solid, read]

theorem locate_getFullPath (cwd baseDir relativePath : String) :
    locate cwd (getFullPath baseDir relativePath) =
      walk false (locate cwd baseDir) (askedSegments relativePath) := by
  rw [locate_fullSegments, fullSegments, walk_again, walk_append, ← locate_eq]

theorem locate_dirname (cwd baseDir relativePath : String) :
    locate cwd (dirname (getFullPath baseDir relativePath)) =
      walk false (startOf cwd baseDir) (fullSegments baseDir relativePath).dropLast := by
  obtain ⟨slash, text⟩ := getFullPath_eq baseDir relativePath
  have kept := fullSegments_kept baseDir relativePath
  have whole := fullSegments_whole baseDir relativePath
  have frontKept := fun name listed => kept name (List.mem_of_mem_dropLast listed)
  have frontWhole := fun name listed => whole name (List.mem_of_mem_dropLast listed)
  have directory : (dirname (getFullPath baseDir relativePath)).toList =
      renderPath (isAbsolute baseDir.toList) [] (fullSegments baseDir relativePath).dropLast := by
    rw [← String.ofList_toList (s := getFullPath baseDir relativePath), text,
      dirname_renderPath kept whole, String.toList_ofList]
  have start : isAbsolute (dirname (getFullPath baseDir relativePath)).toList =
      isAbsolute baseDir.toList := by
    rw [directory]
    exact isAbsolute_renderPath frontKept frontWhole _ []
  rw [locate_eq, startOf_eq start, ← walk_solid, directory]
  exact congrArg (walk false _) (solid_renderPath frontKept frontWhole _ false)

theorem base_isPrefix_iff (cwd baseDir : String) (segments : List Segment) :
    locate cwd baseDir <+: walk false (locate cwd baseDir) segments ↔
      (locate cwd baseDir).drop ((locate cwd baseDir).length - climbsOf segments) <+:
        descentOf segments := by
  rw [walk_eq _ _ (locate_named cwd baseDir)]
  exact start_isPrefix_iff _ _ _

def splitBackslash (segment : Segment) : List Segment := segment.splitOn '\\'

theorem pathSegments_replaceEvery (text : List Char) :
    pathSegments (replaceEvery '\\' '/' text) = (pathSegments text).flatMap splitBackslash := by
  unfold pathSegments replaceEvery
  induction text with
  | nil => rfl
  | cons char rest ih =>
      rw [List.map_cons, List.splitOn_cons_eq_if_modifyHead, ih,
        List.splitOn_cons_eq_if_modifyHead char rest]
      cases parts : rest.splitOn '/' with
      | nil => exact absurd parts (List.splitOn_ne_nil _ _)
      | cons first more =>
          by_cases slash : char = '/'
          · subst slash
            rfl
          · by_cases back : char = '\\'
            · subst back
              change [] :: _ = _ ++ _
              unfold splitBackslash
              rw [List.splitOn_cons_eq_if_modifyHead]
              rfl
            · have one : splitBackslash (char :: first) =
                  (splitBackslash first).modifyHead (List.cons char) := by
                unfold splitBackslash
                rw [List.splitOn_cons_eq_if_modifyHead, if_neg (by simpa using back)]
              rw [if_neg back, if_neg (by simpa using slash), if_neg (by simpa using slash)]
              change _ = (splitBackslash (char :: first)) ++ _
              rw [one]
              change ((splitBackslash first) ++ _).modifyHead _ = _
              cases pieces : splitBackslash first with
              | nil => exact absurd pieces (List.splitOn_ne_nil _ _)
              | cons piece others => rfl

theorem splitBackslash_blank {segment : Segment} (blank : Blank segment) :
    solid (splitBackslash segment) = [] := by
  rcases blank with rfl | rfl
  · rfl
  · rfl

theorem walk_split_solid (allowAboveRoot : Bool) (start segments : List Segment) :
    walk allowAboveRoot start ((solid segments).flatMap splitBackslash) =
      walk allowAboveRoot start (segments.flatMap splitBackslash) := by
  have same : solid ((solid segments).flatMap splitBackslash) =
      solid (segments.flatMap splitBackslash) := by
    induction segments with
    | nil => rfl
    | cons first rest ih =>
        rw [List.flatMap_cons, solid_append]
        by_cases blank : Blank first
        · rw [solid_blank blank, splitBackslash_blank blank, ih, List.nil_append]
        · rw [solid_kept blank, List.flatMap_cons, solid_append, ih]
  rw [← walk_solid, same, walk_solid]

theorem splitBackslash_plain {segment : Segment} (plain : '\\' ∉ segment) :
    splitBackslash segment = [segment] :=
  List.splitOn_eq_singleton plain

theorem flatMap_plain : ∀ {segments : List Segment}, (∀ segment ∈ segments, '\\' ∉ segment) →
    segments.flatMap splitBackslash = segments := by
  intro segments
  induction segments with
  | nil => intro _; rfl
  | cons first rest ih =>
      intro plain
      rw [List.flatMap_cons, splitBackslash_plain (plain first (by simp)),
        ih fun segment listed => plain segment (by simp [listed])]
      rfl

theorem backslash_not_mem_split {segments : List Segment} :
    ∀ segment ∈ segments.flatMap splitBackslash, '\\' ∉ segment := by
  intro segment listed
  obtain ⟨whole, _, part⟩ := List.mem_flatMap.mp listed
  exact not_mem_splitOn '\\' whole segment part

def baseNames (baseDir : String) : List Segment := descentOf (pathSegments baseDir.toList)

def remainingBase (baseDir relativePath : String) : List Segment :=
  walk (!isAbsolute baseDir.toList) []
    (pathSegments baseDir.toList ++
      List.replicate (climbsOf (askedSegments relativePath)) dotDot)

def urlSegments (relativePath : String) : List Segment :=
  (descentOf (askedSegments relativePath)).flatMap splitBackslash

theorem fullSegments_eq (baseDir relativePath : String) :
    fullSegments baseDir relativePath =
      remainingBase baseDir relativePath ++ descentOf (askedSegments relativePath) := by
  obtain ⟨spelled, names⟩ := normalForm (askedSegments relativePath)
  unfold fullSegments remainingBase
  rw [walk_append, ← walk_normalized _ _ (askedSegments relativePath), spelled, walk_append,
    walk_named _ _ _ names, walk_append _ _ _ (List.replicate _ dotDot)]

theorem locate_url (cwd baseDir relativePath : String) :
    locate cwd ((StorageOp.getUrl relativePath).usedPath baseDir) =
      walk false (startOf cwd ((StorageOp.getUrl relativePath).usedPath baseDir))
        ((remainingBase baseDir relativePath).flatMap splitBackslash ++
          urlSegments relativePath) := by
  have read := (getFullPath_reads baseDir relativePath).2
  have text : ((StorageOp.getUrl relativePath).usedPath baseDir).toList =
      replaceEvery '\\' '/' (getFullPath baseDir relativePath).toList :=
    String.toList_ofList
  rw [locate_eq, text, pathSegments_replaceEvery, ← walk_split_solid, read, fullSegments_eq,
    List.flatMap_append]
  rfl

theorem remaining_plain {baseDir relativePath : String}
    (plain : ∀ name ∈ baseNames baseDir, '\\' ∉ name) :
    ∀ segment ∈ remainingBase baseDir relativePath, '\\' ∉ segment := by
  intro segment listed
  have up : '\\' ∉ dotDot := by decide
  unfold remainingBase at listed
  rw [walk_append] at listed
  rcases walk_subset _ _ _ segment listed with base | climbed
  · rcases mem_walk_nil base with same | name
    · rw [same]
      exact up
    · exact plain segment name
  · rw [List.eq_of_mem_replicate climbed]
    exact up

theorem walk_remaining (cwd baseDir relativePath : String) :
    walk false (startOf cwd baseDir) (remainingBase baseDir relativePath) =
      (locate cwd baseDir).take
        ((locate cwd baseDir).length - climbsOf (askedSegments relativePath)) := by
  unfold remainingBase
  rw [walk_again, walk_append, ← locate_eq, walk_climbs _ _ (locate_named cwd baseDir)]

def FromRoot (baseDir relativePath : String) : Prop :=
  isAbsolute baseDir.toList = false ∧ remainingBase baseDir relativePath = [] ∧
    (descentOf (askedSegments relativePath)).flatten.head? = some '\\'

instance (baseDir relativePath : String) : Decidable (FromRoot baseDir relativePath) :=
  inferInstanceAs (Decidable (_ ∧ _ ∧ _))

theorem head_replaceEvery (text : List Char) :
    isAbsolute (replaceEvery '\\' '/' text) =
      (isAbsolute text || decide (text.head? = some '\\')) := by
  unfold isAbsolute replaceEvery
  cases text with
  | nil => rfl
  | cons char rest =>
      by_cases back : char = '\\'
      · subst back
        rfl
      · simp [back]

theorem nothing_before {names rest : List Segment} (kept : ∀ name ∈ names, ¬ Blank name)
    (plain : ∀ name ∈ names, '\\' ∉ name)
    (begins : (names ++ rest).flatten.head? = some '\\') : names = [] := by
  cases names with
  | nil => rfl
  | cons name others =>
      cases name with
      | nil => exact absurd blank_nil (kept [] (by simp))
      | cons char more =>
          have same : char = '\\' := Option.some.inj begins
          have own := plain (char :: more) (by simp)
          rw [same] at own
          exact absurd (by simp) own

theorem isAbsolute_url {baseDir relativePath : String}
    (plain : ∀ name ∈ baseNames baseDir, '\\' ∉ name) :
    isAbsolute ((StorageOp.getUrl relativePath).usedPath baseDir).toList = true ↔
      isAbsolute baseDir.toList = true ∨ FromRoot baseDir relativePath := by
  have text : ((StorageOp.getUrl relativePath).usedPath baseDir).toList =
      replaceEvery '\\' '/' (getFullPath baseDir relativePath).toList :=
    String.toList_ofList
  rw [text, head_replaceEvery, (getFullPath_reads baseDir relativePath).1]
  by_cases absolute : isAbsolute baseDir.toList = true
  · rw [absolute]
    simp
  have relative : isAbsolute baseDir.toList = false := by simpa using absolute
  have first : (getFullPath baseDir relativePath).toList.head? = some '\\' ↔
      (fullSegments baseDir relativePath).flatten.head? = some '\\' := by
    obtain ⟨slash, spelled⟩ := getFullPath_eq baseDir relativePath
    have kept := fullSegments_kept baseDir relativePath
    have whole := fullSegments_whole baseDir relativePath
    rw [spelled, relative, ← head_joinSegments_eq kept]
    unfold renderPath
    by_cases empty : joinSegments (fullSegments baseDir relativePath) = []
    · rw [if_pos empty, empty]
      constructor
      · intro dot
        exact absurd (Option.some.inj dot) (by decide)
      · intro nothing
        cases nothing
    · rw [if_neg empty]
      cases plainText : joinSegments (fullSegments baseDir relativePath) with
      | nil => exact absurd plainText empty
      | cons char rest => rfl
  rw [relative, Bool.false_or, decide_eq_true_eq, first, fullSegments_eq]
  constructor
  · intro begins
    have kept : ∀ name ∈ remainingBase baseDir relativePath, ¬ Blank name := walk_kept _ _
    have remains : remainingBase baseDir relativePath = [] :=
      nothing_before kept (remaining_plain plain) begins
    rw [remains] at begins
    exact .inr ⟨relative, remains, begins⟩
  · rintro (never | ⟨_, remains, begins⟩)
    · cases never
    · rw [remains]
      exact begins

/-- How many of the base's directories the answer of `getUrl` keeps. -/
def urlStay (cwd baseDir relativePath : String) : Nat :=
  if FromRoot baseDir relativePath then 0
  else (locate cwd baseDir).length - climbsOf (askedSegments relativePath) -
    climbsOf (urlSegments relativePath)

theorem locate_url_plain (cwd : String) {baseDir relativePath : String}
    (plain : ∀ name ∈ baseNames baseDir, '\\' ∉ name) :
    locate cwd ((StorageOp.getUrl relativePath).usedPath baseDir) =
      (locate cwd baseDir).take (urlStay cwd baseDir relativePath) ++
        descentOf (urlSegments relativePath) := by
  have absolute :
      isAbsolute ((StorageOp.getUrl relativePath).usedPath baseDir).toList = true ↔
        isAbsolute baseDir.toList = true ∨ FromRoot baseDir relativePath := isAbsolute_url plain
  rw [locate_url, flatMap_plain (remaining_plain plain)]
  unfold urlStay
  by_cases root : FromRoot baseDir relativePath
  · have start : startOf cwd ((StorageOp.getUrl relativePath).usedPath baseDir) = [] :=
      if_pos (of_decide_eq_true (absolute.mpr (.inr root)))
    rw [if_pos root, start, root.2.1, List.nil_append, walk_eq [] _ (List.forall_mem_nil _),
      List.take_nil, List.take_zero]
  · have start : startOf cwd ((StorageOp.getUrl relativePath).usedPath baseDir) =
        startOf cwd baseDir := by
      apply startOf_eq
      rw [Bool.eq_iff_iff, absolute]
      constructor
      · rintro (same | never)
        · exact same
        · exact absurd never root
      · exact Or.inl
    have named : ∀ name ∈ (locate cwd baseDir).take ((locate cwd baseDir).length -
        climbsOf (askedSegments relativePath)), Named name :=
      fun name listed => locate_named cwd baseDir name (List.mem_of_mem_take listed)
    have stays : ∀ total climbs further : Nat,
        min (min (total - climbs) total - further) (total - climbs) = total - climbs - further := by
      intro total climbs further
      omega
    rw [if_neg root, start, walk_append, walk_remaining, walk_eq _ _ named, List.take_take,
      List.length_take, stays]

theorem plain_below {start names segments : List Segment} (named : ∀ name ∈ start, Named name)
    (below : start ++ names <+: walk false start (segments.flatMap splitBackslash)) :
    ∀ name ∈ names, '\\' ∉ name := by
  intro name listed
  rw [walk_eq _ _ named] at below
  generalize start.length - climbsOf (segments.flatMap splitBackslash) = stay at below
  have rest : start.drop stay ++ names <+: descentOf (segments.flatMap splitBackslash) := by
    apply (List.prefix_append_right_inj (start.take stay)).mp
    rw [← List.append_assoc, List.take_append_drop]
    exact below
  have descended := rest.subset (List.mem_append_right _ listed)
  exact backslash_not_mem_split name (mem_of_mem_descentOf descended)

theorem locate_split (cwd baseDir relativePath : String) :
    locate cwd ((StorageOp.getUrl relativePath).usedPath baseDir) =
      walk false (startOf cwd ((StorageOp.getUrl relativePath).usedPath baseDir))
        ((fullSegments baseDir relativePath).flatMap splitBackslash) := by
  rw [locate_url, fullSegments_eq, List.flatMap_append]
  rfl

theorem fullSegments_relative {baseDir : String} (relative : isAbsolute baseDir.toList = false)
    (relativePath : String) :
    ∃ further, fullSegments baseDir relativePath =
      List.replicate (climbsOf (pathSegments baseDir.toList)) dotDot ++ further := by
  unfold fullSegments
  rw [relative, walk_append]
  change ∃ further, walk true (walk true [] (pathSegments baseDir.toList)) _ = _
  rw [(normalForm (pathSegments baseDir.toList)).1]
  exact climbs_stay _ _ _

/-- An answer of `getUrl` never leads below a base with a backslash in a name of its own. -/
theorem url_not_below (cwd : String) {baseDir relativePath : String} {name : Segment}
    (own : name ∈ baseNames baseDir) (back : '\\' ∈ name) :
    ¬ locate cwd baseDir <+: locate cwd ((StorageOp.getUrl relativePath).usedPath baseDir) := by
  intro below
  have base : locate cwd baseDir = (startOf cwd baseDir).take
      ((startOf cwd baseDir).length - climbsOf (pathSegments baseDir.toList)) ++
        baseNames baseDir := by
    rw [locate_eq, walk_eq _ _ (startOf_named cwd baseDir)]
    rfl
  rw [locate_split] at below
  by_cases absolute :
      isAbsolute ((StorageOp.getUrl relativePath).usedPath baseDir).toList = true
  · have start : startOf cwd ((StorageOp.getUrl relativePath).usedPath baseDir) = [] :=
      if_pos (of_decide_eq_true absolute)
    have listed : name ∈ locate cwd baseDir := by
      rw [base]
      exact List.mem_append_right _ own
    rw [start] at below
    exact plain_below (List.forall_mem_nil _) below name listed back
  · have text : ((StorageOp.getUrl relativePath).usedPath baseDir).toList =
        replaceEvery '\\' '/' (getFullPath baseDir relativePath).toList :=
      String.toList_ofList
    have relative : isAbsolute baseDir.toList = false := by
      rw [text, head_replaceEvery, (getFullPath_reads baseDir relativePath).1,
        Bool.or_eq_true, not_or] at absolute
      exact Bool.eq_false_iff.mpr absolute.1
    have start : startOf cwd ((StorageOp.getUrl relativePath).usedPath baseDir) =
        startOf cwd baseDir := by
      apply startOf_eq
      rw [relative]
      exact Bool.eq_false_iff.mpr absolute
    obtain ⟨further, spelled⟩ := fullSegments_relative relative relativePath
    have climbs : ∀ segment ∈
        List.replicate (climbsOf (pathSegments baseDir.toList)) dotDot, '\\' ∉ segment := by
      intro segment listed
      rw [List.eq_of_mem_replicate listed]
      decide
    have named : ∀ segment ∈ (startOf cwd baseDir).take
        ((startOf cwd baseDir).length - climbsOf (pathSegments baseDir.toList)), Named segment :=
      fun segment listed => startOf_named cwd baseDir segment (List.mem_of_mem_take listed)
    rw [start, spelled, List.flatMap_append, flatMap_plain climbs, walk_append,
      walk_climbs _ _ (startOf_named cwd baseDir), base] at below
    exact plain_below named below name own back

/-! ### Staying under the base directory -/

/-- The path leads to the base directory, or below it by whole segments. -/
def StaysUnder (cwd baseDir path : String) : Prop := locate cwd baseDir <+: locate cwd path

def climbedBase (cwd baseDir relativePath : String) : List Segment :=
  (locate cwd baseDir).drop
    ((locate cwd baseDir).length - climbsOf (askedSegments relativePath))

def EndsNamed (baseDir relativePath : String) : Prop :=
  ∃ name ∈ (fullSegments baseDir relativePath).getLast?, name ≠ dotDot

/--
The path climbs nowhere, or comes back down through the last directories of the base. A write that
ends with a name leads further, since it makes the directory above. What `getUrl` answers must come
back again once its names are split, and no name of the base may be split.
-/
def ComesBack (cwd baseDir : String) : StorageOp → Prop
  | .write filePath =>
      climbedBase cwd baseDir filePath <+: descentOf (askedSegments filePath) ∧
        (EndsNamed baseDir filePath →
          climbedBase cwd baseDir filePath ≠ descentOf (askedSegments filePath))
  | .read filePath | .delete filePath | .existsAt filePath | .isFile filePath
  | .isDir filePath | .list filePath =>
      climbedBase cwd baseDir filePath <+: descentOf (askedSegments filePath)
  | .getUrl filePath =>
      (∀ name ∈ baseNames baseDir, '\\' ∉ name) ∧
        (locate cwd baseDir).drop (urlStay cwd baseDir filePath) <+:
          descentOf (urlSegments filePath)

theorem fullPath_iff (cwd baseDir relativePath : String) :
    StaysUnder cwd baseDir (getFullPath baseDir relativePath) ↔
      climbedBase cwd baseDir relativePath <+: descentOf (askedSegments relativePath) := by
  unfold StaysUnder
  rw [locate_getFullPath]
  exact base_isPrefix_iff cwd baseDir _

theorem url_iff (cwd baseDir relativePath : String) :
    StaysUnder cwd baseDir ((StorageOp.getUrl relativePath).usedPath baseDir) ↔
      (∀ name ∈ baseNames baseDir, '\\' ∉ name) ∧
        (locate cwd baseDir).drop (urlStay cwd baseDir relativePath) <+:
          descentOf (urlSegments relativePath) := by
  by_cases plain : ∀ name ∈ baseNames baseDir, '\\' ∉ name
  · unfold StaysUnder
    rw [locate_url_plain cwd plain, start_isPrefix_iff]
    exact ⟨fun within => ⟨plain, within⟩, And.right⟩
  · constructor
    · intro under
      push Not at plain
      obtain ⟨name, own, back⟩ := plain
      exact absurd under (url_not_below cwd own back)
    · rintro ⟨known, _⟩
      exact absurd known plain

theorem locate_named_end (cwd : String) {baseDir relativePath : String}
    (ends : EndsNamed baseDir relativePath) :
    ∃ name, locate cwd (getFullPath baseDir relativePath) =
      locate cwd (dirname (getFullPath baseDir relativePath)) ++ [name] := by
  obtain ⟨name, last, other⟩ := ends
  have kept := fullSegments_kept baseDir relativePath name (List.mem_of_mem_getLast? last)
  have named : Named name := by
    rcases segment_cases name with blank | up | named
    · exact absurd blank kept
    · exact absurd up other
    · exact named
  refine ⟨name, ?_⟩
  rw [locate_fullSegments, locate_dirname]
  conv_lhs => rw [← List.dropLast_append_getLast? name last]
  rw [walk_append]
  exact stepTo_named false _ named

theorem locate_climbed_end {cwd baseDir relativePath : String}
    (ends : ¬ EndsNamed baseDir relativePath) :
    locate cwd (getFullPath baseDir relativePath) <+:
      locate cwd (dirname (getFullPath baseDir relativePath)) := by
  rw [locate_fullSegments, locate_dirname]
  cases last : (fullSegments baseDir relativePath).getLast? with
  | none =>
      rw [List.getLast?_eq_none_iff.mp last]
      exact List.prefix_rfl
  | some name =>
      have up : name = dotDot := by
        by_contra other
        exact ends ⟨name, last, other⟩
      subst up
      conv_lhs => rw [← List.dropLast_append_getLast? dotDot last]
      rw [walk_append]
      change stepTo false _ dotDot <+: _
      rw [stepTo_dotDot]
      unfold climb
      split
      · exact List.prefix_rfl
      · exact List.dropLast_prefix _

theorem fullPath_eq_base_iff (cwd baseDir relativePath : String) :
    locate cwd baseDir = locate cwd (getFullPath baseDir relativePath) ↔
      climbedBase cwd baseDir relativePath = descentOf (askedSegments relativePath) := by
  rw [locate_getFullPath, walk_eq _ _ (locate_named cwd baseDir)]
  conv_lhs => lhs; rw [← List.take_append_drop
    ((locate cwd baseDir).length - climbsOf (askedSegments relativePath)) (locate cwd baseDir)]
  exact List.append_right_inj _

theorem write_iff (cwd baseDir filePath : String) :
    (StaysUnder cwd baseDir (dirname (getFullPath baseDir filePath)) ∧
        StaysUnder cwd baseDir (getFullPath baseDir filePath)) ↔
      ComesBack cwd baseDir (.write filePath) := by
  constructor
  · rintro ⟨directory, file⟩
    have under := (fullPath_iff cwd baseDir filePath).mp file
    refine ⟨under, fun ends same => ?_⟩
    obtain ⟨name, below⟩ := locate_named_end cwd ends
    have at_base := (fullPath_eq_base_iff cwd baseDir filePath).mpr same
    rw [StaysUnder, at_base, below] at directory
    have longer := directory.length_le
    rw [List.length_append] at longer
    simp at longer
  · rintro ⟨under, below⟩
    have file := (fullPath_iff cwd baseDir filePath).mpr under
    refine ⟨?_, file⟩
    by_cases ends : EndsNamed baseDir filePath
    · obtain ⟨name, one⟩ := locate_named_end cwd ends
      rw [StaysUnder, one, List.prefix_concat_iff] at file
      rcases file with same | within
      · exact absurd ((fullPath_eq_base_iff cwd baseDir filePath).mp (same.trans one.symm)) (below ends)
      · exact within
    · exact file.trans (locate_climbed_end ends)

/-- Every operation stays under the base directory exactly when its path comes back to it. -/
theorem staysUnder_iff (cwd baseDir : String) (op : StorageOp) :
    (∀ path ∈ op.usedPaths baseDir, StaysUnder cwd baseDir path) ↔ ComesBack cwd baseDir op := by
  have one : ∀ path, (∀ used ∈ [path], StaysUnder cwd baseDir used) ↔ StaysUnder cwd baseDir path :=
    fun path => List.forall_mem_singleton
  cases op with
  | write filePath =>
      rw [← write_iff]
      exact List.forall_mem_cons.trans (and_congr_right' (one _))
  | read filePath => exact (one _).trans (fullPath_iff cwd baseDir filePath)
  | delete filePath => exact (one _).trans (fullPath_iff cwd baseDir filePath)
  | existsAt filePath => exact (one _).trans (fullPath_iff cwd baseDir filePath)
  | isFile filePath => exact (one _).trans (fullPath_iff cwd baseDir filePath)
  | isDir filePath => exact (one _).trans (fullPath_iff cwd baseDir filePath)
  | list dirPath => exact (one _).trans (fullPath_iff cwd baseDir dirPath)
  | getUrl filePath => exact (one _).trans (url_iff cwd baseDir filePath)

/-- A path that climbs once leaves the base; a write to the base itself makes the directory above. -/
theorem climbing_escapes :
    ((StorageOp.read "../secret.txt").usedPaths "/srv/files" = ["/srv/secret.txt"] ∧
        ¬ StaysUnder "/" "/srv/files" "/srv/secret.txt") ∧
      (StorageOp.write "a/..").usedPaths "/srv/files" = ["/srv", "/srv/files"] ∧
        ¬ StaysUnder "/" "/srv/files" "/srv" := by
  unfold StaysUnder
  refine ⟨⟨?_, ?_⟩, ?_, ?_⟩
  · decide +kernel
  · decide +kernel
  · decide +kernel
  · decide +kernel

end LocalFileStorage

end ByFramework
