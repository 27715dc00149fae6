import ByFramework.PathSegments

/-! What the sandbox lets through: the comparison of texts against being inside by segments. -/

namespace ByFramework

/-- The path leads to the workspace, or below it by whole segments. -/
def InsideWorkspace (cwd activeWorkspace filePath : String) : Prop :=
  locate cwd activeWorkspace <+: locate cwd filePath

/-- The resolved path goes on in the middle of the workspace's last name. -/
def SharesNameStart (cwd activeWorkspace filePath : String) : Prop :=
  resolvePath cwd activeWorkspace ≠ ['/'] ∧ ∃ char rest,
    resolvePath cwd filePath = resolvePath cwd activeWorkspace ++ char :: rest ∧ char ≠ '/'

theorem bodyOf_append (left right : List Segment) :
    bodyOf (left ++ right) = bodyOf left ++ bodyOf right :=
  List.flatMap_append

theorem rooted_nil : '/' :: joinSegments [] = ['/'] := rfl

theorem rooted_eq_root {names : List Segment} (spelled : ∀ name ∈ names, Spelled name) :
    '/' :: joinSegments names = ['/'] ↔ names = [] := by
  constructor
  · intro root
    have read := namesOf_rooted names spelled
    rw [root] at read
    exact read.symm
  · intro empty
    rw [empty]
    rfl

theorem inside_of_rest {outer inner : List Segment} (outerSpelled : ∀ name ∈ outer, Spelled name)
    (innerSpelled : ∀ name ∈ inner, Spelled name) {rest : List Char}
    (spelled : bodyOf inner = bodyOf outer ++ rest) (whole : rest = [] ∨ rest.head? = some '/') :
    outer <+: inner := by
  have read := namesOf_body inner innerSpelled
  rw [spelled] at read
  rcases whole with empty | separated
  · rw [empty, List.append_nil, namesOf_body outer outerSpelled] at read
    rw [read]
  · obtain ⟨more, rfl⟩ : ∃ more, rest = '/' :: more := by
      cases rest with
      | nil => cases separated
      | cons char more => exact ⟨more, by rw [Option.some.inj separated]⟩
    rw [namesOf_slash, namesOf_body outer outerSpelled] at read
    exact ⟨namesOf more, read⟩

theorem rest_of_inside {outer inner : List Segment} (inside : outer <+: inner) :
    ∃ rest, bodyOf inner = bodyOf outer ++ rest ∧ (rest = [] ∨ rest.head? = some '/') := by
  obtain ⟨further, rfl⟩ := inside
  refine ⟨bodyOf further, bodyOf_append outer further, ?_⟩
  cases further with
  | nil => exact .inl rfl
  | cons name more => exact .inr rfl

theorem startsWith_iff {outer inner : List Segment} (outerSpelled : ∀ name ∈ outer, Spelled name)
    (innerSpelled : ∀ name ∈ inner, Spelled name) (below : outer ≠ []) :
    ('/' :: joinSegments outer <+: '/' :: joinSegments inner) ↔
      outer <+: inner ∨ ∃ char rest,
        '/' :: joinSegments inner = ('/' :: joinSegments outer) ++ char :: rest ∧ char ≠ '/' := by
  by_cases root : inner = []
  · subst root
    have outerText := slash_joinSegments outer below
    constructor
    · rintro ⟨rest, same⟩
      rw [rooted_nil] at same
      have short : joinSegments outer = [] := by
        have tails := List.cons.inj same
        exact (List.append_eq_nil_iff.mp tails.2).1
      exact absurd ((rooted_eq_root outerSpelled).mp (by rw [short])) below
    · rintro (⟨further, same⟩ | ⟨char, rest, same, _⟩)
      · exact absurd (List.append_eq_nil_iff.mp same).1 below
      · rw [same]
        exact List.prefix_append _ _
  · rw [slash_joinSegments outer below, slash_joinSegments inner root]
    constructor
    · rintro ⟨rest, same⟩
      cases rest with
      | nil => exact .inl (inside_of_rest outerSpelled innerSpelled same.symm (.inl rfl))
      | cons char more =>
          by_cases separated : char = '/'
          · left
            exact inside_of_rest outerSpelled innerSpelled same.symm (.inr (by rw [separated]; rfl))
          · exact .inr ⟨char, more, same.symm, separated⟩
    · rintro (inside | ⟨char, rest, same, _⟩)
      · obtain ⟨rest, same, _⟩ := rest_of_inside inside
        exact ⟨rest, same.symm⟩
      · rw [same]
        exact List.prefix_append _ _

theorem not_inside_of_shares {outer inner : List Segment} {char : Char} {rest : List Char}
    (below : outer ≠ []) (other : char ≠ '/')
    (shares : '/' :: joinSegments inner = ('/' :: joinSegments outer) ++ char :: rest) :
    ¬ outer <+: inner := by
  intro inside
  have root : inner ≠ [] := by
    rintro rfl
    exact below (List.prefix_nil.mp inside)
  obtain ⟨further, same, separated⟩ := rest_of_inside inside
  rw [slash_joinSegments outer below, slash_joinSegments inner root, same] at shares
  have rests : further = char :: rest := List.append_cancel_left shares
  rw [rests] at separated
  rcases separated with empty | slash
  · cases empty
  · exact other (Option.some.inj slash)

theorem assertPathAllowed_ok_iff (cwd activeWorkspace filePath : String)
    (active : activeWorkspace ≠ "") :
    assertPathAllowed cwd activeWorkspace filePath = .ok () ↔
      InsideWorkspace cwd activeWorkspace filePath ∨
        SharesNameStart cwd activeWorkspace filePath := by
  have texts : assertPathAllowed cwd activeWorkspace filePath = .ok () ↔
      resolvePath cwd activeWorkspace <+: resolvePath cwd filePath := by
    unfold assertPathAllowed
    rw [if_neg active, ← List.isPrefixOf_iff_prefix]
    constructor
    · intro allowed
      split at allowed
      · assumption
      · cases allowed
    · intro begins
      rw [if_pos begins]
  rw [texts]
  unfold InsideWorkspace SharesNameStart
  rw [resolvePath_locate, resolvePath_locate cwd filePath]
  have outerSpelled := locate_spelled cwd activeWorkspace
  have innerSpelled := locate_spelled cwd filePath
  by_cases root : locate cwd activeWorkspace = []
  · rw [root, rooted_nil]
    constructor
    · intro _
      exact .inl List.nil_prefix
    · intro _
      exact ⟨joinSegments (locate cwd filePath), rfl⟩
  · rw [startsWith_iff outerSpelled innerSpelled root]
    have named : '/' :: joinSegments (locate cwd activeWorkspace) ≠ ['/'] :=
      fun same => root ((rooted_eq_root outerSpelled).mp same)
    constructor
    · rintro (inside | shares)
      · exact .inl inside
      · exact .inr ⟨named, shares⟩
    · rintro (inside | ⟨_, shares⟩)
      · exact .inl inside
      · exact .inr shares

/-- The check agrees with containment by segments unless the path shares the start of a name. -/
theorem assertPathAllowed_iff (cwd activeWorkspace filePath : String)
    (active : activeWorkspace ≠ "") :
    (assertPathAllowed cwd activeWorkspace filePath = .ok () ↔
      InsideWorkspace cwd activeWorkspace filePath) ↔
    ¬ SharesNameStart cwd activeWorkspace filePath := by
  rw [assertPathAllowed_ok_iff cwd activeWorkspace filePath active]
  constructor
  · intro agrees shares
    have inside := agrees.mp (.inr shares)
    obtain ⟨named, char, rest, same, other⟩ := shares
    rw [resolvePath_locate, resolvePath_locate cwd activeWorkspace] at same
    rw [resolvePath_locate] at named
    have below : locate cwd activeWorkspace ≠ [] := fun empty => named (by rw [empty]; rfl)
    exact not_inside_of_shares below other same inside
  · intro apart
    constructor
    · rintro (inside | shares)
      · exact inside
      · exact absurd shares apart
    · exact Or.inl

theorem assertPathAllowed_inside :
    "/srv/ws" ≠ "" ∧
      ((assertPathAllowed "/" "/srv/ws" "/srv/ws/notes/../a.txt" = .ok () ↔
        InsideWorkspace "/" "/srv/ws" "/srv/ws/notes/../a.txt") ↔
      ¬ SharesNameStart "/" "/srv/ws" "/srv/ws/notes/../a.txt") :=
  ⟨by decide, assertPathAllowed_iff "/" "/srv/ws" "/srv/ws/notes/../a.txt" (by decide)⟩

instance (cwd activeWorkspace filePath : String) :
    Decidable (InsideWorkspace cwd activeWorkspace filePath) :=
  inferInstanceAs (Decidable (_ <+: _))

/-- A sibling directory whose name starts with the workspace's is let through. -/
theorem sibling_allowed :
    assertPathAllowed "/" "/srv/ws" "/srv/ws-other/a.txt" = .ok () ∧
      ¬ InsideWorkspace "/" "/srv/ws" "/srv/ws-other/a.txt" := by
  constructor
  · rfl
  · decide +kernel

end ByFramework
