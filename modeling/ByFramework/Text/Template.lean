import Mathlib.Data.List.Infix

/-!
Texts spelled from templates: a heading, a middle that varies and an ending. When no two texts of
two templates are the same, and where one text can come from both.
-/

namespace Text

variable {Letter : Type}

structure Template (Letter : Type) where
  heading : List Letter
  ending : List Letter

namespace Template

def fill (template : Template Letter) (middle : List Letter) : List Letter :=
  template.heading ++ middle ++ template.ending

theorem fill_inj (template : Template Letter) {left right : List Letter} :
    template.fill left = template.fill right ↔ left = right := by
  unfold fill
  rw [List.append_left_inj, List.append_right_inj]

end Template

variable [DecidableEq Letter]

def apart (left right : List Letter) : Bool :=
  !left.isPrefixOf right && !right.isPrefixOf left

theorem apart_comm (left right : List Letter) : apart left right = apart right left :=
  Bool.and_comm _ _

theorem apart_append_left (label left right : List Letter) :
    apart (label ++ left) (label ++ right) = apart left right := by
  unfold apart
  induction label with
  | nil => rfl
  | cons letter label ih => simpa using ih

theorem append_ne_of_apart {left right : List Letter} (differ : apart left right = true)
    (after next : List Letter) : left ++ after ≠ right ++ next := by
  intro same
  simp only [apart, Bool.and_eq_true, Bool.not_eq_true'] at differ
  have first : left <+: right ++ next := by
    rw [← same]
    exact List.prefix_append left after
  rcases List.prefix_or_prefix_of_prefix first (List.prefix_append right next) with
    shorter | longer
  · rw [List.isPrefixOf_iff_prefix.mpr shorter] at differ
    cases differ.1
  · rw [List.isPrefixOf_iff_prefix.mpr longer] at differ
    cases differ.2

namespace Template

def apart (left right : Template Letter) : Bool :=
  Text.apart left.heading right.heading ||
    Text.apart left.ending.reverse right.ending.reverse

theorem fill_ne_of_apart {left right : Template Letter} (differ : left.apart right = true)
    (first second : List Letter) : left.fill first ≠ right.fill second := by
  intro same
  unfold fill at same
  rcases Bool.or_eq_true_iff.mp differ with headings | endings
  · rw [List.append_assoc, List.append_assoc] at same
    exact append_ne_of_apart headings _ _ same
  · have reversed := congrArg List.reverse same
    simp only [List.reverse_append] at reversed
    exact append_ne_of_apart endings _ _ reversed

end Template

omit [DecidableEq Letter] in
theorem append_separator_eq {separator : Letter} {left right head last : List Letter}
    (clean : separator ∉ last) :
    left ++ separator :: last = head ++ separator :: right ↔
      (left = head ∧ right = last) ∨
      ∃ rest, left = head ++ separator :: rest ∧ right = rest ++ separator :: last := by
  constructor
  · intro same
    rcases List.append_eq_append_iff.mp same with ⟨extra, split, others⟩ | ⟨extra, split, others⟩
    · cases extra with
      | nil =>
          left
          simp only [List.append_nil, List.nil_append, List.cons.injEq, true_and] at split others
          exact ⟨split.symm, others.symm⟩
      | cons letter extra =>
          simp only [List.cons_append, List.cons.injEq] at others
          exact absurd (others.2 ▸ by simp) clean
    · cases extra with
      | nil =>
          left
          simp only [List.append_nil, List.nil_append, List.cons.injEq, true_and] at split others
          exact ⟨split, others⟩
      | cons letter extra =>
          right
          simp only [List.cons_append, List.cons.injEq] at others
          obtain ⟨rfl, rfl⟩ := others
          exact ⟨extra, split, rfl⟩
  · rintro (⟨rfl, rfl⟩ | ⟨rest, rfl, rfl⟩)
    · rfl
    · simp

omit [DecidableEq Letter] in
theorem Template.fill_of_bounds {template : Template Letter} {mark : Letter}
    {rest text : List Letter} (ending : template.ending = mark :: rest)
    (clean : mark ∉ template.heading) (begins : template.heading <+: text)
    (ends : template.ending <:+ text) : ∃ middle, text = template.fill middle := by
  obtain ⟨after, rfl⟩ := begins
  obtain ⟨before, same⟩ := ends
  rcases List.append_eq_append_iff.mp same with ⟨extra, split, others⟩ | ⟨extra, split, others⟩
  · cases extra with
    | nil =>
        refine ⟨[], ?_⟩
        simp only [List.nil_append] at others
        simp [Template.fill, others]
    | cons letter extra =>
        rw [ending, List.cons_append, List.cons.injEq] at others
        obtain ⟨rfl, _⟩ := others
        exact absurd (split ▸ by simp) clean
  · exact ⟨extra, by simp [Template.fill, others]⟩

/-! ### Patterns -/

/-- Match a text against a pattern in which only `wildcard` is special. -/
def globMatches (wildcard : Letter) : List Letter → List Letter → Bool
  | [], text => text.isEmpty
  | letter :: pattern, text =>
      if letter = wildcard then text.tails.any (globMatches wildcard pattern)
      else text.head? = some letter && globMatches wildcard pattern text.tail

theorem globMatches_literal {wildcard : Letter} {pattern text : List Letter}
    (clean : wildcard ∉ pattern) : globMatches wildcard pattern text = true ↔ text = pattern := by
  induction pattern generalizing text with
  | nil => simp [globMatches]
  | cons letter pattern ih =>
      rw [List.mem_cons, not_or] at clean
      rw [globMatches, if_neg fun same => clean.1 same.symm]
      cases text with
      | nil => simp
      | cons first text => simp [ih clean.2]

theorem globMatches_template {wildcard : Letter} {template : Template Letter}
    (heading : wildcard ∉ template.heading) (ending : wildcard ∉ template.ending)
    (text : List Letter) :
    globMatches wildcard (template.heading ++ wildcard :: template.ending) text = true ↔
      ∃ middle, text = template.fill middle := by
  obtain ⟨head, last⟩ := template
  unfold Template.fill
  dsimp only at heading ending ⊢
  induction head generalizing text with
  | nil =>
      rw [List.nil_append, globMatches, if_pos rfl, List.any_eq_true]
      constructor
      · rintro ⟨tail, listed, same⟩
        obtain ⟨middle, split⟩ := (List.mem_tails _ _).mp listed
        rw [globMatches_literal ending] at same
        exact ⟨middle, by rw [← split, same]; rfl⟩
      · rintro ⟨middle, rfl⟩
        refine ⟨last, (List.mem_tails _ _).mpr ⟨middle, rfl⟩, ?_⟩
        exact (globMatches_literal ending).mpr rfl
  | cons letter head ih =>
      rw [List.mem_cons, not_or] at heading
      rw [List.cons_append, globMatches, if_neg fun same => heading.1 same.symm]
      cases text with
      | nil => simp
      | cons first text =>
          simp only [List.head?_cons, List.tail_cons, Bool.and_eq_true, decide_eq_true_eq,
            Option.some.injEq, ih text heading.2, List.cons_append, List.cons.injEq]
          constructor
          · rintro ⟨rfl, middle, rfl⟩
            exact ⟨middle, rfl, rfl⟩
          · rintro ⟨middle, rfl, rfl⟩
            exact ⟨rfl, middle, rfl⟩

end Text
