import ByFramework.Redis.Store

/-!
A sorted set as a queue: members stand once and in the order of their scores, a range query takes
what is due from the front, and an entry that is taken leaves or goes behind all that is due.
-/

namespace Redis

structure Ranked (scored : List (String × Int)) : Prop where
  ordered : scored.Pairwise fun left right => left.2 ≤ right.2
  distinct : (scored.map Prod.fst).Nodup

def between (low high : Int) (scored : List (String × Int)) : List (String × Int) :=
  scored.filter fun entry => decide (low ≤ entry.2) && decide (entry.2 ≤ high)

theorem map_without (member : String) (scored : List (String × Int)) :
    (without member scored).map Prod.fst = (scored.map Prod.fst).filter fun other =>
      other ≠ member := by
  induction scored with
  | nil => rfl
  | cons entry rest ih =>
      by_cases same : entry.1 = member
      · simpa [without, same] using ih
      · simpa [without, same] using ih

namespace Ranked

variable {scored : List (String × Int)}

theorem without (ranked : Ranked scored) (member : String) :
    Ranked (without member scored) where
  ordered := ranked.ordered.filter _
  distinct := by
    rw [map_without]
    exact ranked.distinct.filter _

theorem insertScored_split (member : String) (score : Int) (scored : List (String × Int)) :
    ∃ front back, scored = front ++ back ∧
      insertScored member score scored = front ++ (member, score) :: back ∧
      (∀ entry ∈ front, entry.2 ≤ score) ∧ ∀ entry ∈ back.head?, score < entry.2 := by
  induction scored with
  | nil => exact ⟨[], [], rfl, rfl, by simp, by simp⟩
  | cons entry rest ih =>
      by_cases below : entry.2 ≤ score
      · obtain ⟨front, back, split, inserted, lower, upper⟩ := ih
        refine ⟨entry :: front, back, by rw [split]; rfl, ?_, ?_, upper⟩
        · rw [insertScored, if_pos below, inserted]
          rfl
        · intro other inside
          rcases List.mem_cons.mp inside with rfl | later
          · exact below
          · exact lower other later
      · refine ⟨[], entry :: rest, rfl, ?_, by simp, ?_⟩
        · rw [insertScored, if_neg below]
          rfl
        · intro other first
          cases Option.some.inj first
          omega

theorem insertScored {member : String} {score : Int} (ranked : Ranked scored)
    (absent : member ∉ scored.map Prod.fst) : Ranked (insertScored member score scored) := by
  obtain ⟨front, back, rfl, inserted, lower, upper⟩ := insertScored_split member score scored
  have ordered := List.pairwise_append.mp ranked.ordered
  have above : ∀ entry ∈ back, score ≤ entry.2 := by
    intro entry inside
    cases back with
    | nil => cases inside
    | cons first rest =>
        have least := upper first rfl
        rcases List.mem_cons.mp inside with rfl | later
        · omega
        · have behind := (List.pairwise_cons.mp ordered.2.1).1 entry later
          omega
  rw [inserted]
  constructor
  · refine List.pairwise_append.mpr ⟨ordered.1, List.pairwise_cons.mpr ⟨above, ordered.2.1⟩, ?_⟩
    intro entry inFront other inBack
    rcases List.mem_cons.mp inBack with rfl | later
    · exact lower entry inFront
    · exact ordered.2.2 entry inFront other later
  · have swapped : (front ++ (member, score) :: back).map Prod.fst |>.Perm
        (member :: (front ++ back).map Prod.fst) := by
      simp only [List.map_append, List.map_cons]
      exact List.perm_middle
    exact swapped.nodup_iff.mpr (List.nodup_cons.mpr ⟨absent, ranked.distinct⟩)

theorem push {member : String} {score : Int} (ranked : Ranked scored)
    (absent : member ∉ scored.map Prod.fst) (highest : ∀ entry ∈ scored, entry.2 ≤ score) :
    Ranked (scored ++ [(member, score)]) where
  ordered := by
    refine List.pairwise_append.mpr ⟨ranked.ordered, List.pairwise_singleton _ _, ?_⟩
    intro entry inside other last
    rw [List.mem_singleton.mp last]
    exact highest entry inside
  distinct := by
    rw [List.map_append, List.nodup_append]
    refine ⟨ranked.distinct, by simp, ?_⟩
    rintro other inside _ last rfl
    rw [List.map_singleton, List.mem_singleton] at last
    rw [last] at inside
    exact absent inside

theorem between_append (ranked : Ranked scored) {low middle high : Int} (later : middle ≤ high) :
    between low high scored = between low middle scored ++
      scored.filter fun entry => decide (low ≤ entry.2) && (decide (middle < entry.2) &&
        decide (entry.2 ≤ high)) := by
  have ordered := ranked.ordered
  clear ranked
  unfold between
  induction scored with
  | nil => rfl
  | cons entry rest ih =>
      have rest' := ih (List.pairwise_cons.mp ordered).2
      by_cases early : entry.2 ≤ middle
      · have soon : entry.2 ≤ high := by omega
        have notLate : ¬ middle < entry.2 := by omega
        by_cases inside : low ≤ entry.2
        · simpa [List.filter_cons, early, soon, notLate, inside] using rest'
        · simpa [List.filter_cons, inside] using rest'
      · have late : ∀ other ∈ entry :: rest, middle < other.2 := by
          intro other member
          rcases List.mem_cons.mp member with rfl | behind
          · omega
          · have order := (List.pairwise_cons.mp ordered).1 other behind
            omega
        have none : (entry :: rest).filter (fun entry => decide (low ≤ entry.2) &&
            decide (entry.2 ≤ middle)) = [] := by
          refine List.filter_eq_nil_iff.mpr fun other member => ?_
          have order := late other member
          simp only [Bool.and_eq_true, decide_eq_true_eq, not_and]
          omega
        rw [none, List.nil_append]
        refine List.filter_congr fun other member => ?_
        simp [late other member]

end Ranked

theorem filter_taken {early late : List (String × Int)} {count : Nat}
    (distinct : ((early ++ late).map Prod.fst).Nodup) :
    early.filter (fun entry => entry.1 ∉ ((early ++ late).take count).map Prod.fst) =
      early.drop count := by
  rw [List.take_append]
  by_cases short : early.length ≤ count
  · rw [List.take_of_length_le short, List.drop_of_length_le short]
    refine List.filter_eq_nil_iff.mpr fun entry inside => ?_
    simp only [List.map_append, List.mem_append, decide_not, Bool.not_eq_true',
      decide_eq_false_iff_not, not_not]
    exact .inl (List.mem_map_of_mem inside)
  · have none : count - early.length = 0 := by omega
    rw [none, List.take_zero, List.append_nil]
    have parts := List.take_append_drop count early
    have apart : ∀ entry ∈ early.drop count, entry.1 ∉ (early.take count).map Prod.fst := by
      rw [List.map_append] at distinct
      have early' := (List.nodup_append.mp distinct).1
      rw [← parts, List.map_append] at early'
      intro entry behind before
      exact (List.nodup_append.mp early').2.2 entry.1 before entry.1
        (List.mem_map_of_mem behind) rfl
    calc early.filter (fun entry => entry.1 ∉ (early.take count).map Prod.fst)
        = (early.take count ++ early.drop count).filter
            (fun entry => entry.1 ∉ (early.take count).map Prod.fst) := by rw [parts]
      _ = [] ++ early.drop count := by
          rw [List.filter_append]
          congr 1
          · refine List.filter_eq_nil_iff.mpr fun entry inside => ?_
            simp only [decide_not, Bool.not_eq_true', decide_eq_false_iff_not, not_not]
            exact List.mem_map_of_mem inside
          · exact List.filter_eq_self.mpr fun entry behind => by simpa using apart entry behind
      _ = early.drop count := rfl

end Redis
