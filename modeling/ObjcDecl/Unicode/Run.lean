/-!
# Runs of code points

A property of characters is stored as a list of runs in ascending order
of their first members. A run counts upwards in equal steps: step one is
a plain range, step two an alphabet that alternates capitals and small
letters.
-/

namespace ObjcDecl.Unicode

/-- The code points `first`, `first + step`, … up to `last`. -/
structure Run where
  first : Nat
  last : Nat
  step : Nat

/-- Whether a code point is a member of the run. -/
def Run.covers (r : Run) (n : Nat) : Bool :=
  r.first ≤ n && n ≤ r.last && (n - r.first) % r.step == 0

/-- Whether a code point is in one of the runs. The search stops at the
first run that starts beyond it, so the list has to be in ascending
order. -/
def covered : List Run → Nat → Bool
  | [], _ => false
  | r :: rs, n => if n < r.first then false else r.covers n || covered rs n

/-- What `covered` finds is in one of the runs of the list. -/
theorem exists_covers_of_covered {rs : List Run} {n : Nat} (h : covered rs n = true) :
    ∃ r ∈ rs, r.covers n = true := by
  induction rs with
  | nil => simp [covered] at h
  | cons r rs ih =>
    unfold covered at h
    split at h
    · simp at h
    · rcases Bool.or_eq_true_iff.mp h with h | h
      · exact ⟨r, List.mem_cons_self .., h⟩
      · obtain ⟨r', hm, hc⟩ := ih h
        exact ⟨r', List.mem_cons_of_mem _ hm, hc⟩

end ObjcDecl.Unicode
