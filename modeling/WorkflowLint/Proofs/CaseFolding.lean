import WorkflowLint.Text.Keyword
import Mathlib.Data.List.Basic

/-!
Contract: what the tables of letters say about folding.

Beyond ASCII, folding leads to ASCII in two places only: the capital I with a dot is folded to an i, and
the Kelvin sign to a k.  So every other ASCII character is matched by ASCII characters alone, unless it
shares its upper case letter with a character beyond ASCII.  Past sixteen bits, a letter that is a fold is
folded to itself and shares its upper case letter with no other.
-/

set_option autoImplicit false

namespace WorkflowLint.Text

/-! ## The search in a table of ranges -/

theorem CodeRanges.holds_of_searchBetween {ranges : CodeRanges} {code steps low high index : Nat}
    (found : searchBetween ranges code steps low high = some index) :
    ∃ range, ranges[index]? = some range ∧ range.1 ≤ code ∧ code ≤ range.2 := by
  fun_induction searchBetween ranges code steps low high with
  | case1 | case2 | case6 => cases found
  | case3 _ _ _ _ _ _ _ _ _ inductionHypothesis => exact inductionHypothesis found
  | case4 _ _ _ _ _ _ _ _ _ _ inductionHypothesis => exact inductionHypothesis found
  | case5 steps low high _ middle first last isMiddle notBefore notAfter =>
      rw [← Option.some.inj found]
      exact ⟨(first, last), isMiddle, by omega, by omega⟩

private theorem CodeRanges.holds_of_find? {ranges : CodeRanges} {code index : Nat}
    (found : ranges.find? code = some index) :
    ∃ range, ranges[index]? = some range ∧ range.1 ≤ code ∧ code ≤ range.2 :=
  holds_of_searchBetween found

/-! ## Folds beyond ASCII -/

/-- A run leads beyond ASCII, or it is a single character that is folded to an i or a k. -/
def CaseRun.StaysBeyond (run : CaseRun) : Prop :=
  128 ≤ (run.first : Int) + run.shift ∨
    run.first = run.last ∧ (run.first + run.shift = 0x69 ∨ run.first + run.shift = 0x6B)

instance (run : CaseRun) : Decidable run.StaysBeyond :=
  inferInstanceAs (Decidable (_ ∨ _))

private theorem lowerRuns_stayBeyond : ∀ run ∈ lowerRuns.toList, run.StaysBeyond := by
  decide +kernel

/-- Beyond ASCII a code is folded to itself, or by the run that holds it. -/
theorem foldCode_cases {code : Nat} (beyond : 128 ≤ code) :
    foldCode code = code ∨ ∃ run ∈ lowerRuns.toList, run.first ≤ code ∧ code ≤ run.last ∧
      foldCode code = ((code : Int) + run.shift).toNat := by
  rw [foldCode, if_neg (by omega)]
  split
  · next run isRun =>
      obtain ⟨index, found, isAt⟩ := Option.bind_eq_some_iff.mp isRun
      obtain ⟨range, isRange, notBefore, notAfter⟩ := CodeRanges.holds_of_find? found
      have sameRange : range = (run.first, run.last) := by
        rw [lowerRanges, Array.getElem?_map, isAt] at isRange
        exact (Option.some.inj isRange).symm
      subst sameRange
      split
      · exact .inr ⟨run, Array.mem_toList_iff.mpr (Array.mem_of_getElem? isAt), notBefore, notAfter,
          rfl⟩
      · exact .inl rfl
  · exact .inl rfl

private theorem foldCode_of_beyond {code : Nat} (beyond : 128 ≤ code) :
    128 ≤ foldCode code ∨ foldCode code = 0x69 ∨ foldCode code = 0x6B := by
  rcases foldCode_cases beyond with same | ⟨run, isRun, notBefore, notAfter, isFold⟩
  · omega
  · -- The run holds the code, so the fold of its first code is a bound for that of this code.
    have stays := lowerRuns_stayBeyond run isRun
    rw [CaseRun.StaysBeyond] at stays
    omega

/-- A character that only ASCII characters match. -/
def IsMatchedByAscii (letter : Char) : Prop :=
  foldCode letter.toNat < 128 ∧ foldCode letter.toNat ≠ 0x69 ∧ foldCode letter.toNat ≠ 0x6B ∧
    foldPeers (foldCode letter.toNat) = []

instance (letter : Char) : Decidable (IsMatchedByAscii letter) :=
  inferInstanceAs (Decidable (_ ∧ _))

theorem IsMatchedByAscii.ascii {letter c : Char} (isMatched : IsMatchedByAscii letter)
    (same : sameIgnoringCase letter c = true) : c.toNat < 128 := by
  obtain ⟨isLow, noDot, noKelvin, alone⟩ := isMatched
  rw [sameIgnoringCase, alone, List.contains_nil, Bool.or_false, beq_iff_eq] at same
  by_contra beyond
  have folds := foldCode_of_beyond (Nat.le_of_not_lt beyond)
  omega

/-! ## Folds past sixteen bits -/

/-- No code of the second run is one that the first leads to. -/
def CaseRun.Misses (run other : CaseRun) : Prop :=
  (run.last : Int) + run.shift < other.first ∨ (other.last : Int) < run.first + run.shift

instance (run other : CaseRun) : Decidable (run.Misses other) :=
  inferInstanceAs (Decidable (_ ∨ _))

private theorem lowerRuns_miss : ∀ run ∈ lowerRuns.toList, 0xFFFF < (run.last : Int) + run.shift →
    ∀ other ∈ lowerRuns.toList, run.Misses other := by
  decide +kernel

private theorem foldCode_of_far {code : Nat} (far : 0xFFFF < foldCode code) :
    foldCode (foldCode code) = foldCode code := by
  by_cases isAscii : code < 128
  · have low : foldCode code < 128 := by
      rw [foldCode, if_pos isAscii]
      split
      · next isCapital =>
          simp only [Bool.and_eq_true, decide_eq_true_eq] at isCapital
          omega
      · exact isAscii
    omega
  rcases foldCode_cases (Nat.le_of_not_lt isAscii) with same | ⟨run, isRun, notBefore, notAfter, isFold⟩
  · rw [same, same]
  · rcases @foldCode_cases (foldCode code) (by omega) with
      same | ⟨other, isOther, fromFirst, toLast, _⟩
    · exact same
    · have misses := lowerRuns_miss run isRun (by omega) other isOther
      rw [CaseRun.Misses] at misses
      omega

private theorem foldPeerTable_near : ∀ entry ∈ foldPeerTable, entry.1 ≤ 0xFFFF := by
  decide +kernel

private theorem foldPeers_of_far {code : Nat} (far : 0xFFFF < code) : foldPeers code = [] := by
  have absent : foldPeerTable.lookup code = none := by
    rw [List.lookup_eq_none_iff]
    intro entry listed
    have near := foldPeerTable_near entry listed
    rw [bne_iff_ne]
    omega
  rw [foldPeers, absent, Option.getD_none]

/-- A code past sixteen bits is the fold of a letter when it is no capital and the two are the same. -/
theorem eq_fold_iff_of_far {c d : Char} (far : 0xFFFF < c.toNat) :
    c.toNat = foldCode d.toNat ↔ isFarCapital c = false ∧ sameIgnoringCase c d = true := by
  simp only [isFarCapital, far, decide_true, Bool.true_and, bne_eq_false_iff_eq, sameIgnoringCase,
    Bool.or_eq_true, beq_iff_eq]
  constructor
  · intro isFold
    have kept : foldCode c.toNat = c.toNat := by
      rw [isFold] at far ⊢
      exact foldCode_of_far far
    exact ⟨kept, .inl (kept.trans isFold)⟩
  · rintro ⟨kept, same⟩
    rw [kept, foldPeers_of_far far] at same
    simpa using same

end WorkflowLint.Text
